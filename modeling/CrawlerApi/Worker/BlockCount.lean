import CrawlerApi.Worker.PolicyStore

/-!
# Consecutive blocks under concurrent jobs

A job counts on the copy it loaded before its fetch.  The stored count is the count of
the recorded outcomes in every run in which each outcome finds the count it was loaded
with; two jobs that overlap lose a block.
-/

namespace CrawlerApi.Worker

open Keys Fetch Foundation

/-- The blocked outcomes behind the last success, and the count at the start if there was
no success. -/
def blocksSince (initial : Int) (outcomes : List Bool) : Int :=
  (outcomes.takeWhile id).length + if outcomes.all id then initial else 0

@[simp] theorem blocksSince_success (initial : Int) (outcomes : List Bool) :
    blocksSince initial (false :: outcomes) = 0 := rfl

@[simp] theorem blocksSince_blocked (initial : Int) (outcomes : List Bool) :
    blocksSince initial (true :: outcomes) = blocksSince initial outcomes + 1 := by
  unfold blocksSince
  rw [List.takeWhile_cons_of_pos rfl, List.length_cons, List.all_cons]
  simp only [id, Bool.true_and]
  omega

namespace PolicyStore

def Counted (initial : Int) (state : PolicyStore) : Prop :=
  state.row.latest.consecutiveBlocks = blocksSince initial state.outcomes

/-- A blocked outcome finds the row free and the count it was loaded with; a success finds
the count at zero, or the row free and a count to reset on its copy; a rollback has nothing
to undo. -/
def CountKept (state : PolicyStore) : Action → Prop
  | .record session result _ => ∀ copy, state.copies session = some copy →
      if result.blocked then
        state.row.admits session = true ∧
          copy.consecutiveBlocks = state.row.latest.consecutiveBlocks
      else
        state.row.latest.consecutiveBlocks = 0 ∨
          state.row.admits session = true ∧ copy.consecutiveBlocks ≠ 0
  | .rollback session => state.row.rollback session = state.row
  | _ => True

variable {text : TextMethods} {state next : PolicyStore} {action : Action} {initial : Int}

theorem flush_recorded_consecutiveBlocks (copy stored : PolicyRow) (result : FetchResult)
    (now : Instant) :
    (copy.flush (copy.recorded text result now) stored).consecutiveBlocks =
      written copy.consecutiveBlocks (if result.blocked then copy.consecutiveBlocks + 1 else 0)
        stored.consecutiveBlocks := by
  rw [← PolicyRow.learn_consecutiveBlocks]
  rfl

theorem step_counted (h : Counted initial state) (hkept : CountKept state action)
    (hstep : state.step text action = some next) : Counted initial next := by
  unfold Counted at h ⊢
  cases stepped hstep with
  | read hrow houtcomes => rw [hrow, houtcomes, h]
  | @skipped session result now copy hcopy hadmits hrow houtcomes =>
      have hguard := hkept copy hcopy
      rw [hrow, houtcomes]
      cases hblocked : result.blocked with
      | true =>
          rw [if_pos hblocked, hadmits] at hguard
          cases hguard.1
      | false =>
          rw [if_neg (by simp [hblocked]), hadmits] at hguard
          rw [blocksSince_success]
          exact hguard.resolve_right (by simp)
  | @recorded session result now copy hcopy hupdate houtcomes =>
      have hguard := hkept copy hcopy
      obtain ⟨-, -, -, hlatest⟩ := RowLock.update_eq_some hupdate
      rw [hlatest, houtcomes, flush_recorded_consecutiveBlocks]
      cases hblocked : result.blocked with
      | true =>
          rw [if_pos hblocked] at hguard
          rw [if_pos rfl, written_of_eq hguard.2, hguard.2, blocksSince_blocked, h]
      | false =>
          rw [if_neg (by simp [hblocked])] at hguard
          rw [if_neg Bool.false_ne_true, blocksSince_success]
          unfold written
          split
          · rename_i hzero
            exact hguard.resolve_right fun hne => hne.2 hzero.symm
          · rfl
  | @pinned session tier locked copy hcopy hupdate houtcomes =>
      obtain ⟨-, -, -, hlatest⟩ := RowLock.update_eq_some hupdate
      have hcount : (copy.flush (copy.pinned tier locked) state.row.latest).consecutiveBlocks =
          state.row.latest.consecutiveBlocks := written_self _ _
      rw [hlatest, houtcomes, hcount, h]
  | committed hrow houtcomes => rw [hrow, houtcomes, RowLock.latest_commit, h]
  | undone hrow houtcomes =>
      have hsame : state.row.rollback _ = state.row := hkept
      rw [hrow, houtcomes, hsame, h]

/-- As long as each outcome finds the count it was loaded with, none is lost: once no
session holds the row, the committed count is the count of the outcomes. -/
theorem outcomes_counted {row : PolicyRow} {isActive : Bool} {actions : List Action}
    (hkept : Along (step text) CountKept (start row isActive) actions)
    (hrun : run (step text) (start row isActive) actions = some state)
    (hfinished : state.row.writer = none) :
    state.row.committed.consecutiveBlocks =
      blocksSince row.consecutiveBlocks state.outcomes := by
  have hinit : Counted row.consecutiveBlocks (start row isActive) := (Int.zero_add _).symm
  have hcounted : Counted row.consecutiveBlocks state :=
    run_invariant (fun _ _ _ h hguard hstep => step_counted h hguard hstep) hinit hkept hrun
  rwa [Counted, RowLock.latest_of_free hfinished] at hcounted

/-! Two jobs load the row, and both are blocked. -/

def freshPolicy : PolicyRow where
  id := 1
  domain := "example.com"

def blockedPage : FetchResult where
  url := "https://example.com/"
  statusCode := 403
  blocked := true
  blockReason := some "ip_ban"

def oneJob : List Action := [.resolve 1, .record 1 blockedPage 100, .commit 1]

def overlappingJobs : List Action := [.resolve 1, .resolve 2, .record 1 blockedPage 100,
  .commit 1, .record 2 blockedPage 101, .commit 2]

theorem outcomes_counted_one_job : ∃ state,
    run (step asciiText) (start freshPolicy true) oneJob = some state ∧
      state.row.committed.consecutiveBlocks = blocksSince 0 state.outcomes := by
  have hkept : Along (step asciiText) CountKept (start freshPolicy true) oneJob := by
    refine .cons rfl trivial (.cons rfl ?_ (.cons rfl trivial trivial))
    intro copy hcopy
    cases hcopy
    exact ⟨rfl, rfl⟩
  exact ⟨_, rfl, outcomes_counted hkept rfl rfl⟩

def Action.ofJob : Action → Bool
  | .resolve _ | .record .. | .commit _ => true
  | .get _ | .pin .. | .rollback _ => false

theorem overlapping_jobs_lose_a_block :
    ¬ ∀ (text : TextMethods) row actions state, actions.all Action.ofJob = true →
      run (step text) (start row true) actions = some state → state.row.writer = none →
        state.row.committed.consecutiveBlocks =
          blocksSince row.consecutiveBlocks state.outcomes := by
  intro h
  have hlost : (run (step asciiText) (start freshPolicy true) overlappingJobs).map
      (fun state => (state.row.writer.isNone, state.row.committed.consecutiveBlocks,
        state.outcomes)) = some (true, 1, [true, true]) := by decide +kernel
  obtain ⟨state, hrun, hend⟩ := Option.map_eq_some_iff.mp hlost
  simp only [Prod.mk.injEq, Option.isNone_iff_eq_none] at hend
  have hclaimed := h asciiText freshPolicy overlappingJobs state rfl hrun hend.1
  rw [hend.2.1, hend.2.2] at hclaimed
  revert hclaimed
  decide

end PolicyStore

end CrawlerApi.Worker
