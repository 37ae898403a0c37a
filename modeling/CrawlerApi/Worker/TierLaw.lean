import CrawlerApi.Foundation.Run
import CrawlerApi.Worker.Learner

/-!
# What the learner makes of the stored tier

A call of `record_outcome` after the other, on one row.  A call whose statements do not
go through leaves the row as it was.
-/

namespace CrawlerApi.Worker

open Keys Fetch Foundation

/-- A call of the learner: its session, what its awaits do, whether the locking select finds
the row, and the outcome, of a tier of the ladder. -/
structure LearnerCall where
  session : JobSession := {}
  deliveries : LearnerDeliveries := {}
  found : Bool := true
  result : FetchResult
  now : Instant
  tierUsed_le : result.tierUsed ≤ 6

structure LearnerCall.Recorded (call : LearnerCall) : Prop where
  session : call.session.broken = false
  select : call.deliveries.select = .completes
  found : call.found = true
  commit : call.deliveries.commit.Applied

section Call

variable (text : TextMethods)

def LearnerCall.learned (call : LearnerCall) (row : PolicyRow) : PolicyRow :=
  row.learn call.result call.result.tierUsed
    (BlockDetector.detectVendor text call.result.headers [] (call.result.body.take 65536)) call.now

def LearnerCall.commits (call : LearnerCall) (row : PolicyRow) : List Statement :=
  (recordOutcome text call.deliveries (if call.found then some row else none) call.now call.result
    (some row) call.session).1.committed.drop call.session.committed.length

def LearnerCall.leaves (call : LearnerCall) (row : PolicyRow) : PolicyRow :=
  match (call.commits text row).getLast? with
  | some (.policyOutcome row) => row
  | _ => row

end Call

def InLadder (row : PolicyRow) : Prop := 0 ≤ row.escalationTier ∧ row.escalationTier ≤ 6

/-- The documented law of a step.  A call that is not recorded cannot raise the tier to the
one that was blocked. -/
structure StepLaw (call : LearnerCall) (before after : PolicyRow) : Prop where
  locked : before.tierLocked = true → after.escalationTier = before.escalationTier
  blocked : before.tierLocked = false → call.result.blocked = true →
    before.escalationTier ≤ after.escalationTier ∧
      (call.Recorded → call.result.tierUsed ≤ after.escalationTier)
  success : before.tierLocked = false → call.result.blocked = false →
    after.escalationTier ≤ before.escalationTier ∧
      before.escalationTier - 1 ≤ after.escalationTier ∧
      (call.result.tierUsed ≤ before.escalationTier → call.result.tierUsed ≤ after.escalationTier)
  range : InLadder after

/-- A recorded success does not come from above the stored tier, unless the row is locked. -/
def StaysWithin (row : PolicyRow) (call : LearnerCall) : Prop :=
  call.Recorded → row.tierLocked = false → call.result.blocked = false →
    call.result.tierUsed ≤ row.escalationTier

def learnerStep (text : TextMethods) (row : PolicyRow) (call : LearnerCall) : Option PolicyRow :=
  some (call.leaves text row)

section Learned

variable {text : TextMethods} {call : LearnerCall} {row : PolicyRow}

theorem PolicyRow.learn_tier (row : PolicyRow) (result : FetchResult) (tierUsed : Int)
    (vendor : Option String) (now : Instant) :
    (row.learn result tierUsed vendor now).escalationTier =
      if row.tierLocked then row.escalationTier
      else if result.blocked then max tierUsed row.escalationTier
      else max (max tierUsed (row.escalationTier - 1)) 0 := by
  unfold PolicyRow.learn
  cases vendor <;> dsimp only <;> split <;> split <;> rfl

theorem committed_learnerFailed {deliveries : LearnerDeliveries} {inFlush : Bool}
    {session : JobSession} {exn : Exn} :
    (learnerFailed deliveries inFlush session exn).1.committed = session.committed := by
  unfold learnerFailed
  split
  · rfl
  · split
    · rfl
    · exact Session.committed_rollback

theorem committed_recordOutcome {deliveries : LearnerDeliveries} {session : JobSession}
    {found : Option PolicyRow} {now : Instant} {result : FetchResult} {policy : PolicyRow}
    (h : session.broken = false → deliveries.select = .completes → found ≠ none →
      ¬ deliveries.commit.Applied) :
    (recordOutcome text deliveries found now result (some policy) session).1.committed =
      session.committed := by
  unfold recordOutcome
  dsimp only
  split
  · rw [committed_learnerFailed, Session.committed_execute]
  · rename_i hselect
    obtain ⟨hopen, hcompletes⟩ := Session.execute_ok_iff.mp hselect
    cases found with
    | none => exact Session.committed_execute
    | some row =>
        dsimp only
        split
        · rw [committed_learnerFailed, Session.committed_commit]
          · exact Session.committed_execute
          · exact fun _ => h hopen hcompletes nofun
        · rw [Session.committed_commit]
          · exact Session.committed_execute
          · exact fun _ => h hopen hcompletes nofun

theorem commits_recorded (h : call.Recorded) :
    call.commits text row = call.session.pending ++ [.policyOutcome (call.learned text row)] := by
  have hselected : call.session.execute sessionExceptions [] call.deliveries.select =
      (call.session, .ok ()) := by
    rw [h.select, Session.execute, if_neg (Bool.eq_false_iff.mp h.session), List.append_nil]
  have hadded : (call.session.add (.policyOutcome (call.learned text row))).broken = false :=
    h.session
  have hcommitted := @Session.commit_applied _ _ sessionExceptions _ _ hadded h.commit
  unfold LearnerCall.commits recordOutcome
  rw [h.found, if_pos rfl, hselected]
  dsimp only
  unfold LearnerCall.learned at hcommitted ⊢
  split
  · rw [committed_learnerFailed, hcommitted]
    exact List.drop_left
  · rw [hcommitted]
    exact List.drop_left

theorem commits_dropped (h : ¬ call.Recorded) : call.commits text row = [] := by
  unfold LearnerCall.commits
  rw [committed_recordOutcome, List.drop_length]
  intro hopen hselect hfound hcommit
  apply h
  refine ⟨hopen, hselect, ?_, hcommit⟩
  by_contra hmissing
  rw [if_neg hmissing] at hfound
  exact hfound rfl

theorem leaves_recorded (h : call.Recorded) : call.leaves text row = call.learned text row := by
  rw [LearnerCall.leaves, commits_recorded h, List.getLast?_concat]

theorem tier_recorded (h : call.Recorded) : (call.leaves text row).escalationTier =
    if row.tierLocked then row.escalationTier
    else if call.result.blocked then max (call.result.tierUsed : Int) row.escalationTier
    else max (max (call.result.tierUsed : Int) (row.escalationTier - 1)) 0 := by
  rw [leaves_recorded h]
  exact PolicyRow.learn_tier ..

theorem leaves_dropped (h : ¬ call.Recorded) : call.leaves text row = row := by
  rw [LearnerCall.leaves, commits_dropped h]
  rfl

end Learned

section Law

variable {text : TextMethods} {call : LearnerCall} {row : PolicyRow}

theorem inLadder_leaves (h : InLadder row) : InLadder (call.leaves text row) := by
  by_cases hrecorded : call.Recorded
  · have hused := call.tierUsed_le
    unfold InLadder at h ⊢
    rw [tier_recorded hrecorded]
    split
    · exact h
    · split
      · omega
      · omega
  · rw [leaves_dropped hrecorded]
    exact h

/-- The law fails of a step exactly where a success counts from above. -/
theorem stepLaw_iff (hrow : InLadder row) :
    StepLaw call row (call.leaves text row) ↔ StaysWithin row call := by
  have hrange : InLadder (call.leaves text row) := inLadder_leaves hrow
  have hused := call.tierUsed_le
  by_cases hrecorded : call.Recorded
  · have htier := @tier_recorded text call row hrecorded
    constructor
    · intro hlaw _ hlocked hblocked
      have hfall := (hlaw.success hlocked hblocked).1
      rw [htier, hlocked, hblocked] at hfall
      simp only [Bool.false_eq_true, if_false] at hfall
      omega
    · intro hwithin
      obtain ⟨hlow, hhigh⟩ := hrow
      refine ⟨?_, ?_, ?_, hrange⟩
      · intro hlocked
        rw [htier, if_pos hlocked]
      · intro hlocked hblocked
        rw [htier, hlocked, hblocked]
        simp only [Bool.false_eq_true, if_false, if_true]
        omega
      · intro hlocked hblocked
        have hle := hwithin hrecorded hlocked hblocked
        rw [htier, hlocked, hblocked]
        simp only [Bool.false_eq_true, if_false]
        omega
  · rw [leaves_dropped hrecorded]
    apply iff_of_true
    · refine ⟨fun _ => rfl, fun _ _ => ⟨Int.le_refl _, fun h => absurd h hrecorded⟩, ?_, hrow⟩
      intro _ _
      exact ⟨Int.le_refl _, Int.sub_le_self _ (by decide), id⟩
    · exact fun h => absurd h hrecorded

/-- Along every run of calls the law holds of each step exactly when no success that is
recorded on the unlocked row comes from above the tier stored then. -/
theorem learner_law_iff (text : TextMethods) (row : PolicyRow) (calls : List LearnerCall)
    (hrow : InLadder row) :
    Along (learnerStep text) (fun before call => StepLaw call before (call.leaves text before))
        row calls ↔
      Along (learnerStep text) StaysWithin row calls := by
  have hkeep (before : PolicyRow) (call : LearnerCall) (next : PolicyRow) (h : InLadder before)
      (hstep : learnerStep text before call = some next) : InLadder next := by
    cases hstep
    exact inLadder_leaves h
  constructor
  · apply Along.of_invariant
    · exact fun before call next h _ => hkeep before call next h
    · exact fun before call h hlaw => (stepLaw_iff h).mp hlaw
    · exact hrow
  · apply Along.of_invariant
    · exact fun before call next h _ => hkeep before call next h
    · exact fun before call h hwithin => (stepLaw_iff h).mpr hwithin
    · exact hrow

end Law

def tieredRow (tier : Int) : PolicyRow where
  id := 1
  domain := "shop.example"
  escalationTier := tier

def successAt (tier : Fin 7) : LearnerCall where
  result := { url := "https://shop.example/", statusCode := 200, tierUsed := tier }
  now := 0
  tierUsed_le := Nat.le_of_lt_succ tier.isLt

theorem recorded_successAt (tier : Fin 7) : (successAt tier).Recorded :=
  ⟨rfl, rfl, rfl, trivial⟩

theorem success_ratchets_up : ¬ ∃ text, Along (learnerStep text)
    (fun before call => StepLaw call before (call.leaves text before)) (tieredRow 0)
      [successAt 3] := by
  rintro ⟨text, hlaw, -⟩
  have hfall := (hlaw.success rfl rfl).1
  rw [tier_recorded (recorded_successAt 3)] at hfall
  revert hfall
  decide

theorem success_steps_down : InLadder (tieredRow 3) ∧ Along (learnerStep asciiText)
    (fun before call => StepLaw call before (call.leaves asciiText before)) (tieredRow 3)
      [successAt 1] := by
  have hrow : InLadder (tieredRow 3) := ⟨by decide, by decide⟩
  refine ⟨hrow, (learner_law_iff asciiText (tieredRow 3) [successAt 1] hrow).mpr ⟨?_, ?_⟩⟩
  · intro _ _ _
    decide
  · exact fun _ _ => trivial

end CrawlerApi.Worker
