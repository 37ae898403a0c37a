import CrawlerApi.Proxies.Breaker
import Mathlib.Algebra.BigOperators.Group.Finset.Basic
import Mathlib.Algebra.BigOperators.Group.Finset.Piecewise
import Mathlib.Data.List.Count

/-!
# The events of a breaker

A report goes by what its `GET` saw: it adds `circuit_open` behind its `SET` and
`circuit_close` behind its second `DEL`.  The events stand here at the command that changes
the state.
-/

namespace CrawlerApi.Proxies.Breaker

open Foundation

def Notice.other : Notice → Notice
  | .circuitOpen => .circuitClose
  | .circuitClose => .circuitOpen

/-- The event a worker adds if the command it sends next changes the state as it expects. -/
def Phase.report : Phase → List Notice
  | .opening wasOpen => if wasOpen then [] else [.circuitOpen]
  | .closing wasOpen => if wasOpen then [.circuitClose] else []
  | _ => []

/-- The event behind the command of an action. -/
def Board.reported (board : Board) : Action → List Notice
  | .proceed worker => (board.phase worker).report
  | _ => []

def Board.openAfter (board : Board) : Action → Bool
  | .proceed worker =>
      match board.phase worker with
      | .opening _ => true
      | .closing _ => false
      | _ => board.keys.isOpen
  | _ => board.keys.isOpen

def Board.changed (board : Board) (action : Action) : List Notice :=
  match board.keys.isOpen, board.openAfter action with
  | false, true => [.circuitOpen]
  | true, false => [.circuitClose]
  | _, _ => []

def reportedAlong (threshold : Int) : Board → List Action → List Notice
  | _, [] => []
  | board, action :: actions =>
      board.reported action ++
        match board.step threshold action with
        | none => []
        | some next => reportedAlong threshold next actions

def Alternates : Notice → List Notice → Prop
  | _, [] => True
  | expected, notice :: notices => notice = expected ∧ Alternates expected.other notices

/-- `SET` and the `DEL` of the state meet the state the report's `GET` saw. -/
def Current (board : Board) : Action → Prop
  | .proceed worker =>
      match board.phase worker with
      | .opening wasOpen => board.keys.isOpen = wasOpen
      | .closing wasOpen => board.keys.isOpen = wasOpen
      | _ => True
  | _ => True

/-- Every change of the state is reported, once and when it is made, and the events of the
run alternate. -/
structure ReportsChanges (threshold : Int) (board : Board) (actions : List Action) : Prop where
  each : Along (Board.step threshold) (fun board action =>
    board.reported action = board.changed action) board actions
  alternates : Alternates .circuitOpen (reportedAlong threshold board actions)

section Steps

variable {threshold : Int} {board next : Board} {action : Action}

theorem isOpen_step (hstep : board.step threshold action = some next) :
    next.keys.isOpen = board.openAfter action := by
  cases action with
  | fail worker =>
      dsimp only [Board.step] at hstep
      split at hstep
      · cases hstep
        rfl
      · cases hstep
  | succeed worker =>
      dsimp only [Board.step] at hstep
      split at hstep
      · cases hstep
        rfl
      · cases hstep
  | proceed worker =>
      dsimp only [Board.step] at hstep
      dsimp only [Board.openAfter]
      cases hphase : board.phase worker with
      | idle => rw [hphase] at hstep; cases hstep
      | counted count => rw [hphase] at hstep; cases hstep; rfl
      | tripping => rw [hphase] at hstep; cases hstep; rfl
      | opening wasOpen => rw [hphase] at hstep; cases hstep; rfl
      | opened wasOpen => rw [hphase] at hstep; cases hstep; rfl
      | clearing wasOpen => rw [hphase] at hstep; cases hstep; rfl
      | closing wasOpen => rw [hphase] at hstep; cases hstep; rfl

theorem reported_eq_changed_iff : board.reported action = board.changed action ↔
    Current board action := by
  cases action with
  | fail worker => simp [Board.reported, Board.changed, Board.openAfter, Current]
  | succeed worker => simp [Board.reported, Board.changed, Board.openAfter, Current]
  | proceed worker =>
      unfold Board.reported Board.changed Board.openAfter Current
      dsimp only
      cases board.phase worker with
      | idle => cases board.keys.isOpen <;> simp [Phase.report]
      | counted count => cases board.keys.isOpen <;> simp [Phase.report]
      | tripping => cases board.keys.isOpen <;> simp [Phase.report]
      | opening wasOpen => cases wasOpen <;> cases board.keys.isOpen <;> simp [Phase.report]
      | opened wasOpen => cases board.keys.isOpen <;> simp [Phase.report]
      | clearing wasOpen => cases board.keys.isOpen <;> simp [Phase.report]
      | closing wasOpen => cases wasOpen <;> cases board.keys.isOpen <;> simp [Phase.report]

def expected (isOpen : Bool) : Notice := if isOpen then .circuitClose else .circuitOpen

theorem alternates_changed {notices : List Notice}
    (h : Alternates (expected (board.openAfter action)) notices) :
    Alternates (expected board.keys.isOpen) (board.changed action ++ notices) := by
  unfold Board.changed
  cases hbefore : board.keys.isOpen with
  | false =>
      cases hafter : board.openAfter action with
      | false => rwa [hafter] at h
      | true => exact ⟨rfl, by rwa [hafter] at h⟩
  | true =>
      cases hafter : board.openAfter action with
      | false => exact ⟨rfl, by rwa [hafter] at h⟩
      | true => rwa [hafter] at h

theorem alternates_of_current {actions : List Action}
    (hcurrent : Along (Board.step threshold) Current board actions) :
    Alternates (expected board.keys.isOpen) (reportedAlong threshold board actions) := by
  induction actions generalizing board with
  | nil => trivial
  | cons action actions ih =>
      rw [reportedAlong, reported_eq_changed_iff.mpr hcurrent.1]
      apply alternates_changed
      cases hstep : board.step threshold action with
      | none => trivial
      | some next =>
          rw [← isOpen_step hstep]
          exact ih (hcurrent.2 next hstep)

end Steps

/-! ### The events on the board

A report adds its event to the board when it ends; until then it owes the event. -/

section Owed

variable {threshold : Int} {board next : Board} {action : Action} {notice : Notice}
  {workers : Finset Worker}

def Phase.owes (notice : Notice) : Phase → Nat
  | .opened wasOpen => if wasOpen then 0 else [Notice.circuitOpen].count notice
  | _ => 0

def accounted (workers : Finset Worker) (notice : Notice) (board : Board) : Nat :=
  board.notices.count notice + ∑ worker ∈ workers, (board.phase worker).owes notice

def Action.worker : Action → Worker
  | .fail worker | .succeed worker | .proceed worker => worker

theorem sum_owes_update {worker : Worker} (hworker : worker ∈ workers) (phase : Phase) :
    ∑ other ∈ workers, (Function.update board.phase worker phase other).owes notice +
        (board.phase worker).owes notice =
      ∑ other ∈ workers, (board.phase other).owes notice + phase.owes notice := by
  have hupdate : (fun other => (Function.update board.phase worker phase other).owes notice) =
      Function.update (fun other => (board.phase other).owes notice) worker
        (phase.owes notice) := by
    funext other
    by_cases heq : other = worker
    · subst heq
      simp
    · simp [heq]
  rw [hupdate, Finset.sum_update_of_mem hworker,
    ← Finset.sum_sdiff (Finset.singleton_subset_iff.mpr hworker), Finset.sum_singleton]
  omega

/-- What a step puts on the board or leaves owed is what its command reports. -/
theorem accounted_step (hworker : action.worker ∈ workers)
    (hstep : board.step threshold action = some next) :
    accounted workers notice next =
      accounted workers notice board + (board.reported action).count notice := by
  have hsum (phase : Phase) := @sum_owes_update board notice workers action.worker hworker phase
  cases action with
  | fail worker =>
      dsimp only [Board.step] at hstep
      split at hstep
      · rename_i hidle
        cases hstep
        have hmoved := hsum (.counted (board.keys.failures + 1))
        dsimp only [Action.worker] at hmoved
        rw [hidle] at hmoved
        exact congrArg (board.notices.count notice + ·) hmoved
      · cases hstep
  | succeed worker =>
      dsimp only [Board.step] at hstep
      split at hstep
      · rename_i hidle
        cases hstep
        have hmoved := hsum (.clearing board.keys.isOpen)
        dsimp only [Action.worker] at hmoved
        rw [hidle] at hmoved
        exact congrArg (board.notices.count notice + ·) hmoved
      · cases hstep
  | proceed worker =>
      dsimp only [Board.step] at hstep
      dsimp only [Action.worker] at hsum
      unfold accounted Board.reported
      dsimp only
      cases hphase : board.phase worker with
      | idle => rw [hphase] at hstep; cases hstep
      | counted count =>
          have hmoved := hsum (if threshold ≤ count then .tripping else .idle)
          rw [hphase] at hstep hmoved
          cases hstep
          have hnothing :
              (if threshold ≤ (count : Int) then Phase.tripping else .idle).owes notice = 0 := by
            split <;> rfl
          rw [hnothing] at hmoved
          exact congrArg (board.notices.count notice + ·) hmoved
      | tripping =>
          have hmoved := hsum (.opening board.keys.isOpen)
          rw [hphase] at hstep hmoved
          cases hstep
          exact congrArg (board.notices.count notice + ·) hmoved
      | opening wasOpen =>
          have hmoved := hsum (.opened wasOpen)
          rw [hphase] at hstep hmoved
          cases hstep
          rw [Board.set_phase, Board.write_phase, Nat.add_assoc]
          refine congrArg (board.notices.count notice + ·) (hmoved.trans ?_)
          cases wasOpen with
          | false => rfl
          | true => rfl
      | opened wasOpen =>
          have hmoved := hsum .idle
          rw [hphase] at hstep hmoved
          cases hstep
          rw [Board.finish_phase]
          cases wasOpen with
          | true => exact congrArg (board.notices.count notice + ·) hmoved
          | false =>
              change (board.notices ++ [_]).count notice + _ = _
              rw [List.count_append, Nat.add_assoc, Nat.add_comm ([_].count notice)]
              exact congrArg (board.notices.count notice + ·) hmoved
      | clearing wasOpen =>
          have hmoved := hsum (.closing wasOpen)
          rw [hphase] at hstep hmoved
          cases hstep
          exact congrArg (board.notices.count notice + ·) hmoved
      | closing wasOpen =>
          have hmoved := hsum .idle
          rw [hphase] at hstep hmoved
          cases hstep
          rw [Board.finish_phase]
          cases wasOpen with
          | false => exact congrArg (board.notices.count notice + ·) hmoved
          | true =>
              change (board.notices ++ [_]).count notice + _ = _ + [_].count notice
              rw [List.count_append, Nat.add_right_comm]
              exact congrArg (board.notices.count notice + · + _) hmoved

theorem accounted_run {actions : List Action} {final : Board}
    (hworkers : ∀ action ∈ actions, action.worker ∈ workers)
    (hrun : run (Board.step threshold) board actions = some final) :
    accounted workers notice final =
      accounted workers notice board + (reportedAlong threshold board actions).count notice := by
  induction actions generalizing board with
  | nil =>
      cases Option.some.inj hrun
      rfl
  | cons action actions ih =>
      obtain ⟨hfirst, hrest⟩ := List.forall_mem_cons.mp hworkers
      obtain ⟨next, hstep, hnext⟩ := run_cons_eq_some.mp hrun
      rw [ih hrest hnext, accounted_step hfirst hstep, reportedAlong, hstep, List.count_append,
        Nat.add_assoc]

/-- When no report is in flight, the events on the board are those of the run. -/
theorem notices_perm_reportedAlong {keys : Keys} {actions : List Action} {final : Board}
    (hrun : run (Board.step threshold) { keys := keys } actions = some final)
    (hidle : ∀ worker, final.phase worker = .idle) :
    final.notices.Perm (reportedAlong threshold { keys := keys } actions) := by
  rw [List.perm_iff_count]
  intro notice
  have hcount := @accounted_run threshold { keys := keys } notice
    (actions.map Action.worker).toFinset actions final
    (fun action h => List.mem_toFinset.mpr (List.mem_map_of_mem h)) hrun
  have howed : ∑ worker ∈ (actions.map Action.worker).toFinset,
      (final.phase worker).owes notice = 0 :=
    Finset.sum_eq_zero fun worker _ => by rw [hidle]; rfl
  have hstart : accounted (actions.map Action.worker).toFinset notice { keys := keys } = 0 :=
    (Nat.zero_add _).trans (Finset.sum_eq_zero fun _ _ => rfl)
  rw [hstart, Nat.zero_add] at hcount
  rw [← hcount, accounted, howed]
  rfl

end Owed

/-- The events of a run tell its changes of state, and so alternate, exactly as long as no
report changes the state between the `GET` of another and the command that follows it. -/
theorem circuit_events_iff {threshold : Int} {keys : Keys} (hclosed : keys.isOpen = false)
    (actions : List Action) :
    ReportsChanges threshold { keys := keys } actions ↔
      Along (Board.step threshold) Current { keys := keys } actions := by
  constructor
  · exact fun reports => reports.each.imp fun _ _ => reported_eq_changed_iff.mp
  · intro hcurrent
    constructor
    · exact hcurrent.imp fun _ _ => reported_eq_changed_iff.mpr
    · have halternates := alternates_of_current hcurrent
      rwa [hclosed] at halternates

/-! A failure and a success, and two failures that both see the breaker closed. -/

def openedAndClosed : List Action :=
  [.fail 1, .proceed 1, .proceed 1, .proceed 1, .proceed 1, .succeed 2, .proceed 2, .proceed 2]

def twoFailures : List Action :=
  [.fail 1, .fail 2, .proceed 1, .proceed 2, .proceed 1, .proceed 2, .proceed 1, .proceed 2]

theorem openedAndClosed_current : Along (Board.step 1) Current {} openedAndClosed :=
  .cons rfl trivial (.cons rfl trivial (.cons rfl trivial (.cons rfl rfl (.cons rfl trivial
    (.cons rfl trivial (.cons rfl trivial (.cons rfl rfl trivial)))))))

theorem circuit_events_one_each : ReportsChanges 1 {} openedAndClosed :=
  (circuit_events_iff rfl openedAndClosed).mpr openedAndClosed_current

theorem opening_reported_twice :
    ¬ ∀ threshold keys actions, keys.isOpen = false → ∀ final,
      run (Board.step threshold) { keys := keys } actions = some final →
        Alternates .circuitOpen (reportedAlong threshold { keys := keys } actions) := by
  intro h
  have halternates := h 1 {} twoFailures rfl _ rfl
  cases halternates.2.1

end CrawlerApi.Proxies.Breaker
