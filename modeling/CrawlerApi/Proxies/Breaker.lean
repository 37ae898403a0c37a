import CrawlerApi.Foundation.Run
import CrawlerApi.Proxies.Selection

/-!
# The circuit breaker of a domain

A report sends its Redis commands one by one: `INCR`, `EXPIRE`, `GET`, `SET`, `EXPIRE`
for a failure that opens the breaker, `GET`, `DEL`, `DEL` for a success.  No key
expires and no command fails.
-/

namespace CrawlerApi.Proxies.Breaker

open Foundation

abbrev Worker := Nat

/-- The keys `cb:domain:{domain}` and `cb:domain:{domain}:state`. -/
structure Keys where
  counter : Option Nat := none
  state : Option String := none
deriving DecidableEq

def Keys.failures (keys : Keys) : Nat := keys.counter.getD 0

def Keys.isOpen (keys : Keys) : Bool := isOpenState keys.state

/-- The command a worker sends next, with what the earlier ones told it. -/
inductive Phase where
  | idle
  | counted (count : Nat)
  | tripping
  | opening (wasOpen : Bool)
  | opened (wasOpen : Bool)
  | clearing (wasOpen : Bool)
  | closing (wasOpen : Bool)
deriving DecidableEq

inductive Notice where
  | circuitOpen | circuitClose
deriving DecidableEq

/-- The keys of a domain, the workers on them and the proxy events they add. -/
structure Board where
  keys : Keys := {}
  phase : Worker → Phase := fun _ => .idle
  notices : List Notice := []

inductive Action where
  | fail (worker : Worker)
  | succeed (worker : Worker)
  | proceed (worker : Worker)
deriving DecidableEq

namespace Board

def set (board : Board) (worker : Worker) (phase : Phase) : Board :=
  { board with phase := Function.update board.phase worker phase }

def write (board : Board) (keys : Keys) : Board := { board with keys := keys }

def finish (board : Board) (worker : Worker) (changed : Bool) (notice : Notice) : Board :=
  { board.set worker .idle with
    notices := if changed then board.notices ++ [notice] else board.notices }

def step (threshold : Int) (board : Board) : Action → Option Board
  -- INCR
  | .fail worker =>
      if board.phase worker = .idle then
        let count := board.keys.failures + 1
        some ((board.write { board.keys with counter := some count }).set worker (.counted count))
      else none
  -- GET
  | .succeed worker =>
      if board.phase worker = .idle then some (board.set worker (.clearing board.keys.isOpen))
      else none
  | .proceed worker =>
      match board.phase worker with
      | .idle => none
      -- EXPIRE
      | .counted count =>
          some (board.set worker (if threshold ≤ count then .tripping else .idle))
      -- GET
      | .tripping => some (board.set worker (.opening board.keys.isOpen))
      -- SET
      | .opening wasOpen =>
          some ((board.write { board.keys with state := some "open" }).set worker (.opened wasOpen))
      -- EXPIRE
      | .opened wasOpen => some (board.finish worker (!wasOpen) .circuitOpen)
      -- DEL
      | .clearing wasOpen =>
          some ((board.write { board.keys with counter := none }).set worker (.closing wasOpen))
      -- DEL
      | .closing wasOpen =>
          some ((board.write { board.keys with state := none }).finish worker wasOpen .circuitClose)

@[simp] theorem set_phase (board : Board) (worker : Worker) (phase : Phase) :
    (board.set worker phase).phase = Function.update board.phase worker phase := rfl

@[simp] theorem write_phase (board : Board) (keys : Keys) :
    (board.write keys).phase = board.phase := rfl

@[simp] theorem finish_phase (board : Board) (worker : Worker) (changed : Bool)
    (notice : Notice) : (board.finish worker changed notice).phase =
      Function.update board.phase worker .idle := rfl

end Board

/-- The breaker is open exactly when its counter is at least the threshold. -/
def Consistent (threshold : Int) (keys : Keys) : Prop :=
  keys.isOpen = true ↔ threshold ≤ keys.failures

instance (threshold : Int) (keys : Keys) : Decidable (Consistent threshold keys) :=
  inferInstanceAs (Decidable (_ ↔ _))

def Phase.trips (threshold : Int) : Phase → Prop
  | .counted count => threshold ≤ count
  | .tripping | .opening _ => True
  | _ => False

def Phase.closes : Phase → Prop
  | .closing _ => True
  | _ => False

/-- Between the commands of a report one key may be ahead of the other, as long as
the worker that will bring them together is there. -/
structure Tended (threshold : Int) (board : Board) : Prop where
  opened : board.keys.isOpen = true →
    threshold ≤ board.keys.failures ∨ ∃ worker, (board.phase worker).closes
  counted : threshold ≤ board.keys.failures →
    board.keys.isOpen = true ∨ ∃ worker, (board.phase worker).trips threshold

/-- `SET` meets a counter that is at least the threshold, and `DEL` of the state one
that is below. -/
def Timely (threshold : Int) (board : Board) : Action → Prop
  | .proceed worker =>
      match board.phase worker with
      | .opening _ => threshold ≤ board.keys.failures
      | .closing _ => ¬ threshold ≤ board.keys.failures
      | _ => True
  | _ => True

section Tending

variable {threshold : Int} {board next : Board} {worker : Worker} {phase : Phase}
  {action : Action}

theorem exists_update {holds : Phase → Prop} (hphase : holds phase ∨ ¬ holds (board.phase worker))
    (h : ∃ other, holds (board.phase other)) :
    ∃ other, holds ((board.set worker phase).phase other) := by
  obtain ⟨other, hother⟩ := h
  by_cases heq : other = worker
  · subst heq
    exact ⟨other, by simpa using hphase.resolve_right (not_not_intro hother)⟩
  · exact ⟨other, by simpa [heq] using hother⟩

theorem Tended.set (h : Tended threshold board)
    (hcloses : phase.closes ∨ ¬ (board.phase worker).closes)
    (htrips : phase.trips threshold ∨ ¬ (board.phase worker).trips threshold) :
    Tended threshold (board.set worker phase) where
  opened hopen := (h.opened hopen).imp_right (exists_update hcloses)
  counted hcount := (h.counted hcount).imp_right (exists_update htrips)

theorem Tended.incr (h : Tended threshold board) (hidle : board.phase worker = .idle) :
    Tended threshold
      ((board.write { board.keys with counter := some (board.keys.failures + 1) }).set worker
        (.counted (board.keys.failures + 1))) where
  opened hopen := by
    rcases h.opened hopen with hcount | hcloses
    · left
      change threshold ≤ ((board.keys.failures + 1 : Nat) : Int)
      omega
    · right
      have hcalm : ¬ (board.phase worker).closes := by rw [hidle]; exact id
      exact exists_update (.inr hcalm) hcloses
  counted hcount := by
    right
    refine ⟨worker, ?_⟩
    rw [Board.set_phase, Function.update_self]
    exact hcount

theorem tended_open {wasOpen : Bool} (htimely : threshold ≤ board.keys.failures) :
    Tended threshold ((board.write { board.keys with state := some "open" }).set worker
      (.opened wasOpen)) where
  opened _ := .inl htimely
  counted _ := .inl rfl

theorem Tended.clear (h : Tended threshold board) {wasOpen : Bool}
    (hphase : board.phase worker = .clearing wasOpen) :
    Tended threshold ((board.write { board.keys with counter := none }).set worker
      (.closing wasOpen)) where
  opened _ := by
    right
    refine ⟨worker, ?_⟩
    rw [Board.set_phase, Function.update_self]
    trivial
  counted hcount := by
    have hbefore : threshold ≤ board.keys.failures := by
      change threshold ≤ ((0 : Nat) : Int) at hcount
      omega
    refine (h.counted hbefore).imp_right fun htrips => exists_update (.inr ?_) htrips
    change ¬ (board.phase worker).trips threshold
    rw [hphase]
    exact id

theorem tended_close (htimely : ¬ threshold ≤ board.keys.failures) :
    Tended threshold ((board.write { board.keys with state := none }).set worker .idle) where
  opened hopen := by cases hopen
  counted hcount := absurd hcount htimely

theorem Tended.notices (h : Tended threshold (board.set worker .idle)) (changed : Bool)
    (notice : Notice) : Tended threshold (board.finish worker changed notice) :=
  ⟨h.opened, h.counted⟩

theorem step_tended (h : Tended threshold board) (htimely : Timely threshold board action)
    (hstep : board.step threshold action = some next) : Tended threshold next := by
  cases action with
  | fail worker =>
      dsimp only [Board.step] at hstep
      split at hstep
      · rename_i hidle
        cases hstep
        exact h.incr hidle
      · cases hstep
  | succeed worker =>
      dsimp only [Board.step] at hstep
      split at hstep
      · rename_i hidle
        cases hstep
        exact h.set (.inr (by rw [hidle]; exact id)) (.inr (by rw [hidle]; exact id))
      · cases hstep
  | proceed worker =>
      dsimp only [Board.step] at hstep
      dsimp only [Timely] at htimely
      cases hphase : board.phase worker with
      | idle => rw [hphase] at hstep; cases hstep
      | counted count =>
          rw [hphase] at hstep
          cases hstep
          refine h.set (.inr (by rw [hphase]; exact id)) ?_
          split
          · exact .inl trivial
          · rename_i hbelow
            exact .inr (by rw [hphase]; exact hbelow)
      | tripping =>
          rw [hphase] at hstep
          cases hstep
          exact h.set (.inr (by rw [hphase]; exact id)) (.inl trivial)
      | opening wasOpen =>
          rw [hphase] at hstep htimely
          cases hstep
          exact tended_open htimely
      | opened wasOpen =>
          rw [hphase] at hstep
          cases hstep
          refine (h.set ?_ ?_).notices _ _
          · exact .inr (by rw [hphase]; exact id)
          · exact .inr (by rw [hphase]; exact id)
      | clearing wasOpen =>
          rw [hphase] at hstep
          cases hstep
          exact h.clear hphase
      | closing wasOpen =>
          rw [hphase] at hstep htimely
          cases hstep
          exact (tended_close htimely).notices _ _

end Tending

section Runs

variable {threshold : Int} {board : Board} {keys : Keys} {actions : List Action}

/-- In every run that starts consistent and whose `SET`s and `DEL`s are timely, the
breaker is consistent whenever no report is in flight. -/
theorem breaker_consistent (hstart : Consistent threshold keys)
    (hrun : run (Board.step threshold) { keys := keys } actions = some board)
    (htimely : Along (Board.step threshold) (Timely threshold) { keys := keys } actions)
    (hidle : ∀ worker, board.phase worker = .idle) : Consistent threshold board.keys := by
  have hinit : Tended threshold { keys := keys } :=
    ⟨fun hopen => .inl (hstart.mp hopen), fun hcount => .inl (hstart.mpr hcount)⟩
  have htended : Tended threshold board :=
    run_invariant (fun _ _ _ h hguard hstep => step_tended h hguard hstep) hinit htimely hrun
  constructor
  · intro hopen
    refine (htended.opened hopen).resolve_right ?_
    rintro ⟨worker, hcloses⟩
    rw [hidle worker] at hcloses
    exact hcloses
  · intro hcount
    refine (htended.counted hcount).resolve_right ?_
    rintro ⟨worker, htrips⟩
    rw [hidle worker] at htrips
    exact htrips

end Runs

/-! The fifth failure, alone and with a success that deletes both keys between its `GET`
and its `SET`. -/

def fourFailures : Keys := { counter := some 4 }

def fifthFailure : List Action := [.fail 1, .proceed 1, .proceed 1, .proceed 1, .proceed 1]

def racingSuccess : List Action := [.fail 1, .proceed 1, .proceed 1, .succeed 2, .proceed 2,
  .proceed 2, .proceed 1, .proceed 1]

theorem fifthFailure_timely :
    Along (Board.step 5) (Timely 5) { keys := fourFailures } fifthFailure := by
  refine .cons rfl trivial (.cons rfl trivial (.cons rfl trivial (.cons rfl ?_
    (.cons rfl trivial trivial))))
  change (5 : Int) ≤ 5
  decide

theorem breaker_consistent_fifth_failure : ∃ board,
    run (Board.step 5) { keys := fourFailures } fifthFailure = some board ∧
      Consistent 5 board.keys := by
  refine ⟨_, rfl, breaker_consistent (by decide) rfl fifthFailure_timely ?_⟩
  intro worker
  by_cases hone : worker = 1
  · rw [hone]
    rfl
  · simp [hone]

theorem racing_success_leaves_open :
    ¬ ∀ threshold keys actions board, Consistent threshold keys →
      run (Board.step threshold) { keys := keys } actions = some board →
        (∀ worker, board.phase worker = .idle) → Consistent threshold board.keys := by
  intro h
  have hconsistent := h 5 fourFailures racingSuccess _ (by decide) rfl ?_
  · revert hconsistent
    decide
  · intro worker
    by_cases hone : worker = 1
    · rw [hone]
      rfl
    · by_cases htwo : worker = 2
      · rw [htwo]
        rfl
      · simp [hone, htwo]

end CrawlerApi.Proxies.Breaker
