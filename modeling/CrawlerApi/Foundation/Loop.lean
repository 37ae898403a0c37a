import Mathlib.Data.List.Basic

/-!
# Bounded loops with several exits

The body of a loop is told how many iterations are left after the one it runs;
it emits events and either goes around again or ends the loop.  The loop ends by
itself when no iteration is left.  `visits` lists the iterations that were made.
-/

namespace CrawlerApi.Foundation

inductive Exit (σ β : Type) where
  | again (next : σ)
  | done (out : β)

structure Iteration (σ τ β : Type) where
  events : List τ
  exit : Exit σ β

/-- One iteration that was made: the state it started in and the iterations left. -/
structure Visit (σ : Type) where
  left : Nat
  state : σ

abbrev Body (σ τ β : Type) := Nat → σ → Iteration σ τ β

def loop (body : Body σ τ β) (exhausted : σ → β) : Nat → σ → β
  | 0, state => exhausted state
  | left + 1, state =>
      match (body left state).exit with
      | .again next => loop body exhausted left next
      | .done out => out

def visits (body : Body σ τ β) : Nat → σ → List (Visit σ)
  | 0, _ => []
  | left + 1, state =>
      ⟨left, state⟩ ::
        match (body left state).exit with
        | .again next => visits body left next
        | .done _ => []

def loopEvents (body : Body σ τ β) (count : Nat) (state : σ) : List τ :=
  (visits body count state).flatMap fun visit => (body visit.left visit.state).events

section Rules

variable {body : Body σ τ β} {exhausted : σ → β} {left count : Nat} {state next : σ} {out : β}

theorem loop_again (h : (body left state).exit = .again next) :
    loop body exhausted (left + 1) state = loop body exhausted left next := by
  rw [loop, h]

theorem loop_done (h : (body left state).exit = .done out) :
    loop body exhausted (left + 1) state = out := by
  rw [loop, h]

theorem visits_again (h : (body left state).exit = .again next) :
    visits body (left + 1) state = ⟨left, state⟩ :: visits body left next := by
  rw [visits, h]

theorem visits_done (h : (body left state).exit = .done out) :
    visits body (left + 1) state = [⟨left, state⟩] := by
  rw [visits, h]

theorem loopEvents_again (h : (body left state).exit = .again next) :
    loopEvents body (left + 1) state = (body left state).events ++ loopEvents body left next := by
  rw [loopEvents, visits_again h, List.flatMap_cons]
  rfl

theorem loopEvents_done (h : (body left state).exit = .done out) :
    loopEvents body (left + 1) state = (body left state).events := by
  rw [loopEvents, visits_done h, List.flatMap_singleton]

def restEvents (body : Body σ τ β) (left : Nat) (state : σ) : List τ :=
  match (body left state).exit with
  | .again next => loopEvents body left next
  | .done _ => []

theorem loopEvents_succ : loopEvents body (left + 1) state =
    (body left state).events ++ restEvents body left state := by
  unfold restEvents
  cases h : (body left state).exit with
  | again next => exact loopEvents_again h
  | done out => rw [loopEvents_done h, List.append_nil]

/-- An invariant every iteration that goes around again keeps holds of the state
of every iteration. -/
theorem visits_invariant (inv : σ → Prop)
    (hagain : ∀ visit ∈ visits body count state, inv visit.state →
      ∀ next, (body visit.left visit.state).exit = .again next → inv next)
    (hinit : inv state) : ∀ visit ∈ visits body count state, inv visit.state := by
  induction count generalizing state with
  | zero => exact fun visit hvisit => absurd hvisit List.not_mem_nil
  | succ left ih =>
      intro visit hvisit
      cases h : (body left state).exit with
      | again next =>
          have hnext := hagain _ (List.mem_cons_self ..) hinit next h
          rw [visits_again h] at hvisit hagain
          rcases List.mem_cons.mp hvisit with rfl | hrest
          · exact hinit
          · exact ih (fun other hother => hagain other (List.mem_cons_of_mem _ hother)) hnext
              visit hrest
      | done out =>
          rw [visits_done h] at hvisit
          rw [List.mem_singleton.mp hvisit]
          exact hinit

theorem length_visits_le : (visits body count state).length ≤ count := by
  induction count generalizing state with
  | zero => exact Nat.le_refl 0
  | succ left ih =>
      rw [visits, List.length_cons]
      apply Nat.succ_le_succ
      split
      · exact ih
      · exact Nat.zero_le left

theorem visits_chain (follows : σ → σ → Prop)
    (hagain : ∀ visit ∈ visits body count state, ∀ next,
      (body visit.left visit.state).exit = .again next → follows visit.state next) :
    (visits body count state).IsChain fun visit other => follows visit.state other.state := by
  induction count generalizing state with
  | zero => exact .nil
  | succ left ih =>
      cases h : (body left state).exit with
      | done out =>
          rw [visits_done h]
          exact .singleton _
      | again next =>
          have hfirst := hagain _ (List.mem_cons_self ..) next h
          rw [visits_again h] at hagain ⊢
          have hrest := @ih next fun visit hvisit => hagain visit (List.mem_cons_of_mem _ hvisit)
          cases left with
          | zero => exact .singleton _
          | succ left => exact .cons_cons hfirst hrest

theorem loop_cases :
    (∃ visit, (visits body count state).getLast? = some visit ∧
        (body visit.left visit.state).exit = .done (loop body exhausted count state)) ∨
      ∃ final, loop body exhausted count state = exhausted final := by
  induction count generalizing state with
  | zero => exact .inr ⟨state, rfl⟩
  | succ left ih =>
      cases h : (body left state).exit with
      | done out =>
          rw [visits_done h, loop_done h]
          exact .inl ⟨_, rfl, h⟩
      | again next =>
          rw [visits_again h, loop_again h]
          apply Or.imp_left _ (@ih next)
          rintro ⟨visit, hlast, hdone⟩
          refine ⟨visit, ?_, hdone⟩
          rw [List.getLast?_cons, hlast]
          rfl

theorem loop_of_mem_done {visit : Visit σ} (hvisit : visit ∈ visits body count state)
    (h : (body visit.left visit.state).exit = .done out) :
    loop body exhausted count state = out := by
  induction count generalizing state with
  | zero => cases hvisit
  | succ left ih =>
      rcases List.mem_cons.mp hvisit with rfl | hrest
      · exact loop_done h
      · cases hexit : (body left state).exit with
        | done other =>
            rw [hexit] at hrest
            cases hrest
        | again next =>
            rw [hexit] at hrest
            rw [loop_again hexit]
            exact ih hrest

theorem visits_count (index : σ → Nat)
    (hagain : ∀ visit ∈ visits body count state, ∀ next,
      (body visit.left visit.state).exit = .again next → index next = index visit.state + 1)
    {last : Visit σ} (hlast : (visits body count state).getLast? = some last) :
    index last.state + 1 = index state + (visits body count state).length := by
  induction count generalizing state with
  | zero => cases hlast
  | succ left ih =>
      cases h : (body left state).exit with
      | done out =>
          rw [visits_done h] at hlast ⊢
          cases hlast
          rfl
      | again next =>
          have hfirst := hagain _ (List.mem_cons_self ..) next h
          rw [visits_again h] at hagain hlast ⊢
          cases hrest : visits body left next with
          | nil =>
              rw [hrest] at hlast
              cases hlast
              rfl
          | cons second others =>
              have hnext := @ih next
                fun visit hvisit => hagain visit (List.mem_cons_of_mem _ hvisit)
              rw [hrest] at hlast hnext
              rw [List.getLast?_cons_cons] at hlast
              rw [List.length_cons, hnext hlast, hfirst]
              dsimp only
              omega

theorem visits_left (index : σ → Nat)
    (hagain : ∀ visit ∈ visits body count state, ∀ next,
      (body visit.left visit.state).exit = .again next → index next = index visit.state + 1) :
    ∀ visit ∈ visits body count state,
      index visit.state + visit.left + 1 = index state + count := by
  induction count generalizing state with
  | zero => exact fun visit hvisit => absurd hvisit List.not_mem_nil
  | succ left ih =>
      intro visit hvisit
      cases h : (body left state).exit with
      | done out =>
          rw [visits_done h] at hvisit
          rw [List.mem_singleton.mp hvisit]
          exact Nat.add_assoc _ _ _
      | again next =>
          have hfirst := hagain _ (List.mem_cons_self ..) next h
          rw [visits_again h] at hvisit hagain
          rcases List.mem_cons.mp hvisit with rfl | hrest
          · exact Nat.add_assoc _ _ _
          · have hnext := ih (fun other hother => hagain other (List.mem_cons_of_mem _ hother))
              visit hrest
            dsimp only at hfirst
            omega

theorem loopEvents_measure (measures : List τ → Nat → Prop) (hnil : measures [] 0)
    (happend : ∀ before after n, measures before 1 → measures after n →
      measures (before ++ after) (n + 1))
    (hone : ∀ visit ∈ visits body count state, measures (body visit.left visit.state).events 1) :
    measures (loopEvents body count state) (visits body count state).length := by
  unfold loopEvents
  generalize visits body count state = made at hone ⊢
  induction made with
  | nil => exact hnil
  | cons visit rest ih =>
      rw [List.flatMap_cons, List.length_cons]
      apply happend _ _ _ (hone visit (List.mem_cons_self ..))
      exact ih fun other hother => hone other (List.mem_cons_of_mem _ hother)

/-- What relates the state of an iteration to the events before it, and is carried
on by the iterations, makes a law of all events. -/
theorem loopEvents_history (holds : σ → List τ → Prop) (law : List τ → Prop)
    (hagain : ∀ visit ∈ visits body count state, ∀ next past, holds visit.state past →
      (body visit.left visit.state).exit = .again next →
        holds next (past ++ (body visit.left visit.state).events))
    (hlaw : ∀ visit ∈ visits body count state, ∀ past, holds visit.state past →
      law (past ++ (body visit.left visit.state).events))
    (hstop : ∀ final past, holds final past → law past)
    {past : List τ} (hinit : holds state past) : law (past ++ loopEvents body count state) := by
  induction count generalizing state past with
  | zero => rw [loopEvents, visits, List.flatMap_nil, List.append_nil]; exact hstop state past hinit
  | succ left ih =>
      have hfirst : ⟨left, state⟩ ∈ visits body (left + 1) state := List.mem_cons_self ..
      cases h : (body left state).exit with
      | done out =>
          rw [loopEvents_done h]
          exact hlaw _ hfirst past hinit
      | again next =>
          have hnext := hagain _ hfirst next past hinit h
          rw [visits_again h] at hagain hlaw
          rw [loopEvents_again h, ← List.append_assoc]
          exact ih (fun visit hvisit => hagain visit (List.mem_cons_of_mem _ hvisit))
            (fun visit hvisit => hlaw visit (List.mem_cons_of_mem _ hvisit)) hnext

theorem visits_from {before after : List (Visit σ)} {visit : Visit σ}
    (h : visits body count state = before ++ visit :: after) :
    visit :: after = visits body (visit.left + 1) visit.state := by
  induction count generalizing state before with
  | zero => exact absurd h.symm (List.append_ne_nil_of_right_ne_nil _ (List.cons_ne_nil _ _))
  | succ left ih =>
      cases before with
      | nil =>
          rw [List.nil_append, visits] at h
          obtain ⟨rfl, rfl⟩ := List.cons_eq_cons.mp h
          rfl
      | cons first before =>
          rw [List.cons_append, visits] at h
          obtain ⟨rfl, hrest⟩ := List.cons_eq_cons.mp h
          cases hexit : (body left state).exit with
          | done out =>
              rw [hexit] at hrest
              exact absurd hrest.symm
                (List.append_ne_nil_of_right_ne_nil _ (List.cons_ne_nil _ _))
          | again next =>
              rw [hexit] at hrest
              exact ih hrest

theorem visits_successive {before after : List (Visit σ)} {visit second : Visit σ}
    (h : visits body count state = before ++ visit :: second :: after) :
    (body visit.left visit.state).exit = .again second.state ∧
      second :: after = visits body visit.left second.state := by
  have hfrom := visits_from h
  rw [visits] at hfrom
  have hrest := (List.cons_eq_cons.mp hfrom).2
  cases hexit : (body visit.left visit.state).exit with
  | done out =>
      rw [hexit] at hrest
      cases hrest
  | again next =>
      rw [hexit] at hrest
      cases hleft : visit.left with
      | zero =>
          rw [hleft] at hrest
          cases hrest
      | succ left =>
          rw [hleft] at hrest
          have hmade : second :: after = visits body (left + 1) next := hrest
          have hsecond : second.state = next := congrArg Visit.state (List.cons_eq_cons.mp hmade).1
          rw [hsecond]
          exact ⟨rfl, hmade⟩

/-- When an iteration emits a final event only as it ends the loop, and as its
last one, the event is the last of the loop, and it ended the loop. -/
theorem loopEvents_final (final : τ → Prop) (post : β → Prop)
    (hagain : ∀ left state next, (body left state).exit = .again next →
      ∀ event ∈ (body left state).events, ¬ final event)
    (hdone : ∀ left state out, (body left state).exit = .done out →
      ∀ before event after, (body left state).events = before ++ event :: after →
        final event → after = [] ∧ post out)
    {before after : List τ} {event : τ}
    (h : loopEvents body count state = before ++ event :: after) (hfinal : final event) :
    after = [] ∧ post (loop body exhausted count state) := by
  induction count generalizing state before with
  | zero => exact absurd h.symm (List.append_ne_nil_of_right_ne_nil _ (List.cons_ne_nil _ _))
  | succ left ih =>
      cases hexit : (body left state).exit with
      | again next =>
          rw [loopEvents_again hexit] at h
          rw [loop_again hexit]
          rcases List.append_eq_append_iff.mp h with ⟨rest, rfl, hrest⟩ | ⟨rest, hevents, hrest⟩
          · exact ih hrest
          · cases rest with
            | nil =>
                have hwhole : loopEvents body left next = [] ++ event :: after := hrest.symm
                exact ih hwhole
            | cons first rest =>
                obtain ⟨rfl, -⟩ := List.cons_eq_cons.mp hrest
                exact absurd hfinal (hagain left state next hexit event (by simp [hevents]))
      | done out =>
          rw [loopEvents_done hexit] at h
          rw [loop_done hexit]
          exact hdone left state out hexit before event after h hfinal

/-- A loop whose iterations end it with `value` of their state, if they end it,
gives the value of its last iteration exactly when the iteration with none left
does not go around again. -/
theorem loop_eq_last_iff (inv : σ → Prop) (value : σ → β)
    (hstep : ∀ visit ∈ visits body count state, inv visit.state →
      (body visit.left visit.state).exit = .done (value visit.state) ∨
        ∃ next, (body visit.left visit.state).exit = .again next ∧ inv next)
    (hexhausted : ∀ visit ∈ visits body count state, ∀ final,
      exhausted final ≠ value visit.state)
    (hinit : inv state) (hcount : 0 < count) :
    (∃ visit, (visits body count state).getLast? = some visit ∧
        loop body exhausted count state = value visit.state) ↔
      ∀ visit ∈ visits body count state, visit.left = 0 →
        ∀ next, (body visit.left visit.state).exit ≠ .again next := by
  induction count generalizing state with
  | zero => exact absurd hcount (Nat.lt_irrefl 0)
  | succ left ih =>
      have hfirst : ⟨left, state⟩ ∈ visits body (left + 1) state := List.mem_cons_self ..
      rcases hstep _ hfirst hinit with hdone | ⟨next, hagain, hnext⟩
      · rw [visits_done hdone, loop_done hdone]
        simp [hdone]
      · have hvalue := hexhausted _ hfirst
        rw [visits_again hagain] at hstep hexhausted ⊢
        rw [loop_again hagain]
        cases left with
        | zero => simp [visits, loop, hagain, hvalue]
        | succ left =>
            have hrest := ih (fun visit hvisit => hstep visit (List.mem_cons_of_mem _ hvisit))
              (fun visit hvisit => hexhausted visit (List.mem_cons_of_mem _ hvisit))
              hnext (Nat.succ_pos left)
            have hcons : ∃ first rest, visits body (left + 1) next = first :: rest := ⟨_, _, rfl⟩
            obtain ⟨first, rest, heq⟩ := hcons
            rw [heq] at hrest ⊢
            rw [List.getLast?_cons_cons, hrest, List.forall_mem_cons]
            simp

end Rules

end CrawlerApi.Foundation
