import Mathlib.Tactic.Common

/-!
# Runs of transition systems

A system is a partial step function.  `run` follows a finite list of actions,
`Along` says that every action of the list is taken in a state where a guard
admits it, and `transcript` keeps, for a total system with outputs, what each
action saw and answered.  Each induction over a run is made once, here.
-/

namespace CrawlerApi.Foundation

section Partial

variable {step : σ → α → Option σ} {guard other : σ → α → Prop} {inv : σ → Prop}

/-- Follow the actions in order; `none` as soon as one of them is not enabled. -/
def run (step : σ → α → Option σ) : σ → List α → Option σ
  | state, [] => some state
  | state, action :: actions => (step state action).bind (run step · actions)

/-- Every action of the run is admitted by `guard` in the state it is taken in. -/
def Along (step : σ → α → Option σ) (guard : σ → α → Prop) : σ → List α → Prop
  | _, [] => True
  | state, action :: actions =>
      guard state action ∧
        ∀ next, step state action = some next → Along step guard next actions

@[simp] theorem run_nil (state : σ) : run step state [] = some state := rfl

@[simp] theorem along_nil (state : σ) : Along step guard state ([] : List α) := trivial

theorem run_cons (state : σ) (action : α) (actions : List α) :
    run step state (action :: actions) = (step state action).bind (run step · actions) := rfl

theorem run_cons_eq_some {state final : σ} {action : α} {actions : List α} :
    run step state (action :: actions) = some final ↔
      ∃ next, step state action = some next ∧ run step next actions = some final := by
  rw [run_cons, Option.bind_eq_some_iff]

theorem run_append (state : σ) (before after : List α) :
    run step state (before ++ after) = (run step state before).bind (run step · after) := by
  induction before generalizing state with
  | nil => rfl
  | cons action before ih =>
      rw [List.cons_append, run_cons, run_cons]
      cases step state action with
      | none => rfl
      | some next => exact ih next

theorem Along.cons {state next : σ} {action : α} {actions : List α}
    (hstep : step state action = some next) (hguard : guard state action)
    (hrest : Along step guard next actions) : Along step guard state (action :: actions) := by
  refine ⟨hguard, fun other hother => ?_⟩
  rw [hstep] at hother
  cases hother
  exact hrest

theorem along_append {state middle : σ} {before after : List α}
    (hrun : run step state before = some middle) (hbefore : Along step guard state before)
    (hafter : Along step guard middle after) : Along step guard state (before ++ after) := by
  induction before generalizing state with
  | nil =>
      cases hrun
      exact hafter
  | cons action before ih =>
      obtain ⟨next, hstep, hrest⟩ := run_cons_eq_some.mp hrun
      exact .cons hstep hbefore.1 (ih hrest (hbefore.2 next hstep))

/-- An invariant kept by every admitted step holds at the end of every run whose
steps are all admitted. -/
theorem run_invariant
    (hstep : ∀ state action next, inv state → guard state action →
      step state action = some next → inv next)
    {state final : σ} {actions : List α} (hinit : inv state)
    (halong : Along step guard state actions)
    (hrun : run step state actions = some final) : inv final := by
  induction actions generalizing state with
  | nil =>
      cases Option.some.inj hrun
      exact hinit
  | cons action actions ih =>
      obtain ⟨next, hnext, hrest⟩ := run_cons_eq_some.mp hrun
      exact ih (hstep state action next hinit halong.1 hnext) (halong.2 next hnext) hrest

theorem along_true (state : σ) (actions : List α) :
    Along step (fun _ _ => True) state actions := by
  induction actions generalizing state with
  | nil => trivial
  | cons action actions ih => exact ⟨trivial, fun next _ => ih next⟩

theorem run_kept
    (hstep : ∀ state action next, inv state → step state action = some next → inv next)
    {state final : σ} {actions : List α} (hinit : inv state)
    (hrun : run step state actions = some final) : inv final :=
  run_invariant (fun state action next h _ => hstep state action next h) hinit
    (along_true state actions) hrun

theorem Along.of_invariant
    (hstep : ∀ state action next, inv state → guard state action →
      step state action = some next → inv next)
    (himp : ∀ state action, inv state → guard state action → other state action)
    {state : σ} {actions : List α} (hinit : inv state)
    (halong : Along step guard state actions) : Along step other state actions := by
  induction actions generalizing state with
  | nil => trivial
  | cons action actions ih =>
      refine ⟨himp state action hinit halong.1, fun next hnext => ?_⟩
      exact ih (hstep state action next hinit halong.1 hnext) (halong.2 next hnext)

theorem Along.imp (himp : ∀ state action, guard state action → other state action)
    {state : σ} {actions : List α} (halong : Along step guard state actions) :
    Along step other state actions := by
  induction actions generalizing state with
  | nil => trivial
  | cons action actions ih =>
      exact ⟨himp state action halong.1, fun next hnext => ih (halong.2 next hnext)⟩

end Partial

section Outputs

variable {step : σ → α → σ × β} {inv : σ → Prop}

/-- One served action: the state it was taken in, the action and its output. -/
structure Served (σ α β : Type) where
  before : σ
  action : α
  output : β

/-- The state after serving the actions in order. -/
def serveAll (step : σ → α → σ × β) : σ → List α → σ
  | state, [] => state
  | state, action :: actions => serveAll step (step state action).1 actions

theorem serveAll_append (state : σ) (before after : List α) :
    serveAll step state (before ++ after) = serveAll step (serveAll step state before) after := by
  induction before generalizing state with
  | nil => rfl
  | cons action before ih => exact ih _

/-- What a total system with outputs saw and answered along a list of actions. -/
def transcript (step : σ → α → σ × β) : σ → List α → List (Served σ α β)
  | _, [] => []
  | state, action :: actions =>
      ⟨state, action, (step state action).2⟩ :: transcript step (step state action).1 actions

theorem transcript_append (state : σ) (before after : List α) :
    transcript step state (before ++ after) =
      transcript step state before ++ transcript step (serveAll step state before) after := by
  induction before generalizing state with
  | nil => rfl
  | cons action before ih =>
      rw [List.cons_append, transcript, transcript, ih, List.cons_append]
      rfl

theorem mem_transcript (step : σ → α → σ × β) (state : σ) (before : List α) (action : α)
    (after : List α) :
    ⟨serveAll step state before, action, (step (serveAll step state before) action).2⟩ ∈
      transcript step state (before ++ action :: after) := by
  rw [transcript_append]
  exact List.mem_append_right _ (List.mem_cons_self ..)

theorem output_of_mem_transcript {state : σ} {actions : List α} {served : Served σ α β}
    (h : served ∈ transcript step state actions) :
    served.output = (step served.before served.action).2 := by
  induction actions generalizing state with
  | nil => cases h
  | cons action actions ih =>
      rcases List.mem_cons.mp h with rfl | htail
      · rfl
      · exact ih htail

theorem map_action_transcript (step : σ → α → σ × β) (state : σ) (actions : List α) :
    (transcript step state actions).map Served.action = actions := by
  induction actions generalizing state with
  | nil => rfl
  | cons action actions ih => rw [transcript, List.map_cons, ih]

@[simp] theorem length_transcript (state : σ) (actions : List α) :
    (transcript step state actions).length = actions.length := by
  rw [← List.length_map Served.action, map_action_transcript]

theorem served_of_transcript {state : σ} {actions : List α} {served : Served σ α β}
    (h : served ∈ transcript step state actions) :
    ∃ before after, actions = before ++ served.action :: after ∧
      served.before = serveAll step state before := by
  induction actions generalizing state with
  | nil => cases h
  | cons action actions ih =>
      rcases List.mem_cons.mp h with rfl | htail
      · exact ⟨[], actions, rfl, rfl⟩
      · obtain ⟨before, after, rfl, hbefore⟩ := ih htail
        exact ⟨action :: before, after, rfl, hbefore⟩

/-- A relation between the state and what was served so far, kept by every step
whose guard holds, relates the last state to the whole transcript. -/
theorem history_invariant (holds : σ → List (Served σ α β) → Prop)
    (guard : List (Served σ α β) → σ → α → Prop)
    (hstep : ∀ state served action, holds state served → guard served state action →
      holds (step state action).1 (served ++ [⟨state, action, (step state action).2⟩]))
    {state : σ} {actions : List α} {served : List (Served σ α β)} (hinit : holds state served)
    (hguard : ∀ before entry after,
      transcript step state actions = before ++ entry :: after →
        guard (served ++ before) entry.before entry.action) :
    holds (serveAll step state actions) (served ++ transcript step state actions) := by
  induction actions generalizing state served with
  | nil => simpa [serveAll, transcript] using hinit
  | cons action actions ih =>
      have hfirst := hguard [] ⟨state, action, (step state action).2⟩ _ rfl
      rw [List.append_nil] at hfirst
      have hnext := ih (hstep state served action hinit hfirst) (by
        intro before entry after heq
        rw [List.append_assoc, List.singleton_append]
        exact hguard (_ :: before) entry after (by rw [transcript, heq, List.cons_append]))
      rwa [List.append_assoc, List.singleton_append] at hnext

theorem outputs_invariant (holds : σ → List β → Prop)
    (hstep : ∀ state outputs action, holds state outputs →
      holds (step state action).1 (outputs ++ [(step state action).2]))
    {state : σ} (actions : List α) (hinit : holds state []) :
    holds (serveAll step state actions) ((transcript step state actions).map Served.output) := by
  have hserved (state : σ) (served : List (Served σ α β)) (action : α)
      (h : holds state (served.map Served.output)) (_ : True) : holds (step state action).1
        ((served ++ [Served.mk state action (step state action).2]).map Served.output) := by
    rw [List.map_append]
    exact hstep state _ action h
  have hrun := @history_invariant σ α β step
    (fun state served => holds state (served.map Served.output)) (fun _ _ _ => True) hserved
    state actions [] hinit fun _ _ _ _ => trivial
  rwa [List.nil_append] at hrun

section Marks

variable {guard : σ → α → Prop} {marks : ι → σ → Prop} {revives : ι → β → Prop}
  {ends : ι → β → Prop}

/-- What a mark rules out stays out, as long as the admitted steps keep the mark. -/
theorem transcript_of_marked
    (hkeep : ∀ i state action, marks i state → guard state action →
      marks i (step state action).1)
    (hforbid : ∀ i state action, marks i state → guard state action →
      ¬ revives i (step state action).2)
    {i : ι} {state : σ} {actions : List α} (hmark : marks i state)
    (hguard : ∀ served ∈ transcript step state actions, guard served.before served.action) :
    ∀ served ∈ transcript step state actions, ¬ revives i served.output := by
  induction actions generalizing state with
  | nil => exact List.forall_mem_nil _
  | cons action actions ih =>
      obtain ⟨hfirst, hrest⟩ := List.forall_mem_cons.mp hguard
      refine List.forall_mem_cons.mpr ⟨hforbid i state action hmark hfirst, ?_⟩
      exact ih (hkeep i state action hmark hfirst) hrest

/-- An output that sets the mark is followed by no output the mark rules out. -/
theorem transcript_pairwise
    (hends : ∀ i state action, guard state action → ends i (step state action).2 →
      marks i (step state action).1)
    (hkeep : ∀ i state action, marks i state → guard state action →
      marks i (step state action).1)
    (hforbid : ∀ i state action, marks i state → guard state action →
      ¬ revives i (step state action).2)
    {state : σ} {actions : List α}
    (hguard : ∀ served ∈ transcript step state actions, guard served.before served.action) :
    (transcript step state actions).Pairwise fun earlier later =>
      ∀ i, ends i earlier.output → ¬ revives i later.output := by
  induction actions generalizing state with
  | nil => exact .nil
  | cons action actions ih =>
      obtain ⟨hfirst, hrest⟩ := List.forall_mem_cons.mp hguard
      refine .cons (fun later hlater i hend => ?_) (ih hrest)
      exact transcript_of_marked hkeep hforbid (hends i state action hfirst hend) hrest later hlater

end Marks

end Outputs

section Logs

variable {step : σ → α → σ × Option β} {state : σ} {entry : β} {before after : List β}

/-- What the actions with an output leave in a log. -/
def logged (step : σ → α → σ × Option β) (state : σ) (actions : List α) : List β :=
  (transcript step state actions).filterMap Served.output

theorem logged_cons (state : σ) (action : α) (actions : List α) :
    logged step state (action :: actions) =
      (step state action).2.toList ++ logged step (step state action).1 actions := by
  unfold logged
  rw [transcript, List.filterMap_cons]
  cases (step state action).2 with
  | none => rfl
  | some entry => rfl

theorem logged_append (state : σ) (before after : List α) :
    logged step state (before ++ after) =
      logged step state before ++ logged step (serveAll step state before) after := by
  unfold logged
  rw [transcript_append, List.filterMap_append]

theorem mem_logged {actions : List α} : entry ∈ logged step state actions ↔
    ∃ served ∈ transcript step state actions, served.output = some entry :=
  List.mem_filterMap

theorem logged_invariant (holds : σ → List β → Prop)
    (hstep : ∀ state entries action, holds state entries →
      holds (step state action).1 (entries ++ (step state action).2.toList))
    {state : σ} (actions : List α) {entries : List β} (hinit : holds state entries) :
    holds (serveAll step state actions) (entries ++ logged step state actions) := by
  induction actions generalizing state entries with
  | nil => rwa [logged, transcript, List.filterMap_nil, List.append_nil]
  | cons action actions ih =>
      rw [logged_cons, ← List.append_assoc]
      exact ih (hstep state entries action hinit)

theorem logged_eq_append_cons {actions : List α}
    (h : logged step state actions = before ++ entry :: after) :
    ∃ earlier action later, actions = earlier ++ action :: later ∧
      logged step state earlier = before ∧
      (step (serveAll step state earlier) action).2 = some entry := by
  induction actions generalizing state before with
  | nil => exact absurd h.symm (by simp [logged, transcript])
  | cons action actions ih =>
      rw [logged_cons] at h
      cases houtput : (step state action).2 with
      | none =>
          rw [houtput] at h
          obtain ⟨earlier, last, later, rfl, hbefore, hlast⟩ := ih h
          exact ⟨action :: earlier, last, later, rfl,
            by rw [logged_cons, houtput, ← hbefore]; rfl, hlast⟩
      | some first =>
          rw [houtput] at h
          cases before with
          | nil =>
              obtain ⟨rfl, -⟩ := List.cons.inj h
              exact ⟨[], action, actions, rfl, rfl, houtput⟩
          | cons head before =>
              obtain ⟨rfl, hrest⟩ := List.cons.inj h
              obtain ⟨earlier, last, later, rfl, hbefore, hlast⟩ := ih hrest
              exact ⟨action :: earlier, last, later, rfl,
                by rw [logged_cons, houtput, ← hbefore]; rfl, hlast⟩

end Logs

end CrawlerApi.Foundation
