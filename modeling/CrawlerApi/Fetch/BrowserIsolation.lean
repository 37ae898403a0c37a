import CrawlerApi.Fetch.BrowserPool

/-!
# What the browser pool guarantees

Over every run of the pool: slots are neither lost nor made, only one call launches and only
when no Chromium is connected, a context never has two calls, and a context is closed under no
call that still has it.  What a raise can leave behind is named by the guards.
-/

namespace CrawlerApi.Fetch.BrowserPool

open Foundation

variable {state next : State} {action : Action}

/-! ### Slots and the lock -/

theorem Effect.total_eq (h : Effect state action next) :
    next.slots.total Phase.inside = state.slots.total Phase.inside := by
  cases h with
  | enters => exact Slots.total_enter Phase.inside rfl
  | acquires hat hslots => exact Slots.total_acquire Phase.inside hat rfl rfl hslots
  | goes hat hinside => exact Slots.total_go Phase.inside hat hinside
  | starts hat | driverReady hat | launched hat | opened hat =>
      exact Slots.total_go Phase.inside hat rfl
  | closed hat | strays hat | abandons hat => exact Slots.total_release Phase.inside hat rfl rfl
  | quits hat hinside | givesUp hat hinside =>
      exact Slots.total_release Phase.inside hat hinside rfl
  | kills | idles => rfl

/-- The calls inside `_lock`. -/
def State.launching (state : State) : Nat := state.slots.calls.countP Phase.starting

def State.LockKept (state : State) : Prop := state.launching = if state.locked then 1 else 0

section Lock

variable {i : Nat} {old new : Phase}

theorem starting_kept (hlock : state.LockKept) (hat : state.phase i = some old) (new : Phase)
    (hsame : new.starting = old.starting) :
    (state.slots.calls.set i new).countP Phase.starting = if state.locked then 1 else 0 := by
  have hcount := Slots.countP_calls_set Phase.starting new hat
  rw [hsame] at hcount
  exact (Nat.add_right_cancel hcount).trans hlock

theorem starting_over (hlock : state.LockKept) (hat : state.phase i = some old)
    (hold : old.starting = true) (hnew : new.starting = false) :
    (state.slots.calls.set i new).countP Phase.starting = 0 := by
  have hcount := Slots.countP_calls_set Phase.starting new hat
  have hone : state.launching ≤ 1 := by
    rw [hlock]
    split <;> omega
  unfold State.launching at hone
  simp only [hold, hnew, Bool.false_eq_true, if_true, if_false] at hcount
  omega

theorem starting_begun (hlock : state.LockKept) (hfree : state.locked = false)
    (hat : state.phase i = some old) (hold : old.starting = false)
    (hnew : new.starting = true) : (state.slots.calls.set i new).countP Phase.starting = 1 := by
  have hcount := Slots.countP_calls_set Phase.starting new hat
  have hnone : state.launching = 0 := by
    rw [hlock, hfree]
    rfl
  unfold State.launching at hnone
  simp only [hold, hnew, Bool.false_eq_true, if_true, if_false] at hcount
  omega

end Lock

theorem Effect.lockKept (h : Effect state action next) (hlock : state.LockKept) :
    next.LockKept := by
  cases h with
  | enters =>
      refine Eq.trans ?_ hlock
      unfold State.launching
      simp [Phase.starting]
  | acquires hat hslots =>
      obtain ⟨-, rfl⟩ := Slots.acquire_eq_some hslots
      exact starting_kept hlock hat .lock rfl
  | @goes _ _ _ new hat _ hstarting => exact starting_kept hlock hat new hstarting
  | starts hat hfree => exact starting_begun hlock hfree hat rfl rfl
  | driverReady hat => exact starting_kept hlock hat (.launch state.next) rfl
  | launched hat => exact starting_over hlock hat rfl rfl
  | opened hat => exact starting_kept hlock hat (.initScript _) rfl
  | closed hat | strays hat => exact starting_kept hlock hat .left rfl
  | quits hat _ hstarting => exact starting_kept hlock hat .left hstarting.symm
  | givesUp hat _ hstarting => exact starting_over hlock hat hstarting rfl
  | abandons hat => exact starting_over hlock hat rfl rfl
  | kills | idles => exact hlock

/-! ### Who has which context -/

def State.InUse (state : State) (context : BrowserContext) : Prop :=
  state.slots.Owned Phase.context context

structure Numbered (state : State) : Prop where
  processes : ∀ chromium ∈ state.processes, chromium.id < state.next
  browser : ∀ chromium, state.browser = some chromium → chromium.id < state.next
  contexts : ∀ context ∈ state.contexts, context.id < state.next
  inUse : ∀ context, state.InUse context →
    context.id < state.next ∧ context.chromium.id < state.next

theorem Effect.next_le (h : Effect state action next) : state.next ≤ next.next := by
  cases h with
  | enters | acquires | goes | starts | closed | quits | kills | idles =>
      exact Nat.le_refl state.next
  | driverReady | launched | opened | strays | abandons => exact Nat.le_succ state.next
  | givesUp _ _ _ hnext => exact hnext

structure Given (state next : State) (context : BrowserContext) : Prop where
  id : context.id = state.next
  drawn : next.next = state.next + 1
  live : context.chromium ∈ state.processes
  opened : context ∈ next.contexts

theorem Effect.owned_before (h : Effect state action next) {i : Nat} {phase : Phase}
    {context : BrowserContext} (hat : next.phase i = some phase)
    (hcontext : phase.context = some context) :
    (∃ before, state.phase i = some before ∧ before.context = some context) ∨
      Given state next context := by
  have hkeeps : ∀ {j : Nat} {old new : Phase}, state.phase j = some old →
      (state.slots.calls.set j new)[i]? = some phase →
      (∀ c, new.context = some c → old.context = some c) →
      ∃ before, state.phase i = some before ∧ before.context = some context := by
    intro j old new hold hi hnew
    rcases Slots.getElem?_set_cases hi with ⟨rfl, rfl⟩ | hsame
    · exact ⟨old, hold, hnew context hcontext⟩
    · exact ⟨phase, hsame, hcontext⟩
  cases h with
  | enters =>
      have hi : (state.slots.calls ++ [Phase.slot])[i]? = some phase := hat
      rw [List.getElem?_append] at hi
      split at hi
      · exact .inl ⟨phase, hi, hcontext⟩
      · rw [List.mem_singleton.mp (List.mem_of_getElem? hi)] at hcontext
        cases hcontext
  | acquires hold hslots =>
      obtain ⟨-, rfl⟩ := Slots.acquire_eq_some hslots
      exact .inl (hkeeps hold hat nofun)
  | goes hold _ _ hsame => exact .inl (hkeeps hold hat fun c hc => hsame ▸ hc)
  | starts hold | driverReady hold | launched hold | closed hold | quits hold | strays hold
  | givesUp hold | abandons hold => exact .inl (hkeeps hold hat nofun)
  | opened hold hlive =>
      rcases Slots.getElem?_set_cases hat with ⟨rfl, rfl⟩ | hsame
      · cases hcontext
        exact .inr ⟨rfl, rfl, hlive, List.mem_cons_self⟩
      · exact .inl ⟨phase, hsame, hcontext⟩
  | kills | idles => exact .inl ⟨phase, hat, hcontext⟩

structure Follows (state later : State) : Prop where
  next_le : state.next ≤ later.next
  owned : ∀ i phase context, later.phase i = some phase → phase.context = some context →
    context.id < state.next →
      ∃ before, state.phase i = some before ∧ before.context = some context

theorem Follows.refl (state : State) : Follows state state where
  next_le := Nat.le_refl state.next
  owned _ phase _ hat hcontext _ := ⟨phase, hat, hcontext⟩

theorem Follows.step {later : State} (h : Follows state later)
    (hstep : Effect later action next) : Follows state next where
  next_le := Nat.le_trans h.next_le hstep.next_le
  owned i phase context hat hcontext hid := by
    rcases hstep.owned_before hat hcontext with ⟨before, hbefore, hown⟩ | hgiven
    · exact h.owned i before context hbefore hown hid
    · exact absurd hid (Nat.not_lt.mpr (hgiven.id ▸ h.next_le))

theorem Effect.inUse_before (h : Effect state action next) {context : BrowserContext}
    (huse : next.InUse context) :
    state.InUse context ∨ Given state next context := by
  obtain ⟨phase, hmem, hcontext⟩ := huse
  obtain ⟨i, hat⟩ := List.mem_iff_getElem?.mp hmem
  rcases h.owned_before hat hcontext with ⟨before, hbefore, hown⟩ | hnew
  · exact .inl ⟨before, List.mem_of_getElem? hbefore, hown⟩
  · exact .inr hnew

theorem Effect.numbered (h : Effect state action next) (hids : Numbered state) :
    Numbered next where
  processes := by
    intro chromium hmem
    cases h with
    | launched | abandons =>
        rcases List.mem_cons.mp hmem with rfl | hold
        · exact Nat.lt_succ_self state.next
        · exact Nat.lt_succ_of_lt (hids.processes chromium hold)
    | kills => exact hids.processes chromium (List.mem_of_mem_filter hmem)
    | driverReady | opened | strays => exact Nat.lt_succ_of_lt (hids.processes chromium hmem)
    | givesUp _ _ _ hnext => exact Nat.lt_of_lt_of_le (hids.processes chromium hmem) hnext
    | enters | acquires | goes | starts | closed | quits | idles =>
        exact hids.processes chromium hmem
  browser := by
    intro chromium hbrowser
    cases h with
    | launched =>
        cases hbrowser
        exact Nat.lt_succ_self state.next
    | driverReady | opened | strays | abandons =>
        exact Nat.lt_succ_of_lt (hids.browser chromium hbrowser)
    | givesUp _ _ _ hnext => exact Nat.lt_of_lt_of_le (hids.browser chromium hbrowser) hnext
    | enters | acquires | goes | starts | closed | quits | kills | idles =>
        exact hids.browser chromium hbrowser
  contexts := by
    intro context hmem
    cases h with
    | opened | strays =>
        rcases List.mem_cons.mp hmem with rfl | hold
        · exact Nat.lt_succ_self state.next
        · exact Nat.lt_succ_of_lt (hids.contexts context hold)
    | closed | kills => exact hids.contexts context (List.mem_of_mem_filter hmem)
    | driverReady | launched | abandons => exact Nat.lt_succ_of_lt (hids.contexts context hmem)
    | givesUp _ _ _ hnext => exact Nat.lt_of_lt_of_le (hids.contexts context hmem) hnext
    | enters | acquires | goes | starts | quits | idles => exact hids.contexts context hmem
  inUse := by
    intro context huse
    have hnext := h.next_le
    rcases h.inUse_before huse with hold | hgiven
    · have hids := hids.inUse context hold
      exact ⟨Nat.lt_of_lt_of_le hids.1 hnext, Nat.lt_of_lt_of_le hids.2 hnext⟩
    · have hid := hids.processes context.chromium hgiven.live
      rw [hgiven.drawn, hgiven.id]
      exact ⟨Nat.lt_succ_self state.next, Nat.lt_succ_of_lt hid⟩

theorem Effect.apart (h : Effect state action next) (hids : Numbered state)
    (hapart : state.slots.Apart Phase.context) : next.slots.Apart Phase.context := by
  cases h with
  | enters => exact hapart.enter rfl
  | acquires hat hslots =>
      obtain ⟨-, rfl⟩ := Slots.acquire_eq_some hslots
      exact hapart.set hat rfl nofun
  | goes hat _ _ hsame => exact hapart.set hat rfl fun c hc => .inl (hsame ▸ hc)
  | starts hat | driverReady hat | launched hat | closed hat | quits hat | strays hat
  | givesUp hat | abandons hat => exact hapart.set hat rfl nofun
  | opened hat =>
      refine hapart.set hat rfl fun context hcontext => .inr fun huse => ?_
      cases hcontext
      exact Nat.lt_irrefl state.next (hids.inUse _ huse).1
  | kills | idles => exact hapart

def State.KeepsOpen (state : State) : Prop :=
  ∀ context, state.InUse context → context.chromium ∈ state.processes → context ∈ state.contexts

theorem Effect.keepsOpen (h : Effect state action next) (hids : Numbered state)
    (hapart : state.slots.Apart Phase.context) (hopen : state.KeepsOpen) : next.KeepsOpen := by
  intro context huse hlive
  rcases h.inUse_before huse with hold | hgiven
  · have hid := (hids.inUse context hold).2
    have hspawned : ∀ driver, context.chromium ∈ (⟨state.next, driver⟩ : Chromium) ::
        state.processes → context ∈ state.contexts := by
      intro driver hmem
      rcases List.mem_cons.mp hmem with hnew | hmem
      · rw [hnew] at hid
        exact absurd hid (Nat.lt_irrefl state.next)
      · exact hopen context hold hmem
    cases h with
    | launched | abandons => exact hspawned _ hlive
    | opened | strays => exact List.mem_cons_of_mem _ (hopen context hold hlive)
    | @closed _ i closing hat =>
        -- the call that had `closing` is gone, so who has `context` is another one
        have hne : context ≠ closing := by
          rintro rfl
          obtain ⟨phase, hmem, hcontext⟩ := huse
          obtain ⟨j, hj⟩ := List.mem_iff_getElem?.mp hmem
          rcases Slots.getElem?_set_cases hj with ⟨-, rfl⟩ | hbefore
          · cases hcontext
          · have hij := hapart i j _ phase context hat hbefore rfl hcontext
            subst hij
            have hi : i < state.slots.calls.length := (List.getElem?_eq_some_iff.mp hat).1
            have hleft : (state.slots.calls.set i .left)[i]? = some phase := hj
            rw [List.getElem?_set_self hi] at hleft
            cases hleft
            cases hcontext
        exact List.mem_filter.mpr ⟨hopen context hold hlive, decide_eq_true hne⟩
    | kills dies =>
        obtain ⟨hmem, hkept⟩ := List.mem_filter.mp hlive
        exact List.mem_filter.mpr ⟨hopen context hold hmem, hkept⟩
    | enters | acquires | goes | starts | driverReady | quits | givesUp | idles =>
        exact hopen context hold hlive
  · exact hgiven.opened

def State.LaunchesWhenDown (state : State) : Prop :=
  state.locked = true → state.connected = none

theorem connected_eq_none : state.connected = none ↔
    ∀ chromium, state.browser = some chromium → chromium ∉ state.processes := by
  unfold State.connected
  rw [Option.filter_eq_none_iff]
  simp

theorem Effect.launchesWhenDown (h : Effect state action next)
    (hdown : state.LaunchesWhenDown) : next.LaunchesWhenDown := by
  intro hlocked
  cases h with
  | starts _ _ hdown => exact hdown
  | launched | givesUp | abandons => cases hlocked
  | kills dies =>
      refine connected_eq_none.mpr fun chromium hbrowser hmem => ?_
      exact connected_eq_none.mp (hdown hlocked) chromium hbrowser (List.mem_of_mem_filter hmem)
  | enters | acquires | goes | driverReady | opened | closed | quits | strays | idles =>
      exact hdown hlocked

/-! ### Runs -/

structure Sound (maxConcurrent : Nat) (state : State) : Prop where
  total : state.slots.total Phase.inside = maxConcurrent
  lock : state.LockKept
  numbered : Numbered state
  apart : state.slots.Apart Phase.context
  keepsOpen : state.KeepsOpen
  launchesWhenDown : state.LaunchesWhenDown

theorem unused_initial (maxConcurrent : Nat) (eager : Bool) (context : BrowserContext) :
    ¬ (State.initial maxConcurrent eager).InUse context := by
  rintro ⟨phase, hmem, -⟩
  cases eager <;> cases hmem

theorem numbered_initial (maxConcurrent : Nat) (eager : Bool) :
    Numbered (State.initial maxConcurrent eager) := by
  cases eager with
  | false =>
      exact ⟨nofun, nofun, nofun, fun context huse => (unused_initial _ _ context huse).elim⟩
  | true =>
      refine ⟨fun chromium hmem => ?_, fun chromium hbrowser => ?_, nofun,
        fun context huse => (unused_initial _ _ context huse).elim⟩
      · rw [List.mem_singleton.mp hmem]
        exact Nat.lt_succ_self 1
      · cases hbrowser
        exact Nat.lt_succ_self 1

theorem sound_initial (maxConcurrent : Nat) (eager : Bool) :
    Sound maxConcurrent (State.initial maxConcurrent eager) where
  total := by cases eager <;> rfl
  lock := by cases eager <;> rfl
  numbered := numbered_initial maxConcurrent eager
  apart := by cases eager <;> exact Slots.apart_start maxConcurrent
  keepsOpen context huse := (unused_initial maxConcurrent eager context huse).elim
  launchesWhenDown := by cases eager <;> nofun

theorem Sound.step {maxConcurrent : Nat} (hsound : Sound maxConcurrent state)
    (hstep : step state action = some next) : Sound maxConcurrent next := by
  have h := step_effect hstep
  exact {
    total := h.total_eq.trans hsound.total
    lock := h.lockKept hsound.lock
    numbered := h.numbered hsound.numbered
    apart := h.apart hsound.numbered hsound.apart
    keepsOpen := h.keepsOpen hsound.numbered hsound.apart hsound.keepsOpen
    launchesWhenDown := h.launchesWhenDown hsound.launchesWhenDown }

theorem sound_run {maxConcurrent : Nat} {eager : Bool} {actions : List Action} {final : State}
    (hrun : run step (State.initial maxConcurrent eager) actions = some final) :
    Sound maxConcurrent final :=
  run_kept (fun _ _ _ h hstep => h.step hstep) (sound_initial maxConcurrent eager) hrun

theorem follows_run {later : State} {actions : List Action}
    (hrun : run step state actions = some later) : Follows state later :=
  run_kept (fun _ _ _ h hstep => h.step (step_effect hstep)) (Follows.refl state) hrun

/-- The slots of the semaphore are neither lost nor made, whatever raises. -/
theorem slots_conserved (maxConcurrent : Nat) (eager : Bool) (actions : List Action)
    (final : State) (hrun : run step (State.initial maxConcurrent eager) actions = some final) :
    final.slots.permits + final.slots.calls.countP Phase.inside = maxConcurrent ∧
      (final.slots.permits = maxConcurrent ↔
        ∀ phase ∈ final.slots.calls, phase.inside = false) := by
  have htotal := (sound_run hrun).total
  refine ⟨htotal, ?_⟩
  rw [← htotal]
  exact Slots.permits_eq_total_iff Phase.inside

def sampleCall : List Action :=
  [.enter, .complete 0, .complete 0, .complete 0, .complete 0, .complete 0]

def sampleState : State where
  slots := ⟨0, [.initScript ⟨2, ⟨1, 0⟩⟩]⟩
  locked := false
  pw := some 0
  browser := some ⟨1, 0⟩
  processes := [⟨1, 0⟩]
  contexts := [⟨2, ⟨1, 0⟩⟩]
  next := 3

theorem run_sampleCall : run step (State.initial 1 false) sampleCall = some sampleState := rfl

theorem slots_conserved_sample :
    sampleState.slots.permits + sampleState.slots.calls.countP Phase.inside = 1 :=
  (slots_conserved 1 false sampleCall sampleState run_sampleCall).1

/-- The action abandons a launch that has started a process all the same. -/
def abandonsLaunch (state : State) : Action → Bool
  | .raise i true =>
      match state.phase i with
      | some (.launch _) => true
      | _ => false
  | _ => false

structure OwnProcess (state : State) : Prop where
  own : ∀ chromium ∈ state.processes, state.browser = some chromium
  nodup : state.processes.Nodup

theorem OwnProcess.length_le (h : OwnProcess state) : state.processes.length ≤ 1 := by
  cases hprocesses : state.processes with
  | nil => exact Nat.zero_le 1
  | cons first rest =>
      have hmem : ∀ chromium ∈ first :: rest, chromium = first := by
        intro chromium hchromium
        have hother := h.own chromium (hprocesses ▸ hchromium)
        have hfirst := h.own first (hprocesses ▸ List.mem_cons_self)
        exact Option.some.inj (hother.symm.trans hfirst)
      have hsub : first :: rest ⊆ [first] := fun chromium hchromium =>
        List.mem_singleton.mpr (hmem chromium hchromium)
      exact ((hprocesses ▸ h.nodup).subperm hsub).length_le

theorem Effect.ownProcess (h : Effect state action next) (hlock : state.LockKept)
    (hdown : state.LaunchesWhenDown) (hguard : abandonsLaunch state action = false)
    (hown : OwnProcess state) : OwnProcess next := by
  cases h with
  | @launched _ driver hat =>
      -- the launching call holds the lock, so nothing was connected
      have hlocked : state.locked = true := by
        cases hfree : state.locked with
        | true => rfl
        | false =>
            have hnone : state.launching = 0 := by
              rw [hlock, hfree]
              rfl
            exact absurd rfl (List.countP_eq_zero.mp hnone _ (List.mem_of_getElem? hat))
      have hempty : state.processes = [] := by
        refine List.eq_nil_iff_forall_not_mem.mpr fun chromium hmem => ?_
        exact connected_eq_none.mp (hdown hlocked) chromium (hown.own chromium hmem) hmem
      refine ⟨fun chromium hmem => ?_, ?_⟩
      · have hmem : chromium ∈ (⟨state.next, driver⟩ : Chromium) :: state.processes := hmem
        rw [hempty] at hmem
        rw [List.mem_singleton.mp hmem]
      · have hnodup : ((⟨state.next, driver⟩ : Chromium) :: state.processes).Nodup := by
          rw [hempty]
          exact List.pairwise_singleton _ _
        exact hnodup
  | abandons hat =>
      simp only [abandonsLaunch, hat] at hguard
      cases hguard
  | kills dies =>
      exact ⟨fun chromium hmem => hown.own chromium (List.mem_of_mem_filter hmem),
        hown.nodup.filter _⟩
  | enters | acquires | goes | starts | driverReady | opened | closed | quits | strays
  | givesUp | idles => exact ⟨hown.own, hown.nodup⟩

theorem ownProcess_initial (maxConcurrent : Nat) (eager : Bool) :
    OwnProcess (State.initial maxConcurrent eager) := by
  cases eager with
  | false => exact ⟨nofun, .nil⟩
  | true =>
      refine ⟨fun chromium hmem => ?_, List.pairwise_singleton _ _⟩
      rw [List.mem_singleton.mp hmem]
      rfl

/-- At most one call launches, with no Chromium connected, and unless a launch is given up
after it has started a process there is never more than one. -/
theorem one_chromium (maxConcurrent : Nat) (eager : Bool) (actions : List Action) (final : State)
    (hrun : run step (State.initial maxConcurrent eager) actions = some final) :
    final.launching ≤ 1 ∧ (final.launching = 1 → final.connected = none) ∧
      (Along step (fun state action => abandonsLaunch state action = false)
          (State.initial maxConcurrent eager) actions →
        final.processes.length ≤ 1) := by
  have hsound := sound_run hrun
  have hlock : final.launching = if final.locked then 1 else 0 := hsound.lock
  refine ⟨?_, fun hone => ?_, fun halong => ?_⟩
  · rw [hlock]
    split <;> omega
  · refine hsound.launchesWhenDown ?_
    rw [hlock] at hone
    split at hone
    · assumption
    · cases hone
  · have hkeeps : ∀ state action next, Sound maxConcurrent state ∧ OwnProcess state →
        abandonsLaunch state action = false → step state action = some next →
        Sound maxConcurrent next ∧ OwnProcess next :=
      fun state action next ⟨hsound, hown⟩ hguard hstep => ⟨hsound.step hstep,
        (step_effect hstep).ownProcess hsound.lock hsound.launchesWhenDown hguard hown⟩
    exact (run_invariant hkeeps ⟨sound_initial maxConcurrent eager,
      ownProcess_initial maxConcurrent eager⟩ halong hrun).2.length_le

theorem one_chromium_sample : sampleState.launching ≤ 1 :=
  (one_chromium 1 false sampleCall sampleState run_sampleCall).1

/-- A context belongs to the one call it was opened for, at every later time too, and while
that call has it and its Chromium lives nobody closes it. -/
theorem contexts_isolated (maxConcurrent : Nat) (eager : Bool) (before after : List Action)
    (state later : State) (i j : Nat) (phase other : Phase) (context : BrowserContext)
    (hbefore : run step (State.initial maxConcurrent eager) before = some state)
    (hafter : run step state after = some later)
    (hat : state.phase i = some phase) (hcontext : phase.context = some context)
    (hother : later.phase j = some other) (hcontext' : other.context = some context) :
    i = j ∧ (context.chromium ∈ later.processes → context ∈ later.contexts) := by
  have hsound := sound_run hbefore
  have hlater : Sound maxConcurrent later :=
    run_kept (fun _ _ _ h hstep => h.step hstep) hsound hafter
  have hid := (hsound.numbered.inUse context ⟨phase, List.mem_of_getElem? hat, hcontext⟩).1
  obtain ⟨held, hheld, hown⟩ := (follows_run hafter).owned j other context hother hcontext' hid
  exact ⟨hsound.apart i j phase held context hat hheld hcontext hown,
    hlater.keepsOpen context ⟨other, List.mem_of_getElem? hother, hcontext'⟩⟩

def sampleBlock : State :=
  { sampleState with slots := ⟨0, [.inUse ⟨2, ⟨1, 0⟩⟩]⟩ }

theorem contexts_isolated_sample :
    (0 : Nat) = 0 ∧ (⟨1, 0⟩ ∈ sampleBlock.processes → ⟨2, ⟨1, 0⟩⟩ ∈ sampleBlock.contexts) :=
  contexts_isolated 1 false sampleCall [.complete 0] sampleState sampleBlock 0 0
    (.initScript ⟨2, ⟨1, 0⟩⟩) (.inUse ⟨2, ⟨1, 0⟩⟩) ⟨2, ⟨1, 0⟩⟩ run_sampleCall rfl rfl rfl rfl rfl

/-- The action raises where no `finally` closes the context. -/
def strands (state : State) : Action → Bool
  | .raise i applied => (state.phase i).any (Phase.strands applied)
  | _ => false

structure AllInUse (state : State) : Prop where
  inUse : ∀ context ∈ state.contexts, state.InUse context
  nodup : state.contexts.Nodup

theorem context_of_starting {phase : Phase} (h : phase.starting = true) :
    phase.context = none := by
  cases phase <;> first | rfl | cases h

theorem inside_of_context {phase : Phase} (h : phase.context.isSome = true) :
    phase.inside = true := by
  cases phase <;> first | rfl | cases h

theorem Effect.allInUse (h : Effect state action next) (hids : Numbered state)
    (hguard : strands state action = false) (hall : AllInUse state) : AllInUse next where
  inUse := by
    intro context hmem
    cases h with
    | enters => exact (Slots.owned_enter rfl).mpr (hall.inUse context hmem)
    | acquires hat hslots =>
        obtain ⟨-, rfl⟩ := Slots.acquire_eq_some hslots
        exact (hall.inUse context hmem).set hat rfl nofun
    | goes hat _ _ hsame =>
        exact (hall.inUse context hmem).set hat rfl fun hold => hsame.trans hold
    | starts hat | driverReady hat | launched hat | abandons hat =>
        exact (hall.inUse context hmem).set hat rfl nofun
    | opened hat =>
        rcases List.mem_cons.mp hmem with rfl | hold
        · have hi := (List.getElem?_eq_some_iff.mp hat).1
          exact ⟨_, List.mem_set hi _, rfl⟩
        · exact (hall.inUse context hold).set hat rfl nofun
    | closed hat =>
        obtain ⟨hold, hne⟩ := List.mem_filter.mp hmem
        refine (hall.inUse context hold).set hat rfl fun hclosing => ?_
        exact absurd (Option.some.inj hclosing).symm (of_decide_eq_true hne)
    | quits hat _ _ hstrands =>
        refine (hall.inUse context hmem).set hat rfl fun hold => ?_
        have hstranded := hstrands (Option.isSome_iff_exists.mpr ⟨context, hold⟩)
        simp only [strands, hat] at hguard
        exact absurd hstranded (Bool.eq_false_iff.mp hguard)
    | strays hat =>
        simp only [strands, hat] at hguard
        cases hguard
    | givesUp hat _ hstarting =>
        refine (hall.inUse context hmem).set hat rfl fun hold => ?_
        rw [context_of_starting hstarting] at hold
        cases hold
    | kills => exact hall.inUse context (List.mem_of_mem_filter hmem)
    | idles => exact hall.inUse context hmem
  nodup := by
    have hfresh : ∀ chromium, (⟨state.next, chromium⟩ :: state.contexts).Nodup := fun chromium =>
      List.nodup_cons.mpr ⟨fun hmem => Nat.lt_irrefl state.next (hids.contexts _ hmem), hall.nodup⟩
    cases h with
    | opened | strays => exact hfresh _
    | closed | kills => exact hall.nodup.filter _
    | enters | acquires | goes | starts | driverReady | launched | quits | givesUp | abandons
    | idles => exact hall.nodup

theorem allInUse_initial (maxConcurrent : Nat) (eager : Bool) :
    AllInUse (State.initial maxConcurrent eager) := by
  cases eager <;> exact ⟨nofun, .nil⟩

/-- When nothing raises where a context is left open, the open contexts are those of calls
inside, so never more than the limit, and none once every call has left. -/
theorem contexts_closed (maxConcurrent : Nat) (eager : Bool) (actions : List Action)
    (final : State) (hrun : run step (State.initial maxConcurrent eager) actions = some final)
    (halong : Along step (fun state action => strands state action = false)
      (State.initial maxConcurrent eager) actions) :
    (∀ context ∈ final.contexts, final.InUse context) ∧
      final.contexts.length ≤ final.slots.calls.countP Phase.inside ∧
      final.slots.calls.countP Phase.inside ≤ maxConcurrent ∧
      ((∀ phase ∈ final.slots.calls, phase.inside = false) → final.contexts = []) := by
  have hkeeps : ∀ state action next, Sound maxConcurrent state ∧ AllInUse state →
      strands state action = false → step state action = some next →
      Sound maxConcurrent next ∧ AllInUse next :=
    fun state action next ⟨hsound, hall⟩ hguard hstep =>
      ⟨hsound.step hstep, (step_effect hstep).allInUse hsound.numbered hguard hall⟩
  obtain ⟨hsound, hall⟩ := run_invariant hkeeps ⟨sound_initial maxConcurrent eager,
    allInUse_initial maxConcurrent eager⟩ halong hrun
  have hlength : final.contexts.length ≤ final.slots.calls.countP Phase.inside :=
    Slots.length_le_countP (fun phase _ => inside_of_context) hall.nodup hall.inUse
  have htotal : final.slots.permits + final.slots.calls.countP Phase.inside = maxConcurrent :=
    hsound.total
  refine ⟨hall.inUse, hlength, by omega, fun hleft => ?_⟩
  have hnone : final.slots.calls.countP Phase.inside = 0 :=
    List.countP_eq_zero.mpr fun phase hmem => Bool.eq_false_iff.mp (hleft phase hmem)
  rw [hnone] at hlength
  exact List.length_eq_zero_iff.mp (Nat.le_zero.mp hlength)

theorem contexts_closed_sample :
    sampleState.contexts.length ≤ sampleState.slots.calls.countP Phase.inside :=
  (contexts_closed 1 false sampleCall sampleState run_sampleCall
    (.cons rfl rfl (.cons rfl rfl (.cons rfl rfl (.cons rfl rfl (.cons rfl rfl
      (.cons rfl rfl trivial))))))).2.1

end CrawlerApi.Fetch.BrowserPool
