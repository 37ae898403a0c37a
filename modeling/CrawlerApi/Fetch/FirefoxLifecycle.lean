import CrawlerApi.Foundation.Run
import CrawlerApi.Foundation.Slots

/-!
# One Firefox per fetch

`CamoufoxFetcher.fetch` from the semaphore on: every call starts a Playwright driver, launches
a Firefox through it and tears both down in the two `finally` blocks of `_new_browser`.  Any
await may raise, with or without having had its effect, and processes may die at any time.
-/

namespace CrawlerApi.Fetch.FirefoxLifecycle

open Foundation

structure Firefox where
  id : Nat
  driver : Nat
deriving DecidableEq, Repr

/-- The await a call stands at; in `inUse` it is the block under `_new_browser` that runs. -/
inductive Phase where
  | slot
  | starting
  | launch (driver : Nat)
  | inUse (firefox : Firefox)
  | closing (firefox : Firefox)
  | stopping (driver : Nat)
  | left
deriving DecidableEq, Repr

namespace Phase

/-- Inside `async with sem`. -/
def inside : Phase → Bool
  | .slot | .left => false
  | _ => true

/-- The driver `_new_browser` will stop. -/
def ownDriver : Phase → Option Nat
  | .launch driver | .stopping driver => some driver
  | .inUse firefox | .closing firefox => some firefox.driver
  | .slot | .starting | .left => none

end Phase

structure State where
  slots : Slots Phase
  drivers : List Nat
  firefoxes : List Firefox
  next : Nat

namespace State

def phase (state : State) (i : Nat) : Option Phase := state.slots.calls[i]?

/-- `_get_semaphore()` at its first call. -/
def initial (maxConcurrent : Nat) : State where
  slots := Slots.start maxConcurrent
  drivers := []
  firefoxes := []
  next := 0

def go (state : State) (i : Nat) (phase : Phase) : State :=
  { state with slots := state.slots.go i phase }

def leave (state : State) (i : Nat) : State :=
  { state with slots := state.slots.release i .left }

def startDriver (state : State) : State :=
  { state with drivers := state.next :: state.drivers, next := state.next + 1 }

def launch (state : State) (driver : Nat) : State :=
  { state with
    firefoxes := ⟨state.next, driver⟩ :: state.firefoxes
    next := state.next + 1 }

def close (state : State) (firefox : Firefox) : State :=
  { state with firefoxes := state.firefoxes.filter (· ≠ firefox) }

def stop (state : State) (driver : Nat) : State :=
  { state with
    drivers := state.drivers.filter (· ≠ driver)
    firefoxes := state.firefoxes.filter (·.driver ≠ driver) }

/-- The await of call `i` completes. -/
def complete (state : State) (i : Nat) : Phase → Option State
  | .slot => (state.slots.acquire i .starting).map fun slots => { state with slots := slots }
  | .starting => some (state.startDriver.go i (.launch state.next))
  | .launch driver =>
      if driver ∈ state.drivers then
        some ((state.launch driver).go i (.inUse ⟨state.next, driver⟩))
      else none
  | .inUse firefox => some (state.go i (.closing firefox))
  | .closing firefox => some ((state.close firefox).go i (.stopping firefox.driver))
  | .stopping driver => some ((state.stop driver).leave i)
  | .left => none

/-- It raises; `applied` says whether what it awaited has happened all the same.  After the
driver is there, the `finally` blocks run. -/
def raise (state : State) (i : Nat) (applied : Bool) : Phase → Option State
  | .slot => some (state.go i .left)
  | .starting => some ((if applied then state.startDriver else state).leave i)
  | .launch driver =>
      let after := if applied ∧ driver ∈ state.drivers then state.launch driver else state
      some (after.go i (.stopping driver))
  | .inUse firefox => some (state.go i (.closing firefox))
  | .closing firefox =>
      let after := if applied then state.close firefox else state
      some (after.go i (.stopping firefox.driver))
  | .stopping driver => some ((if applied then state.stop driver else state).leave i)
  | .left => none

end State

inductive Action where
  | enter
  | complete (i : Nat)
  | raise (i : Nat) (applied : Bool)
  | crashFirefox (firefox : Firefox)
  | crashDriver (driver : Nat)
deriving DecidableEq, Repr

def step (state : State) : Action → Option State
  | .enter => some { state with slots := state.slots.enter .slot }
  | .complete i => (state.phase i).bind (state.complete i)
  | .raise i applied => (state.phase i).bind (state.raise i applied)
  | .crashFirefox firefox => some (state.close firefox)
  | .crashDriver driver => some (state.stop driver)

/-- The action leaves a driver running that no `finally` will stop. -/
def strands (state : State) : Action → Bool
  | .raise i applied =>
      match state.phase i with
      | some .starting => applied
      | some (.stopping _) => !applied
      | _ => false
  | _ => false

inductive Effect (state : State) : State → Prop where
  | enters : Effect state { state with slots := state.slots.enter .slot }
  | acquires {i : Nat} {slots : Slots Phase} (hat : state.phase i = some .slot)
      (h : state.slots.acquire i .starting = some slots) :
      Effect state { state with slots := slots }
  | goes {i : Nat} {old new : Phase} (hat : state.phase i = some old)
      (hinside : new.inside = old.inside) (hdriver : new.ownDriver = old.ownDriver)
      (hlaunch : ∀ driver, new ≠ .launch driver) : Effect state (state.go i new)
  | started {i : Nat} (hat : state.phase i = some .starting) :
      Effect state (state.startDriver.go i (.launch state.next))
  | launched {i driver : Nat} {new : Phase} (hat : state.phase i = some (.launch driver))
      (hlive : driver ∈ state.drivers) (hinside : new.inside = true)
      (hdriver : new.ownDriver = some driver) (hlaunch : ∀ driver, new ≠ .launch driver) :
      Effect state ((state.launch driver).go i new)
  | closed {i : Nat} {firefox : Firefox} (hat : state.phase i = some (.closing firefox)) :
      Effect state ((state.close firefox).go i (.stopping firefox.driver))
  | stopped {i driver : Nat} (hat : state.phase i = some (.stopping driver)) :
      Effect state ((state.stop driver).leave i)
  | givesUp {i : Nat} (hat : state.phase i = some .starting) : Effect state (state.leave i)
  | crashes (firefox : Firefox) : Effect state (state.close firefox)
  | crashesDriver (driver : Nat) : Effect state (state.stop driver)

theorem complete_effect {state next : State} {i : Nat} {phase : Phase}
    (hat : state.phase i = some phase) (h : state.complete i phase = some next) :
    Effect state next := by
  cases phase with
  | slot =>
      obtain ⟨slots, hslots, rfl⟩ := Option.map_eq_some_iff.mp h
      exact .acquires hat hslots
  | starting =>
      cases h
      exact .started hat
  | launch driver =>
      simp only [State.complete] at h
      split at h
      · cases h
        exact .launched hat ‹_› rfl rfl nofun
      · cases h
  | inUse firefox =>
      cases h
      exact .goes hat rfl rfl nofun
  | closing firefox =>
      cases h
      exact .closed hat
  | stopping driver =>
      cases h
      exact .stopped hat
  | left => cases h

theorem raise_effect {state next : State} {i : Nat} {applied : Bool} {phase : Phase}
    (hat : state.phase i = some phase) (hguard : strands state (.raise i applied) = false)
    (h : state.raise i applied phase = some next) : Effect state next := by
  cases phase with
  | slot =>
      cases h
      exact .goes hat rfl rfl nofun
  | starting =>
      simp only [strands, hat] at hguard
      subst hguard
      cases h
      exact .givesUp hat
  | launch driver =>
      simp only [State.raise] at h
      split at h
      · rename_i hlaunched
        cases h
        exact .launched hat hlaunched.2 rfl rfl nofun
      · cases h
        exact .goes hat rfl rfl nofun
  | inUse firefox =>
      cases h
      exact .goes hat rfl rfl nofun
  | closing firefox =>
      cases applied with
      | false =>
          cases h
          exact .goes hat rfl rfl nofun
      | true =>
          cases h
          exact .closed hat
  | stopping driver =>
      simp only [strands, hat] at hguard
      cases applied with
      | false => cases hguard
      | true =>
          cases h
          exact .stopped hat
  | left => cases h

theorem step_effect {state next : State} {action : Action}
    (hguard : strands state action = false) (h : step state action = some next) :
    Effect state next := by
  cases action with
  | enter =>
      cases h
      exact .enters
  | complete i =>
      obtain ⟨phase, hat, hnext⟩ := Option.bind_eq_some_iff.mp h
      exact complete_effect hat hnext
  | raise i applied =>
      obtain ⟨phase, hat, hnext⟩ := Option.bind_eq_some_iff.mp h
      exact raise_effect hat hguard hnext
  | crashFirefox firefox =>
      cases h
      exact .crashes firefox
  | crashDriver driver =>
      cases h
      exact .crashesDriver driver

def State.Owns (state : State) (driver : Nat) : Prop := state.slots.Owned Phase.ownDriver driver

structure Accounted (maxConcurrent : Nat) (state : State) : Prop where
  total : state.slots.total Phase.inside = maxConcurrent
  apart : state.slots.Apart Phase.ownDriver
  numbered : ∀ driver, state.Owns driver → driver < state.next
  drivers : ∀ driver ∈ state.drivers, state.Owns driver
  driversOnce : state.drivers.Nodup
  firefoxes : ∀ firefox ∈ state.firefoxes, firefox.driver ∈ state.drivers
  firefoxOnce : (state.firefoxes.map Firefox.driver).Nodup
  launching : ∀ i driver, state.phase i = some (.launch driver) →
    ∀ firefox ∈ state.firefoxes, firefox.driver ≠ driver

section Steps

variable {maxConcurrent : Nat} {state next : State}

theorem Effect.total_eq (h : Effect state next) :
    next.slots.total Phase.inside = state.slots.total Phase.inside := by
  cases h with
  | enters => exact Slots.total_enter Phase.inside rfl
  | acquires hat hslots => exact Slots.total_acquire Phase.inside hat rfl rfl hslots
  | goes hat hinside => exact Slots.total_go Phase.inside hat hinside
  | started hat | closed hat => exact Slots.total_go Phase.inside hat rfl
  | launched hat _ hinside => exact Slots.total_go Phase.inside hat hinside
  | stopped hat | givesUp hat => exact Slots.total_release Phase.inside hat rfl rfl
  | crashes | crashesDriver => rfl

theorem Effect.apart (h : Effect state next) (hsound : Accounted maxConcurrent state) :
    next.slots.Apart Phase.ownDriver := by
  have hapart := hsound.apart
  cases h with
  | enters => exact hapart.enter rfl
  | acquires hat hslots =>
      obtain ⟨-, rfl⟩ := Slots.acquire_eq_some hslots
      exact hapart.set hat rfl nofun
  | goes hat _ hdriver => exact hapart.set hat rfl fun driver hown => .inl (hdriver ▸ hown)
  | started hat =>
      refine hapart.set hat rfl fun driver hown => .inr fun howned => ?_
      cases hown
      exact Nat.lt_irrefl state.next (hsound.numbered state.next howned)
  | launched hat _ _ hdriver =>
      exact hapart.set hat rfl fun driver hown => .inl (hdriver.symm.trans hown)
  | closed hat => exact hapart.set hat rfl fun driver hown => .inl hown
  | stopped hat | givesUp hat => exact hapart.set hat rfl nofun
  | crashes | crashesDriver => exact hapart

theorem Effect.numbered (h : Effect state next) (hsound : Accounted maxConcurrent state)
    (driver : Nat) (howns : next.Owns driver) : driver < next.next := by
  have hold : ∀ {i : Nat} {old : Phase} (new : Phase), state.phase i = some old →
      (∀ other, new.ownDriver = some other → old.ownDriver = some other) →
      (⟨state.slots.permits, state.slots.calls.set i new⟩ : Slots Phase).Owned
        Phase.ownDriver driver → driver < state.next := by
    intro i old new hat hkeeps hset
    rcases Slots.owned_set rfl hset with hnew | hbefore
    · exact hsound.numbered driver ⟨old, List.mem_of_getElem? hat, hkeeps driver hnew⟩
    · exact hsound.numbered driver hbefore
  cases h with
  | enters => exact hsound.numbered driver ((Slots.owned_enter rfl).mp howns)
  | acquires hat hslots =>
      obtain ⟨-, rfl⟩ := Slots.acquire_eq_some hslots
      exact hold .starting hat nofun howns
  | goes hat _ hdriver => exact hold _ hat (fun other hown => hdriver ▸ hown) howns
  | started hat =>
      rcases Slots.owned_set rfl howns with hnew | hbefore
      · cases hnew
        exact Nat.lt_succ_self state.next
      · exact Nat.lt_succ_of_lt (hsound.numbered driver hbefore)
  | launched hat _ _ hdriver =>
      exact Nat.lt_succ_of_lt (hold _ hat (fun other hown => hdriver.symm.trans hown) howns)
  | closed hat => exact hold (.stopping _) hat (fun other hown => hown) howns
  | stopped hat | givesUp hat => exact hold .left hat nofun howns
  | crashes | crashesDriver => exact hsound.numbered driver howns

theorem Effect.drivers (h : Effect state next) (hsound : Accounted maxConcurrent state) :
    (∀ driver ∈ next.drivers, next.Owns driver) ∧ next.drivers.Nodup := by
  refine ⟨fun driver hmem => ?_, ?_⟩
  · cases h with
    | enters => exact (Slots.owned_enter rfl).mpr (hsound.drivers driver hmem)
    | acquires hat hslots =>
        obtain ⟨-, rfl⟩ := Slots.acquire_eq_some hslots
        exact (hsound.drivers driver hmem).set hat rfl nofun
    | goes hat _ hdriver =>
        exact (hsound.drivers driver hmem).set hat rfl fun hown => hdriver.trans hown
    | started hat =>
        rcases List.mem_cons.mp hmem with rfl | hold
        · exact ⟨_, List.mem_set (List.getElem?_eq_some_iff.mp hat).1 _, rfl⟩
        · exact (hsound.drivers driver hold).set hat rfl nofun
    | launched hat _ _ hdriver =>
        exact (hsound.drivers driver hmem).set hat rfl fun hown => hdriver.trans hown
    | closed hat => exact (hsound.drivers driver hmem).set hat rfl fun hown => hown
    | stopped hat =>
        obtain ⟨hold, hne⟩ := List.mem_filter.mp hmem
        refine (hsound.drivers driver hold).set hat rfl fun hown => ?_
        exact absurd (Option.some.inj hown).symm (of_decide_eq_true hne)
    | givesUp hat => exact (hsound.drivers driver hmem).set hat rfl nofun
    | crashes => exact hsound.drivers driver hmem
    | crashesDriver => exact hsound.drivers driver (List.mem_of_mem_filter hmem)
  · cases h with
    | started =>
        refine List.nodup_cons.mpr ⟨fun hmem => ?_, hsound.driversOnce⟩
        exact Nat.lt_irrefl state.next (hsound.numbered _ (hsound.drivers _ hmem))
    | stopped | crashesDriver => exact hsound.driversOnce.filter _
    | enters | acquires | goes | launched | closed | givesUp | crashes =>
        exact hsound.driversOnce

theorem Effect.firefoxes (h : Effect state next) (hsound : Accounted maxConcurrent state) :
    (∀ firefox ∈ next.firefoxes, firefox.driver ∈ next.drivers) ∧
      (next.firefoxes.map Firefox.driver).Nodup := by
  have hfiltered : ∀ p : Firefox → Bool,
      ((state.firefoxes.filter p).map Firefox.driver).Nodup := fun p =>
    hsound.firefoxOnce.sublist (List.filter_sublist.map Firefox.driver)
  refine ⟨fun firefox hmem => ?_, ?_⟩
  · cases h with
    | started => exact List.mem_cons_of_mem _ (hsound.firefoxes firefox hmem)
    | launched _ hlive =>
        rcases List.mem_cons.mp hmem with rfl | hold
        · exact hlive
        · exact hsound.firefoxes firefox hold
    | closed | crashes => exact hsound.firefoxes firefox (List.mem_of_mem_filter hmem)
    | stopped | crashesDriver =>
        obtain ⟨hold, hne⟩ := List.mem_filter.mp hmem
        exact List.mem_filter.mpr ⟨hsound.firefoxes firefox hold, hne⟩
    | enters | acquires | goes | givesUp => exact hsound.firefoxes firefox hmem
  · cases h with
    | @launched i driver _ hat =>
        refine List.nodup_cons.mpr ⟨fun hmem => ?_, hsound.firefoxOnce⟩
        obtain ⟨firefox, hfirefox, hdriver⟩ := List.mem_map.mp hmem
        exact hsound.launching i driver hat firefox hfirefox hdriver
    | closed | stopped | crashes | crashesDriver => exact hfiltered _
    | enters | acquires | goes | started | givesUp => exact hsound.firefoxOnce

theorem Effect.launching (h : Effect state next) (hsound : Accounted maxConcurrent state)
    (i driver : Nat) (hlaunch : next.phase i = some (.launch driver)) :
    ∀ firefox ∈ next.firefoxes, firefox.driver ≠ driver := by
  have hkept : ∀ {j : Nat} {new : Phase}, (state.slots.calls.set j new)[i]? =
      some (.launch driver) → (∀ other, new ≠ .launch other) →
      ∀ firefox ∈ state.firefoxes, firefox.driver ≠ driver := by
    intro j new hset hnew
    rcases Slots.getElem?_set_cases hset with ⟨-, hphase⟩ | hbefore
    · exact absurd hphase.symm (hnew driver)
    · exact hsound.launching i driver hbefore
  cases h with
  | enters =>
      refine hsound.launching i driver ?_
      have hat : (state.slots.calls ++ [Phase.slot])[i]? = some (.launch driver) := hlaunch
      rw [List.getElem?_append] at hat
      split at hat
      · exact hat
      · cases List.mem_singleton.mp (List.mem_of_getElem? hat)
  | acquires hat hslots =>
      obtain ⟨-, rfl⟩ := Slots.acquire_eq_some hslots
      exact hkept hlaunch nofun
  | goes hat _ _ hnew => exact hkept hlaunch hnew
  | started hat =>
      rcases Slots.getElem?_set_cases hlaunch with ⟨-, hphase⟩ | hbefore
      · -- the driver is new, and no Firefox came from it
        cases hphase
        intro firefox hmem heq
        have howned := hsound.drivers _ (hsound.firefoxes firefox hmem)
        exact Nat.lt_irrefl state.next (heq ▸ hsound.numbered _ howned)
      · exact hsound.launching i driver hbefore
  | @launched j other new hat hlive _ hdriver hnew =>
      intro firefox hmem
      rcases List.mem_cons.mp hmem with rfl | hold
      · rintro rfl
        rcases Slots.getElem?_set_cases hlaunch with ⟨-, hphase⟩ | hbefore
        · exact hnew other hphase.symm
        · have hij : j = i := hsound.apart j i _ _ other hat hbefore rfl rfl
          subst hij
          have hj : j < state.slots.calls.length := (List.getElem?_eq_some_iff.mp hat).1
          have hthere : (state.slots.calls.set j new)[j]? = some (.launch other) := hlaunch
          rw [List.getElem?_set_self hj] at hthere
          exact hnew other (Option.some.inj hthere)
      · exact hkept hlaunch hnew firefox hold
  | closed hat =>
      exact fun firefox hmem => hkept hlaunch nofun firefox (List.mem_of_mem_filter hmem)
  | stopped hat =>
      exact fun firefox hmem => hkept hlaunch nofun firefox (List.mem_of_mem_filter hmem)
  | givesUp hat => exact hkept hlaunch nofun
  | crashes | crashesDriver =>
      exact fun firefox hmem =>
        hsound.launching i driver hlaunch firefox (List.mem_of_mem_filter hmem)

theorem Accounted.step (hsound : Accounted maxConcurrent state) (h : Effect state next) :
    Accounted maxConcurrent next where
  total := h.total_eq.trans hsound.total
  apart := h.apart hsound
  numbered := h.numbered hsound
  drivers := (h.drivers hsound).1
  driversOnce := (h.drivers hsound).2
  firefoxes := (h.firefoxes hsound).1
  firefoxOnce := (h.firefoxes hsound).2
  launching := h.launching hsound

end Steps

theorem accounted_initial (maxConcurrent : Nat) :
    Accounted maxConcurrent (State.initial maxConcurrent) where
  total := rfl
  apart := Slots.apart_start maxConcurrent
  numbered := by
    rintro driver ⟨phase, hmem, -⟩
    cases hmem
  drivers := nofun
  driversOnce := .nil
  firefoxes := nofun
  firefoxOnce := .nil
  launching := nofun

theorem inside_of_ownDriver {phase : Phase} (h : phase.ownDriver.isSome = true) :
    phase.inside = true := by
  cases phase <;> first | rfl | cases h

/-- In every run whose driver starts and stops are not cut short, at most as many drivers and
Firefox processes run as calls are inside the semaphore, never more than its limit, and none
once every call has left. -/
theorem firefoxes_bounded (maxConcurrent : Nat) (actions : List Action) (final : State)
    (hrun : run step (State.initial maxConcurrent) actions = some final)
    (halong : Along step (fun state action => strands state action = false)
      (State.initial maxConcurrent) actions) :
    final.firefoxes.length ≤ final.drivers.length ∧
      final.drivers.length ≤ final.slots.calls.countP Phase.inside ∧
      final.slots.permits + final.slots.calls.countP Phase.inside = maxConcurrent ∧
      ((∀ phase ∈ final.slots.calls, phase.inside = false) →
        final.firefoxes = [] ∧ final.drivers = [] ∧ final.slots.permits = maxConcurrent) := by
  have hkeeps : ∀ state action next, Accounted maxConcurrent state →
      strands state action = false → step state action = some next →
      Accounted maxConcurrent next :=
    fun state action next hsound hguard hstep => hsound.step (step_effect hguard hstep)
  have hsound := run_invariant hkeeps (accounted_initial maxConcurrent) halong hrun
  have hfirefoxes : final.firefoxes.length ≤ final.drivers.length := by
    have hsub : final.firefoxes.map Firefox.driver ⊆ final.drivers := by
      intro driver hmem
      obtain ⟨firefox, hfirefox, rfl⟩ := List.mem_map.mp hmem
      exact hsound.firefoxes firefox hfirefox
    have hle := (hsound.firefoxOnce.subperm hsub).length_le
    rwa [List.length_map] at hle
  have hdrivers : final.drivers.length ≤ final.slots.calls.countP Phase.inside :=
    Slots.length_le_countP (fun phase _ => inside_of_ownDriver) hsound.driversOnce hsound.drivers
  have htotal : final.slots.permits + final.slots.calls.countP Phase.inside = maxConcurrent :=
    hsound.total
  refine ⟨hfirefoxes, hdrivers, htotal, fun hleft => ?_⟩
  have hnone : final.slots.calls.countP Phase.inside = 0 :=
    List.countP_eq_zero.mpr fun phase hmem => Bool.eq_false_iff.mp (hleft phase hmem)
  exact ⟨List.length_eq_zero_iff.mp (by omega), List.length_eq_zero_iff.mp (by omega), by omega⟩

def failedLaunch : List Action :=
  [.enter, .complete 0, .complete 0, .raise 0 true, .complete 0]

def tornDown : State where
  slots := ⟨2, [.left]⟩
  drivers := []
  firefoxes := []
  next := 2

theorem firefoxes_bounded_failedLaunch : tornDown.firefoxes.length ≤ tornDown.drivers.length :=
  (firefoxes_bounded 2 failedLaunch tornDown rfl
    (.cons rfl rfl (.cons rfl rfl (.cons rfl rfl (.cons rfl rfl (.cons rfl rfl trivial)))))).1

end CrawlerApi.Fetch.FirefoxLifecycle
