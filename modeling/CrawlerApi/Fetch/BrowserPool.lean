import CrawlerApi.Foundation.Run
import CrawlerApi.Foundation.Slots

/-!
# The browser pool

`BrowserPool.context` of any number of calls, await by await.  One Chromium serves them all;
the semaphore bounds the calls inside and the lock keeps two of them from launching at once.
Any await may raise, with or without having had its effect, Chromium may die at any time, and
the worker's `stop` may come in between.
-/

namespace CrawlerApi.Fetch.BrowserPool

open Foundation

structure Chromium where
  id : Nat
  driver : Nat
deriving DecidableEq, Repr

structure BrowserContext where
  id : Nat
  chromium : Chromium
deriving DecidableEq, Repr

/-- The await of `context()` a call stands at; in `inUse` it is the caller's block that runs. -/
inductive Phase where
  | slot
  | lock
  | driver
  | launch (driver : Nat)
  | newContext (chromium : Chromium)
  | initScript (context : BrowserContext)
  | inUse (context : BrowserContext)
  | closing (context : BrowserContext)
  | left
deriving DecidableEq, Repr

namespace Phase

/-- Inside `async with self._sem`. -/
def inside : Phase → Bool
  | .slot | .left => false
  | _ => true

/-- Inside `async with self._lock`. -/
def starting : Phase → Bool
  | .driver | .launch _ => true
  | _ => false

def context : Phase → Option BrowserContext
  | .initScript context | .inUse context | .closing context => some context
  | _ => none

/-- Raising here leaves a context open that no call has. -/
def strands (applied : Bool) : Phase → Bool
  | .newContext _ => applied
  | .initScript _ => true
  | .closing _ => !applied
  | _ => false

end Phase

/-- `_sem` with its calls, `_lock`, `_pw` and `_browser`; then what runs outside Python: the
Chromium processes that are connected and the contexts open in them. -/
structure State where
  slots : Slots Phase
  locked : Bool
  pw : Option Nat
  browser : Option Chromium
  processes : List Chromium
  contexts : List BrowserContext
  next : Nat

namespace State

def phase (state : State) (i : Nat) : Option Phase := state.slots.calls[i]?

/-- `BrowserPool(max_concurrent)`. -/
def created (maxConcurrent : Nat) : State where
  slots := Slots.start maxConcurrent
  locked := false
  pw := none
  browser := none
  processes := []
  contexts := []
  next := 0

/-- The pool as it is built, or once the worker's `startup` has called `start()`. -/
def initial (maxConcurrent : Nat) : Bool → State
  | false => created maxConcurrent
  | true => { created maxConcurrent with
      pw := some 0
      browser := some ⟨1, 0⟩
      processes := [⟨1, 0⟩]
      next := 2 }

/-- `self._browser` when it is there and connected. -/
def connected (state : State) : Option Chromium :=
  state.browser.filter (· ∈ state.processes)

def go (state : State) (i : Nat) (phase : Phase) : State :=
  { state with slots := state.slots.go i phase }

def leave (state : State) (i : Nat) : State :=
  { state with slots := state.slots.release i .left }

def spawn (state : State) (driver : Nat) : State :=
  { state with
    processes := ⟨state.next, driver⟩ :: state.processes
    next := state.next + 1 }

def openContext (state : State) (chromium : Chromium) : State :=
  { state with
    contexts := ⟨state.next, chromium⟩ :: state.contexts
    next := state.next + 1 }

def closeContext (state : State) (context : BrowserContext) : State :=
  { state with contexts := state.contexts.filter (· ≠ context) }

def kill (state : State) (dies : Chromium → Bool) : State :=
  { state with
    processes := state.processes.filter fun chromium => !dies chromium
    contexts := state.contexts.filter fun context => !dies context.chromium }

/-- The await of call `i` completes. -/
def complete (state : State) (i : Nat) : Phase → Option State
  | .slot => (state.slots.acquire i .lock).map fun slots => { state with slots := slots }
  | .lock =>
      if state.locked then none
      else match state.connected with
        | some chromium => some (state.go i (.newContext chromium))
        | none => some { state.go i .driver with locked := true }
  | .driver => some { state.go i (.launch state.next) with
      pw := some state.next
      next := state.next + 1 }
  | .launch driver => some { (state.spawn driver).go i (.newContext ⟨state.next, driver⟩) with
      locked := false
      browser := some ⟨state.next, driver⟩ }
  | .newContext chromium =>
      if chromium ∈ state.processes then
        some ((state.openContext chromium).go i (.initScript ⟨state.next, chromium⟩))
      else none
  | .initScript context => some (state.go i (.inUse context))
  | .inUse context => some (state.go i (.closing context))
  | .closing context => some ((state.closeContext context).leave i)
  | .left => none

/-- It raises; `applied` says whether what it awaited has happened all the same.  Only the
caller's block has a `finally` of its own. -/
def raise (state : State) (i : Nat) (applied : Bool) : Phase → Option State
  | .slot => some (state.go i .left)
  | .lock => some (state.leave i)
  | .driver => some { state.leave i with locked := false }
  | .launch driver =>
      let after := if applied then state.spawn driver else state
      some { after.leave i with locked := false }
  | .newContext chromium =>
      let after := if applied ∧ chromium ∈ state.processes then state.openContext chromium
        else state
      some (after.leave i)
  | .initScript _ => some (state.leave i)
  | .inUse context => some (state.go i (.closing context))
  | .closing context =>
      let after := if applied then state.closeContext context else state
      some (after.leave i)
  | .left => none

end State

/-- `closeBrowser` and `stopDriver` are the two awaits of `stop()`. -/
inductive Action where
  | enter
  | complete (i : Nat)
  | raise (i : Nat) (applied : Bool)
  | noExecutable (i : Nat)
  | crash (chromium : Chromium)
  | closeBrowser
  | stopDriver
deriving DecidableEq, Repr

def step (state : State) : Action → Option State
  | .enter => some { state with slots := state.slots.enter .slot }
  | .complete i => (state.phase i).bind (state.complete i)
  | .raise i applied => (state.phase i).bind (state.raise i applied)
  | .noExecutable i =>
      -- `start` has the driver when it finds no file at `executable_path`
      if state.phase i = some .driver then
        some { state.leave i with locked := false, pw := some state.next, next := state.next + 1 }
      else none
  | .crash chromium => some (state.kill (· = chromium))
  | .closeBrowser =>
      match state.browser with
      | some chromium => some (state.kill (· = chromium))
      | none => some state
  | .stopDriver =>
      match state.pw with
      | some driver => some (state.kill (·.driver = driver))
      | none => some state

inductive Effect (state : State) : Action → State → Prop where
  | enters : Effect state .enter { state with slots := state.slots.enter .slot }
  | acquires {i : Nat} {slots : Slots Phase} (hat : state.phase i = some .slot)
      (h : state.slots.acquire i .lock = some slots) :
      Effect state (.complete i) { state with slots := slots }
  | goes {action : Action} {i : Nat} {old new : Phase} (hat : state.phase i = some old)
      (hinside : new.inside = old.inside) (hstarting : new.starting = old.starting)
      (hcontext : new.context = old.context) : Effect state action (state.go i new)
  | starts {i : Nat} (hat : state.phase i = some .lock) (hfree : state.locked = false)
      (hdown : state.connected = none) :
      Effect state (.complete i) { state.go i .driver with locked := true }
  | driverReady {i : Nat} (hat : state.phase i = some .driver) :
      Effect state (.complete i) { state.go i (.launch state.next) with
        pw := some state.next
        next := state.next + 1 }
  | launched {i driver : Nat} (hat : state.phase i = some (.launch driver)) :
      Effect state (.complete i) { (state.spawn driver).go i (.newContext ⟨state.next, driver⟩) with
        locked := false
        browser := some ⟨state.next, driver⟩ }
  | opened {i : Nat} {chromium : Chromium} (hat : state.phase i = some (.newContext chromium))
      (hlive : chromium ∈ state.processes) :
      Effect state (.complete i)
        ((state.openContext chromium).go i (.initScript ⟨state.next, chromium⟩))
  | closed {action : Action} {i : Nat} {context : BrowserContext}
      (hat : state.phase i = some (.closing context)) :
      Effect state action ((state.closeContext context).leave i)
  | quits {i : Nat} {applied : Bool} {old : Phase} (hat : state.phase i = some old)
      (hinside : old.inside = true) (hstarting : old.starting = false)
      (hcontext : old.context.isSome = true → old.strands applied = true) :
      Effect state (.raise i applied) (state.leave i)
  | strays {i : Nat} {chromium : Chromium} (hat : state.phase i = some (.newContext chromium))
      (hlive : chromium ∈ state.processes) :
      Effect state (.raise i true) ((state.openContext chromium).leave i)
  | givesUp {action : Action} {i next : Nat} {old : Phase} {pw : Option Nat}
      (hat : state.phase i = some old) (hinside : old.inside = true)
      (hstarting : old.starting = true) (hnext : state.next ≤ next) :
      Effect state action { state.leave i with locked := false, pw := pw, next := next }
  | abandons {i driver : Nat} (hat : state.phase i = some (.launch driver)) :
      Effect state (.raise i true) { (state.spawn driver).leave i with locked := false }
  | kills {action : Action} (dies : Chromium → Bool) : Effect state action (state.kill dies)
  | idles {action : Action} : Effect state action state

theorem complete_effect {state next : State} {i : Nat} {phase : Phase}
    (hat : state.phase i = some phase) (h : state.complete i phase = some next) :
    Effect state (.complete i) next := by
  cases phase with
  | slot =>
      obtain ⟨slots, hslots, rfl⟩ := Option.map_eq_some_iff.mp h
      exact .acquires hat hslots
  | lock =>
      simp only [State.complete] at h
      split at h
      · cases h
      · rename_i hfree
        split at h
        · cases h
          exact .goes hat rfl rfl rfl
        · cases h
          exact .starts hat (Bool.eq_false_iff.mpr hfree) ‹_›
  | driver =>
      cases h
      exact .driverReady hat
  | launch driver =>
      cases h
      exact .launched hat
  | newContext chromium =>
      simp only [State.complete] at h
      split at h
      · cases h
        exact .opened hat ‹_›
      · cases h
  | initScript context =>
      cases h
      exact .goes hat rfl rfl rfl
  | inUse context =>
      cases h
      exact .goes hat rfl rfl rfl
  | closing context =>
      cases h
      exact .closed hat
  | left => cases h

theorem raise_effect {state next : State} {i : Nat} {applied : Bool} {phase : Phase}
    (hat : state.phase i = some phase) (h : state.raise i applied phase = some next) :
    Effect state (.raise i applied) next := by
  cases phase with
  | slot =>
      cases h
      exact .goes hat rfl rfl rfl
  | lock =>
      cases h
      exact .quits hat rfl rfl (fun h => h)
  | driver =>
      cases h
      exact .givesUp hat rfl rfl (Nat.le_refl state.next)
  | launch driver =>
      cases applied with
      | false =>
          cases h
          exact .givesUp hat rfl rfl (Nat.le_refl state.next)
      | true =>
          cases h
          exact .abandons hat
  | newContext chromium =>
      simp only [State.raise] at h
      split at h
      · rename_i hopened
        obtain ⟨rfl, hlive⟩ := hopened
        cases h
        exact .strays hat hlive
      · cases h
        exact .quits hat rfl rfl nofun
  | initScript context =>
      cases h
      exact .quits hat rfl rfl (fun h => h)
  | inUse context =>
      cases h
      exact .goes hat rfl rfl rfl
  | closing context =>
      cases applied with
      | false =>
          cases h
          exact .quits hat rfl rfl (fun h => h)
      | true =>
          cases h
          exact .closed hat
  | left => cases h

theorem step_effect {state next : State} {action : Action} (h : step state action = some next) :
    Effect state action next := by
  cases action with
  | enter =>
      cases h
      exact .enters
  | complete i =>
      obtain ⟨phase, hat, hnext⟩ := Option.bind_eq_some_iff.mp h
      exact complete_effect hat hnext
  | raise i applied =>
      obtain ⟨phase, hat, hnext⟩ := Option.bind_eq_some_iff.mp h
      exact raise_effect hat hnext
  | noExecutable i =>
      simp only [step] at h
      split at h
      · cases h
        exact .givesUp ‹_› rfl rfl (Nat.le_succ state.next)
      · cases h
  | crash chromium =>
      cases h
      exact .kills (· = chromium)
  | closeBrowser =>
      simp only [step] at h
      split at h
      · cases h
        exact .kills _
      · cases h
        exact .idles
  | stopDriver =>
      simp only [step] at h
      split at h
      · cases h
        exact .kills _
      · cases h
        exact .idles

end CrawlerApi.Fetch.BrowserPool
