import CrawlerApi.Foundation.RowLock
import CrawlerApi.Foundation.Run
import CrawlerApi.Proxies.Table

/-!
# Health reports on one proxy

`record_success` is one statement, `record_failure` a `SELECT`, a computation and an
`UPDATE`.  A version of the row carries the reports it reflects, latest first; they
steer nothing.
-/

namespace CrawlerApi.Proxies

open Foundation Keys

def healthDecay : Rat := 15 / 100
def healthRecover : Rat := 5 / 100
def cooldownBaseS : Nat := 60
def cooldownMaxS : Nat := 3600

/-- SQL's `LEAST` and `GREATEST` of two numbers. -/
def least (left right : Rat) : Rat := if left ≤ right then left else right
def greatest (left right : Rat) : Rat := if left ≤ right then right else left

/-- `min(COOLDOWN_BASE_S * 2 ** (failures - 1), COOLDOWN_MAX_S)`. -/
def cooldownS (failures : Nat) : Nat :=
  if cooldownBaseS * Nat.pow 2 (failures - 1) ≤ cooldownMaxS then
    cooldownBaseS * Nat.pow 2 (failures - 1)
  else cooldownMaxS

def seconds (count : Nat) : Moment := count * 1000000

/-- The `UPDATE` of `record_success`. -/
def recordSuccess (proxy : Proxy) : Proxy :=
  { proxy with
    healthScore := least (proxy.healthScore + healthRecover) 1
    consecutiveFailures := 0
    cooldownUntil := none
    totalRequests := proxy.totalRequests + 1 }

/-- The `UPDATE` of `record_failure`. -/
def recordFailure (failures : Nat) (cooldownUntil : Moment) (proxy : Proxy) : Proxy :=
  { proxy with
    healthScore := greatest (proxy.healthScore - healthDecay) 0
    consecutiveFailures := failures
    cooldownUntil := some cooldownUntil
    totalErrors := proxy.totalErrors + 1
    totalRequests := proxy.totalRequests + 1 }

/-- What a write did to the row; a failure with the clock it read and its cooldown. -/
inductive Effect where
  | success
  | reset
  | failure (time : Moment) (cooldown : Nat)
deriving DecidableEq

def Effect.isFailure : Effect → Bool
  | .failure .. => true
  | .success | .reset => false

structure Version where
  proxy : Proxy
  history : List Effect := []
deriving DecidableEq

abbrev Session := Nat

/-- How far a session is with `record_failure`. -/
inductive Phase where
  | idle
  | selected (seen : Version)
  | computed (seen : Version) (time : Moment)
  | recorded (cooldownUntil : Moment)
deriving DecidableEq

structure Reports where
  row : RowLock Session Version
  phase : Session → Phase
  now : Moment

inductive Action where
  | tick (elapsed : Nat)
  | success (session : Session)
  | select (session : Session)
  | compute (session : Session)
  | update (session : Session)
  | respond (session : Session)
  | commit (session : Session)
  | rollback (session : Session)
deriving DecidableEq

namespace Reports

def start (proxy : Proxy) (now : Moment) : Reports where
  row := ⟨⟨proxy, []⟩, none⟩
  phase := fun _ => .idle
  now := now

def succeeded (version : Version) : Version :=
  ⟨recordSuccess version.proxy, .success :: version.history⟩

/-- The failures `record_failure` goes on to write after the row it has seen. -/
def newFailures (seen : Version) : Nat := seen.proxy.consecutiveFailures + 1

def cooldownUntil (seen : Version) (time : Moment) : Moment :=
  time + seconds (cooldownS (newFailures seen))

def failed (seen : Version) (time : Moment) (version : Version) : Version :=
  ⟨recordFailure (newFailures seen) (cooldownUntil seen time) version.proxy,
    .failure time (cooldownS (newFailures seen)) :: version.history⟩

def setPhase (state : Reports) (session : Session) (phase : Phase) : Reports :=
  { state with phase := Function.update state.phase session phase }

def step (state : Reports) : Action → Option Reports
  | .tick elapsed => some { state with now := state.now + elapsed }
  | .success session =>
      if state.phase session = .idle then
        (state.row.update session succeeded).map fun row => { state with row := row }
      else none
  | .select session =>
      if state.phase session = .idle then
        some (state.setPhase session (.selected (state.row.visible session)))
      else none
  | .compute session =>
      match state.phase session with
      | .selected seen => some (state.setPhase session (.computed seen state.now))
      | _ => none
  | .update session =>
      match state.phase session with
      | .computed seen time =>
          (state.row.update session (failed seen time)).map fun row =>
            { state with row := row }.setPhase session (.recorded (cooldownUntil seen time))
      | _ => none
  | .respond session =>
      match state.phase session with
      | .recorded _ => some (state.setPhase session .idle)
      | _ => none
  | .commit session =>
      if state.phase session = .idle then some { state with row := state.row.commit session }
      else none
  | .rollback session =>
      some ({ state with row := state.row.rollback session }.setPhase session .idle)

inductive Stepped (state : Reports) : Action → Reports → Prop where
  | tick (elapsed : Nat) : Stepped state (.tick elapsed) { state with now := state.now + elapsed }
  | success {session : Session} {row : RowLock Session Version} :
      state.phase session = .idle → state.row.update session succeeded = some row →
      Stepped state (.success session) { state with row := row }
  | select {session : Session} : state.phase session = .idle →
      Stepped state (.select session)
        (state.setPhase session (.selected (state.row.visible session)))
  | compute {session : Session} {seen : Version} : state.phase session = .selected seen →
      Stepped state (.compute session) (state.setPhase session (.computed seen state.now))
  | update {session : Session} {seen : Version} {time : Moment}
      {row : RowLock Session Version} : state.phase session = .computed seen time →
      state.row.update session (failed seen time) = some row →
      Stepped state (.update session)
        ({ state with row := row }.setPhase session (.recorded (cooldownUntil seen time)))
  | respond {session : Session} {cooldownUntil : Moment} :
      state.phase session = .recorded cooldownUntil →
      Stepped state (.respond session) (state.setPhase session .idle)
  | commit {session : Session} : state.phase session = .idle →
      Stepped state (.commit session) { state with row := state.row.commit session }
  | rollback (session : Session) : Stepped state (.rollback session)
      ({ state with row := state.row.rollback session }.setPhase session .idle)

theorem stepped {state next : Reports} {action : Action} (h : state.step action = some next) :
    Stepped state action next := by
  cases action with
  | tick elapsed =>
      cases h
      exact .tick elapsed
  | success session =>
      dsimp only [step] at h
      split at h
      · rename_i hidle
        obtain ⟨row, hrow, rfl⟩ := Option.map_eq_some_iff.mp h
        exact .success hidle hrow
      · cases h
  | select session =>
      dsimp only [step] at h
      split at h
      · rename_i hidle
        cases h
        exact .select hidle
      · cases h
  | compute session =>
      dsimp only [step] at h
      split at h
      · rename_i seen hphase
        cases h
        exact .compute hphase
      · cases h
  | update session =>
      dsimp only [step] at h
      split at h
      · rename_i seen time hphase
        obtain ⟨row, hrow, rfl⟩ := Option.map_eq_some_iff.mp h
        exact .update hphase hrow
      · cases h
  | respond session =>
      dsimp only [step] at h
      split at h
      · rename_i moment hphase
        cases h
        exact .respond hphase
      · cases h
  | commit session =>
      dsimp only [step] at h
      split at h
      · rename_i hidle
        cases h
        exact .commit hidle
      · cases h
  | rollback session =>
      cases h
      exact .rollback session

end Reports

def recent (history : List Effect) : List Effect := history.takeWhile Effect.isFailure

def failuresSince (initial : Nat) (history : List Effect) : Nat :=
  (recent history).length + if history.all Effect.isFailure then initial else 0

@[simp] theorem failuresSince_success (initial : Nat) (history : List Effect) :
    failuresSince initial (.success :: history) = 0 := rfl

@[simp] theorem failuresSince_failure (initial : Nat) (history : List Effect) (time : Moment)
    (cooldown : Nat) : failuresSince initial (.failure time cooldown :: history) =
      failuresSince initial history + 1 := by
  have hrecent : recent (.failure time cooldown :: history) =
      .failure time cooldown :: recent history := rfl
  rw [failuresSince, failuresSince, hrecent, List.length_cons, List.all_cons]
  simp only [Effect.isFailure, Bool.true_and]
  omega

/-- The row counts the failures it reflects, and the last failure set its cooldown by
that count. -/
structure Exact (initial : Nat) (version : Version) : Prop where
  counter : version.proxy.consecutiveFailures = failuresSince initial version.history
  cooldown : ∀ time cooldown rest, version.history = .failure time cooldown :: rest →
    cooldown = cooldownS (failuresSince initial version.history) ∧
      version.proxy.cooldownUntil = some (time + seconds cooldown)

/-- The `UPDATE` of a failure finds the count its `SELECT` read. -/
def FreshCount (state : Reports) : Action → Prop
  | .update session => ∀ seen time, state.phase session = .computed seen time →
      seen.proxy.consecutiveFailures = state.row.latest.proxy.consecutiveFailures
  | _ => True

section Exactness

variable {initial : Nat} {version seen : Version} {time : Moment} {state next : Reports}
  {action : Action} {session : Session}

theorem exact_succeeded : Exact initial (Reports.succeeded version) where
  counter := rfl
  cooldown _ _ _ h := by cases h

theorem exact_failed (h : Exact initial version)
    (hfresh : seen.proxy.consecutiveFailures = version.proxy.consecutiveFailures) :
    Exact initial (Reports.failed seen time version) := by
  have hcount : Reports.newFailures seen =
      failuresSince initial (Reports.failed seen time version).history := by
    rw [Reports.failed, failuresSince_failure, ← h.counter, Reports.newFailures, hfresh]
  refine ⟨hcount, ?_⟩
  intro moment cooldown rest hhistory
  obtain ⟨hhead, -⟩ := List.cons_eq_cons.mp hhistory
  cases hhead
  exact ⟨congrArg cooldownS hcount, rfl⟩

theorem step_exact (h : RowLock.Both (Exact initial) state.row) (hfresh : FreshCount state action)
    (hstep : state.step action = some next) : RowLock.Both (Exact initial) next.row := by
  cases Reports.stepped hstep with
  | tick elapsed => exact h
  | success _ hrow => exact h.update exact_succeeded hrow
  | select _ => exact h
  | compute _ => exact h
  | update hphase hrow => exact h.update (exact_failed h.latest (hfresh _ _ hphase)) hrow
  | respond _ => exact h
  | commit _ => exact h.commit _
  | rollback session => exact h.rollback session

/-- As long as every failure's `UPDATE` finds the count its `SELECT` read, no failure
is lost: the committed row and the latest one are exact in every state reached. -/
theorem reports_exact {proxy : Proxy} {start : Moment} {actions : List Action}
    (hfresh : Along Reports.step FreshCount (Reports.start proxy start) actions)
    (hrun : run Reports.step (Reports.start proxy start) actions = some state) :
    RowLock.Both (Exact proxy.consecutiveFailures) state.row := by
  have hstart : Exact proxy.consecutiveFailures ⟨proxy, []⟩ :=
    ⟨(Nat.zero_add _).symm, fun _ _ _ h => by cases h⟩
  have hinit : RowLock.Both (Exact proxy.consecutiveFailures) (Reports.start proxy start).row :=
    ⟨hstart, hstart⟩
  exact run_invariant (fun _ _ _ h hguard hstep => step_exact h hguard hstep) hinit hfresh hrun

end Exactness

/-! Two sessions read the same count and write it one after the other. -/

def freshProxy : Proxy where
  id := 1
  poolId := 7
  url := "http://proxy.example:8080"

def overlappingFailures : List Action := [.select 1, .select 2, .compute 1, .compute 2,
  .update 1, .respond 1, .commit 1, .update 2, .respond 2, .commit 2]

def oneFailure : List Action := [.select 1, .compute 1, .update 1, .respond 1, .commit 1]

theorem oneFailure_fresh :
    Along Reports.step FreshCount (Reports.start freshProxy 0) oneFailure := by
  refine .cons rfl trivial (.cons rfl trivial (.cons rfl ?_ (.cons rfl trivial
    (.cons rfl trivial trivial))))
  intro seen time hphase
  cases hphase
  rfl

theorem reports_exact_one_failure : ∃ state,
    run Reports.step (Reports.start freshProxy 0) oneFailure = some state ∧
      RowLock.Both (Exact 0) state.row :=
  ⟨_, rfl, reports_exact oneFailure_fresh rfl⟩

structure Reports.Quiet (state : Reports) : Prop where
  committed : state.row.writer = none
  idle : ∀ session, state.phase session = .idle

theorem overlapping_failures_lose_one :
    ¬ ∀ proxy now actions state, run Reports.step (Reports.start proxy now) actions = some state →
      state.Quiet → Exact proxy.consecutiveFailures state.row.committed := by
  intro h
  have hexact := h freshProxy 0 overlappingFailures _ rfl ⟨rfl, ?_⟩
  · cases hexact.counter
  · intro session
    by_cases hone : session = 1
    · rw [hone]
      rfl
    · by_cases htwo : session = 2
      · rw [htwo]
        rfl
      · simp [Reports.setPhase, Function.update, hone, htwo, Reports.start]

end CrawlerApi.Proxies
