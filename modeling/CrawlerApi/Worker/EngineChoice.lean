import CrawlerApi.Fetch.EngineLock
import CrawlerApi.Worker.Task

/-!
# The engine of a job

The policy's engine goes before the one of the mode, and any engine but httpx goes
before the learned tier and the vendor's floor.  What a job asks for and what its
domain has learned both hold only as far as the policy row names the right engine.
-/

namespace CrawlerApi.Worker

open Keys Fetch Jobs Foundation

structure Overrides where
  useProxy : Option Bool := none
  proxyCountry : Option String := none
  proxyCity : Option String := none
  proxyType : Option ProxyType := none

/-- Where a job runs: what its context holds, the premium flag, and the normalized
domain of its URL. -/
structure Surroundings where
  domain : String
  hasProxyManager : Bool := true
  enablePremium : Bool := false

/-- Step 4 of the task: the arguments of `fetch_with_retry`. -/
def fetchRequest (surroundings : Surroundings) (task : FetchTask) (policy : Option PolicyRow)
    (overrides : Overrides) : Fetch.Request :=
  let engine := selectEngine policy task.mode
  { fetcher := getFetcher engine
    url := task.url
    domain := surroundings.domain
    policy := policy.map PolicyRow.attributes
    hasProxyManager := surroundings.hasProxyManager
    stickyKey := some task.jobId
    traceId := some task.jobId
    useProxy := overrides.useProxy
    proxyCountry := overrides.proxyCountry
    proxyCity := overrides.proxyCity
    proxyType := overrides.proxyType
    requestedEngine := if engine ≠ .httpx then some engine else none
    enablePremium := surroundings.enablePremium }

def ladderStart (request : Fetch.Request) : Rung :=
  ({ request with requestedEngine := none } : Fetch.Request).startTier

theorem ladderStart_val (request : Fetch.Request) :
    (ladderStart request).val = min (initialTier request.policy) request.maxTier.val := rfl

def attemptEngine (visit : Visit Fetch.State) : Engine := (fetcherFor visit.state).engine

/-- The first attempt is made by the engine of the mode, and no attempt by an engine
of a lower rung. -/
structure RunsMode (text : TextMethods) (request : Fetch.Request)
    (environment : Fetch.Environment) (mode : Mode) : Prop where
  first : ∀ visit, (attempts text request environment).head? = some visit →
    attemptEngine visit = modeToEngine mode
  later : ∀ visit ∈ attempts text request environment,
    firstRung (modeToEngine mode) ≤ firstRung (attemptEngine visit)

/-- The policy leaves the mode its engine: there is no row, the row names the same
engine, it names httpx and the learned rung runs that engine, or its ceiling lets no
attempt happen. -/
inductive LeavesMode (request : Fetch.Request) (mode : Mode) : Option PolicyRow → Prop where
  | unset : LeavesMode request mode none
  | same {row : PolicyRow} : row.engine = modeToEngine mode → LeavesMode request mode (some row)
  | learned {row : PolicyRow} : row.engine = .httpx →
      (ladderStart request).tier.engine = modeToEngine mode → LeavesMode request mode (some row)
  | noAttempt {row : PolicyRow} : row.maxEscalationAttempts < 0 →
      LeavesMode request mode (some row)

section Choice

variable {text : TextMethods} {request : Fetch.Request} {environment : Fetch.Environment}
  {surroundings : Surroundings} {task : FetchTask} {policy : Option PolicyRow}
  {overrides : Overrides} {row : PolicyRow}

theorem firstRung_mono : ∀ rung other : Rung, rung ≤ other →
    firstRung rung.tier.engine ≤ firstRung other.tier.engine := by
  decide

theorem attemptEngine_eq {visit : Visit Fetch.State} (hnamed : request.fetcher.Named)
    (hvisit : visit ∈ attempts text request environment) :
    attemptEngine visit = visit.state.tier.tier.engine :=
  fetcherFor_engine (attempts_named hnamed visit hvisit)

theorem attempts_head (h : 0 < request.maxAttempts) :
    ∃ visit, (attempts text request environment).head? = some visit ∧
      visit.state.tier = request.startTier := by
  have hsucc : request.maxAttempts.toNat = (request.maxAttempts.toNat - 1) + 1 := by omega
  refine ⟨⟨request.maxAttempts.toNat - 1, request.initialState⟩, ?_, rfl⟩
  rw [attempts, hsucc, visits]
  rfl

theorem attempts_none (h : request.maxAttempts ≤ 0) :
    attempts text request environment = [] := by
  have hzero : request.maxAttempts.toNat = 0 := by omega
  rw [attempts, hzero]
  rfl

theorem startTier_of_engine {engine : Engine} (h : request.requestedEngine = some engine) :
    request.startTier = firstRung engine := by
  unfold Request.startTier
  rw [h]

theorem startTier_of_none (h : request.requestedEngine = none) :
    request.startTier = ladderStart request := by
  unfold ladderStart Request.startTier
  rw [h]
  rfl

/-- A run with an attempt follows the mode exactly when it starts at a rung of the
mode's engine. -/
theorem runsMode_iff_start {mode : Mode} (hnamed : request.fetcher.Named)
    (hcount : 0 < request.maxAttempts) :
    RunsMode text request environment mode ↔
      request.startTier.tier.engine = modeToEngine mode := by
  obtain ⟨first, hfirst, htier⟩ := @attempts_head text request environment hcount
  have hengine := attemptEngine_eq hnamed (List.mem_of_head? hfirst)
  rw [htier] at hengine
  constructor
  · intro hruns
    rw [← hengine]
    exact hruns.first first hfirst
  · intro hstart
    constructor
    · intro visit hvisit
      rw [hfirst] at hvisit
      cases hvisit
      exact hengine.trans hstart
    · intro visit hvisit
      rw [attemptEngine_eq hnamed hvisit, ← hstart]
      exact firstRung_mono _ _ (attempts_between visit hvisit).1

theorem fetchRequest_maxAttempts :
    (fetchRequest surroundings task (some row) overrides).maxAttempts ≤ 0 ↔
      row.maxEscalationAttempts < 0 := by
  have hread : (fetchRequest surroundings task (some row) overrides).getattr
      Policy.maxEscalationAttempts = some row.maxEscalationAttempts := rfl
  unfold Request.maxAttempts
  rw [hread]
  dsimp only
  split
  · omega
  · omega

theorem fetchRequest_noRow : 0 < (fetchRequest surroundings task none overrides).maxAttempts :=
  Int.lt_of_lt_of_le (by decide : (0 : Int) < 12) (Int.le_refl 12)

theorem fetchRequest_engine (h : selectEngine policy task.mode ≠ .httpx) :
    (fetchRequest surroundings task policy overrides).requestedEngine =
      some (selectEngine policy task.mode) :=
  if_pos h

theorem fetchRequest_ladder (h : selectEngine policy task.mode = .httpx) :
    (fetchRequest surroundings task policy overrides).requestedEngine = none :=
  if_neg (not_not.mpr h)

theorem modeToEngine_ne {mode : Mode} (h : mode ≠ .static) : modeToEngine mode ≠ .httpx := by
  cases mode with
  | static => exact absurd rfl h
  | _ => nofun

theorem fetchRequest_start :
    (fetchRequest surroundings task (some row) overrides).startTier =
      if row.engine = .httpx then
        ladderStart (fetchRequest surroundings task (some row) overrides)
      else firstRung row.engine := by
  split
  · rename_i hhttpx
    exact startTier_of_none (fetchRequest_ladder hhttpx)
  · rename_i hother
    exact startTier_of_engine (fetchRequest_engine hother)

/-- A job of an explicit mode runs its engine, and no lower one later, exactly when the
policy leaves it to. -/
theorem runs_mode_iff (hmode : task.mode ≠ .static) :
    RunsMode text (fetchRequest surroundings task policy overrides) environment task.mode ↔
      LeavesMode (fetchRequest surroundings task policy overrides) task.mode policy := by
  have hnamed : (fetchRequest surroundings task policy overrides).fetcher.Named := nofun
  cases policy with
  | none =>
      have hengine : selectEngine none task.mode ≠ .httpx := modeToEngine_ne hmode
      rw [runsMode_iff_start hnamed fetchRequest_noRow,
        startTier_of_engine (fetchRequest_engine hengine), firstRung_engine]
      exact iff_of_true rfl .unset
  | some row =>
      by_cases hcount : row.maxEscalationAttempts < 0
      · have hnone : attempts text (fetchRequest surroundings task (some row) overrides)
            environment = [] := attempts_none (fetchRequest_maxAttempts.mpr hcount)
        apply iff_of_true _ (.noAttempt hcount)
        constructor
        · intro visit hvisit
          rw [hnone] at hvisit
          cases hvisit
        · intro visit hvisit
          rw [hnone] at hvisit
          cases hvisit
      · have hpos : 0 < (fetchRequest surroundings task (some row) overrides).maxAttempts :=
          Int.not_le.mp (mt fetchRequest_maxAttempts.mp hcount)
        rw [runsMode_iff_start hnamed hpos, fetchRequest_start]
        constructor
        · intro hstart
          split at hstart
          · rename_i hhttpx
            exact .learned hhttpx hstart
          · rw [firstRung_engine] at hstart
            exact .same hstart
        · intro hleaves
          cases hleaves with
          | same hsame =>
              rw [if_neg (hsame ▸ modeToEngine_ne hmode), firstRung_engine]
              exact hsame
          | learned hhttpx hlearned =>
              rw [if_pos hhttpx]
              exact hlearned
          | noAttempt hnegative => exact absurd hnegative hcount

/-- No attempt of the job is made below the learned tier or the vendor's floor, as far
as the premium gate lets them be. -/
def KeepsFloor (text : TextMethods) (request : Fetch.Request) (environment : Fetch.Environment) :
    Prop :=
  ∀ visit ∈ attempts text request environment,
    min (initialTier request.policy) request.maxTier.val ≤ visit.state.tier.val

/-- The row names httpx, or an engine whose first rung is not below the floor, or its
ceiling lets no attempt happen. -/
def NamesFloor (request : Fetch.Request) (row : PolicyRow) : Prop :=
  row.engine = .httpx ∨
    min (initialTier request.policy) request.maxTier.val ≤ (firstRung row.engine).val ∨
      row.maxEscalationAttempts < 0

/-- The floor holds in a job with a policy row exactly when the row's engine leaves it. -/
theorem keeps_floor_iff :
    KeepsFloor text (fetchRequest surroundings task (some row) overrides) environment ↔
      NamesFloor (fetchRequest surroundings task (some row) overrides) row := by
  have hstart : KeepsFloor text (fetchRequest surroundings task (some row) overrides) environment ↔
      (0 < (fetchRequest surroundings task (some row) overrides).maxAttempts →
        ladderStart (fetchRequest surroundings task (some row) overrides) ≤
          (fetchRequest surroundings task (some row) overrides).startTier) := by
    constructor
    · intro hkeeps hcount
      obtain ⟨first, hfirst, htier⟩ := @attempts_head text _ environment hcount
      rw [← htier]
      exact hkeeps first (List.mem_of_head? hfirst)
    · intro hle visit hvisit
      have hcount : 0 < (fetchRequest surroundings task (some row) overrides).maxAttempts := by
        by_contra hnone
        rw [attempts_none (Int.not_lt.mp hnone)] at hvisit
        cases hvisit
      exact Fin.le_def.mp (Fin.le_trans (hle hcount) (attempts_between visit hvisit).1)
  rw [hstart, ← Int.not_le, fetchRequest_maxAttempts, fetchRequest_start, NamesFloor,
    ← ladderStart_val, Fin.le_def]
  by_cases hhttpx : row.engine = .httpx
  · rw [if_pos hhttpx]
    exact iff_of_true (fun _ => Nat.le_refl _) (.inl hhttpx)
  · rw [if_neg hhttpx, or_iff_right hhttpx, or_comm, or_iff_not_imp_left]

end Choice

/-! A stealth job on a domain with a fresh policy row, and a static job on a Kasada
domain whose row names an engine below the floor. -/

def sampleTask (mode : Mode) : FetchTask where
  jobId := "3f1c"
  url := "https://example.com/"
  mode := mode
  apiKeyPrefix := "crwlabcd"
  applicationId := 1
  domain := "example.com"
  proxyPoolId := none
  callbackUrl := none
  options := []
  traceId := none

def sampleSurroundings (enablePremium : Bool) : Surroundings where
  domain := "example.com"
  enablePremium := enablePremium

def freshRow : PolicyRow where
  id := 1
  domain := "example.com"

def kasadaRow : PolicyRow where
  id := 1
  domain := "example.com"
  engine := .curlCffi
  antibotType := some "kasada"

theorem runs_mode_iff_stealth :
    RunsMode asciiText (fetchRequest (sampleSurroundings false) (sampleTask .stealth) none {})
        (blockedBy .waf) .stealth ↔
      LeavesMode (fetchRequest (sampleSurroundings false) (sampleTask .stealth) none {})
        .stealth none :=
  runs_mode_iff (by decide : (sampleTask .stealth).mode ≠ .static)

theorem fresh_row_runs_httpx :
    ¬ ∀ text surroundings (task : FetchTask) policy overrides environment, task.mode ≠ .static →
      RunsMode text (fetchRequest surroundings task policy overrides) environment task.mode := by
  intro h
  have hruns := h asciiText (sampleSurroundings false) (sampleTask .stealth) (some freshRow) {}
    (blockedBy .waf) (by decide)
  exact absurd (hruns.first _ rfl) (by decide)

theorem named_engine_below_floor :
    ¬ ∀ text surroundings (task : FetchTask) row overrides environment, task.mode = .static →
      KeepsFloor text (fetchRequest surroundings task (some row) overrides) environment := by
  intro h
  have hkeeps := h asciiText (sampleSurroundings true) (sampleTask .static) kasadaRow {}
    (blockedBy .waf) rfl
  exact absurd (hkeeps _ (List.mem_cons_self ..)) (by decide)

end CrawlerApi.Worker
