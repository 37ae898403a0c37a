import CrawlerApi.Foundation.Run
import CrawlerApi.Worker.Policies
import CrawlerApi.Worker.PolicyStore
import CrawlerApi.Worker.TierLaw

/-!
# The policy table over its life

Operators create, change, pin and delete policies while jobs resolve them and record what came
out.  A session keeps the row as it loaded it and commits the columns it changed.
-/

namespace CrawlerApi.Worker.PolicyLife

open Errors Keys Fetch Foundation Domains

/-- The body of a PATCH; a field left out and one set to null are the same. -/
structure DomainPolicyUpdate where
  proxyPoolId : Option Uuid := none
  engine : Option Engine := none
  rateLimitRps : Option Rat := none
  minDelayMs : Option Int := none
  maxDelayMs : Option Int := none
  maxRetries : Option Int := none
  respectRobots : Option Bool := none
  headerProfile : Option Headers := none
  stickySession : Option Bool := none
  isActive : Option Bool := none
  antibotType : Option AntibotType := none
  proxyType : Option ProxyType := none
  escalationTier : Option Int := none
  tierLocked : Option Bool := none
  maxEscalationAttempts : Option Int := none
  rateLimitRange : ∀ rate ∈ rateLimitRps, 1 / 10 ≤ rate ∧ rate ≤ 100 := by simp
  minDelayRange : ∀ delay ∈ minDelayMs, 0 ≤ delay ∧ delay ≤ 60000 := by simp
  maxDelayRange : ∀ delay ∈ maxDelayMs, 0 ≤ delay ∧ delay ≤ 60000 := by simp
  maxRetriesRange : ∀ retries ∈ maxRetries, 0 ≤ retries ∧ retries ≤ 10 := by simp
  escalationTierRange : ∀ tier ∈ escalationTier, 0 ≤ tier ∧ tier ≤ 6 := by simp
  maxEscalationAttemptsRange : ∀ attempts ∈ maxEscalationAttempts,
    1 ≤ attempts ∧ attempts ≤ 50 := by simp

/-- `not updates`: no field has a value. -/
def DomainPolicyUpdate.isEmpty (body : DomainPolicyUpdate) : Bool :=
  body.proxyPoolId.isNone && body.engine.isNone && body.rateLimitRps.isNone &&
    body.minDelayMs.isNone && body.maxDelayMs.isNone && body.maxRetries.isNone &&
    body.respectRobots.isNone && body.headerProfile.isNone && body.stickySession.isNone &&
    body.isActive.isNone && body.antibotType.isNone && body.proxyType.isNone &&
    body.escalationTier.isNone && body.tierLocked.isNone && body.maxEscalationAttempts.isNone

/-- `setattr` of every field that has a value. -/
def DomainPolicyUpdate.assign (body : DomainPolicyUpdate) (row : DomainPolicy) : DomainPolicy :=
  { row with
    proxyPoolId := body.proxyPoolId.or row.proxyPoolId
    engine := body.engine.getD row.engine
    rateLimitRps := body.rateLimitRps.getD row.rateLimitRps
    minDelayMs := body.minDelayMs.getD row.minDelayMs
    maxDelayMs := body.maxDelayMs.getD row.maxDelayMs
    maxRetries := body.maxRetries.getD row.maxRetries
    respectRobots := body.respectRobots.getD row.respectRobots
    headerProfile := body.headerProfile.or row.headerProfile
    stickySession := body.stickySession.getD row.stickySession
    isActive := body.isActive.getD row.isActive
    antibotType := body.antibotType.or row.antibotType
    proxyType := body.proxyType.or row.proxyType
    escalationTier := body.escalationTier.getD row.escalationTier
    tierLocked := body.tierLocked.getD row.tierLocked
    maxEscalationAttempts := body.maxEscalationAttempts.getD row.maxEscalationAttempts }

/-- The assignments of `pin_escalation_tier`. -/
def pin (tier : Option Int) (locked : Bool) (row : DomainPolicy) : DomainPolicy :=
  { row with escalationTier := tier.getD row.escalationTier, tierLocked := locked }

/-! ### What the learner makes of a row -/

def antibotValue : AntibotType → String
  | .none => "none"
  | .cloudflare => "cloudflare"
  | .akamai => "akamai"
  | .datadome => "datadome"
  | .kasada => "kasada"
  | .perimeterx => "perimeterx"
  | .incapsula => "incapsula"
  | .awsWaf => "aws_waf"
  | .customSea => "custom_sea"
  | .customCn => "custom_cn"

def antibotOf (vendor : String) : Option AntibotType :=
  [.none, .cloudflare, .akamai, .datadome, .kasada, .perimeterx, .incapsula, .awsWaf, .customSea,
    .customCn].find? (antibotValue · = vendor)

def policyRow (row : DomainPolicy) : PolicyRow where
  id := row.id
  domain := row.domain
  proxyPoolId := row.proxyPoolId
  engine := row.engine
  minDelayMs := row.minDelayMs
  maxDelayMs := row.maxDelayMs
  maxRetries := row.maxRetries
  headerProfile := row.headerProfile
  useProxy := row.useProxy
  proxyCountry := row.proxyCountry
  antibotType := row.antibotType.map antibotValue
  proxyType := row.proxyType
  escalationTier := row.escalationTier
  tierLocked := row.tierLocked
  lastSuccessAt := row.lastSuccessAt
  lastBlockReason := row.lastBlockReason
  consecutiveBlocks := row.consecutiveBlocks
  maxEscalationAttempts := row.maxEscalationAttempts

def learn (text : TextMethods) (result : FetchResult) (now : Instant) (row : DomainPolicy) :
    DomainPolicy :=
  let learned := (policyRow row).recorded text result now
  { row with
    antibotType := learned.antibotType.bind antibotOf
    escalationTier := learned.escalationTier
    lastSuccessAt := learned.lastSuccessAt
    lastBlockReason := learned.lastBlockReason
    consecutiveBlocks := learned.consecutiveBlocks }

theorem antibotOf_antibotValue (type : AntibotType) :
    antibotOf (antibotValue type) = some type := by
  cases type <;> rfl

theorem antibotValue_injective : Function.Injective antibotValue := by
  intro one other h
  have hsame := congrArg antibotOf h
  rw [antibotOf_antibotValue, antibotOf_antibotValue] at hsame
  exact Option.some.inj hsame

theorem antibotOf_detectVendor {text : TextMethods} {headers cookies : Headers} {body : Bytes}
    {vendor : String} (h : BlockDetector.detectVendor text headers cookies body = some vendor) :
    ∃ type, vendor = antibotValue type := by
  unfold BlockDetector.detectVendor at h
  dsimp only at h
  split at h
  · exact ⟨.cloudflare, (Option.some.inj h).symm⟩
  · split at h
    · exact ⟨.akamai, (Option.some.inj h).symm⟩
    · split at h
      · exact ⟨.datadome, (Option.some.inj h).symm⟩
      · split at h
        · exact ⟨.kasada, (Option.some.inj h).symm⟩
        · split at h
          · exact ⟨.perimeterx, (Option.some.inj h).symm⟩
          · split at h
            · exact ⟨.incapsula, (Option.some.inj h).symm⟩
            · split at h
              · exact ⟨.awsWaf, (Option.some.inj h).symm⟩
              · cases h

theorem learn_antibotType (row : PolicyRow) (result : FetchResult) (tierUsed : Int)
    (vendor : Option String) (now : Instant) :
    (row.learn result tierUsed vendor now).antibotType = vendor.or row.antibotType := by
  unfold PolicyRow.learn
  cases vendor <;> dsimp only <;> split <;> split <;> rfl

theorem learn_frame (row : PolicyRow) (result : FetchResult) (tierUsed : Int)
    (vendor : Option String) (now : Instant) :
    { row with
      antibotType := (row.learn result tierUsed vendor now).antibotType
      escalationTier := (row.learn result tierUsed vendor now).escalationTier
      lastSuccessAt := (row.learn result tierUsed vendor now).lastSuccessAt
      lastBlockReason := (row.learn result tierUsed vendor now).lastBlockReason
      consecutiveBlocks := (row.learn result tierUsed vendor now).consecutiveBlocks } =
      row.learn result tierUsed vendor now := by
  unfold PolicyRow.learn
  cases vendor <;> dsimp only <;> split <;> split <;> rfl

theorem policyRow_learn (text : TextMethods) (result : FetchResult) (now : Instant)
    (row : DomainPolicy) :
    policyRow (learn text result now row) = (policyRow row).recorded text result now := by
  have hantibot : ((((policyRow row).recorded text result now).antibotType).bind antibotOf).map
      antibotValue = ((policyRow row).recorded text result now).antibotType := by
    unfold PolicyRow.recorded
    rw [learn_antibotType]
    cases hvendor : BlockDetector.detectVendor text result.headers [] (result.body.take 65536) with
    | none =>
        cases hrow : row.antibotType with
        | none => simp [policyRow, hrow]
        | some type => simp [policyRow, hrow, antibotOf_antibotValue]
    | some vendor =>
        obtain ⟨type, rfl⟩ := antibotOf_detectVendor hvendor
        simp [antibotOf_antibotValue]
  have hframe := learn_frame (policyRow row) result result.tierUsed
    (BlockDetector.detectVendor text result.headers [] (result.body.take 65536)) now
  unfold policyRow learn
  dsimp only
  rw [hantibot]
  exact hframe

theorem written_map {f : α → β} [DecidableEq α] [DecidableEq β] (hf : Function.Injective f)
    (loaded changed stored : Option α) :
    (written loaded changed stored).map f =
      written (loaded.map f) (changed.map f) (stored.map f) := by
  unfold written
  by_cases h : changed = loaded
  · rw [if_pos h, if_pos (congrArg _ h)]
  · rw [if_neg h, if_neg fun hsame => h (Option.map_injective hf hsame)]

/-! ### Sessions -/

/-- The `UPDATE` of a session: the columns it changed since it loaded the row. -/
def flush (loaded changed : DomainPolicy) (now : Instant) (stored : DomainPolicy) : DomainPolicy :=
  { stored with
    proxyPoolId := written loaded.proxyPoolId changed.proxyPoolId stored.proxyPoolId
    engine := written loaded.engine changed.engine stored.engine
    rateLimitRps := written loaded.rateLimitRps changed.rateLimitRps stored.rateLimitRps
    minDelayMs := written loaded.minDelayMs changed.minDelayMs stored.minDelayMs
    maxDelayMs := written loaded.maxDelayMs changed.maxDelayMs stored.maxDelayMs
    maxRetries := written loaded.maxRetries changed.maxRetries stored.maxRetries
    respectRobots := written loaded.respectRobots changed.respectRobots stored.respectRobots
    headerProfile := written loaded.headerProfile changed.headerProfile stored.headerProfile
    stickySession := written loaded.stickySession changed.stickySession stored.stickySession
    isActive := written loaded.isActive changed.isActive stored.isActive
    antibotType := written loaded.antibotType changed.antibotType stored.antibotType
    proxyType := written loaded.proxyType changed.proxyType stored.proxyType
    escalationTier := written loaded.escalationTier changed.escalationTier stored.escalationTier
    tierLocked := written loaded.tierLocked changed.tierLocked stored.tierLocked
    lastSuccessAt := written loaded.lastSuccessAt changed.lastSuccessAt stored.lastSuccessAt
    lastBlockReason :=
      written loaded.lastBlockReason changed.lastBlockReason stored.lastBlockReason
    consecutiveBlocks :=
      written loaded.consecutiveBlocks changed.consecutiveBlocks stored.consecutiveBlocks
    maxEscalationAttempts := written loaded.maxEscalationAttempts changed.maxEscalationAttempts
      stored.maxEscalationAttempts
    updatedAt := now }

theorem policyRow_flush {loaded changed stored : DomainPolicy} (now : Instant)
    (hkept : { changed with
      antibotType := loaded.antibotType, escalationTier := loaded.escalationTier
      tierLocked := loaded.tierLocked, lastSuccessAt := loaded.lastSuccessAt
      lastBlockReason := loaded.lastBlockReason
      consecutiveBlocks := loaded.consecutiveBlocks } = loaded) :
    policyRow (flush loaded changed now stored) =
      (policyRow loaded).flush (policyRow changed) (policyRow stored) := by
  unfold PolicyRow.flush flush policyRow
  dsimp only
  rw [written_map antibotValue_injective]
  rw [← hkept]
  simp only [written_self]

/-- On the columns jobs read, the `UPDATE` of the learner is the one of `PolicyRow`. -/
theorem policyRow_flush_learn (text : TextMethods) (result : FetchResult) (learnedAt now : Instant)
    (loaded stored : DomainPolicy) :
    policyRow (flush loaded (learn text result learnedAt loaded) now stored) =
      (policyRow loaded).flush ((policyRow loaded).recorded text result learnedAt)
        (policyRow stored) := by
  rw [policyRow_flush now ?_, policyRow_learn]
  rfl

theorem policyRow_flush_pin (tier : Option Int) (locked : Bool) (now : Instant)
    (loaded stored : DomainPolicy) :
    policyRow (flush loaded (pin tier locked loaded) now stored) =
      (policyRow loaded).flush ((policyRow loaded).pinned tier locked) (policyRow stored) := by
  rw [policyRow_flush now rfl]
  rfl

def findPolicy (table : PolicyTable) (id : Uuid) : Option DomainPolicy :=
  table.rows.find? (·.id = id)

def updateRows (id : Uuid) (change : DomainPolicy → DomainPolicy) (rows : List DomainPolicy) :
    List DomainPolicy :=
  rows.map fun row => if row.id = id then change row else row

theorem updateRows_domain (id : Uuid) (change : DomainPolicy → DomainPolicy)
    (hkeeps : ∀ row, (change row).domain = row.domain) (rows : List DomainPolicy) :
    (updateRows id change rows).map DomainPolicy.domain = rows.map DomainPolicy.domain := by
  unfold updateRows
  rw [List.map_map]
  apply List.map_congr_left
  intro row _
  simp only [Function.comp_apply]
  split
  · exact hkeeps row
  · rfl

/-- The statement fails on a pool that does not exist and on a reason of over 32 characters. -/
def storable (table : PolicyTable) (row : DomainPolicy) : Bool :=
  row.proxyPoolId.all (· ∈ table.pools) && row.lastBlockReason.all (·.length ≤ 32)

def commit (table : PolicyTable) (loaded changed : DomainPolicy) (now : Instant) :
    Except RequestError PolicyTable :=
  if changed = loaded then .ok table
  else
    match findPolicy table loaded.id with
    | none => .error (.runtimeError
        "UPDATE statement on table 'domain_policies' expected to update 1 row(s); 0 were matched.")
    | some stored =>
        if storable table (flush loaded changed now stored) then
          .ok { table with
            rows := updateRows loaded.id (flush loaded changed now) table.rows
            domainUnique := by
              rw [updateRows_domain loaded.id (flush loaded changed now) fun _ => rfl]
              exact table.domainUnique }
        else .error .integrityError

def deleteRow (table : PolicyTable) (id : Uuid) : PolicyTable where
  rows := table.rows.filter (·.id ≠ id)
  pools := table.pools
  domainUnique := table.domainUnique.sublist (List.filter_sublist.map _)

structure State where
  table : PolicyTable
  sessions : Connection → Option DomainPolicy

inductive Action where
  /-- `upsert_policy`; `id` is the one the database draws for a new row. -/
  | upsert (body : DomainPolicyCreate) (id : Uuid) (now : Instant)
  /-- "Fetch the upserted row." -/
  | fetch (domain : String)
  /-- `db.get`, of the operator's endpoints. -/
  | get (session : Connection) (policyId : Uuid)
  /-- `resolve_policy`, of a job, with the domain it looks up. -/
  | resolve (session : Connection) (domain : String)
  | patch (session : Connection) (body : DomainPolicyUpdate) (now : Instant)
  | pin (session : Connection) (tier : Option Int) (locked : Bool) (now : Instant)
  /-- `db.refresh`, after the commit of a patch or a pin. -/
  | refresh (session : Connection)
  | delete (session : Connection)
  /-- `record_outcome`; `skipped` when another session holds the lock of the row. -/
  | record (session : Connection) (result : FetchResult) (now : Instant) (skipped : Bool)

inductive Answer where
  | silent
  | row (row : DomainPolicy)
  /-- What `resolve_policy` hands to its caller. -/
  | resolved (policy : Option DomainPolicy)
  /-- The answer of a PATCH without a value: the row as its request loaded it. -/
  | unchanged (row : DomainPolicy)
  | noContent
  | error (error : RequestError)
  | failed (failure : PolicyFailure)

def State.hold (state : State) (session : Connection) (row : Option DomainPolicy) : State :=
  { state with sessions := Function.update state.sessions session row }

def State.save (state : State) (session : Connection) (loaded changed : DomainPolicy)
    (now : Instant) : State × Answer :=
  match commit state.table loaded changed now with
  | .error error => (state.hold session none, .error error)
  | .ok table => ({ state.hold session (some changed) with table := table }, .silent)

section Steps

variable (text : TextMethods) (tables : TextTables) (registeredDomain : String → String)

def step (state : State) : Action → State × Answer
  | .upsert body id now =>
      match upsertPolicy tables registeredDomain id now state.table
          (normalizeDomain tables registeredDomain body.domain) body.toPolicyColumns with
      | .error failure => (state, .failed failure)
      | .ok table =>
          if (table.rows.map (·.id)).Nodup then ({ state with table := table }, .silent)
          else (state, .error .integrityError)
  | .fetch domain =>
      match state.table.select (normalizeDomain tables registeredDomain domain) with
      | none => (state, .failed .noResultFound)
      | some row => (state, .row row)
  | .get session policyId =>
      match findPolicy state.table policyId with
      | none => (state, .error (.api (notFoundError "Domain policy not found")))
      | some row => (state.hold session (some row), .row row)
  | .resolve session domain =>
      (state.hold session (state.table.selectActive domain),
        .resolved (state.table.selectActive domain))
  | .patch session body now =>
      match state.sessions session with
      | none => (state, .silent)
      | some loaded =>
          if body.isEmpty then (state.hold session none, .unchanged loaded)
          else state.save session loaded (body.assign loaded) now
  | .pin session tier locked now =>
      match state.sessions session with
      | none => (state, .silent)
      | some loaded =>
          if tierAccepted tier then
            state.save session loaded (PolicyLife.pin tier locked loaded) now
          else (state.hold session none, .error (.api ⟨422, "http_error", "tier must be 0-6"⟩))
  | .refresh session =>
      match state.sessions session with
      | none => (state, .silent)
      | some loaded =>
          match findPolicy state.table loaded.id with
          | none => (state.hold session none, .error (.runtimeError "Could not refresh instance"))
          | some row => (state.hold session none, .row row)
  | .delete session =>
      match state.sessions session with
      | none => (state, .silent)
      | some loaded =>
          ({ state.hold session none with table := deleteRow state.table loaded.id }, .noContent)
  | .record session result now skipped =>
      match state.sessions session with
      | none => (state, .silent)
      | some loaded =>
          if skipped || (findPolicy state.table loaded.id).isNone then (state, .silent)
          else
            match commit state.table loaded (learn text result now loaded) now with
            -- nothing is stored, and the session is closed
            | .error _ => (state.hold session none, .silent)
            | .ok table => ({ state.hold session none with table := table }, .silent)

end Steps

/-! ### What a step can do -/

inductive Edited (text : TextMethods) : Action → DomainPolicy → DomainPolicy → Prop where
  | patch {session : Connection} {now : Instant} (body : DomainPolicyUpdate)
      (loaded : DomainPolicy) :
      Edited text (.patch session body now) loaded (body.assign loaded)
  | pin {session : Connection} {now : Instant} {tier : Option Int} (locked : Bool)
      (loaded : DomainPolicy) : tierAccepted tier = true →
      Edited text (.pin session tier locked now) loaded (PolicyLife.pin tier locked loaded)
  | record {session : Connection} {now : Instant} (result : FetchResult) (loaded : DomainPolicy) :
      Edited text (.record session result now false) loaded (learn text result now loaded)

inductive Origin (text : TextMethods) (state : State) (action : Action) : DomainPolicy → Prop where
  | kept {row : DomainPolicy} : row ∈ state.table.rows → Origin text state action row
  | flushed {session : Connection} {loaded changed stored : DomainPolicy} {now : Instant} :
      state.sessions session = some loaded → Edited text action loaded changed →
      stored ∈ state.table.rows → Origin text state action (flush loaded changed now stored)
  | assigned {body : DomainPolicyCreate} {id : Uuid} {now : Instant} {row : DomainPolicy} :
      action = .upsert body id now → row ∈ state.table.rows →
      Origin text state action (row.assign body.toPolicyColumns)
  | inserted {body : DomainPolicyCreate} {id : Uuid} {now : Instant} {domain : String} :
      action = .upsert body id now →
      Origin text state action (insertedPolicy id now domain body.toPolicyColumns)

inductive Copied (text : TextMethods) (state : State) (action : Action) (session : Connection) :
    DomainPolicy → Prop where
  | kept {row : DomainPolicy} : state.sessions session = some row →
      Copied text state action session row
  | loaded {row : DomainPolicy} : row ∈ state.table.rows → Copied text state action session row
  | edited {loaded changed : DomainPolicy} : state.sessions session = some loaded →
      Edited text action loaded changed → Copied text state action session changed

section Steps

variable {text : TextMethods} {tables : TextTables} {registeredDomain : String → String}
  {state : State} {action : Action} {table after : PolicyTable}
  {row loaded changed : DomainPolicy} {session : Connection} {id : Uuid} {now : Instant}
  {domain : String}

theorem findPolicy_eq_none : findPolicy table id = none ↔ ∀ row ∈ table.rows, row.id ≠ id := by
  simp [findPolicy]

theorem mem_of_findPolicy (h : findPolicy table id = some row) : row ∈ table.rows ∧ row.id = id :=
  ⟨List.mem_of_find?_eq_some h, by simpa using List.find?_some h⟩

theorem mem_of_selectActive (h : table.selectActive domain = some row) : row ∈ table.rows :=
  List.mem_of_find?_eq_some h

theorem mem_updateRows {change : DomainPolicy → DomainPolicy} {rows : List DomainPolicy}
    (h : row ∈ updateRows id change rows) :
    row ∈ rows ∨ ∃ stored ∈ rows, row = change stored := by
  obtain ⟨stored, hstored, rfl⟩ := List.mem_map.mp h
  split
  · exact .inr ⟨stored, hstored, rfl⟩
  · exact .inl hstored

theorem mem_commit (h : commit table loaded changed now = .ok after) (hrow : row ∈ after.rows) :
    row ∈ table.rows ∨ ∃ stored ∈ table.rows, row = flush loaded changed now stored := by
  unfold commit at h
  split at h
  · cases h
    exact .inl hrow
  · split at h
    · cases h
    · split at h
      · cases h
        exact mem_updateRows hrow
      · cases h

/-- A commit does not bring back the row that another request deleted. -/
theorem commit_of_deleted (habsent : findPolicy table loaded.id = none)
    (h : commit table loaded changed now = .ok after) : after = table := by
  unfold commit at h
  split at h
  · exact (Except.ok.inj h).symm
  · rw [habsent] at h
    cases h

theorem mem_upsert {body : DomainPolicyCreate}
    (h : upsertPolicy tables registeredDomain id now table domain body.toPolicyColumns = .ok after)
    (hrow : row ∈ after.rows) : row ∈ table.rows ∨
      (∃ old ∈ table.rows, row = old.assign body.toPolicyColumns) ∨
      row = insertedPolicy id now (normalizeDomain tables registeredDomain domain)
        body.toPolicyColumns := by
  rw [upsertPolicy_eq_ok h] at hrow
  exact mem_upsertRows hrow

theorem origin_of_save (hheld : state.sessions session = some loaded)
    (hedited : Edited text action loaded changed)
    (hrow : row ∈ (state.save session loaded changed now).1.table.rows) :
    Origin text state action row := by
  unfold State.save at hrow
  cases hcommit : commit state.table loaded changed now with
  | error error =>
      rw [hcommit] at hrow
      exact .kept hrow
  | ok after =>
      rw [hcommit] at hrow
      rcases mem_commit hcommit hrow with hkept | ⟨stored, hstored, rfl⟩
      · exact .kept hkept
      · exact .flushed hheld hedited hstored

theorem step_origin
    (hrow : row ∈ (step text tables registeredDomain state action).1.table.rows) :
    Origin text state action row := by
  cases action with
  | upsert body id now =>
      unfold step at hrow
      dsimp only at hrow
      split at hrow
      · exact .kept hrow
      · rename_i after hupsert
        split at hrow
        · rcases mem_upsert hupsert hrow with hkept | ⟨old, hold, rfl⟩ | rfl
          · exact .kept hkept
          · exact .assigned rfl hold
          · exact .inserted rfl
        · exact .kept hrow
  | fetch domain =>
      unfold step at hrow
      dsimp only at hrow
      split at hrow <;> exact .kept hrow
  | get session policyId =>
      unfold step at hrow
      dsimp only at hrow
      split at hrow <;> exact .kept hrow
  | resolve session domain => exact .kept hrow
  | patch session body now =>
      unfold step at hrow
      dsimp only at hrow
      split at hrow
      · exact .kept hrow
      · rename_i loaded hheld
        split at hrow
        · exact .kept hrow
        · exact origin_of_save hheld (.patch body loaded) hrow
  | pin session tier locked now =>
      unfold step at hrow
      dsimp only at hrow
      split at hrow
      · exact .kept hrow
      · rename_i loaded hheld
        split at hrow
        · rename_i haccepted
          exact origin_of_save hheld (.pin locked loaded haccepted) hrow
        · exact .kept hrow
  | refresh session =>
      unfold step at hrow
      dsimp only at hrow
      split at hrow
      · exact .kept hrow
      · split at hrow <;> exact .kept hrow
  | delete session =>
      unfold step at hrow
      dsimp only at hrow
      split at hrow
      · exact .kept hrow
      · exact .kept (List.mem_filter.mp hrow).1
  | record session result now skipped =>
      unfold step at hrow
      dsimp only at hrow
      split at hrow
      · exact .kept hrow
      · rename_i loaded hheld
        split at hrow
        · exact .kept hrow
        · rename_i hfound
          obtain ⟨rfl, -⟩ : skipped = false ∧ _ := by simpa using hfound
          split at hrow
          · exact .kept hrow
          · rename_i after hcommit
            rcases mem_commit hcommit hrow with hkept | ⟨stored, hstored, rfl⟩
            · exact .kept hkept
            · exact .flushed hheld (.record result loaded) hstored

theorem sessions_hold {held : Option DomainPolicy} {other : Connection}
    (h : (state.hold session held).sessions other = some row) :
    state.sessions other = some row ∨ other = session ∧ held = some row := by
  unfold State.hold at h
  dsimp only at h
  by_cases hsame : other = session
  · subst hsame
    rw [Function.update_self] at h
    exact .inr ⟨rfl, h⟩
  · rw [Function.update_of_ne hsame] at h
    exact .inl h

theorem copied_of_release {other : Connection}
    (h : (state.hold session none).sessions other = some row) :
    Copied text state action other row := by
  rcases sessions_hold h with hkept | ⟨-, hnone⟩
  · exact .kept hkept
  · cases hnone

theorem copied_of_save {other : Connection} (hheld : state.sessions session = some loaded)
    (hedited : Edited text action loaded changed)
    (h : (state.save session loaded changed now).1.sessions other = some row) :
    Copied text state action other row := by
  unfold State.save at h
  split at h
  · exact copied_of_release h
  · rcases sessions_hold h with hkept | ⟨rfl, hchanged⟩
    · exact .kept hkept
    · cases hchanged
      exact .edited hheld hedited

theorem step_copied {other : Connection}
    (h : (step text tables registeredDomain state action).1.sessions other = some row) :
    Copied text state action other row := by
  cases action with
  | upsert body id now =>
      unfold step at h
      dsimp only at h
      split at h
      · exact .kept h
      · split at h <;> exact .kept h
  | fetch domain =>
      unfold step at h
      dsimp only at h
      split at h <;> exact .kept h
  | get session policyId =>
      unfold step at h
      dsimp only at h
      split at h
      · exact .kept h
      · rename_i found hfound
        rcases sessions_hold h with hkept | ⟨-, hsome⟩
        · exact .kept hkept
        · cases hsome
          exact .loaded (mem_of_findPolicy hfound).1
  | resolve session domain =>
      rcases sessions_hold h with hkept | ⟨-, hsome⟩
      · exact .kept hkept
      · exact .loaded (mem_of_selectActive hsome)
  | patch session body now =>
      unfold step at h
      dsimp only at h
      split at h
      · exact .kept h
      · rename_i loaded hheld
        split at h
        · exact copied_of_release h
        · exact copied_of_save hheld (.patch body loaded) h
  | pin session tier locked now =>
      unfold step at h
      dsimp only at h
      split at h
      · exact .kept h
      · rename_i loaded hheld
        split at h
        · rename_i haccepted
          exact copied_of_save hheld (.pin locked loaded haccepted) h
        · exact copied_of_release h
  | refresh session =>
      unfold step at h
      dsimp only at h
      split at h
      · exact .kept h
      · split at h <;> exact copied_of_release h
  | delete session =>
      unfold step at h
      dsimp only at h
      split at h
      · exact .kept h
      · exact copied_of_release h
  | record session result now skipped =>
      unfold step at h
      dsimp only at h
      split at h
      · exact .kept h
      · split at h
        · exact .kept h
        · split at h <;> exact copied_of_release h

end Steps

end CrawlerApi.Worker.PolicyLife
