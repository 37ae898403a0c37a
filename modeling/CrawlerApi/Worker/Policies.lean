import CrawlerApi.Core.NormalForm
import CrawlerApi.Fetch.Result
import CrawlerApi.Foundation.Keyed
import Mathlib.Data.Bool.AllAny

/-!
# Policies found again

`create_domain_policy` normalizes the domain, `upsert_policy` normalizes it again, and
`resolve_policy` looks under the domain normalized once.
-/

namespace CrawlerApi.Worker

open Keys Fetch Domains
open Foundation (upsertRows find_upsertRows nodup_upsertRows find_key_and)

inductive AntibotType where
  | none | cloudflare | akamai | datadome | kasada | perimeterx | incapsula | awsWaf
  | customSea | customCn
deriving DecidableEq, Repr

structure PolicyColumns where
  proxyPoolId : Option Uuid := Option.none
  engine : Engine := .httpx
  rateLimitRps : Rat := 1
  minDelayMs : Int := 500
  maxDelayMs : Int := 2000
  maxRetries : Int := 3
  respectRobots : Bool := true
  headerProfile : Option Headers := Option.none
  stickySession : Bool := false
  antibotType : Option AntibotType := Option.none
  proxyType : Option ProxyType := Option.none
  escalationTier : Int := 0
  tierLocked : Bool := false
  maxEscalationAttempts : Int := 12
deriving DecidableEq

structure DomainPolicyCreate extends PolicyColumns where
  domain : String
  domainLength : 3 ≤ domain.length ∧ domain.length ≤ 253
  rateLimitRange : 1 / 10 ≤ rateLimitRps ∧ rateLimitRps ≤ 100
  minDelayRange : 0 ≤ minDelayMs ∧ minDelayMs ≤ 60000
  maxDelayRange : 0 ≤ maxDelayMs ∧ maxDelayMs ≤ 60000
  maxRetriesRange : 0 ≤ maxRetries ∧ maxRetries ≤ 10
  escalationTierRange : 0 ≤ escalationTier ∧ escalationTier ≤ 6
  maxEscalationAttemptsRange : 1 ≤ maxEscalationAttempts ∧ maxEscalationAttempts ≤ 50

structure DomainPolicy extends PolicyColumns where
  id : Uuid
  domain : String
  useProxy : Bool := false
  proxyCountry : Option String := Option.none
  isActive : Bool := true
  lastSuccessAt : Option Instant := Option.none
  lastBlockReason : Option String := Option.none
  consecutiveBlocks : Int := 0
  createdAt : Instant
  updatedAt : Instant
deriving DecidableEq

/-- The policies, at most one for a domain, and the ids of the proxy pools. -/
structure PolicyTable where
  rows : List DomainPolicy
  pools : List Uuid
  domainUnique : (rows.map DomainPolicy.domain).Nodup

inductive PolicyFailure where
  | valueTooLong | foreignKey | noResultFound
deriving DecidableEq, Repr

/-- The `set_` of the upsert. -/
def DomainPolicy.assign (updates : PolicyColumns) (row : DomainPolicy) : DomainPolicy :=
  { row with toPolicyColumns := updates }

namespace PolicyTable

def select (table : PolicyTable) (domain : String) : Option DomainPolicy :=
  table.rows.find? (·.domain = domain)

def selectActive (table : PolicyTable) (domain : String) : Option DomainPolicy :=
  table.rows.find? fun row => row.domain = domain ∧ row.isActive

def upsert (table : PolicyTable) (updates : PolicyColumns) (fresh : DomainPolicy) :
    PolicyTable where
  rows := upsertRows DomainPolicy.domain (DomainPolicy.assign updates) fresh table.rows
  pools := table.pools
  domainUnique := nodup_upsertRows (fun _ => rfl) table.domainUnique

end PolicyTable

section Endpoint

variable (tables : TextTables) (registeredDomain : String → String) (id : Uuid) (now : Instant)
  (table : PolicyTable)

def insertedPolicy (domain : String) (updates : PolicyColumns) : DomainPolicy where
  toPolicyColumns := updates
  id := id
  domain := domain
  createdAt := now
  updatedAt := now

def upsertPolicy (domain : String) (updates : PolicyColumns) :
    Except PolicyFailure PolicyTable :=
  let domainNorm := normalizeDomain tables registeredDomain domain
  if 255 < domainNorm.length then .error .valueTooLong
  else if updates.proxyPoolId.any fun pool => pool ∉ table.pools then .error .foreignKey
  else .ok (table.upsert updates (insertedPolicy id now domainNorm updates))

/-- The table it leaves and the row it answers with. -/
def createDomainPolicy (body : DomainPolicyCreate) :
    Except PolicyFailure (PolicyTable × DomainPolicy) :=
  let domainNorm := normalizeDomain tables registeredDomain body.domain
  match upsertPolicy tables registeredDomain id now table domainNorm body.toPolicyColumns with
  | .error failure => .error failure
  | .ok after =>
      match after.select domainNorm with
      | none => .error .noResultFound
      | some row => .ok (after, row)

def resolvePolicy (url : String) : Except String (Option DomainPolicy) :=
  match parseHostname tables registeredDomain url with
  | .error message => .error message
  | .ok domain => .ok (table.selectActive domain)

def HasHost (url host : String) : Prop :=
  ∃ spelled, parsedHostname tables url = .ok (some spelled) ∧ tables.lower spelled = host

structure IsHostname (name : String) : Prop where
  text : IsHostText name
  ofUrl : ∃ url, HasHost tables url (tables.lower name)

structure Upserted (body : DomainPolicyCreate) (after : PolicyTable) (response : DomainPolicy) :
    Prop where
  stored : response ∈ after.rows
  domain : response.domain = normalizeDomain tables registeredDomain
    (normalizeDomain tables registeredDomain body.domain)
  columns : response.toPolicyColumns = body.toPolicyColumns

structure FoundAgain (body : DomainPolicyCreate) (after : PolicyTable) (response : DomainPolicy) :
    Prop where
  upserted : Upserted tables registeredDomain body after response
  resolved : ∀ url host, HasHost tables url host →
    host = tables.lower body.domain ∨ host = "www." ++ tables.lower body.domain →
    resolvePolicy tables registeredDomain after url = .ok (some response)

/-- The domain does not begin with `www.`, is not switched off, and is the one of `www.d`. -/
structure Findable (body : DomainPolicyCreate) : Prop where
  settled : ¬ BeginsWithWww (registeredOr registeredDomain (stripped tables body.domain))
  active : ∀ row ∈ table.rows,
    row.domain = normalizeDomain tables registeredDomain body.domain → row.isActive = true
  www : BeginsWithWww (tables.lower body.domain) →
    (∃ url, HasHost tables url ("www." ++ tables.lower body.domain)) →
    registeredDomain (tables.lower body.domain) ≠ "" ∧
      registeredDomain (tables.lower body.domain) = registeredDomain (stripped tables body.domain)

end Endpoint

namespace PolicyTable

variable {table : PolicyTable} {row fresh : DomainPolicy} {updates : PolicyColumns}
  {domain : String}

theorem select_upsert (domain : String) : (table.upsert updates fresh).select domain =
    if fresh.domain = domain then
      some (((table.select domain).map (DomainPolicy.assign updates)).getD fresh)
    else table.select domain :=
  @find_upsertRows _ _ _ _ (DomainPolicy.assign updates) _ _ (fun _ => rfl) domain

theorem selectActive_eq (table : PolicyTable) (domain : String) :
    table.selectActive domain = (table.select domain).filter (·.isActive) :=
  find_key_and table.domainUnique domain _

theorem mem_of_select (h : table.select domain = some row) : row ∈ table.rows ∧
    row.domain = domain :=
  ⟨List.mem_of_find?_eq_some h, by simpa using List.find?_some h⟩

theorem select_of_mem (hmem : row ∈ table.rows) (hdomain : row.domain = domain) :
    table.select domain = some row := by
  cases hselect : table.select domain with
  | none => exact absurd (decide_eq_true hdomain) (List.find?_eq_none.mp hselect row hmem)
  | some found =>
      obtain ⟨hfound, hsame⟩ := mem_of_select hselect
      exact congrArg some
        (List.inj_on_of_nodup_map table.domainUnique hfound hmem (hsame.trans hdomain.symm))

theorem selectActive_eq_some (h : table.select domain = some row) {other : String} :
    table.selectActive other = some row ↔ other = domain ∧ row.isActive = true := by
  rw [selectActive_eq, Option.filter_eq_some_iff]
  constructor
  · rintro ⟨hother, hactive⟩
    exact ⟨(mem_of_select hother).2.symm.trans (mem_of_select h).2, hactive⟩
  · rintro ⟨rfl, hactive⟩
    exact ⟨h, hactive⟩

end PolicyTable

section Creation

variable {tables : TextTables} {registeredDomain : String → String} {id : Uuid} {now : Instant}
  {table after : PolicyTable} {body : DomainPolicyCreate} {response : DomainPolicy}
  {url host domain : String} {updates : PolicyColumns}

theorem upsertPolicy_eq_ok
    (h : upsertPolicy tables registeredDomain id now table domain updates = .ok after) :
    after = table.upsert updates
      (insertedPolicy id now (normalizeDomain tables registeredDomain domain) updates) := by
  unfold upsertPolicy at h
  dsimp only at h
  split at h
  · cases h
  · split at h
    · cases h
    · exact (Except.ok.inj h).symm

theorem createDomainPolicy_eq_ok
    (h : createDomainPolicy tables registeredDomain id now table body = .ok (after, response)) :
    after = table.upsert body.toPolicyColumns (insertedPolicy id now
        (normalizeDomain tables registeredDomain
          (normalizeDomain tables registeredDomain body.domain)) body.toPolicyColumns) ∧
      after.select (normalizeDomain tables registeredDomain body.domain) = some response := by
  unfold createDomainPolicy at h
  dsimp only at h
  cases hupsert : upsertPolicy tables registeredDomain id now table
      (normalizeDomain tables registeredDomain body.domain) body.toPolicyColumns with
  | error failure =>
      rw [hupsert] at h
      cases h
  | ok written =>
      rw [hupsert] at h
      dsimp only at h
      cases hselect : written.select (normalizeDomain tables registeredDomain body.domain) with
      | none =>
          rw [hselect] at h
          cases h
      | some row =>
          rw [hselect] at h
          cases h
          exact ⟨upsertPolicy_eq_ok hupsert, hselect⟩

/-- A response that is not under the domain of the upsert was there before. -/
theorem normalized_of_upserted
    (hselect : after.select (normalizeDomain tables registeredDomain body.domain) = some response)
    (h : Upserted tables registeredDomain body after response) :
    normalizeDomain tables registeredDomain (normalizeDomain tables registeredDomain body.domain) =
      normalizeDomain tables registeredDomain body.domain :=
  h.domain.symm.trans (PolicyTable.mem_of_select hselect).2

theorem response_eq
    (hcreate : createDomainPolicy tables registeredDomain id now table body = .ok (after, response))
    (hnormal : normalizeDomain tables registeredDomain
        (normalizeDomain tables registeredDomain body.domain) =
      normalizeDomain tables registeredDomain body.domain) :
    ((table.select (normalizeDomain tables registeredDomain body.domain)).map
        (DomainPolicy.assign body.toPolicyColumns)).getD
      (insertedPolicy id now (normalizeDomain tables registeredDomain body.domain)
        body.toPolicyColumns) = response := by
  obtain ⟨hafter, hselect⟩ := createDomainPolicy_eq_ok hcreate
  rw [hnormal] at hafter
  rw [hafter, PolicyTable.select_upsert] at hselect
  exact Option.some.inj ((if_pos rfl).symm.trans hselect)

theorem upserted_of_normalized
    (hcreate : createDomainPolicy tables registeredDomain id now table body = .ok (after, response))
    (hnormal : normalizeDomain tables registeredDomain
        (normalizeDomain tables registeredDomain body.domain) =
      normalizeDomain tables registeredDomain body.domain) :
    Upserted tables registeredDomain body after response := by
  obtain ⟨hmem, hdomain⟩ := PolicyTable.mem_of_select (createDomainPolicy_eq_ok hcreate).2
  refine ⟨hmem, hdomain.trans hnormal.symm, ?_⟩
  rw [← response_eq hcreate hnormal]
  cases table.select (normalizeDomain tables registeredDomain body.domain) with
  | none => rfl
  | some row => rfl

theorem isActive_iff
    (hcreate : createDomainPolicy tables registeredDomain id now table body = .ok (after, response))
    (hnormal : normalizeDomain tables registeredDomain
        (normalizeDomain tables registeredDomain body.domain) =
      normalizeDomain tables registeredDomain body.domain) :
    response.isActive = true ↔ ∀ row ∈ table.rows,
      row.domain = normalizeDomain tables registeredDomain body.domain → row.isActive = true := by
  rw [← response_eq hcreate hnormal]
  cases hfound : table.select (normalizeDomain tables registeredDomain body.domain) with
  | none =>
      refine iff_of_true rfl fun row hmem hdomain => ?_
      rw [PolicyTable.select_of_mem hmem hdomain] at hfound
      cases hfound
  | some found =>
      obtain ⟨hmem, hdomain⟩ := PolicyTable.mem_of_select hfound
      constructor
      · intro hactive row hrow hsame
        rw [PolicyTable.select_of_mem hrow hsame] at hfound
        rw [Option.some.inj hfound]
        exact hactive
      · intro hall
        exact hall found hmem hdomain

theorem resolvePolicy_of_hasHost (hlowers : LowersHosts tables) (h : HasHost tables url host)
    (hnamed : host ≠ "") : resolvePolicy tables registeredDomain table url =
      .ok (table.selectActive (registeredOr registeredDomain (removePrefix "www." host))) := by
  obtain ⟨spelled, hparsed, rfl⟩ := h
  have hspelled : spelled ≠ "" := by
    rintro rfl
    exact hnamed (hlowers.fixed "" nofun)
  unfold resolvePolicy parseHostname
  rw [hparsed]
  dsimp only
  rw [Option.getD_some, if_neg hspelled]
  rfl

theorem lower_domain_ne (hlowers : LowersHosts tables) (body : DomainPolicyCreate) :
    tables.lower body.domain ≠ "" := by
  intro hlower
  have hlength := body.domainLength.1
  rw [hlowers.nonempty _ hlower] at hlength
  exact absurd hlength (by decide)

/-- The domains looked up for `d` and for `www.d` are the one of `d`. -/
theorem resolved_iff (hlowers : LowersHosts tables) (hregisters : Registers registeredDomain)
    (hname : IsHostname tables body.domain)
    (hselect : after.select (normalizeDomain tables registeredDomain body.domain) = some response) :
    (∀ url host, HasHost tables url host →
        host = tables.lower body.domain ∨ host = "www." ++ tables.lower body.domain →
        resolvePolicy tables registeredDomain after url = .ok (some response)) ↔
      response.isActive = true ∧
        (BeginsWithWww (tables.lower body.domain) →
          (∃ url, HasHost tables url ("www." ++ tables.lower body.domain)) →
          registeredDomain (tables.lower body.domain) ≠ "" ∧
            registeredDomain (tables.lower body.domain) =
              registeredDomain (stripped tables body.domain)) := by
  have hfound {url host : String} (hhost : HasHost tables url host) (hnamed : host ≠ "") :
      resolvePolicy tables registeredDomain after url = .ok (some response) ↔
        registeredOr registeredDomain (removePrefix "www." host) =
          normalizeDomain tables registeredDomain body.domain ∧ response.isActive = true := by
    rw [resolvePolicy_of_hasHost hlowers hhost hnamed, Except.ok.injEq,
      PolicyTable.selectActive_eq_some hselect]
  have hlower := lower_domain_ne hlowers body
  have hprefixed : "www." ++ tables.lower body.domain ≠ "" := by
    intro heq
    have hchars := congrArg String.toList heq
    rw [String.toList_append] at hchars
    cases hchars
  have htext : IsHostText (tables.lower body.domain) := hlowers.blank _ hname.text
  constructor
  · intro hresolved
    obtain ⟨url, hurl⟩ := hname.ofUrl
    refine ⟨((hfound hurl hlower).mp (hresolved url _ hurl (.inl rfl))).2, ?_⟩
    rintro hwww ⟨prefixed, hhost⟩
    have hsame := ((hfound hhost hprefixed).mp (hresolved prefixed _ hhost (.inr rfl))).1
    rw [removePrefix_append] at hsame
    exact (registeredOr_removePrefix_iff hregisters htext hwww).mp hsame
  · rintro ⟨hactive, hwww⟩ url host hhost (rfl | rfl)
    · exact (hfound hhost hlower).mpr ⟨rfl, hactive⟩
    · refine (hfound hhost hprefixed).mpr ⟨?_, hactive⟩
      rw [removePrefix_append]
      by_cases hbegins : BeginsWithWww (tables.lower body.domain)
      · exact (registeredOr_removePrefix_iff hregisters htext hbegins).mpr
          (hwww hbegins ⟨url, hhost⟩)
      · rw [normalizeDomain_eq]
        unfold stripped
        rw [removePrefix_of_not_begins hbegins]

end Creation

/-- Normalizing is idempotent on a host exactly if its domain does not begin with `www.`, and
a policy that was created is found again exactly if it is findable. -/
theorem policies_found_again_iff {tables : TextTables} {registeredDomain : String → String}
    (hlowers : LowersHosts tables) (hregisters : Registers registeredDomain) :
    (∀ hostname, IsHostText hostname →
      (normalizeDomain tables registeredDomain (normalizeDomain tables registeredDomain hostname) =
          normalizeDomain tables registeredDomain hostname ↔
        ¬ BeginsWithWww (registeredOr registeredDomain (stripped tables hostname)))) ∧
    ∀ id now table body after response, IsHostname tables body.domain →
      createDomainPolicy tables registeredDomain id now table body = .ok (after, response) →
      (FoundAgain tables registeredDomain body after response ↔
        Findable tables registeredDomain table body) := by
  refine ⟨fun hostname => normalizeDomain_idempotent_iff hlowers hregisters, ?_⟩
  intro id now table body after response hname hcreate
  obtain ⟨-, hselect⟩ := createDomainPolicy_eq_ok hcreate
  have hresolved := resolved_iff hlowers hregisters hname hselect
  have hnormal := normalizeDomain_idempotent_iff hlowers hregisters hname.text
  constructor
  · intro hfound
    have hsettled := normalized_of_upserted hselect hfound.upserted
    obtain ⟨hactive, hwww⟩ := hresolved.mp hfound.resolved
    exact ⟨hnormal.mp hsettled, (isActive_iff hcreate hsettled).mp hactive, hwww⟩
  · intro hfindable
    have hsettled := hnormal.mpr hfindable.settled
    exact ⟨upserted_of_normalized hcreate hsettled,
      hresolved.mpr ⟨(isActive_iff hcreate hsettled).mpr hfindable.active, hfindable.www⟩⟩

/-! ### A policy found again and one lost -/

def emptyPolicies : PolicyTable := ⟨[], [], List.nodup_nil⟩

def plainPolicy (domain : String) (h : 3 ≤ domain.length ∧ domain.length ≤ 253) :
    DomainPolicyCreate where
  domain := domain
  domainLength := h
  rateLimitRange := by decide +kernel
  minDelayRange := by decide
  maxDelayRange := by decide
  maxRetriesRange := by decide
  escalationTierRange := by decide
  maxEscalationAttemptsRange := by decide

def exampleRegistry : String → String :=
  registryOf ["example.com", "www.example.com", "www.www.example.com"] "example.com"

/-- `gov.uk` is a public suffix, so `www` is the registered name of `www.gov.uk`. -/
def govRegistry : String → String := registryOf ["a.www.gov.uk", "www.gov.uk"] "www.gov.uk"

theorem createPlain_eq {registeredDomain : String → String} {domain normal again : String}
    {h : 3 ≤ domain.length ∧ domain.length ≤ 253}
    (hnormal : normalizeDomain asciiTables registeredDomain domain = normal)
    (hagain : normalizeDomain asciiTables registeredDomain normal = again)
    (hlength : again.length ≤ 255) :
    createDomainPolicy asciiTables registeredDomain 1 0 emptyPolicies (plainPolicy domain h) =
      if again = normal then
        .ok (emptyPolicies.upsert {} (insertedPolicy 1 0 again {}), insertedPolicy 1 0 again {})
      else .error .noResultFound := by
  have hupsert : upsertPolicy asciiTables registeredDomain 1 0 emptyPolicies normal {} =
      .ok (emptyPolicies.upsert {} (insertedPolicy 1 0 again {})) := by
    unfold upsertPolicy
    dsimp only
    rw [hagain, if_neg (Nat.not_lt.mpr hlength)]
    rfl
  have hselect : (emptyPolicies.upsert {} (insertedPolicy 1 0 again {})).select normal =
      if again = normal then some (insertedPolicy 1 0 again {}) else none :=
    PolicyTable.select_upsert normal
  unfold createDomainPolicy
  dsimp only [plainPolicy]
  rw [hnormal, hupsert]
  dsimp only
  rw [hselect]
  by_cases hsame : again = normal
  · rw [if_pos hsame, if_pos hsame]
  · rw [if_neg hsame, if_neg hsame]

/-- `www.example.com` is under `example.com`, and found there for `www.www.example.com`. -/
theorem example_found_again :
    normalizeDomain asciiTables exampleRegistry
        (normalizeDomain asciiTables exampleRegistry "www.example.com") =
          normalizeDomain asciiTables exampleRegistry "www.example.com" ∧
      FoundAgain asciiTables exampleRegistry (plainPolicy "www.example.com" (by decide))
        (emptyPolicies.upsert {} (insertedPolicy 1 0 "example.com" {}))
        (insertedPolicy 1 0 "example.com" {}) := by
  have hregisters : Registers exampleRegistry :=
    registers_registryOf (by decide) (by decide) (by decide)
  have htext : IsHostText "www.example.com" := List.all_iff_forall_prop.mp (by decide)
  have hname : IsHostname asciiTables "www.example.com" :=
    ⟨htext, "http://www.example.com/", "www.example.com", by decide +kernel, by decide +kernel⟩
  have hsettled : ¬ BeginsWithWww
      (registeredOr exampleRegistry (stripped asciiTables "www.example.com")) := by
    decide +kernel
  have hwww : exampleRegistry (asciiTables.lower "www.example.com") ≠ "" ∧
      exampleRegistry (asciiTables.lower "www.example.com") =
        exampleRegistry (stripped asciiTables "www.example.com") := by
    decide +kernel
  have hcreate := @createPlain_eq exampleRegistry "www.example.com" "example.com" "example.com"
    (by decide) (by decide +kernel) (by decide +kernel) (by decide)
  rw [if_pos rfl] at hcreate
  have hagain := policies_found_again_iff lowersHosts_asciiTables hregisters
  refine ⟨(hagain.1 "www.example.com" htext).mpr hsettled, ?_⟩
  refine (hagain.2 1 0 emptyPolicies (plainPolicy "www.example.com" (by decide)) _ _ hname
    hcreate).mpr ?_
  exact ⟨hsettled, fun _ hmem => absurd hmem List.not_mem_nil, fun _ _ => hwww⟩

/-- `a.www.gov.uk` loses its policy at once, and `www.gov.uk` for its `www.` name. -/
theorem gov_uk_not_found :
    normalizeDomain asciiTables govRegistry (normalizeDomain asciiTables govRegistry
        "a.www.gov.uk") ≠ normalizeDomain asciiTables govRegistry "a.www.gov.uk" ∧
      createDomainPolicy asciiTables govRegistry 1 0 emptyPolicies
        (plainPolicy "a.www.gov.uk" (by decide)) = .error .noResultFound ∧
      ∃ after response,
        createDomainPolicy asciiTables govRegistry 1 0 emptyPolicies
            (plainPolicy "www.gov.uk" (by decide)) = .ok (after, response) ∧
          HasHost asciiTables "http://www.www.gov.uk/" ("www." ++ asciiTables.lower "www.gov.uk") ∧
          resolvePolicy asciiTables govRegistry after "http://www.www.gov.uk/" = .ok none := by
  have hlost := @createPlain_eq govRegistry "a.www.gov.uk" "www.gov.uk" "gov.uk"
    (by decide) (by decide +kernel) (by decide +kernel) (by decide)
  have hcreate := @createPlain_eq govRegistry "www.gov.uk" "gov.uk" "gov.uk"
    (by decide) (by decide +kernel) (by decide +kernel) (by decide)
  have hdomain : parseHostname asciiTables govRegistry "http://www.www.gov.uk/" =
      .ok "www.gov.uk" := by
    decide +kernel
  rw [if_neg (by decide)] at hlost
  rw [if_pos rfl] at hcreate
  have hlower : asciiTables.lower "www.www.gov.uk" = "www." ++ asciiTables.lower "www.gov.uk" := by
    rw [← String.toList_inj, String.toList_append, toList_lower_asciiTables,
      toList_lower_asciiTables]
    decide
  have hparsed : parsedHostname asciiTables "http://www.www.gov.uk/" =
      .ok (some "www.www.gov.uk") := by
    decide +kernel
  refine ⟨by decide +kernel, hlost, _, _, hcreate, ⟨_, hparsed, hlower⟩, ?_⟩
  unfold resolvePolicy
  rw [hdomain]
  dsimp only
  rw [PolicyTable.selectActive_eq, PolicyTable.select_upsert, insertedPolicy, if_neg (by decide)]
  rfl

end CrawlerApi.Worker
