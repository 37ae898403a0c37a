import CrawlerApi.Keys.Endpoints

/-!
# The issuance policy along request sequences

`POST /v1/keys` enforces the whole policy.  Rotation enforces the
cross-application part only: the scopes of the rotated row and the state of its
application go into the successor unchecked.
-/

namespace CrawlerApi.Keys

open Errors Foundation

/-- What a caller may be handed: its own scopes only, the keys scope and other
applications' keys with admin only, and only for active applications. -/
structure IssuancePolicy (db : Database) (caller : ApiKey) (key : ApiKeyCreateResponse) :
    Prop where
  scopesHeld : ∀ scope ∈ key.scopes, scope ∈ caller.scopes
  keysGate : scopeKeys ∈ key.scopes → scopeAdmin ∈ caller.scopes
  crossApplication : key.applicationId ≠ caller.applicationId → scopeAdmin ∈ caller.scopes
  applicationActive : ∃ application ∈ db.applications,
    application.id = key.applicationId ∧ application.isActive

/-- The part of the policy rotation does not look at, read off the rotated row
as it stands before the request. -/
structure RotationCovered (db : Database) (caller target : ApiKey) : Prop where
  scopesHeld : ∀ scope ∈ target.scopes, scope ∈ caller.scopes
  keysGate : scopeKeys ∈ target.scopes → scopeAdmin ∈ caller.scopes
  applicationActive : ∃ application ∈ db.applications,
    application.id = target.applicationId ∧ application.isActive

section Steps

variable {hasher : Hasher} {db : Database} {mint : Mint} {apiKey : ApiKey}
  {response : ApiKeyCreateResponse}

theorem createApiKey_policy {body : ApiKeyCreate}
    (h : (AuthKeys.createApiKey hasher db mint body apiKey).2 = .ok response) :
    IssuancePolicy db apiKey response := by
  unfold AuthKeys.createApiKey at h
  split at h
  · cases h
  · split at h
    · cases h
    · rename_i hheld
      split at h
      · cases h
      · rename_i hkeys
        split at h
        · cases h
        · rename_i hcross
          split at h
          · cases h
          · rename_i application hfound
            split at h
            · rename_i hactive
              obtain ⟨next, row, rawKey, hmint, rfl⟩ := respond_ok h
              have minted := KeyService.createApiKey_ok hmint
              have hmem := Database.findApplication_mem hfound
              have hscopes : (ApiKeyCreateResponse.ofRow row rawKey).scopes = body.scopes :=
                minted.scopes
              have happ : (ApiKeyCreateResponse.ofRow row rawKey).applicationId =
                  body.applicationId := minted.applicationId
              constructor
              · rw [hscopes]
                exact fun scope hscope => not_not.mp hheld hscope
              · rw [hscopes]
                intro hscope
                by_contra hadmin
                exact hkeys ⟨hscope, hadmin⟩
              · rw [happ]
                intro hne
                by_contra hadmin
                exact hcross ⟨hne, hadmin⟩
              · rw [happ]
                exact ⟨application, hmem.1, hmem.2, hactive⟩
            · cases h

/-- A rotation that answers rotated an existing row, of the caller's application
unless the caller holds admin, and the answer copies that row. -/
theorem rotateApiKeyEndpoint_ok {overlapHours : Int} {now : Instant} {keyId : Uuid}
    (h : (AuthKeys.rotateApiKeyEndpoint hasher overlapHours db mint now keyId apiKey).2 =
      .ok response) :
    ∃ target, db.findKey keyId = some target ∧
      (apiKey.applicationId ≠ target.applicationId → scopeAdmin ∈ apiKey.scopes) ∧
      response.scopes = target.scopes ∧ response.applicationId = target.applicationId := by
  unfold AuthKeys.rotateApiKeyEndpoint at h
  split at h
  · cases h
  · rename_i target hfound
    split at h
    · cases h
    · rename_i hallowed
      obtain ⟨next, row, rawKey, hrotate, rfl⟩ := respond_ok h
      obtain ⟨oldKey, rotated⟩ := KeyService.rotateApiKey_ok hrotate
      have hsame : oldKey = target := Option.some.inj (rotated.found.symm.trans hfound)
      subst hsame
      refine ⟨oldKey, hfound, ?_, rotated.scopes, rotated.applicationId⟩
      intro hne
      by_contra hadmin
      exact hallowed ⟨hadmin, hne⟩

theorem rotation_policy_iff {overlapHours : Int} {now : Instant} {keyId : Uuid}
    (h : (AuthKeys.rotateApiKeyEndpoint hasher overlapHours db mint now keyId apiKey).2 =
      .ok response) :
    IssuancePolicy db apiKey response ↔
      ∀ target, db.findKey keyId = some target → RotationCovered db apiKey target := by
  obtain ⟨target, hfound, hcross, hscopes, happ⟩ := rotateApiKeyEndpoint_ok h
  constructor
  · intro policy other hother
    have hsame : target = other := Option.some.inj (hfound.symm.trans hother)
    subst hsame
    exact ⟨hscopes ▸ policy.scopesHeld, hscopes ▸ policy.keysGate,
      happ ▸ policy.applicationActive⟩
  · intro covered
    have hcovered := covered target hfound
    refine ⟨hscopes ▸ hcovered.scopesHeld, hscopes ▸ hcovered.keysGate, ?_,
      happ ▸ hcovered.applicationActive⟩
    intro hne
    exact hcross fun heq => hne (happ.trans heq.symm)

end Steps

/-- A served request that handed a raw key to an authenticated caller. -/
def Issued (deployment : Deployment) (served : Served Database Request Response)
    (apiKey : ApiKey) (key : ApiKeyCreateResponse) : Prop :=
  caller deployment served.before served.action = .ok apiKey ∧ served.output = .ok key

/-- The policy holds of every key a sequence of requests hands out exactly when
every rotation that answers was made on a row the caller is covered for. -/
theorem issuance_policy_iff (deployment : Deployment) (db : Database) (requests : List Request) :
    (∀ served ∈ transcript (serve deployment) db requests, ∀ apiKey key,
        Issued deployment served apiKey key → IssuancePolicy served.before apiKey key) ↔
      ∀ served ∈ transcript (serve deployment) db requests, ∀ apiKey key keyId,
        Issued deployment served apiKey key → served.action.call = .rotate keyId →
          ∀ target, served.before.findKey keyId = some target →
            RotationCovered served.before apiKey target := by
  have hstep : ∀ served ∈ transcript (serve deployment) db requests, ∀ apiKey key,
      Issued deployment served apiKey key →
        (IssuancePolicy served.before apiKey key ↔
          ∀ keyId, served.action.call = .rotate keyId →
            ∀ target, served.before.findKey keyId = some target →
              RotationCovered served.before apiKey target) := by
    intro served hmem apiKey key ⟨hcaller, houtput⟩
    rw [output_of_mem_transcript hmem] at houtput
    unfold serve at houtput
    rw [hcaller] at houtput
    cases hcall : served.action.call with
    | create body =>
        simp only [hcall] at houtput
        simp [createApiKey_policy houtput]
    | rotate keyId =>
        simp only [hcall] at houtput
        rw [rotation_policy_iff houtput]
        simp
  constructor
  · intro hpolicy served hmem apiKey key keyId hissued hcall
    exact (hstep served hmem apiKey key hissued).mp (hpolicy served hmem apiKey key hissued)
      keyId hcall
  · intro hcovered served hmem apiKey key hissued
    exact (hstep served hmem apiKey key hissued).mpr fun keyId hcall =>
      hcovered served hmem apiKey key keyId hissued hcall

/-! A keys-only key, minted by the operator itself, rotates the operator's key. -/

def sampleHasher : Hasher where
  hash rawKey _ := "$argon2id$" ++ rawKey
  verify storedHash rawKey := storedHash = "$argon2id$" ++ rawKey

def sampleMint (rowId : Uuid) (shortToken : String) : Mint where
  rowId := rowId
  createdAt := 0
  draw _ := ⟨shortToken, "0123456789abcdefghijklmnopqrstuvwxyzAB", 0⟩

def sampleTenant : Database where
  applications := [{ id := 1, tenantId := 1, name := "dev-app" }]
  apiKeys := []
  idUnique := List.nodup_nil
  prefixUnique := List.nodup_nil
  owned := by simp

def bootstrapped : Database :=
  (KeyService.createApiKey sampleHasher sampleTenant (sampleMint 1 "Oper-1")
    { applicationId := 1
      scopes := [scopeFetch, scopeArchive, scopeAdmin, scopeKeys]
      mode := "live" }).1

def escalation : List Request := [
  { xApiKey := "crwlOper-10123456789abcdefghijklmnopqrstuvwxyzAB"
    now := 10
    mint := sampleMint 2 "Keys-2"
    call := .create { applicationId := 1, scopes := [scopeKeys, scopeFetch] } },
  { xApiKey := "crwlKeys-20123456789abcdefghijklmnopqrstuvwxyzAB"
    now := 20
    mint := sampleMint 3 "Next-3"
    call := .rotate 1 }]

/-- The caller of the second request holds keys and fetch only and is handed a
raw key with admin. -/
theorem rotation_escalates :
    ¬ ∀ served ∈ transcript (serve ⟨sampleHasher, 24⟩) bootstrapped escalation,
      ∀ apiKey key, Issued ⟨sampleHasher, 24⟩ served apiKey key →
        IssuancePolicy served.before apiKey key := by
  intro hpolicy
  have hrotated := hpolicy _ (List.mem_cons_of_mem _ (List.mem_cons_self ..)) _ _ ⟨rfl, rfl⟩
  have hadmin := hrotated.scopesHeld scopeAdmin (by decide)
  exact absurd hadmin (by decide)

end CrawlerApi.Keys
