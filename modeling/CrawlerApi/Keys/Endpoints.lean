import CrawlerApi.Foundation.Run
import CrawlerApi.Keys.Service

/-!
# Authentication and the key-management endpoints

`serve` is one POST /v1/keys or POST /v1/keys/{id}/rotate request from header to
response.  A request that fails before its commit leaves the table as it was.
-/

namespace CrawlerApi.Keys

open Errors

section Authentication

variable (hasher : Hasher)

def resolveApiKey (db : Database) (now : Instant) (xApiKey : String) :
    Except RequestError ApiKey :=
  if xApiKey.length < 8 then .error (.api authenticationError)
  else
    match db.apiKeys.find? fun row => row.keyPrefix = firstChars xApiKey 8 ∧ row.isActive with
    | none => .error (.api authenticationError)
    | some row =>
        if row.revokedAt.isSome then .error (.api keyRevokedError)
        else if row.expiresAt.any (· < now) then .error (.api keyExpiredError)
        else if hasher.verifyApiKeyHash xApiKey row.hashedKey then .ok row
        else .error (.api authenticationError)

def requireScope (scope : String) (db : Database) (now : Instant) (xApiKey : String) :
    Except RequestError ApiKey :=
  match resolveApiKey hasher db now xApiKey with
  | .error error => .error error
  | .ok row =>
      if scope ∈ row.scopes then .ok row
      else .error (.api (scopeError s!"Scope '{scope}' required"))

variable {hasher}

theorem resolveApiKey_eq_ok {db : Database} {now : Instant} {xApiKey : String} {row : ApiKey} :
    resolveApiKey hasher db now xApiKey = .ok row ↔
      8 ≤ xApiKey.length ∧
      (db.apiKeys.find? fun row => row.keyPrefix = firstChars xApiKey 8 ∧ row.isActive) = some row ∧
      row.revokedAt = none ∧ row.expiresAt.any (· < now) = false ∧
      hasher.verifyApiKeyHash xApiKey row.hashedKey = true := by
  unfold resolveApiKey
  by_cases hlength : xApiKey.length < 8
  · simp [hlength, Nat.not_le.mpr hlength]
  · rw [if_neg hlength]
    cases db.apiKeys.find? fun row => row.keyPrefix = firstChars xApiKey 8 ∧ row.isActive with
    | none => simp
    | some found =>
        dsimp only
        constructor
        · intro h
          split at h
          · cases h
          · rename_i hrevoked
            split at h
            · cases h
            · rename_i hexpired
              split at h
              · rename_i hverify
                cases h
                exact ⟨Nat.le_of_not_lt hlength, rfl, by simpa using hrevoked,
                  by simpa using hexpired, hverify⟩
              · cases h
        · rintro ⟨-, hfound, hrevoked, hexpired, hverify⟩
          cases hfound
          simp [hrevoked, hexpired, hverify]

theorem resolveApiKey_mem {db : Database} {now : Instant} {xApiKey : String} {row : ApiKey}
    (h : resolveApiKey hasher db now xApiKey = .ok row) :
    row ∈ db.apiKeys ∧ row.isActive ∧ row.revokedAt = none := by
  obtain ⟨-, hfind, hrevoked, -, -⟩ := resolveApiKey_eq_ok.mp h
  have hactive := List.find?_some hfind
  simp only [decide_eq_true_eq] at hactive
  exact ⟨List.mem_of_find?_eq_some hfind, hactive.2, hrevoked⟩

theorem resolveApiKey_expired {db : Database} {now : Instant} {xApiKey : String} {row : ApiKey}
    (h : resolveApiKey hasher db now xApiKey = .error (.api keyExpiredError))
    (hfind : (db.apiKeys.find? fun row =>
      row.keyPrefix = firstChars xApiKey 8 ∧ row.isActive) = some row) :
    row.expiresAt.any (· < now) = true := by
  unfold resolveApiKey at h
  rw [hfind] at h
  dsimp only at h
  split at h
  · simp [authenticationError, keyExpiredError] at h
  · split at h
    · simp [keyRevokedError, keyExpiredError] at h
    · split at h
      · assumption
      · split at h
        · cases h
        · simp [authenticationError, keyExpiredError] at h

end Authentication

structure ApiKeyCreate where
  applicationId : Uuid
  scopes : List String := [scopeFetch]
  mode : String := "live"
  expiresAt : Option Instant := none

structure ApiKeyCreateResponse where
  id : Uuid
  keyPrefix : String
  scopes : List String
  mode : String
  createdAt : Instant
  lastUsedAt : Option Instant
  expiresAt : Option Instant
  revokedAt : Option Instant
  applicationId : Uuid
  rawKey : String
deriving DecidableEq

def ApiKeyCreateResponse.ofRow (row : ApiKey) (rawKey : String) : ApiKeyCreateResponse where
  id := row.id
  keyPrefix := row.keyPrefix
  scopes := row.scopes
  mode := row.mode
  createdAt := row.createdAt
  lastUsedAt := row.lastUsedAt
  expiresAt := row.expiresAt
  revokedAt := row.revokedAt
  applicationId := row.applicationId
  rawKey := rawKey

abbrev Response := Except RequestError ApiKeyCreateResponse

def respond : Database × Except RequestError (ApiKey × String) → Database × Response
  | (db, .error error) => (db, .error error)
  | (db, .ok (row, rawKey)) => (db, .ok (.ofRow row rawKey))

namespace AuthKeys

/-- POST /v1/keys: the checks in the order they are made, then the single
minting path. -/
def createApiKey (hasher : Hasher) (db : Database) (mint : Mint) (body : ApiKeyCreate)
    (apiKey : ApiKey) : Database × Response :=
  match body.scopes.find? (· ∉ allScopes) with
  | some scope => (db, .error (.api (authorizationError s!"Invalid scope: {scope}")))
  | none =>
      if ¬ body.scopes ⊆ apiKey.scopes then
        (db, .error (.api (authorizationError "Cannot grant scopes you do not hold")))
      else if scopeKeys ∈ body.scopes ∧ scopeAdmin ∉ apiKey.scopes then
        (db, .error (.api (authorizationError "admin scope required to grant keys scope")))
      else if body.applicationId ≠ apiKey.applicationId ∧ scopeAdmin ∉ apiKey.scopes then
        (db, .error (.api (authorizationError "Cannot issue keys for another application")))
      else
        match db.findApplication body.applicationId with
        | none => (db, .error (.api (notFoundError "Application not found")))
        | some application =>
            if application.isActive then
              respond (KeyService.createApiKey hasher db mint {
                applicationId := body.applicationId
                scopes := body.scopes
                mode := body.mode
                issuerKeyId := some apiKey.id
                expiresAt := body.expiresAt })
            else (db, .error (.api (authorizationError "Application is deactivated")))

/-- POST /v1/keys/{key_id}/rotate.  A key of another application is reported as
missing to a caller without admin; its scopes and its application's state are
not looked at. -/
def rotateApiKeyEndpoint (hasher : Hasher) (overlapHours : Int) (db : Database) (mint : Mint)
    (now : Instant) (keyId : Uuid) (apiKey : ApiKey) : Database × Response :=
  match db.findKey keyId with
  | none => (db, .error (.api (notFoundError "API key not found")))
  | some target =>
      if scopeAdmin ∉ apiKey.scopes ∧ apiKey.applicationId ≠ target.applicationId then
        (db, .error (.api (notFoundError "API key not found")))
      else
        respond (KeyService.rotateApiKey hasher db mint now keyId apiKey.id overlapHours)

end AuthKeys

inductive Call where
  | create (body : ApiKeyCreate)
  | rotate (keyId : Uuid)

structure Request where
  xApiKey : String
  now : Instant
  mint : Mint
  call : Call

/-- The deployment: the hasher and `key_rotation_overlap_hours`. -/
structure Deployment where
  hasher : Hasher
  keyRotationOverlapHours : Int := 24

/-- The key the dependency `require_scope(SCOPE_KEYS)` hands to the endpoint. -/
def caller (deployment : Deployment) (db : Database) (request : Request) :
    Except RequestError ApiKey :=
  requireScope deployment.hasher scopeKeys db request.now request.xApiKey

def serve (deployment : Deployment) (db : Database) (request : Request) : Database × Response :=
  match caller deployment db request with
  | .error error => (db, .error error)
  | .ok apiKey =>
      match request.call with
      | .create body => AuthKeys.createApiKey deployment.hasher db request.mint body apiKey
      | .rotate keyId =>
          AuthKeys.rotateApiKeyEndpoint deployment.hasher deployment.keyRotationOverlapHours db
            request.mint request.now keyId apiKey

theorem respond_ok {served : Database × Except RequestError (ApiKey × String)}
    {response : ApiKeyCreateResponse} (h : (respond served).2 = .ok response) :
    ∃ next row rawKey, served = (next, .ok (row, rawKey)) ∧ response = .ofRow row rawKey := by
  obtain ⟨next, outcome⟩ := served
  cases outcome with
  | error error => cases h
  | ok minted =>
      obtain ⟨row, rawKey⟩ := minted
      cases h
      exact ⟨next, row, rawKey, rfl, rfl⟩

end CrawlerApi.Keys
