import CrawlerApi.Keys.Table

/-!
# Key generation, minting and rotation

The service trusts its caller: privilege checks live in the endpoint layer.
Random tokens, salts and row ids come from outside as a `Mint`, and the argon2
library as a `Hasher`.
-/

namespace CrawlerApi.Keys

open Errors

def scopeFetch : String := "fetch"
def scopeArchive : String := "archive"
def scopeAdmin : String := "admin"
def scopeKeys : String := "keys"

def allScopes : List String := [scopeFetch, scopeArchive, scopeAdmin, scopeKeys]

/-- `text[:count]`. -/
def firstChars (text : String) (count : Nat) : String :=
  String.ofList (text.toList.take count)

/-- The argon2 password hasher: a salted hash and its verification. -/
structure Hasher where
  hash : String → Nat → String
  verify : String → String → Bool

def Hasher.verifyApiKeyHash (hasher : Hasher) (rawKey storedHash : String) : Bool :=
  if storedHash = "" then false else hasher.verify storedHash rawKey

/-- One draw of `secrets.token_urlsafe(4)`, `secrets.token_urlsafe(28)` and of
the salt. -/
structure Draw where
  shortToken : String
  longToken : String
  salt : Nat

def generateApiKey (hasher : Hasher) (mode : String) (draw : Draw) : String × String :=
  let tag := if mode = "live" then "l" else "t"
  let rawKey := "crw" ++ tag ++ draw.shortToken ++ draw.longToken
  (rawKey, hasher.hash rawKey draw.salt)

/-- What one request draws from outside: the id and the creation time the
database fills in, and the tokens of its first and second attempt. -/
structure Mint where
  rowId : Uuid
  createdAt : Instant
  draw : Nat → Draw

namespace KeyService

/-- Arguments of `create_api_key`. -/
structure NewKey where
  applicationId : Uuid
  scopes : List String
  mode : String
  issuerKeyId : Option Uuid := none
  expiresAt : Option Instant := none

/-- The retry loop over `range(2)`: a taken prefix is retried once. -/
def createAttempts (hasher : Hasher) (db : Database) (mint : Mint) (new : NewKey) :
    List Nat → Database × Except RequestError (ApiKey × String)
  | [] => (db, .error (.api (conflictError "Key prefix collision — retry exhausted")))
  | attempt :: attempts =>
      let (rawKey, hashedKey) := generateApiKey hasher new.mode (mint.draw attempt)
      let keyPrefix := firstChars rawKey 8
      if (db.findPrefix keyPrefix).isSome then
        if attempt = 1 then (db, .error (.api (conflictError "Key prefix collision — retry")))
        else createAttempts hasher db mint new attempts
      else
        let row : ApiKey := {
          id := mint.rowId
          applicationId := new.applicationId
          keyPrefix := keyPrefix
          hashedKey := hashedKey
          scopes := new.scopes
          mode := new.mode
          expiresAt := new.expiresAt
          createdAt := mint.createdAt
          issuerKeyId := new.issuerKeyId }
        match db.insertKey row with
        | .error error => (db, .error error)
        | .ok next =>
            if rawKey = "" then
              (next, .error (.runtimeError "generate_api_key returned an empty raw key"))
            else (next, .ok (row, rawKey))

def createApiKey (hasher : Hasher) (db : Database) (mint : Mint) (new : NewKey) :
    Database × Except RequestError (ApiKey × String) :=
  match new.scopes.find? (· ∉ allScopes) with
  | some scope => (db, .error (.api (authorizationError s!"Invalid scope: {scope}")))
  | none => createAttempts hasher db mint new [0, 1]

/-- What a successful mint leaves: one new row with the requested application,
scopes and mode. -/
structure Minted (db next : Database) (new : NewKey) (row : ApiKey) (rawKey : String) : Prop where
  applications : next.applications = db.applications
  apiKeys : next.apiKeys = row :: db.apiKeys
  applicationId : row.applicationId = new.applicationId
  scopes : row.scopes = new.scopes
  mode : row.mode = new.mode
  keyPrefix : row.keyPrefix = firstChars rawKey 8

private theorem createAttempts_ok {hasher : Hasher} {db next : Database} {mint : Mint}
    {new : NewKey} {attempts : List Nat} {row : ApiKey} {rawKey : String}
    (h : createAttempts hasher db mint new attempts = (next, .ok (row, rawKey))) :
    Minted db next new row rawKey := by
  induction attempts with
  | nil => simp [createAttempts] at h
  | cons attempt attempts ih =>
      simp only [createAttempts] at h
      split at h
      · split at h
        · simp at h
        · exact ih h
      · split at h
        · simp at h
        · rename_i inserted hinsert
          split at h
          · simp at h
          · obtain ⟨happ, hkeys⟩ := Database.insertKey_ok hinsert
            simp only [Prod.mk.injEq, Except.ok.injEq] at h
            obtain ⟨rfl, rfl, rfl⟩ := h
            exact ⟨happ, hkeys, rfl, rfl, rfl, rfl⟩

theorem createApiKey_ok {hasher : Hasher} {db next : Database} {mint : Mint} {new : NewKey}
    {row : ApiKey} {rawKey : String}
    (h : createApiKey hasher db mint new = (next, .ok (row, rawKey))) :
    Minted db next new row rawKey := by
  unfold createApiKey at h
  split at h
  · simp at h
  · exact createAttempts_ok h

def rotationDraw (hasher : Hasher) (db : Database) (mint : Mint) (mode : String) :
    Except RequestError (String × String) :=
  let (rawKey, hashedKey) := generateApiKey hasher mode (mint.draw 0)
  if (db.findPrefix (firstChars rawKey 8)).isSome then
    let (rawKey, hashedKey) := generateApiKey hasher mode (mint.draw 1)
    if (db.findPrefix (firstChars rawKey 8)).isSome then
      .error (.api (conflictError "Key prefix collision — retry"))
    else .ok (rawKey, hashedKey)
  else .ok (rawKey, hashedKey)

/-- Mint a successor and set the old key's expiry in one transaction.  The
successor takes application, scopes and mode from the old key. -/
def rotateApiKey (hasher : Hasher) (db : Database) (mint : Mint) (now : Instant)
    (keyId issuerKeyId : Uuid) (overlapHours : Int) :
    Database × Except RequestError (ApiKey × String) :=
  match db.findKey keyId with
  | none => (db, .error (.api (notFoundError "API key not found")))
  | some oldKey =>
      if oldKey.revokedAt.isSome then
        (db, .error (.api (conflictError "Cannot rotate a revoked key")))
      else
        match rotationDraw hasher db mint oldKey.mode with
        | .error error => (db, .error error)
        | .ok (rawKey, hashedKey) =>
            let successor : ApiKey := {
              id := mint.rowId
              applicationId := oldKey.applicationId
              keyPrefix := firstChars rawKey 8
              hashedKey := hashedKey
              scopes := oldKey.scopes
              mode := oldKey.mode
              createdAt := mint.createdAt
              issuerKeyId := some issuerKeyId }
            match (db.setExpiry oldKey.id (now + overlapHours * 3600)).insertKey successor with
            | .error error => (db, .error error)
            | .ok next =>
                if rawKey = "" then
                  (next, .error (.runtimeError
                    "generate_api_key returned an empty raw key during rotation"))
                else (next, .ok (successor, rawKey))

/-- What a successful rotation leaves: the successor copies the rotated row's
application, scopes and mode, and the rotated row is not revoked. -/
structure Rotated (db next : Database) (keyId : Uuid) (oldKey successor : ApiKey) : Prop where
  found : db.findKey keyId = some oldKey
  notRevoked : oldKey.revokedAt = none
  applications : next.applications = db.applications
  applicationId : successor.applicationId = oldKey.applicationId
  scopes : successor.scopes = oldKey.scopes
  mode : successor.mode = oldKey.mode
  stored : successor ∈ next.apiKeys

theorem rotateApiKey_ok {hasher : Hasher} {db next : Database} {mint : Mint} {now : Instant}
    {keyId issuerKeyId : Uuid} {overlapHours : Int} {successor : ApiKey} {rawKey : String}
    (h : rotateApiKey hasher db mint now keyId issuerKeyId overlapHours =
      (next, .ok (successor, rawKey))) :
    ∃ oldKey, Rotated db next keyId oldKey successor := by
  unfold rotateApiKey at h
  split at h
  · simp at h
  · rename_i oldKey hfound
    split at h
    · simp at h
    · rename_i hrevoked
      split at h
      · simp at h
      · dsimp only at h
        split at h
        · simp at h
        · rename_i inserted hinsert
          split at h
          · simp at h
          · obtain ⟨happ, hkeys⟩ := Database.insertKey_ok hinsert
            simp only [Prod.mk.injEq, Except.ok.injEq] at h
            obtain ⟨rfl, rfl, -⟩ := h
            exact ⟨oldKey, hfound, by simpa using hrevoked, happ, rfl, rfl, rfl,
              by simp [hkeys]⟩

end KeyService

end CrawlerApi.Keys
