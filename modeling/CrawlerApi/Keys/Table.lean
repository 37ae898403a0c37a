import CrawlerApi.Core.Errors
import Mathlib.Data.List.Nodup

/-!
# Applications and API keys as stored

`Database` carries the constraints the schema declares (primary key, unique
prefix, foreign key), so a table that violates one of them cannot be built.
-/

namespace CrawlerApi.Keys

open Errors

abbrev Uuid := Nat

abbrev Instant := Int

structure Application where
  id : Uuid
  tenantId : Uuid
  name : String
  isActive : Bool := true
  ownerLabel : Option String := none
deriving DecidableEq

structure ApiKey where
  id : Uuid
  applicationId : Uuid
  keyPrefix : String
  hashedKey : String
  scopes : List String
  mode : String
  isActive : Bool := true
  lastUsedAt : Option Instant := none
  expiresAt : Option Instant := none
  createdAt : Instant
  revokedAt : Option Instant := none
  issuerKeyId : Option Uuid := none
deriving DecidableEq

structure Database where
  applications : List Application
  apiKeys : List ApiKey
  idUnique : (apiKeys.map ApiKey.id).Nodup
  prefixUnique : (apiKeys.map ApiKey.keyPrefix).Nodup
  owned : ∀ key ∈ apiKeys, ∃ application ∈ applications, application.id = key.applicationId

namespace Database

def findApplication (db : Database) (id : Uuid) : Option Application :=
  db.applications.find? (·.id = id)

def findKey (db : Database) (id : Uuid) : Option ApiKey :=
  db.apiKeys.find? (·.id = id)

def findPrefix (db : Database) (keyPrefix : String) : Option ApiKey :=
  db.apiKeys.find? (·.keyPrefix = keyPrefix)

theorem findKey_mem {db : Database} {id : Uuid} {key : ApiKey}
    (h : db.findKey id = some key) : key ∈ db.apiKeys ∧ key.id = id :=
  ⟨List.mem_of_find?_eq_some h, by simpa using List.find?_some h⟩

theorem findApplication_mem {db : Database} {id : Uuid} {application : Application}
    (h : db.findApplication id = some application) :
    application ∈ db.applications ∧ application.id = id :=
  ⟨List.mem_of_find?_eq_some h, by simpa using List.find?_some h⟩

theorem findKey_eq_some {db : Database} {key : ApiKey} (h : key ∈ db.apiKeys) :
    db.findKey key.id = some key := by
  cases hfind : db.findKey key.id with
  | none => simpa using List.find?_eq_none.mp hfind key h
  | some found =>
      obtain ⟨hmem, hid⟩ := findKey_mem hfind
      exact congrArg some (List.inj_on_of_nodup_map db.idUnique hmem h hid)

theorem find_active {db : Database} {key : ApiKey} (h : key ∈ db.apiKeys)
    (hactive : key.isActive = true) :
    (db.apiKeys.find? fun row => row.keyPrefix = key.keyPrefix ∧ row.isActive) = some key := by
  cases hfind : db.apiKeys.find? fun row => row.keyPrefix = key.keyPrefix ∧ row.isActive with
  | none => simpa [hactive] using List.find?_eq_none.mp hfind key h
  | some found =>
      have hprefix := List.find?_some hfind
      simp only [decide_eq_true_eq] at hprefix
      exact congrArg some (List.inj_on_of_nodup_map db.prefixUnique
        (List.mem_of_find?_eq_some hfind) h hprefix.1)

def insertKey (db : Database) (row : ApiKey) : Except RequestError Database :=
  if h : row.id ∉ db.apiKeys.map ApiKey.id ∧
      row.keyPrefix ∉ db.apiKeys.map ApiKey.keyPrefix ∧
      ∃ application ∈ db.applications, application.id = row.applicationId then
    .ok {
      applications := db.applications
      apiKeys := row :: db.apiKeys
      idUnique := List.nodup_cons.mpr ⟨h.1, db.idUnique⟩
      prefixUnique := List.nodup_cons.mpr ⟨h.2.1, db.prefixUnique⟩
      owned := List.forall_mem_cons.mpr ⟨h.2.2, db.owned⟩ }
  else .error .integrityError

theorem insertKey_ok {db next : Database} {row : ApiKey} (h : db.insertKey row = .ok next) :
    next.applications = db.applications ∧ next.apiKeys = row :: db.apiKeys := by
  unfold insertKey at h
  split at h
  · cases h
    exact ⟨rfl, rfl⟩
  · cases h

private theorem map_change (keys : List ApiKey) (id : Uuid) (change : ApiKey → ApiKey)
    (field : ApiKey → β) (hfield : ∀ key, field (change key) = field key) :
    (keys.map fun key => if key.id = id then change key else key).map field =
      keys.map field := by
  rw [List.map_map]
  apply List.map_congr_left
  intro key _
  simp only [Function.comp_apply]
  split
  · exact hfield key
  · rfl

private theorem owned_change (db : Database) (id : Uuid) (change : ApiKey → ApiKey)
    (hfield : ∀ key, (change key).applicationId = key.applicationId) :
    ∀ key ∈ db.apiKeys.map fun key => if key.id = id then change key else key,
      ∃ application ∈ db.applications, application.id = key.applicationId := by
  intro key hkey
  have happ : key.applicationId ∈ db.apiKeys.map ApiKey.applicationId := by
    rw [← map_change db.apiKeys id change ApiKey.applicationId hfield]
    exact List.mem_map_of_mem hkey
  obtain ⟨old, hold, heq⟩ := List.mem_map.mp happ
  rw [← heq]
  exact db.owned old hold

/-- `UPDATE api_keys SET expires_at = … WHERE id = …`. -/
def setExpiry (db : Database) (id : Uuid) (expiry : Instant) : Database where
  applications := db.applications
  apiKeys := db.apiKeys.map fun key =>
    if key.id = id then { key with expiresAt := some expiry } else key
  idUnique := by
    rw [map_change db.apiKeys id (fun key => { key with expiresAt := some expiry })
      ApiKey.id fun _ => rfl]
    exact db.idUnique
  prefixUnique := by
    rw [map_change db.apiKeys id (fun key => { key with expiresAt := some expiry })
      ApiKey.keyPrefix fun _ => rfl]
    exact db.prefixUnique
  owned := owned_change db id (fun key => { key with expiresAt := some expiry }) fun _ => rfl

/-- `UPDATE api_keys SET revoked_at = …, is_active = false WHERE id = …`. -/
def setRevoked (db : Database) (id : Uuid) (now : Instant) : Database where
  applications := db.applications
  apiKeys := db.apiKeys.map fun key =>
    if key.id = id then { key with revokedAt := some now, isActive := false } else key
  idUnique := by
    rw [map_change db.apiKeys id (fun key => { key with revokedAt := some now, isActive := false })
      ApiKey.id fun _ => rfl]
    exact db.idUnique
  prefixUnique := by
    rw [map_change db.apiKeys id (fun key => { key with revokedAt := some now, isActive := false })
      ApiKey.keyPrefix fun _ => rfl]
    exact db.prefixUnique
  owned := owned_change db id
    (fun key => { key with revokedAt := some now, isActive := false }) fun _ => rfl

@[simp] theorem setExpiry_applications (db : Database) (id : Uuid) (expiry : Instant) :
    (db.setExpiry id expiry).applications = db.applications := rfl

theorem setExpiry_origin {db : Database} {id : Uuid} {expiry : Instant} {key : ApiKey}
    (h : key ∈ (db.setExpiry id expiry).apiKeys) : ∃ row ∈ db.apiKeys, row.id = key.id := by
  obtain ⟨row, hrow, rfl⟩ := List.mem_map.mp h
  refine ⟨row, hrow, ?_⟩
  split <;> rfl

theorem setRevoked_origin {db : Database} {id : Uuid} {now : Instant} {key : ApiKey}
    (h : key ∈ (db.setRevoked id now).apiKeys) : ∃ row ∈ db.apiKeys, row.id = key.id := by
  obtain ⟨row, hrow, rfl⟩ := List.mem_map.mp h
  refine ⟨row, hrow, ?_⟩
  split <;> rfl

theorem insertKey_fresh {db next : Database} {row : ApiKey} (h : db.insertKey row = .ok next) :
    row.keyPrefix ∉ db.apiKeys.map ApiKey.keyPrefix := by
  have hunique := next.prefixUnique
  rw [(insertKey_ok h).2, List.map_cons] at hunique
  exact (List.nodup_cons.mp hunique).1

theorem setExpiry_keyPrefixes (db : Database) (id : Uuid) (expiry : Instant) :
    (db.setExpiry id expiry).apiKeys.map ApiKey.keyPrefix = db.apiKeys.map ApiKey.keyPrefix :=
  map_change db.apiKeys id (fun key => { key with expiresAt := some expiry })
    ApiKey.keyPrefix fun _ => rfl

theorem setExpiry_unexpired (db : Database) (id : Uuid) (expiry : Instant) :
    (db.setExpiry id expiry).apiKeys.map (fun key => { key with expiresAt := none }) =
      db.apiKeys.map fun key => { key with expiresAt := none } :=
  map_change db.apiKeys id (fun key => { key with expiresAt := some expiry })
    (fun key => { key with expiresAt := none }) fun _ => rfl

theorem setRevoked_mem {db : Database} {row : ApiKey} {now : Instant} (h : row ∈ db.apiKeys) :
    { row with revokedAt := some now, isActive := false } ∈
      (db.setRevoked row.id now).apiKeys :=
  List.mem_map.mpr ⟨row, h, if_pos rfl⟩

end Database

end CrawlerApi.Keys
