import CrawlerApi.Keys.Endpoints

/-!
# Key management, one await at a time

Requests are in flight together: each of their reads and their commit is a step
of its own.  What a request has read stays as it was, since a later SELECT in
the same session gives back the rows the session already holds.
-/

namespace CrawlerApi.Keys.Requests

open Errors Foundation

/-- A draw of the lengths `secrets.token_urlsafe(4)` and `secrets.token_urlsafe(28)` have. -/
structure UrlsafeDraw extends Draw where
  shortLength : shortToken.length = 6
  longLength : longToken.length = 38

inductive Operation where
  | create (body : ApiKeyCreate)
  | rotate (keyId : Uuid)
  | revoke (keyId : Uuid)
  /-- Any other endpoint behind `resolve_api_key`. -/
  | other

inductive Flight where
  | authenticated (apiKey : ApiKey) (operation : Operation)
  | creating (new : KeyService.NewKey) (attempt : Nat)
  | inserting (new : KeyService.NewKey) (rawKey hashedKey : String)
  | rotating (oldKey : ApiKey) (issuerKeyId : Uuid) (attempt : Nat)
  | replacing (oldKey : ApiKey) (issuerKeyId : Uuid) (expiry : Instant)
      (rawKey hashedKey : String)
  | revoking (row : ApiKey)

structure State where
  db : Database
  clock : Instant
  flights : Nat → Option Flight

def State.start (db : Database) (clock : Instant) : State where
  db := db
  clock := clock
  flights _ := none

inductive Event where
  | silent
  | authenticated (keyId : Uuid)
  | expired (keyId : Uuid)
  | failed (error : RequestError)
  | minted (keyId : Uuid) (rawKey : String) (predecessor : Option Uuid)
  | revoked (keyId : Uuid)
deriving DecidableEq

inductive Action where
  | tick (elapsed : Nat)
  | request (handle : Nat) (xApiKey : String) (operation : Operation)
  /-- `scripts/bootstrap_dev.py`: the service without an endpoint. -/
  | bootstrap (handle : Nat) (applicationId : Uuid)
  | load (handle : Nat)
  | draw (handle : Nat) (draw : UrlsafeDraw)
  | commit (handle : Nat) (rowId : Uuid)

section Reads

variable (hasher : Hasher)

/-- The row `resolve_api_key` finds. -/
def presented (db : Database) (xApiKey : String) : Option ApiKey :=
  db.apiKeys.find? fun row => row.keyPrefix = firstChars xApiKey 8 ∧ row.isActive

/-- How a rejection by `resolve_api_key` is seen from outside. -/
def rejected (db : Database) (xApiKey : String) (error : RequestError) : Event :=
  match presented db xApiKey with
  | some row => if error = .api keyExpiredError then .expired row.id else .failed error
  | none => .failed error

/-- What `require_scope` leaves in flight of an authenticated request. -/
def admitted (row : ApiKey) : Operation → Option Flight
  | .other => none
  | operation => if scopeKeys ∈ row.scopes then some (.authenticated row operation) else none

def beginCreate (new : KeyService.NewKey) : Except RequestError Flight :=
  match new.scopes.find? (· ∉ allScopes) with
  | some scope => .error (.api (authorizationError s!"Invalid scope: {scope}"))
  | none => .ok (.creating new 0)

def bootstrapKey (applicationId : Uuid) : KeyService.NewKey where
  applicationId := applicationId
  scopes := [scopeFetch, scopeArchive, scopeAdmin, scopeKeys]
  mode := "live"

def loadCreate (db : Database) (apiKey : ApiKey) (body : ApiKeyCreate) :
    Except RequestError Flight :=
  match body.scopes.find? (· ∉ allScopes) with
  | some scope => .error (.api (authorizationError s!"Invalid scope: {scope}"))
  | none =>
      if ¬ body.scopes ⊆ apiKey.scopes then
        .error (.api (authorizationError "Cannot grant scopes you do not hold"))
      else if scopeKeys ∈ body.scopes ∧ scopeAdmin ∉ apiKey.scopes then
        .error (.api (authorizationError "admin scope required to grant keys scope"))
      else if body.applicationId ≠ apiKey.applicationId ∧ scopeAdmin ∉ apiKey.scopes then
        .error (.api (authorizationError "Cannot issue keys for another application"))
      else
        match db.findApplication body.applicationId with
        | none => .error (.api (notFoundError "Application not found"))
        | some application =>
            if application.isActive then
              beginCreate {
                applicationId := body.applicationId
                scopes := body.scopes
                mode := body.mode
                issuerKeyId := some apiKey.id
                expiresAt := body.expiresAt }
            else .error (.api (authorizationError "Application is deactivated"))

def sessionRow (db : Database) (apiKey : ApiKey) (keyId : Uuid) : Option ApiKey :=
  if keyId = apiKey.id then some apiKey else db.findKey keyId

def loadRotate (db : Database) (apiKey : ApiKey) (keyId : Uuid) : Except RequestError Flight :=
  match sessionRow db apiKey keyId with
  | none => .error (.api (notFoundError "API key not found"))
  | some target =>
      if scopeAdmin ∉ apiKey.scopes ∧ apiKey.applicationId ≠ target.applicationId then
        .error (.api (notFoundError "API key not found"))
      else if target.revokedAt.isSome then
        .error (.api (conflictError "Cannot rotate a revoked key"))
      else .ok (.rotating target apiKey.id 0)

def loadRevoke (db : Database) (apiKey : ApiKey) (keyId : Uuid) : Except RequestError Flight :=
  if keyId = apiKey.id then
    .error (.api
      (authorizationError "Cannot revoke the key used to authenticate this request"))
  else
    match sessionRow db apiKey keyId with
    | none => .error (.api (notFoundError "API key not found"))
    | some row =>
        if scopeAdmin ∉ apiKey.scopes ∧ apiKey.applicationId ≠ row.applicationId then
          .error (.api (authorizationError "Cannot operate on another application's keys"))
        else .ok (.revoking row)

def load (db : Database) (apiKey : ApiKey) : Operation → Option (Except RequestError Flight)
  | .create body => some (loadCreate db apiKey body)
  | .rotate keyId => some (loadRotate db apiKey keyId)
  | .revoke keyId => some (loadRevoke db apiKey keyId)
  | .other => none

def checkPrefix (db : Database) (rawKey : String) (attempt : Nat) (again free : Flight) :
    Except RequestError Flight :=
  if (db.findPrefix (firstChars rawKey 8)).isSome then
    if attempt = 1 then .error (.api (conflictError "Key prefix collision — retry"))
    else .ok again
  else .ok free

def drawKey (deployment : Deployment) (db : Database) (clock : Instant) (draw : Draw) :
    Flight → Option (Except RequestError Flight)
  | .creating new attempt =>
      let (rawKey, hashedKey) := generateApiKey deployment.hasher new.mode draw
      some (checkPrefix db rawKey attempt (.creating new (attempt + 1))
        (.inserting new rawKey hashedKey))
  | .rotating oldKey issuerKeyId attempt =>
      let (rawKey, hashedKey) := generateApiKey deployment.hasher oldKey.mode draw
      some (checkPrefix db rawKey attempt (.rotating oldKey issuerKeyId (attempt + 1))
        (.replacing oldKey issuerKeyId (clock + deployment.keyRotationOverlapHours * 3600)
          rawKey hashedKey))
  | _ => none

end Reads

section Commits

/-- A key as `create_api_key` inserts it. -/
def newRow (new : KeyService.NewKey) (rawKey hashedKey : String) (rowId : Uuid)
    (createdAt : Instant) : ApiKey where
  id := rowId
  applicationId := new.applicationId
  keyPrefix := firstChars rawKey 8
  hashedKey := hashedKey
  scopes := new.scopes
  mode := new.mode
  expiresAt := new.expiresAt
  createdAt := createdAt
  issuerKeyId := new.issuerKeyId

def successorRow (oldKey : ApiKey) (issuerKeyId : Uuid) (rawKey hashedKey : String)
    (rowId : Uuid) (createdAt : Instant) : ApiKey where
  id := rowId
  applicationId := oldKey.applicationId
  keyPrefix := firstChars rawKey 8
  hashedKey := hashedKey
  scopes := oldKey.scopes
  mode := oldKey.mode
  createdAt := createdAt
  issuerKeyId := some issuerKeyId

def staleData : RequestError :=
  .runtimeError
    "UPDATE statement on table 'api_keys' expected to update 1 row(s); 0 were matched."

def commit (db : Database) (clock : Instant) (rowId : Uuid) :
    Flight → Option (Except RequestError (Database × Event))
  | .inserting new rawKey hashedKey =>
      some <|
        match db.insertKey (newRow new rawKey hashedKey rowId clock) with
        | .error error => .error error
        | .ok next => .ok (next, .minted rowId rawKey none)
  | .replacing oldKey issuerKeyId expiry rawKey hashedKey =>
      some <|
        if (db.findKey oldKey.id).isSome then
          match (db.setExpiry oldKey.id expiry).insertKey
            (successorRow oldKey issuerKeyId rawKey hashedKey rowId clock) with
          | .error error => .error error
          | .ok next => .ok (next, .minted rowId rawKey (some oldKey.id))
        else .error staleData
  | .revoking row =>
      some <|
        if (db.findKey row.id).isSome then .ok (db.setRevoked row.id clock, .revoked row.id)
        else .error staleData
  | _ => none

end Commits

/-- The request is where `flight` says, or over. -/
def State.settle (state : State) (handle : Nat) (flight : Option Flight) : State :=
  { state with flights := fun other => if other = handle then flight else state.flights other }

def State.proceed (state : State) (handle : Nat) :
    Option (Except RequestError Flight) → State × Event
  | none => (state, .silent)
  | some (.ok flight) => (state.settle handle (some flight), .silent)
  | some (.error error) => (state.settle handle none, .failed error)

def step (deployment : Deployment) (state : State) : Action → State × Event
  | .tick elapsed => ({ state with clock := state.clock + elapsed }, .silent)
  | .request handle xApiKey operation =>
      match resolveApiKey deployment.hasher state.db state.clock xApiKey with
      | .ok row => (state.settle handle (admitted row operation), .authenticated row.id)
      | .error error => (state.settle handle none, rejected state.db xApiKey error)
  | .bootstrap handle applicationId =>
      state.proceed handle (some (beginCreate (bootstrapKey applicationId)))
  | .load handle =>
      match state.flights handle with
      | some (.authenticated apiKey operation) =>
          state.proceed handle (load state.db apiKey operation)
      | _ => (state, .silent)
  | .draw handle draw =>
      state.proceed handle ((state.flights handle).bind
        (drawKey deployment state.db state.clock draw.toDraw))
  | .commit handle rowId =>
      match (state.flights handle).bind (commit state.db state.clock rowId) with
      | none => (state, .silent)
      | some (.error error) => (state.settle handle none, .failed error)
      | some (.ok (next, event)) => ({ state.settle handle none with db := next }, event)

section Effects

variable {deployment : Deployment} {state next : State} {action : Action} {handle : Nat}
  {event : Event}

@[simp] theorem settle_db (state : State) (handle : Nat) (flight : Option Flight) :
    (state.settle handle flight).db = state.db := rfl

@[simp] theorem settle_clock (state : State) (handle : Nat) (flight : Option Flight) :
    (state.settle handle flight).clock = state.clock := rfl

@[simp] theorem settle_flights (state : State) (handle : Nat) (flight : Option Flight) :
    (state.settle handle flight).flights handle = flight := if_pos rfl

@[simp] theorem settle_settle (state : State) (handle : Nat) (flight last : Option Flight) :
    (state.settle handle flight).settle handle last = state.settle handle last := by
  unfold State.settle
  congr 1
  funext other
  dsimp only
  split <;> rfl

inductive Effect (deployment : Deployment) (state : State) (action : Action) (next : State) :
    Event → Prop where
  | silent : next.db = state.db → state.clock ≤ next.clock →
      Effect deployment state action next .silent
  | failed {error : RequestError} : next.db = state.db → next.clock = state.clock →
      Effect deployment state action next (.failed error)
  | authenticated {xApiKey : String} {row : ApiKey} :
      resolveApiKey deployment.hasher state.db state.clock xApiKey = .ok row →
      next.db = state.db → next.clock = state.clock →
      Effect deployment state action next (.authenticated row.id)
  | expired {xApiKey : String} {row : ApiKey} :
      presented state.db xApiKey = some row →
      resolveApiKey deployment.hasher state.db state.clock xApiKey =
        .error (.api keyExpiredError) →
      next.db = state.db → next.clock = state.clock →
      Effect deployment state action next (.expired row.id)
  | created {handle : Nat} {new : KeyService.NewKey} {rawKey hashedKey : String} {rowId : Uuid} :
      state.flights handle = some (.inserting new rawKey hashedKey) →
      state.db.insertKey (newRow new rawKey hashedKey rowId state.clock) = .ok next.db →
      next.clock = state.clock →
      Effect deployment state action next (.minted rowId rawKey none)
  | replaced {handle : Nat} {oldKey : ApiKey} {issuerKeyId : Uuid} {expiry : Instant}
      {rawKey hashedKey : String} {rowId : Uuid} : action = .commit handle rowId →
      state.flights handle = some (.replacing oldKey issuerKeyId expiry rawKey hashedKey) →
      (state.db.findKey oldKey.id).isSome →
      (state.db.setExpiry oldKey.id expiry).insertKey
        (successorRow oldKey issuerKeyId rawKey hashedKey rowId state.clock) = .ok next.db →
      next.clock = state.clock →
      Effect deployment state action next (.minted rowId rawKey (some oldKey.id))
  | revoked {keyId : Uuid} : (state.db.findKey keyId).isSome →
      next.db = state.db.setRevoked keyId state.clock → next.clock = state.clock →
      Effect deployment state action next (.revoked keyId)

private theorem proceed_effect (outcome : Option (Except RequestError Flight)) :
    Effect deployment state action (state.proceed handle outcome).1
      (state.proceed handle outcome).2 := by
  cases outcome with
  | none => exact .silent rfl (Int.le_refl _)
  | some outcome =>
      cases outcome with
      | ok flight => exact .silent rfl (Int.le_refl _)
      | error error => exact .failed rfl rfl

private theorem rejected_effect {xApiKey : String} {error : RequestError}
    (h : resolveApiKey deployment.hasher state.db state.clock xApiKey = .error error) :
    Effect deployment state action (state.settle handle none)
      (rejected state.db xApiKey error) := by
  unfold rejected
  split
  · rename_i row hrow
    split
    · rename_i hexpired
      exact .expired hrow (hexpired ▸ h) rfl rfl
    · exact .failed rfl rfl
  · exact .failed rfl rfl

private theorem commit_effect {flight : Flight} {rowId : Uuid} {table : Database}
    (hflight : state.flights handle = some flight)
    (h : commit state.db state.clock rowId flight = some (.ok (table, event))) :
    Effect deployment state (.commit handle rowId)
      { state.settle handle none with db := table } event := by
  cases flight with
  | inserting new rawKey hashedKey =>
      simp only [commit, Option.some.injEq] at h
      split at h
      · cases h
      · rename_i inserted hinsert
        cases h
        exact .created hflight hinsert rfl
  | replacing oldKey issuerKeyId expiry rawKey hashedKey =>
      simp only [commit, Option.some.injEq] at h
      split at h
      · rename_i hfound
        split at h
        · cases h
        · rename_i inserted hinsert
          cases h
          exact .replaced rfl hflight hfound hinsert rfl
      · cases h
  | revoking row =>
      simp only [commit, Option.some.injEq] at h
      split at h
      · rename_i hfound
        cases h
        exact .revoked hfound rfl rfl
      · cases h
  | authenticated apiKey operation => cases h
  | creating new attempt => cases h
  | rotating oldKey issuerKeyId attempt => cases h

theorem step_effect (deployment : Deployment) (state : State) (action : Action) :
    Effect deployment state action (step deployment state action).1
      (step deployment state action).2 := by
  cases action with
  | tick elapsed => exact .silent rfl (Int.le_add_of_nonneg_right (Int.natCast_nonneg elapsed))
  | request handle xApiKey operation =>
      dsimp only [step]
      split
      · rename_i row hrow
        exact .authenticated hrow rfl rfl
      · rename_i error herror
        exact rejected_effect herror
  | bootstrap handle applicationId => exact proceed_effect _
  | load handle =>
      dsimp only [step]
      split
      · exact proceed_effect _
      · exact .silent rfl (Int.le_refl _)
  | draw handle draw => exact proceed_effect _
  | commit handle rowId =>
      dsimp only [step]
      split
      · exact .silent rfl (Int.le_refl _)
      · exact .failed rfl rfl
      · rename_i table event hcommit
        obtain ⟨flight, hflight, hcommit⟩ := Option.bind_eq_some_iff.mp hcommit
        exact commit_effect hflight hcommit

theorem Effect.clock_le (h : Effect deployment state action next event) :
    state.clock ≤ next.clock := by
  cases h with
  | silent _ hclock => exact hclock
  | failed _ hclock => exact Int.le_of_eq hclock.symm
  | authenticated _ _ hclock => exact Int.le_of_eq hclock.symm
  | expired _ _ _ hclock => exact Int.le_of_eq hclock.symm
  | created _ _ hclock => exact Int.le_of_eq hclock.symm
  | replaced _ _ _ _ hclock => exact Int.le_of_eq hclock.symm
  | revoked _ _ hclock => exact Int.le_of_eq hclock.symm

inductive RowStep (clock : Instant) (event : Event) (row : ApiKey) : ApiKey → Prop where
  | same : RowStep clock event row row
  | rotated {keyId : Uuid} {rawKey : String} (expiry : Instant) :
      event = .minted keyId rawKey (some row.id) →
      RowStep clock event row { row with expiresAt := some expiry }
  | revoked : event = .revoked row.id →
      RowStep clock event row { row with revokedAt := some clock, isActive := false }

theorem RowStep.id_eq {clock : Instant} {row kept : ApiKey} (h : RowStep clock event row kept) :
    kept.id = row.id := by
  cases h <;> rfl

theorem Effect.row_kept (h : Effect deployment state action next event) {row : ApiKey}
    (hmem : row ∈ state.db.apiKeys) :
    ∃ kept ∈ next.db.apiKeys, RowStep state.clock event row kept := by
  cases h with
  | silent hdb _ => exact ⟨row, hdb ▸ hmem, .same⟩
  | failed hdb _ => exact ⟨row, hdb ▸ hmem, .same⟩
  | authenticated _ hdb _ => exact ⟨row, hdb ▸ hmem, .same⟩
  | expired _ _ hdb _ => exact ⟨row, hdb ▸ hmem, .same⟩
  | created _ hinsert _ =>
      refine ⟨row, ?_, .same⟩
      rw [(Database.insertKey_ok hinsert).2]
      exact List.mem_cons_of_mem _ hmem
  | @replaced _ oldKey _ expiry _ _ _ _ _ _ hinsert _ =>
      rw [(Database.insertKey_ok hinsert).2]
      have hset := List.mem_map_of_mem (f := fun key : ApiKey =>
        if key.id = oldKey.id then { key with expiresAt := some expiry } else key) hmem
      refine ⟨_, List.mem_cons_of_mem _ hset, ?_⟩
      split
      · rename_i hid
        exact .rotated expiry (by rw [hid])
      · exact .same
  | @revoked keyId _ hdb _ =>
      have hset := List.mem_map_of_mem (f := fun key : ApiKey =>
        if key.id = keyId then { key with revokedAt := some state.clock, isActive := false }
        else key) hmem
      rw [hdb]
      refine ⟨_, hset, ?_⟩
      split
      · rename_i hid
        exact .revoked (by rw [hid])
      · exact .same

end Effects

def sampleDraw (shortToken : String) (h : shortToken.length = 6) : UrlsafeDraw where
  shortToken := shortToken
  longToken := "0123456789abcdefghijklmnopqrstuvwxyzAB"
  salt := 0
  shortLength := h
  longLength := rfl

def operatorKey : String := "crwlOper-10123456789abcdefghijklmnopqrstuvwxyzAB"

end CrawlerApi.Keys.Requests
