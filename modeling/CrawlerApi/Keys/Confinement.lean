import CrawlerApi.Foundation.Listing
import CrawlerApi.Keys.Authentication
import Mathlib.Data.Int.Order.Basic

/-!
# What other applications' keys do to an application's keys

Nothing: over every interleaving of requests made with keys of other applications that do not
hold admin, an application's keys authenticate as before and are listed as before.
-/

namespace CrawlerApi.Keys

open Errors Foundation

def Database.ownKeys (db : Database) (applicationId : Uuid) : List ApiKey :=
  db.apiKeys.filter (·.applicationId = applicationId)

/-- GET /v1/keys: the keys of the caller's application, rows of one instant in any order. -/
def ListsKeys (db : Database) (apiKey : ApiKey) (listing : List ApiKey) : Prop :=
  Arranges ApiKey.createdAt (db.ownKeys apiKey.applicationId) listing

namespace Requests

/-- A key that acts for other applications only. -/
def Foreign (applicationId : Uuid) (row : ApiKey) : Prop :=
  scopeAdmin ∉ row.scopes ∧ row.applicationId ≠ applicationId

instance (applicationId : Uuid) (row : ApiKey) : Decidable (Foreign applicationId row) :=
  inferInstanceAs (Decidable (_ ∧ _))

/-- No action on behalf of the application or of an admin. -/
def byOthers (deployment : Deployment) (applicationId : Uuid) (state : State) : Action → Bool
  | .request _ xApiKey _ =>
      match resolveApiKey deployment.hasher state.db state.clock xApiKey with
      | .ok row => decide (Foreign applicationId row)
      | .error _ => true
  | .bootstrap _ other => other ≠ applicationId
  | _ => true

def Elsewhere (applicationId : Uuid) (db : Database) (row : ApiKey) : Prop :=
  ∃ stored ∈ db.apiKeys, stored.id = row.id ∧ stored.applicationId ≠ applicationId

def Flight.Confined (applicationId : Uuid) (db : Database) : Flight → Prop
  | .authenticated apiKey _ => Foreign applicationId apiKey ∧ Elsewhere applicationId db apiKey
  | .creating new _ | .inserting new _ _ => new.applicationId ≠ applicationId
  | .rotating oldKey _ _ | .replacing oldKey _ _ _ _ =>
      oldKey.applicationId ≠ applicationId ∧ Elsewhere applicationId db oldKey
  | .revoking row => Elsewhere applicationId db row

section Flights

variable {db : Database} {applicationId : Uuid} {flight next : Flight}

theorem elsewhere_of_mem {row : ApiKey} (hmem : row ∈ db.apiKeys)
    (hother : row.applicationId ≠ applicationId) : Elsewhere applicationId db row :=
  ⟨row, hmem, rfl, hother⟩

theorem Elsewhere.all {row : ApiKey} (h : Elsewhere applicationId db row) :
    ∀ key ∈ db.apiKeys, key.id = row.id → key.applicationId ≠ applicationId := by
  intro key hkey hid
  obtain ⟨stored, hstored, hsame, hother⟩ := h
  have hrow : key = stored :=
    List.inj_on_of_nodup_map db.idUnique hkey hstored (hid.trans hsame.symm)
  exact hrow ▸ hother

theorem beginCreate_confined {new : KeyService.NewKey}
    (hnew : new.applicationId ≠ applicationId) (h : beginCreate new = .ok flight) :
    flight.Confined applicationId db := by
  unfold beginCreate at h
  split at h
  · cases h
  · cases h
    exact hnew

theorem sessionRow_elsewhere {apiKey row : ApiKey} {keyId : Uuid}
    (hkey : Elsewhere applicationId db apiKey) (hrow : row.applicationId ≠ applicationId)
    (h : sessionRow db apiKey keyId = some row) : Elsewhere applicationId db row := by
  unfold sessionRow at h
  split at h
  · cases h
    exact hkey
  · exact elsewhere_of_mem (Database.findKey_mem h).1 hrow

theorem reach_other {apiKey : ApiKey} {other : Uuid} (hforeign : Foreign applicationId apiKey)
    (h : ¬ (scopeAdmin ∉ apiKey.scopes ∧ apiKey.applicationId ≠ other)) :
    other ≠ applicationId := by
  have hsame : apiKey.applicationId = other :=
    Decidable.byContradiction fun hne => h ⟨hforeign.1, hne⟩
  exact hsame ▸ hforeign.2

theorem loadCreate_confined {apiKey : ApiKey} {body : ApiKeyCreate}
    (hforeign : Foreign applicationId apiKey) (h : loadCreate db apiKey body = .ok flight) :
    flight.Confined applicationId db := by
  unfold loadCreate at h
  split at h
  · cases h
  · split at h
    · cases h
    · split at h
      · cases h
      · split at h
        · cases h
        · rename_i hscope
          split at h
          · cases h
          · split at h
            · refine beginCreate_confined ?_ h
              exact reach_other hforeign fun hne => hscope ⟨fun heq => hne.2 heq.symm, hne.1⟩
            · cases h

theorem loadRotate_confined {apiKey : ApiKey} {keyId : Uuid}
    (hforeign : Foreign applicationId apiKey) (hkey : Elsewhere applicationId db apiKey)
    (h : loadRotate db apiKey keyId = .ok flight) : flight.Confined applicationId db := by
  unfold loadRotate at h
  split at h
  · cases h
  · rename_i target htarget
    split at h
    · cases h
    · rename_i hreach
      split at h
      · cases h
      · cases h
        have hother := reach_other hforeign hreach
        exact ⟨hother, sessionRow_elsewhere hkey hother htarget⟩

theorem loadRevoke_confined {apiKey : ApiKey} {keyId : Uuid}
    (hforeign : Foreign applicationId apiKey) (hkey : Elsewhere applicationId db apiKey)
    (h : loadRevoke db apiKey keyId = .ok flight) : flight.Confined applicationId db := by
  unfold loadRevoke at h
  split at h
  · cases h
  · split at h
    · cases h
    · rename_i row hrow
      split at h
      · cases h
      · rename_i hreach
        cases h
        exact sessionRow_elsewhere hkey (reach_other hforeign hreach) hrow

theorem load_confined {apiKey : ApiKey} {operation : Operation}
    (hforeign : Foreign applicationId apiKey) (hkey : Elsewhere applicationId db apiKey)
    (h : load db apiKey operation = some (.ok flight)) : flight.Confined applicationId db := by
  cases operation with
  | create body => exact loadCreate_confined hforeign (Option.some.inj h)
  | rotate keyId => exact loadRotate_confined hforeign hkey (Option.some.inj h)
  | revoke keyId => exact loadRevoke_confined hforeign hkey (Option.some.inj h)
  | other => cases h

theorem checkPrefix_confined {rawKey : String} {attempt : Nat} {again free : Flight}
    (hagain : again.Confined applicationId db) (hfree : free.Confined applicationId db)
    (h : checkPrefix db rawKey attempt again free = .ok flight) :
    flight.Confined applicationId db := by
  unfold checkPrefix at h
  split at h
  · split at h
    · cases h
    · cases h
      exact hagain
  · cases h
    exact hfree

theorem drawKey_confined {deployment : Deployment} {clock : Instant} {draw : Draw}
    (hflight : flight.Confined applicationId db)
    (h : drawKey deployment db clock draw flight = some (.ok next)) :
    next.Confined applicationId db := by
  cases flight with
  | creating new attempt =>
      refine checkPrefix_confined ?_ ?_ (Option.some.inj h)
      · exact hflight
      · exact hflight
  | rotating oldKey issuerKeyId attempt =>
      refine checkPrefix_confined ?_ ?_ (Option.some.inj h)
      · exact hflight
      · exact hflight
  | authenticated apiKey operation => cases h
  | inserting new rawKey hashedKey => cases h
  | replacing oldKey issuerKeyId expiry rawKey hashedKey => cases h
  | revoking row => cases h

end Flights

section Commits

variable {db next : Database} {applicationId : Uuid}

theorem ownKeys_change (keys : List ApiKey) (id : Uuid) (change : ApiKey → ApiKey)
    (hkeeps : ∀ key, (change key).applicationId = key.applicationId)
    (hother : ∀ key ∈ keys, key.id = id → key.applicationId ≠ applicationId) :
    (keys.map fun key => if key.id = id then change key else key).filter
        (·.applicationId = applicationId) =
      keys.filter (·.applicationId = applicationId) := by
  induction keys with
  | nil => rfl
  | cons key rest ih =>
      obtain ⟨hkey, hrest⟩ := List.forall_mem_cons.mp hother
      rw [List.map_cons]
      by_cases hid : key.id = id
      · rw [if_pos hid, List.filter_cons_of_neg (by simp [hkeeps, hkey hid]), ih hrest,
          List.filter_cons_of_neg (by simp [hkey hid])]
      · rw [if_neg hid, List.filter_cons, List.filter_cons, ih hrest]

theorem ownKeys_setExpiry {row : ApiKey} (expiry : Instant)
    (h : Elsewhere applicationId db row) :
    (db.setExpiry row.id expiry).ownKeys applicationId = db.ownKeys applicationId :=
  ownKeys_change db.apiKeys row.id (fun key => { key with expiresAt := some expiry })
    (fun _ => rfl) h.all

theorem ownKeys_setRevoked {row : ApiKey} (now : Instant) (h : Elsewhere applicationId db row) :
    (db.setRevoked row.id now).ownKeys applicationId = db.ownKeys applicationId :=
  ownKeys_change db.apiKeys row.id
    (fun key => { key with revokedAt := some now, isActive := false }) (fun _ => rfl) h.all

theorem ownKeys_insert {row : ApiKey} (hother : row.applicationId ≠ applicationId)
    (h : db.insertKey row = .ok next) : next.ownKeys applicationId = db.ownKeys applicationId := by
  unfold Database.ownKeys
  rw [(Database.insertKey_ok h).2, List.filter_cons_of_neg (by simp [hother])]

theorem commit_confined {flight : Flight} {clock : Instant} {rowId : Uuid} {event : Event}
    (hflight : flight.Confined applicationId db)
    (h : commit db clock rowId flight = some (.ok (next, event))) :
    next.ownKeys applicationId = db.ownKeys applicationId := by
  cases flight with
  | inserting new rawKey hashedKey =>
      simp only [commit, Option.some.injEq] at h
      split at h
      · cases h
      · rename_i inserted hinsert
        cases h
        have hother : (newRow new rawKey hashedKey rowId clock).applicationId ≠ applicationId :=
          hflight
        exact ownKeys_insert hother hinsert
  | replacing oldKey issuerKeyId expiry rawKey hashedKey =>
      simp only [commit, Option.some.injEq] at h
      split at h
      · split at h
        · cases h
        · rename_i inserted hinsert
          cases h
          have hother :
              (successorRow oldKey issuerKeyId rawKey hashedKey rowId clock).applicationId ≠
                applicationId := hflight.1
          exact (ownKeys_insert hother hinsert).trans (ownKeys_setExpiry expiry hflight.2)
      · cases h
  | revoking row =>
      simp only [commit, Option.some.injEq] at h
      split at h
      · cases h
        exact ownKeys_setRevoked clock hflight
      · cases h
  | authenticated apiKey operation => cases h
  | creating new attempt => cases h
  | rotating oldKey issuerKeyId attempt => cases h

end Commits

section Runs

variable {deployment : Deployment} {state : State} {applicationId : Uuid}

theorem RowStep.applicationId_eq {clock : Instant} {event : Event} {row kept : ApiKey}
    (h : RowStep clock event row kept) : kept.applicationId = row.applicationId := by
  cases h <;> rfl

/-- Rows stay where they are, so a confined request stays confined. -/
theorem Flight.Confined.step {flight : Flight} (deployment : Deployment)
    (h : flight.Confined applicationId state.db) (action : Action) :
    flight.Confined applicationId (step deployment state action).1.db := by
  have hkeeps : ∀ row, Elsewhere applicationId state.db row →
      Elsewhere applicationId (Requests.step deployment state action).1.db row := by
    rintro row ⟨stored, hstored, hid, hother⟩
    obtain ⟨kept, hkept, hrow⟩ := (step_effect deployment state action).row_kept hstored
    exact ⟨kept, hkept, hrow.id_eq.trans hid, hrow.applicationId_eq ▸ hother⟩
  cases flight with
  | authenticated apiKey operation => exact ⟨h.1, hkeeps _ h.2⟩
  | creating new attempt => exact h
  | inserting new rawKey hashedKey => exact h
  | rotating oldKey issuerKeyId attempt => exact ⟨h.1, hkeeps _ h.2⟩
  | replacing oldKey issuerKeyId expiry rawKey hashedKey => exact ⟨h.1, hkeeps _ h.2⟩
  | revoking row => exact hkeeps _ h

/-- What holds while only others act: the application's keys are those of the start. -/
structure Sealed (applicationId : Uuid) (own : List ApiKey) (state : State) : Prop where
  kept : state.db.ownKeys applicationId = own
  confined : ∀ handle flight, state.flights handle = some flight →
    flight.Confined applicationId state.db

variable {own : List ApiKey}

theorem Sealed.settle {handle : Nat} {flight : Option Flight} (h : Sealed applicationId own state)
    (hflight : ∀ settled, flight = some settled → settled.Confined applicationId state.db) :
    Sealed applicationId own (state.settle handle flight) where
  kept := h.kept
  confined := by
    intro other settled hsettled
    dsimp only [State.settle] at hsettled
    split at hsettled
    · exact hflight settled hsettled
    · exact h.confined other settled hsettled

theorem Sealed.over {handle : Nat} (h : Sealed applicationId own state) :
    Sealed applicationId own (state.settle handle none) := by
  apply h.settle
  intro settled hsettled
  cases hsettled

theorem Sealed.proceed {handle : Nat} {outcome : Option (Except RequestError Flight)}
    (h : Sealed applicationId own state)
    (houtcome : ∀ flight, outcome = some (.ok flight) → flight.Confined applicationId state.db) :
    Sealed applicationId own (state.proceed handle outcome).1 := by
  cases outcome with
  | none => exact h
  | some outcome =>
      cases outcome with
      | ok flight =>
          apply h.settle
          intro settled hsettled
          cases hsettled
          exact houtcome flight rfl
      | error error => exact h.over

theorem admitted_confined {row : ApiKey} {operation : Operation} {flight : Flight}
    (hforeign : Foreign applicationId row) (hrow : row ∈ state.db.apiKeys)
    (h : admitted row operation = some flight) : flight.Confined applicationId state.db := by
  unfold admitted at h
  split at h
  · cases h
  · split at h
    · cases h
      exact ⟨hforeign, elsewhere_of_mem hrow hforeign.2⟩
    · cases h

theorem sealed_step (h : Sealed applicationId own state) {action : Action}
    (hothers : byOthers deployment applicationId state action = true) :
    Sealed applicationId own (step deployment state action).1 := by
  cases action with
  | tick elapsed => exact ⟨h.kept, h.confined⟩
  | request handle xApiKey operation =>
      dsimp only [byOthers, step] at hothers ⊢
      split
      · rename_i row hrow
        rw [hrow] at hothers
        exact h.settle fun settled hsettled =>
          admitted_confined (of_decide_eq_true hothers) (resolveApiKey_mem hrow).1 hsettled
      · exact h.over
  | bootstrap handle other =>
      apply h.proceed
      intro flight hflight
      rw [Option.some.injEq] at hflight
      have hother : (bootstrapKey other).applicationId ≠ applicationId := of_decide_eq_true hothers
      exact beginCreate_confined hother hflight
  | load handle =>
      dsimp only [step]
      split
      · rename_i apiKey operation hflight
        obtain ⟨hforeign, hkey⟩ := h.confined handle _ hflight
        exact h.proceed fun flight hload => load_confined hforeign hkey hload
      · exact h
  | draw handle draw =>
      refine h.proceed fun flight hflight => ?_
      obtain ⟨before, hbefore, hdraw⟩ := Option.bind_eq_some_iff.mp hflight
      exact drawKey_confined (h.confined handle before hbefore) hdraw
  | commit handle rowId =>
      have hover : Sealed applicationId own (state.settle handle none) := h.over
      have hconfined : ∀ other flight, (state.settle handle none).flights other = some flight →
          flight.Confined applicationId (step deployment state (.commit handle rowId)).1.db := by
        intro other flight hflight
        have hbefore : flight.Confined applicationId state.db := hover.confined other flight hflight
        exact hbefore.step deployment (.commit handle rowId)
      dsimp only [step] at hconfined ⊢
      split
      · exact h
      · exact hover
      · rename_i next event hcommit
        rw [hcommit] at hconfined
        obtain ⟨flight, hflight, hcommit⟩ := Option.bind_eq_some_iff.mp hcommit
        exact ⟨(commit_confined (h.confined handle flight hflight) hcommit).trans h.kept, hconfined⟩

theorem sealed_run (h : Sealed applicationId own state) {actions : List Action}
    (hothers : ∀ served ∈ transcript (step deployment) state actions,
      byOthers deployment applicationId served.before served.action = true) :
    Sealed applicationId own (serveAll (step deployment) state actions) := by
  induction actions generalizing state with
  | nil => exact h
  | cons action actions ih =>
      obtain ⟨hfirst, hrest⟩ := List.forall_mem_cons.mp hothers
      exact ih (sealed_step h hfirst) hrest

/-- Which row a header authenticates is decided by the rows of the row's application. -/
theorem resolveApiKey_own {hasher : Hasher} {before after : Database} {now : Instant}
    {xApiKey : String} {row : ApiKey} (hown : after.ownKeys row.applicationId =
      before.ownKeys row.applicationId)
    (h : resolveApiKey hasher before now xApiKey = .ok row) :
    resolveApiKey hasher after now xApiKey = .ok row := by
  obtain ⟨hlength, hfind, hrevoked, hexpired, hverify⟩ := resolveApiKey_eq_ok.mp h
  have hrow := List.find?_some hfind
  simp only [decide_eq_true_eq] at hrow
  have hmem : row ∈ after.ownKeys row.applicationId := by
    rw [hown]
    exact List.mem_filter.mpr ⟨List.mem_of_find?_eq_some hfind, decide_eq_true rfl⟩
  refine resolveApiKey_eq_ok.mpr ⟨hlength, ?_, hrevoked, hexpired, hverify⟩
  rw [← hrow.1]
  exact Database.find_active (List.mem_of_mem_filter hmem) hrow.2

/-- An application's keys authenticate and are listed after any run of others' requests as they
were before it. -/
theorem keys_confined (deployment : Deployment) (db : Database) (clock : Instant)
    (actions : List Action) (applicationId : Uuid)
    (hothers : ∀ served ∈ transcript (step deployment) (.start db clock) actions,
      byOthers deployment applicationId served.before served.action = true) :
    let after := (serveAll (step deployment) (.start db clock) actions).db
    (∀ xApiKey now row, row.applicationId = applicationId →
      (resolveApiKey deployment.hasher after now xApiKey = .ok row ↔
        resolveApiKey deployment.hasher db now xApiKey = .ok row)) ∧
    (∀ apiKey listing, apiKey.applicationId = applicationId →
      (ListsKeys after apiKey listing ↔ ListsKeys db apiKey listing)) := by
  have hstart : Sealed applicationId (db.ownKeys applicationId) (.start db clock) :=
    ⟨rfl, fun handle flight hflight => by cases hflight⟩
  have hkept := (sealed_run hstart hothers).kept
  refine ⟨?_, ?_⟩
  · rintro xApiKey now row rfl
    exact ⟨resolveApiKey_own hkept.symm, resolveApiKey_own hkept⟩
  · rintro apiKey listing rfl
    unfold ListsKeys
    rw [hkept]

def teamKey : String := "crwlTeam-20123456789abcdefghijklmnopqrstuvwxyzAB"

def teamRow : ApiKey where
  id := 2
  applicationId := 2
  keyPrefix := "crwlTeam"
  hashedKey := "$argon2id$" ++ teamKey
  scopes := [scopeFetch, scopeKeys]
  mode := "live"
  createdAt := 0

def twoApplications : Database where
  applications := [{ id := 1, tenantId := 1, name := "dev-app" },
    { id := 2, tenantId := 1, name := "team-app" }]
  apiKeys := [operatorRow, teamRow]
  idUnique := by decide
  prefixUnique := by decide
  owned := by decide

def teamAtWork : List Action := [
  .request 0 teamKey (.create { applicationId := 2 }), .load 0,
  .draw 0 (sampleDraw "Keys-3" rfl), .request 1 teamKey (.revoke 1), .commit 0 3, .load 1,
  .request 0 teamKey (.revoke 3), .load 0, .commit 0 0, .commit 1 0]

theorem keys_confined_team :
    resolveApiKey sampleHasher
        (serveAll (step ⟨sampleHasher, 24⟩) (.start twoApplications 0) teamAtWork).db 5
        operatorKey = .ok operatorRow ↔
      resolveApiKey sampleHasher twoApplications 5 operatorKey = .ok operatorRow :=
  (keys_confined ⟨sampleHasher, 24⟩ twoApplications 0 teamAtWork 1 (by decide +kernel)).1
    operatorKey 5 operatorRow rfl

end Runs

end Requests

end CrawlerApi.Keys
