import CrawlerApi.Foundation.Listing
import CrawlerApi.Foundation.Run
import CrawlerApi.Keys.Endpoints
import Mathlib.Data.Int.Order.Basic
import Mathlib.Data.Prod.Lex

/-!
# The directory of tenants and applications

The rows with the constraints the schema declares, the endpoints that add and change them, one
await at a time, and the listings that are read page by page meanwhile.
-/

namespace CrawlerApi.Keys.Directory

open Errors Foundation

structure Tenant where
  id : Uuid
  name : String
  isActive : Bool := true
  createdAt : Instant
deriving DecidableEq

/-- A row of `applications` with the column its listing is ordered by. -/
structure ApplicationRow extends Application where
  createdAt : Instant
deriving DecidableEq

/-- `order_by(created_at.desc(), id.desc())` -/
abbrev OrderKey := Instant ×ₗ Uuid

def Tenant.key (row : Tenant) : OrderKey := toLex (row.createdAt, row.id)

def ApplicationRow.key (row : ApplicationRow) : OrderKey := toLex (row.createdAt, row.id)

/-- The columns of `uq_application_tenant_name`. -/
def ApplicationRow.tenantName (row : ApplicationRow) : Uuid × String := (row.tenantId, row.name)

structure Tables where
  tenants : List Tenant
  applications : List ApplicationRow
  tenantIds : (tenants.map Tenant.id).Nodup
  tenantNames : (tenants.map Tenant.name).Nodup
  applicationIds : (applications.map (·.id)).Nodup
  applicationNames : (applications.map ApplicationRow.tenantName).Nodup
  owned : ∀ row ∈ applications, ∃ tenant ∈ tenants, tenant.id = row.tenantId

namespace Tables

def findTenant (tables : Tables) (id : Uuid) : Option Tenant :=
  tables.tenants.find? (·.id = id)

def findApplication (tables : Tables) (id : Uuid) : Option ApplicationRow :=
  tables.applications.find? (·.id = id)

def insertTenant (tables : Tables) (row : Tenant) : Except RequestError Tables :=
  if h : row.id ∉ tables.tenants.map Tenant.id ∧ row.name ∉ tables.tenants.map Tenant.name then
    .ok { tables with
      tenants := row :: tables.tenants
      tenantIds := List.nodup_cons.mpr ⟨h.1, tables.tenantIds⟩
      tenantNames := List.nodup_cons.mpr ⟨h.2, tables.tenantNames⟩
      owned := fun application happlication =>
        have ⟨tenant, htenant, hid⟩ := tables.owned application happlication
        ⟨tenant, List.mem_cons_of_mem _ htenant, hid⟩ }
  else .error .integrityError

def insertApplication (tables : Tables) (row : ApplicationRow) : Except RequestError Tables :=
  if h : row.id ∉ tables.applications.map (·.id) ∧
      row.tenantName ∉ tables.applications.map ApplicationRow.tenantName ∧
      ∃ tenant ∈ tables.tenants, tenant.id = row.tenantId then
    .ok { tables with
      applications := row :: tables.applications
      applicationIds := List.nodup_cons.mpr ⟨h.1, tables.applicationIds⟩
      applicationNames := List.nodup_cons.mpr ⟨h.2.1, tables.applicationNames⟩
      owned := List.forall_mem_cons.mpr ⟨h.2.2, tables.owned⟩ }
  else .error .integrityError

end Tables

structure ApplicationUpdate where
  name : Option String := none
  ownerLabel : Option String := none
  isActive : Option Bool := none
deriving DecidableEq

/-- The columns an UPDATE sets: those the session has given a value they did not have. -/
def ApplicationUpdate.changes (body : ApplicationUpdate) (loaded : Application) :
    ApplicationUpdate where
  name := body.name.filter (· ≠ loaded.name)
  ownerLabel := body.ownerLabel.filter (some · ≠ loaded.ownerLabel)
  isActive := body.isActive.filter (· ≠ loaded.isActive)

def ApplicationUpdate.isEmpty (body : ApplicationUpdate) : Bool :=
  body.name.isNone && body.ownerLabel.isNone && body.isActive.isNone

def ApplicationRow.set (row : ApplicationRow) (columns : ApplicationUpdate) : ApplicationRow :=
  { row with
    name := columns.name.getD row.name
    ownerLabel := columns.ownerLabel.or row.ownerLabel
    isActive := columns.isActive.getD row.isActive }

namespace Tables

/-- `UPDATE applications SET … WHERE id = …`. -/
def updated (tables : Tables) (id : Uuid) (columns : ApplicationUpdate) : List ApplicationRow :=
  tables.applications.map fun row => if row.id = id then row.set columns else row

theorem updated_map {field : ApplicationRow → β} (tables : Tables) (id : Uuid)
    (columns : ApplicationUpdate) (hfield : ∀ row, field (row.set columns) = field row) :
    (tables.updated id columns).map field = tables.applications.map field := by
  unfold updated
  rw [List.map_map]
  apply List.map_congr_left
  intro row _
  simp only [Function.comp_apply]
  split
  · exact hfield row
  · rfl

def updateApplication (tables : Tables) (id : Uuid) (columns : ApplicationUpdate) :
    Except RequestError Tables :=
  if (tables.findApplication id).isNone then
    .error (.runtimeError
      "UPDATE statement on table 'applications' expected to update 1 row(s); 0 were matched.")
  else if h : ((tables.updated id columns).map ApplicationRow.tenantName).Nodup then
    .ok { tables with
      applications := tables.updated id columns
      applicationIds := by
        rw [tables.updated_map id columns fun _ => rfl]
        exact tables.applicationIds
      applicationNames := h
      owned := by
        intro row hrow
        have hid : row.tenantId ∈ tables.applications.map (·.tenantId) := by
          rw [← tables.updated_map id columns fun _ => rfl]
          exact List.mem_map_of_mem hrow
        obtain ⟨old, hold, heq⟩ := List.mem_map.mp hid
        rw [← heq]
        exact tables.owned old hold }
  else .error .integrityError

end Tables

/-! ### The endpoints that write -/

inductive Operation where
  | createTenant (name : String)
  /-- POST /projects/: a tenant under another name. -/
  | createProject (name : String)
  | createApplication (tenantId : Uuid) (name : String)
  | updateApplication (appId : Uuid) (body : ApplicationUpdate)

inductive Flight where
  | admitted (operation : Operation)
  | namingApplication (tenantId : Uuid) (name : String)
  | renamingApplication (row : ApplicationRow) (body : ApplicationUpdate)
  | addingTenant (name : String)
  | addingApplication (tenantId : Uuid) (name : String)
  | saving (row : ApplicationRow) (body : ApplicationUpdate)
  | refreshingTenant (id : Uuid)
  | refreshingApplication (id : Uuid)

structure State where
  tables : Tables
  flights : Nat → Option Flight

inductive Reply where
  | tenant (row : Tenant)
  | application (row : ApplicationRow)

inductive Event where
  | silent
  | failed (error : RequestError)
  | answered (reply : Reply)

inductive Action where
  | request (handle : Nat) (apiKey : ApiKey) (operation : Operation)
  | select (handle : Nat)
  | commit (handle : Nat) (rowId : Uuid) (now : Instant)

/-- `require_scope(SCOPE_ADMIN)` on the resolved key. -/
def requireAdmin (apiKey : ApiKey) : Except RequestError Unit :=
  if scopeAdmin ∈ apiKey.scopes then .ok ()
  else .error (.api (scopeError s!"Scope '{scopeAdmin}' required"))

def checkTenantName (tables : Tables) (name detail : String) : Except RequestError Flight :=
  if (tables.tenants.find? (·.name = name)).isSome then .error (.api (conflictError detail))
  else .ok (.addingTenant name)

def loadTenant (tables : Tables) (tenantId : Uuid) (name : String) : Except RequestError Flight :=
  match tables.findTenant tenantId with
  | none => .error (.api (notFoundError "Tenant not found"))
  | some tenant =>
      if tenant.isActive then .ok (.namingApplication tenantId name)
      else .error (.api (authorizationError "Tenant is deactivated"))

def loadApplication (tables : Tables) (appId : Uuid) (body : ApplicationUpdate) :
    Except RequestError Flight :=
  match tables.findApplication appId with
  | none => .error (.api (notFoundError "Application not found"))
  | some row => .ok (if body.name.isSome then .renamingApplication row body else .saving row body)

def checkApplicationName (tables : Tables) (tenantId : Uuid) (name : Option String)
    (except : Option Uuid) (free : Flight) : Except RequestError Flight :=
  if (tables.applications.find? fun row =>
      row.tenantId = tenantId ∧ some row.name = name ∧ some row.id ≠ except).isSome then
    .error (.api (conflictError "Application name already exists for this tenant"))
  else .ok free

def load (tables : Tables) : Flight → Option (Except RequestError Flight)
  | .admitted (.createTenant name) =>
      some (checkTenantName tables name "Tenant name already exists")
  | .admitted (.createProject name) =>
      some (checkTenantName tables name "Project name already exists")
  | .admitted (.createApplication tenantId name) => some (loadTenant tables tenantId name)
  | .admitted (.updateApplication appId body) => some (loadApplication tables appId body)
  | .namingApplication tenantId name =>
      some (checkApplicationName tables tenantId (some name) none
        (.addingApplication tenantId name))
  | .renamingApplication row body =>
      some (checkApplicationName tables row.tenantId body.name (some row.id) (.saving row body))
  | _ => none

/-- `db.refresh(row)` after the commit: the row as it is by then. -/
def refresh (tables : Tables) : Flight → Option (Option Reply)
  | .refreshingTenant id => some ((tables.findTenant id).map .tenant)
  | .refreshingApplication id => some ((tables.findApplication id).map .application)
  | _ => none

def newTenant (name : String) (rowId : Uuid) (now : Instant) : Tenant where
  id := rowId
  name := name
  createdAt := now

def newApplication (tenantId : Uuid) (name : String) (rowId : Uuid) (now : Instant) :
    ApplicationRow where
  id := rowId
  tenantId := tenantId
  name := name
  createdAt := now

def commit (tables : Tables) (rowId : Uuid) (now : Instant) :
    Flight → Option (Except RequestError (Tables × Flight))
  | .addingTenant name =>
      some ((tables.insertTenant (newTenant name rowId now)).map (·, .refreshingTenant rowId))
  | .addingApplication tenantId name =>
      some ((tables.insertApplication (newApplication tenantId name rowId now)).map
        (·, .refreshingApplication rowId))
  | .saving row body =>
      some (
        -- a session with nothing to write sends no UPDATE
        if (body.changes row.toApplication).isEmpty then
          .ok (tables, .refreshingApplication row.id)
        else
          (tables.updateApplication row.id (body.changes row.toApplication)).map
            (·, .refreshingApplication row.id))
  | _ => none

def State.settle (state : State) (handle : Nat) (flight : Option Flight) : State :=
  { state with flights := fun other => if other = handle then flight else state.flights other }

def State.select (state : State) (handle : Nat) (flight : Flight) : State × Event :=
  match load state.tables flight with
  | some (.ok next) => (state.settle handle (some next), .silent)
  | some (.error error) => (state.settle handle none, .failed error)
  | none =>
      match refresh state.tables flight with
      | some (some reply) => (state.settle handle none, .answered reply)
      | some none =>
          (state.settle handle none, .failed (.runtimeError "Could not refresh instance"))
      | none => (state, .silent)

def step (state : State) : Action → State × Event
  | .request handle apiKey operation =>
      match requireAdmin apiKey with
      | .ok () => (state.settle handle (some (.admitted operation)), .silent)
      | .error error => (state.settle handle none, .failed error)
  | .select handle =>
      match state.flights handle with
      | some flight => state.select handle flight
      | none => (state, .silent)
  | .commit handle rowId now =>
      match (state.flights handle).bind (commit state.tables rowId now) with
      | some (.ok (tables, flight)) =>
          ({ state.settle handle (some flight) with tables := tables }, .silent)
      | some (.error error) => (state.settle handle none, .failed error)
      | none => (state, .silent)

/-! ### The endpoints that read -/

structure TenantListResponse where
  items : List Tenant
  total : Nat

structure ApplicationListResponse where
  items : List ApplicationRow
  total : Nat

/-- `limit` and `offset` within the bounds the endpoints validate. -/
structure PageQuery where
  limit : Nat
  offset : Nat
  limitPos : 1 ≤ limit
  limitMax : limit ≤ 200

def newestFirst (key : α → OrderKey) (rows : List α) : List α :=
  rows.mergeSort fun first second => key second ≤ key first

/-- Other requests may commit between the SELECT that counts and the one that lists. -/
def listTenants (apiKey : ApiKey) (counted listed : Tables) (query : PageQuery) :
    Except RequestError TenantListResponse :=
  match requireAdmin apiKey with
  | .error error => .error error
  | .ok () => .ok {
      items := page query.limit query.offset (newestFirst Tenant.key listed.tenants)
      total := counted.tenants.length }

/-- A caller without admin is confined to its own application. -/
def visible (apiKey : ApiKey) (id : Uuid) : Bool :=
  scopeAdmin ∈ apiKey.scopes || id = apiKey.applicationId

def Tables.base (tables : Tables) (apiKey : ApiKey) : List ApplicationRow :=
  tables.applications.filter fun row => visible apiKey row.id

def listApplications (apiKey : ApiKey) (counted listed : Tables) (query : PageQuery) :
    ApplicationListResponse where
  items := page query.limit query.offset (newestFirst ApplicationRow.key (listed.base apiKey))
  total := (counted.base apiKey).length

def getApplication (apiKey : ApiKey) (tables : Tables) (appId : Uuid) :
    Except RequestError ApplicationRow :=
  match tables.findApplication appId with
  | none => .error (.api (notFoundError "Application not found"))
  | some row =>
      if visible apiKey row.id then .ok row
      else .error (.api (notFoundError "Application not found"))

def getTenant (apiKey : ApiKey) (tables : Tables) (tenantId : Uuid) :
    Except RequestError Tenant :=
  match requireAdmin apiKey, tables.findTenant tenantId with
  | .error error, _ => .error error
  | .ok (), none => .error (.api (notFoundError "Tenant not found"))
  | .ok (), some row => .ok row

/-! ### Walks through a directory others write to -/

section Walks

variable {tables next : Tables} {state : State}

/-- Rows are added and applications changed, but no row goes and no key changes. -/
structure Grows (before after : Tables) : Prop where
  tenants : List.Sublist before.tenants after.tenants
  applications :
    List.Sublist (before.applications.map ApplicationRow.key)
      (after.applications.map ApplicationRow.key)

theorem Grows.refl (tables : Tables) : Grows tables tables := ⟨.refl _, .refl _⟩

theorem Grows.trans {before during after : Tables} (hfirst : Grows before during)
    (hsecond : Grows during after) : Grows before after :=
  ⟨hfirst.tenants.trans hsecond.tenants, hfirst.applications.trans hsecond.applications⟩

theorem insertTenant_grows {row : Tenant} (h : tables.insertTenant row = .ok next) :
    Grows tables next := by
  unfold Tables.insertTenant at h
  split at h
  · cases h
    exact ⟨List.sublist_cons_self _ _, .refl _⟩
  · cases h

theorem insertApplication_grows {row : ApplicationRow}
    (h : tables.insertApplication row = .ok next) : Grows tables next := by
  unfold Tables.insertApplication at h
  split at h
  · cases h
    exact ⟨.refl _, List.sublist_cons_self _ _⟩
  · cases h

theorem updateApplication_grows {id : Uuid} {columns : ApplicationUpdate}
    (h : tables.updateApplication id columns = .ok next) : Grows tables next := by
  unfold Tables.updateApplication at h
  split at h
  · cases h
  · split at h
    · cases h
      refine ⟨.refl _, ?_⟩
      rw [tables.updated_map id columns fun _ => rfl]
    · cases h

theorem commit_grows {rowId : Uuid} {now : Instant} {flight follow : Flight}
    (h : commit tables rowId now flight = some (.ok (next, follow))) : Grows tables next := by
  cases flight with
  | admitted operation => cases h
  | namingApplication tenantId name => cases h
  | renamingApplication row body => cases h
  | refreshingTenant id => cases h
  | refreshingApplication id => cases h
  | addingTenant name =>
      cases hinsert : tables.insertTenant (newTenant name rowId now) with
      | error error => simp [commit, hinsert, Except.map] at h
      | ok inserted =>
          simp only [commit, hinsert, Except.map, Option.some.injEq, Except.ok.injEq,
            Prod.mk.injEq] at h
          exact h.1 ▸ insertTenant_grows hinsert
  | addingApplication tenantId name =>
      cases hinsert : tables.insertApplication (newApplication tenantId name rowId now) with
      | error error => simp [commit, hinsert, Except.map] at h
      | ok inserted =>
          simp only [commit, hinsert, Except.map, Option.some.injEq, Except.ok.injEq,
            Prod.mk.injEq] at h
          exact h.1 ▸ insertApplication_grows hinsert
  | saving row body =>
      simp only [commit, Option.some.injEq] at h
      split at h
      · cases h
        exact .refl _
      · cases hupdate : tables.updateApplication row.id (body.changes row.toApplication) with
        | error error => simp [hupdate, Except.map] at h
        | ok updated =>
            simp only [hupdate, Except.map, Except.ok.injEq, Prod.mk.injEq] at h
            exact h.1 ▸ updateApplication_grows hupdate

theorem select_tables (state : State) (handle : Nat) (flight : Flight) :
    (state.select handle flight).1.tables = state.tables := by
  unfold State.select
  split
  · rfl
  · rfl
  · split <;> rfl

theorem step_grows (state : State) (action : Action) :
    Grows state.tables (step state action).1.tables := by
  cases action with
  | request handle apiKey operation =>
      simp only [step]
      split <;> exact .refl _
  | select handle =>
      simp only [step]
      split
      · rw [select_tables]
        exact .refl _
      · exact .refl _
  | commit handle rowId now =>
      simp only [step]
      split
      · rename_i tables flight hcommit
        obtain ⟨before, -, hcommit⟩ := Option.bind_eq_some_iff.mp hcommit
        exact commit_grows hcommit
      · exact .refl _
      · exact .refl _

theorem run_grows (state : State) (actions : List Action) :
    Grows state.tables (serveAll step state actions).tables := by
  induction actions generalizing state with
  | nil => exact .refl _
  | cons action actions ih => exact (step_grows state action).trans (ih _)

theorem tenants_keyed (tables : Tables) : Keyed Tenant.key tables.tenants :=
  fun _ hfirst _ hsecond hkey =>
    List.inj_on_of_nodup_map tables.tenantIds hfirst hsecond
      (Prod.mk.inj (toLex.injective hkey)).2

theorem applications_keyed (tables : Tables) :
    Keyed ApplicationRow.key tables.applications := fun _ hfirst _ hsecond hkey =>
  List.inj_on_of_nodup_map tables.applicationIds hfirst hsecond
    (Prod.mk.inj (toLex.injective hkey)).2

theorem base_map_key (tables : Tables) (apiKey : ApiKey) :
    (tables.base apiKey).map ApplicationRow.key =
      (tables.applications.map ApplicationRow.key).filter
        fun key => visible apiKey (ofLex key).2 := by
  rw [List.filter_map]
  rfl

/-- The query of the `k`-th page, counted from 0. -/
def pageQuery (limit : Nat) (hpos : 1 ≤ limit) (hmax : limit ≤ 200) (k : Nat) : PageQuery :=
  ⟨limit, k * limit, hpos, hmax⟩

/-- A client that reads page after page until one is short has seen every tenant, and every
application its key may see, that was there when it began, whatever is created and changed
between its requests and within them. -/
theorem walk_misses_none (states : Nat → State)
    (hruns : ∀ k, ∃ actions, serveAll step (states k) actions = states (k + 1))
    (counted : Nat → Tables) (apiKey : ApiKey) (limit last : Nat) (hpos : 1 ≤ limit)
    (hmax : limit ≤ 200) :
    (∀ responses : Nat → TenantListResponse,
      (∀ k, listTenants apiKey (counted k) (states k).tables (pageQuery limit hpos hmax k) =
        .ok (responses k)) →
      (responses last).items.length < limit →
      ∀ row ∈ (states 0).tables.tenants, ∃ k ≤ last, row ∈ (responses k).items) ∧
    (∀ responses : Nat → ApplicationListResponse,
      (∀ k, listApplications apiKey (counted k) (states k).tables (pageQuery limit hpos hmax k) =
        responses k) →
      (responses last).items.length < limit →
      ∀ row ∈ (states 0).tables.applications, visible apiKey row.id = true →
        ∃ k ≤ last, ∃ found ∈ (responses k).items, found.id = row.id) := by
  have hgrows : ∀ k, Grows (states k).tables (states (k + 1)).tables := by
    intro k
    obtain ⟨actions, hrun⟩ := hruns k
    exact hrun ▸ run_grows (states k) actions
  constructor
  · intro responses hresponses hshort row hrow
    have hitems : ∀ k, (responses k).items =
        page limit (k * limit) (newestFirst Tenant.key (states k).tables.tenants) := by
      intro k
      have hresponse := hresponses k
      unfold listTenants at hresponse
      split at hresponse
      · cases hresponse
      · exact congrArg TenantListResponse.items (Except.ok.inj hresponse).symm
    rw [hitems last] at hshort
    obtain ⟨k, hk, found, hfound, hkey⟩ := pages_miss_none
      (fun k => tenants_keyed (states k).tables)
      (fun k => arranges_mergeSort (states k).tables.tenants)
      (fun k => (hgrows k).tenants.map Tenant.key) hshort hrow
    refine ⟨k, hk, ?_⟩
    -- tenants never change, so the row with the key is the row of the start
    have hstays : row ∈ (states k).tables.tenants := by
      clear hfound hk
      induction k with
      | zero => exact hrow
      | succ k ih => exact (hgrows k).tenants.subset ih
    have hlisted : found ∈ (states k).tables.tenants :=
      List.mem_mergeSort.mp (List.mem_of_mem_drop (List.mem_of_mem_take hfound))
    rw [hitems k, ← tenants_keyed (states k).tables found hlisted row hstays hkey]
    exact hfound
  · intro responses hresponses hshort row hrow hvisible
    rw [← hresponses last] at hshort
    have hkeyed : ∀ k, Keyed ApplicationRow.key ((states k).tables.base apiKey) :=
      fun k first hfirst second hsecond => applications_keyed (states k).tables first
        (List.mem_of_mem_filter hfirst) second (List.mem_of_mem_filter hsecond)
    have hbase : ∀ k, List.Sublist (((states k).tables.base apiKey).map ApplicationRow.key)
        (((states (k + 1)).tables.base apiKey).map ApplicationRow.key) := by
      intro k
      rw [base_map_key, base_map_key]
      exact (hgrows k).applications.filter _
    obtain ⟨k, hk, found, hfound, hkey⟩ := pages_miss_none hkeyed
      (fun k => arranges_mergeSort ((states k).tables.base apiKey)) hbase hshort
      (List.mem_filter.mpr ⟨hrow, hvisible⟩)
    exact ⟨k, hk, found, hresponses k ▸ hfound, (Prod.mk.inj (toLex.injective hkey)).2⟩

def adminKey : ApiKey where
  id := 1
  applicationId := 1
  keyPrefix := "ck_live_"
  hashedKey := ""
  scopes := allScopes
  mode := "live"
  createdAt := 0

def twoTenants : Tables where
  tenants := [{ id := 2, name := "beta", createdAt := 7 },
    { id := 1, name := "alpha", createdAt := 5 }]
  applications := []
  tenantIds := by decide
  tenantNames := by decide
  applicationIds := .nil
  applicationNames := .nil
  owned := by simp

def creation : List Action :=
  [.request 0 adminKey (.createTenant "gamma"), .select 0, .commit 0 3 9]

def walked : Nat → State
  | 0 => ⟨twoTenants, fun _ => none⟩
  | _ + 1 => serveAll step ⟨twoTenants, fun _ => none⟩ creation

def tenantPage (k : Nat) : TenantListResponse where
  items := page 2 (k * 2) (newestFirst Tenant.key (walked k).tables.tenants)
  total := (walked k).tables.tenants.length

theorem walk_misses_none_creation :
    (walked 1).tables.tenants.length = 3 ∧
      ∀ row ∈ twoTenants.tenants, ∃ k ≤ 1, row ∈ (tenantPage k).items := by
  have hrows : (walked 1).tables.tenants.length = 3 := rfl
  refine ⟨hrows, (walk_misses_none walked (fun k => ?_) (fun k => (walked k).tables) adminKey 2 1
    (by decide) (by decide)).1 tenantPage (fun k => rfl) ?_⟩
  · cases k with
    | zero => exact ⟨creation, rfl⟩
    | succ k => exact ⟨[], rfl⟩
  · simp [tenantPage, page, newestFirst, hrows]

end Walks

end CrawlerApi.Keys.Directory
