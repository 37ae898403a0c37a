import CrawlerApi.Proxies.Webshare
import Mathlib.Data.List.Basic

/-!
# Reconciling the table with a provider's list

`_sync_provider` upserts the fetched proxies and deactivates the provider's other
rows, in one transaction.  What it does to a row that is already there is a change of
that row alone.
-/

namespace CrawlerApi.Proxies

open Keys

structure ProxyPool where
  id : Uuid
  name : String
  provider : String
  createdAt : Moment

inductive EventType where
  | activated | deactivated
deriving DecidableEq

structure ProxyEvent where
  proxyId : Uuid
  eventType : EventType
  provider : String
  url : String
deriving DecidableEq

structure Store where
  pools : List ProxyPool
  proxies : ProxyTable
  events : List ProxyEvent := []

/-- `gen_random_uuid()`: an id no row has. -/
abbrev UuidSource := (taken : List Uuid) → { id : Uuid // id ∉ taken }

structure ProxySyncStats where
  provider : String
  fetched : Nat
  inserted : Nat
  updated : Nat
  activated : Nat
  deactivated : Nat
deriving DecidableEq

structure Edit where
  apply : Proxy → Proxy
  id : ∀ proxy, (apply proxy).id = proxy.id
  key : ∀ proxy, (apply proxy).key = proxy.key

namespace ProxyTable

def edit (table : ProxyTable) (change : Edit) : ProxyTable where
  rows := table.rows.map change.apply
  idUnique := by
    have hids : (table.rows.map change.apply).map Proxy.id = table.rows.map Proxy.id := by
      rw [List.map_map]
      exact List.map_congr_left fun proxy _ => change.id proxy
    rw [hids]
    exact table.idUnique
  keyUnique := by
    have hkeys : (table.rows.map change.apply).map Proxy.key = table.rows.map Proxy.key := by
      rw [List.map_map]
      exact List.map_congr_left fun proxy _ => change.key proxy
    rw [hkeys]
    exact table.keyUnique

def insert (table : ProxyTable) (proxy : Proxy) (hid : proxy.id ∉ table.rows.map Proxy.id)
    (hkey : proxy.key ∉ table.rows.map Proxy.key) : ProxyTable where
  rows := table.rows ++ [proxy]
  idUnique := by
    rw [List.map_append, List.nodup_append]
    refine ⟨table.idUnique, List.nodup_singleton _, ?_⟩
    rintro id hold _ hnew rfl
    exact hid (List.mem_singleton.mp hnew ▸ hold)
  keyUnique := by
    rw [List.map_append, List.nodup_append]
    refine ⟨table.keyUnique, List.nodup_singleton _, ?_⟩
    rintro key hold _ hnew rfl
    exact hkey (List.mem_singleton.mp hnew ▸ hold)

end ProxyTable

section Reconcile

variable (source : UuidSource) (provider : String) (pool : Uuid)

/-- `INSERT … ON CONFLICT DO UPDATE` on a row that is there. -/
def refresh (raw : RawProxy) : Edit where
  apply proxy :=
    if proxy.key = (provider, raw.url) then
      { proxy with country := raw.country, city := raw.city, proxyType := raw.proxyType }
    else proxy
  id proxy := by split <;> rfl
  key proxy := by split <;> rfl

def newProxy (id : Uuid) (raw : RawProxy) : Proxy where
  id := id
  poolId := pool
  provider := provider
  url := raw.url
  country := raw.country
  city := raw.city
  proxyType := raw.proxyType

def upsert (table : ProxyTable) (raw : RawProxy) : ProxyTable :=
  if h : (provider, raw.url) ∈ table.rows.map Proxy.key then table.edit (refresh provider raw)
  else
    table.insert (newProxy provider pool (source (table.rows.map Proxy.id)) raw)
      (source (table.rows.map Proxy.id)).property h

/-- `UPDATE … WHERE provider = … AND url IN …`. -/
def editUrls (among : List String) (change : Edit) : Edit where
  apply proxy :=
    if proxy.provider = provider ∧ proxy.url ∈ among then change.apply proxy else proxy
  id proxy := by
    split
    · exact change.id proxy
    · rfl
  key proxy := by
    split
    · exact change.key proxy
    · rfl

def setPool : Edit := ⟨fun proxy => { proxy with poolId := pool }, fun _ => rfl, fun _ => rfl⟩

def setActive (active : Bool) : Edit :=
  ⟨fun proxy => { proxy with isActive := active }, fun _ => rfl, fun _ => rfl⟩

/-- The provider's oldest pool, the first of two of one age, or a new one; its name must
be free. -/
def ensureProviderPool (now : Moment) (store : Store) : Except Failure (Uuid × Store) :=
  let pools := store.pools.filter (·.provider = provider)
  match (pools.mergeSort fun left right => left.createdAt ≤ right.createdAt).head? with
  | some pool => .ok (pool.id, store)
  | none =>
      let name := provider ++ "-pool"
      if name ∈ store.pools.map ProxyPool.name then .error .other
      else
        let id := source (store.pools.map ProxyPool.id)
        .ok (id, { store with pools := store.pools ++ [⟨id, name, provider, now⟩] })

def existing (table : ProxyTable) : List Proxy := table.rows.filter (·.provider = provider)

def eventsFor (eventType : EventType) (changed : List Proxy) : List ProxyEvent :=
  changed.map fun proxy => ⟨proxy.id, eventType, provider, proxy.url⟩

/-- The statements of `_sync_provider` behind the pool, on the fetched proxies. -/
def reconcile (store : Store) (normalized : List RawProxy) : Store × ProxySyncStats :=
  let fetched := urls normalized
  let before := existing provider store.proxies
  let activated := before.filter fun proxy => !proxy.isActive && proxy.url ∈ fetched
  let deactivated := before.filter fun proxy => proxy.isActive && proxy.url ∉ fetched
  let upserted := normalized.foldl (upsert source provider pool) store.proxies
  let moved := upserted.edit (editUrls provider fetched (setPool pool))
  let raised := moved.edit (editUrls provider (activated.map Proxy.url) (setActive true))
  let lowered := raised.edit (editUrls provider (deactivated.map Proxy.url) (setActive false))
  ({ store with
      proxies := lowered
      events := store.events ++ eventsFor provider .activated activated ++
        eventsFor provider .deactivated deactivated },
    { provider := provider
      fetched := fetched.length
      inserted := (fetched.filter fun url => url ∉ before.map Proxy.url).length
      updated := (fetched.filter fun url => url ∈ before.map Proxy.url).length
      activated := activated.length
      deactivated := deactivated.length })

/-- `_sync_provider`, up to its commit. -/
def syncProvider (now : Moment) (store : Store) (raw : List RawProxy) :
    Except Failure (Store × ProxySyncStats) :=
  (ensureProviderPool source provider now store).map fun found =>
    reconcile source provider found.1 found.2 (raw.foldl setProxy [])

end Reconcile

/-- `sync_proxies` with its one provider. -/
def syncProxies (text : TextMethods) (source : UuidSource) (account : Account) (now : Moment)
    (store : Store) : Except Failure (Store × ProxySyncStats) :=
  (account.fetchAll text).bind (syncProvider source "webshare" now store)

/-- The tables behind a sync: a sync that raises commits nothing. -/
def syncedStore (text : TextMethods) (source : UuidSource) (account : Account) (now : Moment)
    (store : Store) : Store :=
  match syncProxies text source account now store with
  | .ok synced => synced.1
  | .error _ => store

section Rows

variable {source : UuidSource} {provider : String} {pool : Uuid} {table : ProxyTable}
  {proxy : Proxy} {raw : RawProxy} {normalized : List RawProxy} {among : List String}
  {change : Edit} {store : Store}

theorem ProxyTable.mem_edit (h : proxy ∈ table.rows) :
    change.apply proxy ∈ (table.edit change).rows := List.mem_map_of_mem h

theorem editUrls_of_mem (hprovider : proxy.provider = provider) (hurl : proxy.url ∈ among) :
    (editUrls provider among change).apply proxy = change.apply proxy :=
  if_pos ⟨hprovider, hurl⟩

theorem editUrls_of_not (h : ¬ (proxy.provider = provider ∧ proxy.url ∈ among)) :
    (editUrls provider among change).apply proxy = proxy := if_neg h

/-- What the upserts leave of a row: its keys and whether it is active; all of it
where the provider has not listed it. -/
structure Refreshed (provider : String) (fetched : List String) (proxy after : Proxy) : Prop where
  id : after.id = proxy.id
  key : after.key = proxy.key
  active : after.isActive = proxy.isActive
  unlisted : ¬ (proxy.provider = provider ∧ proxy.url ∈ fetched) → after = proxy

theorem upsert_refreshed (h : proxy ∈ table.rows) :
    ∃ after ∈ (upsert source provider pool table raw).rows,
      Refreshed provider [raw.url] proxy after := by
  unfold upsert
  split
  · refine ⟨_, ProxyTable.mem_edit h, (refresh provider raw).id proxy,
      (refresh provider raw).key proxy, ?_, ?_⟩
    · change (if proxy.key = (provider, raw.url) then _ else proxy).isActive = proxy.isActive
      split
      · rfl
      · rfl
    · intro hunlisted
      refine if_neg fun hkey => hunlisted ?_
      obtain ⟨hprovider, hurl⟩ := Prod.mk.inj hkey
      exact ⟨hprovider, List.mem_singleton.mpr hurl⟩
  · exact ⟨proxy, List.mem_append_left _ h, rfl, rfl, rfl, fun _ => rfl⟩

theorem upsertAll_refreshed (h : proxy ∈ table.rows) :
    ∃ after ∈ (normalized.foldl (upsert source provider pool) table).rows,
      Refreshed provider (urls normalized) proxy after := by
  induction normalized generalizing table proxy with
  | nil => exact ⟨proxy, h, rfl, rfl, rfl, fun _ => rfl⟩
  | cons raw normalized ih =>
      obtain ⟨middle, hmiddle, hfirst⟩ : ∃ middle ∈ (upsert source provider pool table raw).rows,
          Refreshed provider [raw.url] proxy middle := upsert_refreshed h
      obtain ⟨after, hafter, hrest⟩ := ih hmiddle
      obtain ⟨hprovider, hurl⟩ := Prod.mk.inj hfirst.key
      refine ⟨after, hafter, hrest.id.trans hfirst.id, hrest.key.trans hfirst.key,
        hrest.active.trans hfirst.active, fun hunlisted => ?_⟩
      have hkept : middle = proxy := by
        apply hfirst.unlisted
        rintro ⟨hsame, hmem⟩
        rw [List.mem_singleton] at hmem
        exact hunlisted ⟨hsame, by rw [hmem]; exact List.mem_cons_self ..⟩
      subst hkept
      apply hrest.unlisted
      rintro ⟨hsame, hmem⟩
      exact hunlisted ⟨hsame, List.mem_cons_of_mem _ hmem⟩

/-- What a sync does to a row: an active row of the provider that was not fetched is
deactivated, and an inactive one, or one of another provider, is left as it is. -/
structure Reconciled (provider : String) (fetched : List String) (proxy after : Proxy) : Prop where
  id : after.id = proxy.id
  active : proxy.isActive = true →
    (after.isActive = true ↔ (proxy.provider = provider → proxy.url ∈ fetched))
  unlisted : ¬ (proxy.provider = provider ∧ proxy.url ∈ fetched) →
    (proxy.provider = provider → proxy.isActive = false) → after = proxy

theorem Edit.apply_provider (change : Edit) (proxy : Proxy) :
    (change.apply proxy).provider = proxy.provider := (Prod.mk.inj (change.key proxy)).1

theorem Edit.apply_url (change : Edit) (proxy : Proxy) :
    (change.apply proxy).url = proxy.url := (Prod.mk.inj (change.key proxy)).2

theorem editUrls_setPool_active :
    ((editUrls provider among (setPool pool)).apply proxy).isActive = proxy.isActive := by
  unfold editUrls
  dsimp only
  split
  · rfl
  · rfl

theorem editUrls_setActive_true (h : proxy.isActive = true) :
    ((editUrls provider among (setActive true)).apply proxy).isActive = true := by
  unfold editUrls
  dsimp only
  split
  · rfl
  · exact h

variable {fetched : List String} {pick : Proxy → Bool}

theorem mem_urls_existing {url : String}
    (h : url ∈ ((existing provider table).filter pick).map Proxy.url) :
    ∃ proxy ∈ table.rows, proxy.provider = provider ∧ proxy.url = url ∧ pick proxy = true := by
  obtain ⟨proxy, hmem, rfl⟩ := List.mem_map.mp h
  obtain ⟨hexisting, hpick⟩ := List.mem_filter.mp hmem
  obtain ⟨hrow, hprovider⟩ := List.mem_filter.mp hexisting
  exact ⟨proxy, hrow, by simpa using hprovider, rfl, hpick⟩

theorem pick_of_mem_urls (hrow : proxy ∈ table.rows) (hprovider : proxy.provider = provider) :
    proxy.url ∈ ((existing provider table).filter pick).map Proxy.url ↔ pick proxy = true := by
  constructor
  · intro hmem
    obtain ⟨other, hother, hsame, hurl, hpick⟩ := mem_urls_existing hmem
    have hkey : other.key = proxy.key := Prod.ext (hsame.trans hprovider.symm) hurl
    rw [← List.inj_on_of_nodup_map table.keyUnique hother hrow hkey]
    exact hpick
  · intro hpick
    refine List.mem_map_of_mem (List.mem_filter.mpr ⟨List.mem_filter.mpr ⟨hrow, ?_⟩, hpick⟩)
    simpa using hprovider

theorem reconcile_row (h : proxy ∈ store.proxies.rows) :
    ∃ after ∈ (reconcile source provider pool store normalized).1.proxies.rows,
      Reconciled provider (urls normalized) proxy after := by
  obtain ⟨refreshed, hmem, hrefreshed⟩ :
      ∃ refreshed ∈ (normalized.foldl (upsert source provider pool) store.proxies).rows,
        Refreshed provider (urls normalized) proxy refreshed := upsertAll_refreshed h
  obtain ⟨hprovider, hurl⟩ := Prod.mk.inj hrefreshed.key
  refine ⟨_, ProxyTable.mem_edit (ProxyTable.mem_edit (ProxyTable.mem_edit hmem)), ?_, ?_, ?_⟩
  · rw [Edit.id, Edit.id, Edit.id, hrefreshed.id]
  · intro hactive
    by_cases hlisted : proxy.provider = provider → proxy.url ∈ urls normalized
    · refine iff_of_true ?_ hlisted
      rw [editUrls_of_not]
      · apply editUrls_setActive_true
        rw [editUrls_setPool_active, hrefreshed.active, hactive]
      · rw [Edit.apply_provider, Edit.apply_provider, Edit.apply_url, Edit.apply_url, hprovider,
          hurl]
        rintro ⟨hsame, hlowered⟩
        have hpick := (pick_of_mem_urls h hsame).mp hlowered
        simp [hlisted hsame] at hpick
    · refine iff_of_false ?_ hlisted
      obtain ⟨hsame, hunlisted⟩ := Classical.not_imp.mp hlisted
      rw [editUrls_of_mem]
      · exact Bool.false_ne_true
      · rw [Edit.apply_provider, Edit.apply_provider, hprovider, hsame]
      · rw [Edit.apply_url, Edit.apply_url, hurl, pick_of_mem_urls h hsame]
        simp [hactive, hunlisted]
  · intro hunlisted hinactive
    rw [hrefreshed.unlisted hunlisted, editUrls_of_not hunlisted]
    have hraised : ¬ (proxy.provider = provider ∧
        proxy.url ∈ ((existing provider store.proxies).filter fun proxy =>
          !proxy.isActive && proxy.url ∈ urls normalized).map Proxy.url) := by
      rintro ⟨hsame, hmem⟩
      have hpick := (pick_of_mem_urls h hsame).mp hmem
      simp only [Bool.and_eq_true, decide_eq_true_eq] at hpick
      exact hunlisted ⟨hsame, hpick.2⟩
    rw [editUrls_of_not hraised]
    refine editUrls_of_not ?_
    rintro ⟨hsame, hmem⟩
    have hpick := (pick_of_mem_urls h hsame).mp hmem
    simp [hinactive hsame] at hpick

end Rows

section Outage

variable {text : TextMethods} {source : UuidSource} {account : Account} {now : Moment}
  {store : Store} {belongs : Proxy → WebsharePlan → Prop}

def FailedPlan (text : TextMethods) (account : Account) (plans : List WebsharePlan)
    (plan : WebsharePlan) : Prop :=
  plan ∈ plans ∧ account.fetchPlan text plan = .error .http

/-- A sync deactivates no proxy of a plan whose listing failed, and leaves one alone
that no other plan lists. -/
structure KeepsUndetermined (text : TextMethods) (account : Account) (store synced : Store)
    (belongs : Proxy → WebsharePlan → Prop) : Prop where
  neverDeactivated : ∀ plans, account.activePlans = .ok plans → ∀ plan,
    FailedPlan text account plans plan → ∀ proxy ∈ store.proxies.rows, belongs proxy plan →
      proxy.isActive = true →
        ∃ after, synced.proxies.get proxy.id = some after ∧ after.isActive = true
  undetermined : ∀ plans, account.activePlans = .ok plans → ∀ plan,
    FailedPlan text account plans plan → ∀ proxy ∈ store.proxies.rows, belongs proxy plan →
      ¬ Listed text account plans proxy.url → synced.proxies.get proxy.id = some proxy

def PoolAvailable (provider : String) (store : Store) : Prop :=
  (∃ pool ∈ store.pools, pool.provider = provider) ∨
    provider ++ "-pool" ∉ store.pools.map ProxyPool.name

/-- Nothing raises before the rows are written. -/
def Completes (text : TextMethods) (account : Account) (plans : List WebsharePlan)
    (store : Store) : Prop :=
  FailSoft text account plans ∧ PoolAvailable "webshare" store

/-- Every active Webshare proxy of a failed plan is listed by another plan. -/
def ListedElsewhere (text : TextMethods) (account : Account) (plans : List WebsharePlan)
    (store : Store) (belongs : Proxy → WebsharePlan → Prop) : Prop :=
  ∀ plan, FailedPlan text account plans plan → ∀ proxy ∈ store.proxies.rows,
    proxy.provider = "webshare" → proxy.isActive = true → belongs proxy plan →
      Listed text account plans proxy.url

theorem eq_nil_of_head_mergeSort {α : Type} {le : α → α → Bool} {items : List α}
    (h : (items.mergeSort le).head? = none) : items = [] := by
  rw [List.head?_eq_none_iff] at h
  rw [← List.length_eq_zero_iff, ← List.length_mergeSort, h, List.length_nil]

theorem ensureProviderPool_ok (source : UuidSource) (now : Moment) {provider : String}
    (h : PoolAvailable provider store) :
    ∃ pool found, ensureProviderPool source provider now store = .ok (pool, found) ∧
      found.proxies = store.proxies := by
  unfold ensureProviderPool
  dsimp only
  split
  · exact ⟨_, _, rfl, rfl⟩
  · rename_i hnone
    have hempty : store.pools.filter (·.provider = provider) = [] :=
      eq_nil_of_head_mergeSort hnone
    rcases h with ⟨pool, hpool, hprovider⟩ | hfree
    · exact absurd hprovider (by simpa using List.filter_eq_nil_iff.mp hempty pool hpool)
    · rw [if_neg hfree]
      exact ⟨_, _, rfl, rfl⟩

theorem ensureProviderPool_error (source : UuidSource) (now : Moment) {provider : String}
    (h : ¬ PoolAvailable provider store) :
    ensureProviderPool source provider now store = .error .other := by
  unfold ensureProviderPool
  dsimp only
  split
  · rename_i pool hpool
    have hmem := List.mem_mergeSort.mp (List.mem_of_head? hpool)
    refine absurd (.inl ⟨pool, (List.mem_filter.mp hmem).1, ?_⟩) h
    simpa using (List.mem_filter.mp hmem).2
  · rw [if_pos (Classical.byContradiction fun hfree => h (.inr hfree))]

theorem syncProxies_of_plans {plans : List WebsharePlan}
    (hplans : account.activePlans = .ok plans) :
    syncProxies text source account now store =
      (plans.foldlM (account.addPlan text) []).bind (syncProvider source "webshare" now store) := by
  rw [syncProxies, Account.fetchAll, hplans]
  rfl

theorem syncedStore_of_completes (source : UuidSource) (now : Moment)
    {plans : List WebsharePlan} (hplans : account.activePlans = .ok plans)
    (h : Completes text account plans store) :
    ∃ pool found normalized, found.proxies = store.proxies ∧
      syncedStore text source account now store =
        (reconcile source "webshare" pool found normalized).1 ∧
      ∀ url, url ∈ urls normalized ↔ Listed text account plans url := by
  obtain ⟨raw, hraw, hurls⟩ := foldlM_addPlan h.1 []
  obtain ⟨pool, found, hpool, hfound⟩ := ensureProviderPool_ok source now h.2
  refine ⟨pool, found, raw.foldl setProxy [], hfound, ?_, fun url => ?_⟩
  · rw [syncedStore, syncProxies_of_plans hplans, hraw]
    change (match syncProvider source "webshare" now store raw with
      | .ok synced => synced.1
      | .error _ => store) = _
    rw [syncProvider, hpool]
    rfl
  · rw [mem_urls_setAll, hurls]
    simp [urls]

theorem completes_rows (source : UuidSource) (now : Moment) {plans : List WebsharePlan}
    (hplans : account.activePlans = .ok plans) (h : Completes text account plans store) :
    ∃ fetched, (∀ url, url ∈ fetched ↔ Listed text account plans url) ∧
      ∀ proxy ∈ store.proxies.rows, ∃ after,
        (syncedStore text source account now store).proxies.get proxy.id = some after ∧
          Reconciled "webshare" fetched proxy after := by
  obtain ⟨pool, found, normalized, hfound, hsynced, hurls⟩ :=
    syncedStore_of_completes source now hplans h
  refine ⟨urls normalized, hurls, fun proxy hrow => ?_⟩
  rw [← hfound] at hrow
  obtain ⟨after, hmem, hafter⟩ :
      ∃ after ∈ (reconcile source "webshare" pool found normalized).1.proxies.rows,
        Reconciled "webshare" (urls normalized) proxy after := reconcile_row hrow
  refine ⟨after, ?_, hafter⟩
  rw [hsynced, ← hafter.id]
  exact ProxyTable.get_eq_some hmem

theorem syncedStore_of_error {failure : Failure}
    (h : syncProxies text source account now store = .error failure) :
    syncedStore text source account now store = store := by
  rw [syncedStore, h]

/-- A sync that raises leaves the tables as they were. -/
theorem syncedStore_of_raises (h : ∀ plans, account.activePlans = .ok plans →
    ¬ Completes text account plans store) :
    syncedStore text source account now store = store := by
  cases hplans : account.activePlans with
  | error failure =>
      apply syncedStore_of_error
      rw [syncProxies, Account.fetchAll, hplans]
      rfl
  | ok plans =>
      by_cases hsoft : FailSoft text account plans
      · obtain ⟨raw, hraw, -⟩ := foldlM_addPlan hsoft []
        have hpool : ¬ PoolAvailable "webshare" store := fun hpool => h plans hplans ⟨hsoft, hpool⟩
        apply syncedStore_of_error
        rw [syncProxies_of_plans hplans, hraw]
        show syncProvider source "webshare" now store raw = .error .other
        rw [syncProvider, ensureProviderPool_error source now hpool]
        rfl
      · apply syncedStore_of_error
        rw [syncProxies_of_plans hplans, foldlM_addPlan_error hsoft []]
        rfl

/-- A sync keeps the undetermined proxies exactly when it raises or every active proxy
of a failed plan is listed by another plan. -/
theorem keepsUndetermined_iff :
    KeepsUndetermined text account store (syncedStore text source account now store) belongs ↔
      ∀ plans, account.activePlans = .ok plans → Completes text account plans store →
        ListedElsewhere text account plans store belongs := by
  constructor
  · intro hkeeps plans hplans hcompletes plan hfailed proxy hrow hprovider hactive hbelongs
    obtain ⟨fetched, hfetched, hrows⟩ := completes_rows source now hplans hcompletes
    obtain ⟨after, hafter, hstill⟩ :=
      hkeeps.neverDeactivated plans hplans plan hfailed proxy hrow hbelongs hactive
    obtain ⟨row, hget, hrow⟩ := hrows proxy hrow
    rw [hget] at hafter
    cases hafter
    exact (hfetched _).mp ((hrow.active hactive).mp hstill hprovider)
  · intro hlisted
    by_cases hraises : ∀ plans, account.activePlans = .ok plans →
        ¬ Completes text account plans store
    · rw [syncedStore_of_raises hraises]
      exact ⟨fun _ _ _ _ proxy hrow _ hactive => ⟨proxy, ProxyTable.get_eq_some hrow, hactive⟩,
        fun _ _ _ _ proxy hrow _ _ => ProxyTable.get_eq_some hrow⟩
    · obtain ⟨plans, hplans, hcompletes⟩ : ∃ plans, account.activePlans = .ok plans ∧
          Completes text account plans store := by
        simpa using hraises
      obtain ⟨fetched, hfetched, hrows⟩ := completes_rows source now hplans hcompletes
      have helsewhere := hlisted plans hplans hcompletes
      constructor
      · intro other hother plan hfailed proxy hrow hbelongs hactive
        rw [hplans] at hother
        cases hother
        obtain ⟨after, hget, hafter⟩ := hrows proxy hrow
        refine ⟨after, hget, (hafter.active hactive).mpr fun hprovider => ?_⟩
        exact (hfetched _).mpr (helsewhere plan hfailed proxy hrow hprovider hactive hbelongs)
      · intro other hother plan hfailed proxy hrow hbelongs hunlisted
        rw [hplans] at hother
        cases hother
        obtain ⟨after, hget, hafter⟩ := hrows proxy hrow
        rw [hget]
        refine congrArg some (hafter.unlisted ?_ ?_)
        · exact fun hmem => hunlisted ((hfetched _).mp hmem.2)
        · intro hprovider
          cases hactive : proxy.isActive with
          | false => rfl
          | true =>
              exact absurd (helsewhere plan hfailed proxy hrow hprovider hactive hbelongs)
                hunlisted

end Outage

/-! One plan, whose listing answers 503, and one active proxy of it. -/

def outagePlan : WebsharePlan := ⟨1, "active", "shared", "default"⟩

def outageAccount : Account where
  discovery := .last [outagePlan]
  listing _ := .failed .http

def outageStore : Store where
  pools := [⟨7, "webshare-pool", "webshare", 0⟩]
  proxies := ⟨[{ id := 1, poolId := 7, url := "http://u:p@192.0.2.1:8080" }], by decide, by decide⟩

def nextAbove : List Uuid → Uuid
  | [] => 0
  | id :: taken => id + 1 + nextAbove taken

theorem lt_nextAbove {taken : List Uuid} {id : Uuid} (h : id ∈ taken) : id < nextAbove taken := by
  induction taken with
  | nil => cases h
  | cons first taken ih =>
      rcases List.mem_cons.mp h with rfl | hrest
      · exact Nat.lt_of_lt_of_le (Nat.lt_succ_self _) (Nat.le_add_right _ _)
      · exact Nat.lt_of_lt_of_le (ih hrest) (Nat.le_add_left _ _)

def nextUuid : UuidSource := fun taken =>
  ⟨nextAbove taken, fun h => absurd (lt_nextAbove h) (Nat.lt_irrefl _)⟩

theorem outageStore_completes : Completes asciiText outageAccount [outagePlan] outageStore := by
  constructor
  · intro plan hplan
    cases List.mem_singleton.mp hplan
    decide
  · exact .inl ⟨_, List.mem_cons_self .., rfl⟩

theorem outage_deactivates :
    ¬ ∀ source account now store belongs,
      KeepsUndetermined asciiText account store (syncedStore asciiText source account now store)
        belongs := by
  intro h
  obtain ⟨fetched, hfetched, hrows⟩ := completes_rows nextUuid 0 rfl outageStore_completes
  obtain ⟨row, hrow, hreconciled⟩ := hrows _ (List.mem_cons_self ..)
  obtain ⟨after, hafter, hactive⟩ := (h nextUuid outageAccount 0 outageStore
    fun _ _ => True).neverDeactivated [outagePlan] rfl outagePlan
      ⟨List.mem_cons_self .., rfl⟩ _ (List.mem_cons_self ..) trivial rfl
  rw [hrow] at hafter
  cases hafter
  obtain ⟨plan, hplan, listed, hlisted, -⟩ :=
    (hfetched _).mp ((hreconciled.active rfl).mp hactive rfl)
  cases List.mem_singleton.mp hplan
  cases hlisted

end CrawlerApi.Proxies
