import CrawlerApi.Core.Errors
import CrawlerApi.Foundation.Run
import CrawlerApi.Proxies.Inserts
import CrawlerApi.Proxies.Postcondition

/-!
# Pools and proxies an operator keeps

An operator creates pools and adds proxies to them while `sync_proxies` reconciles the
table with Webshare's list.
-/

namespace CrawlerApi.Proxies

open Foundation Keys Errors

structure ProxyPoolCreate where
  name : String
  provider : String
  named : 1 ≤ name.length ∧ name.length ≤ 128 := by decide
  known : provider ∈ ["webshare", "custom", "residential"] := by decide

/-- The tables; the pools that are not active; the proxies added to pools of other
providers. -/
structure Inventory where
  store : Store
  suspended : List Uuid := []
  managed : List Uuid := []
  poolIds : (store.pools.map ProxyPool.id).Nodup

theorem nodup_append_fresh {ids : List Uuid} (h : ids.Nodup) {id : Uuid} (hfresh : id ∉ ids) :
    (ids ++ [id]).Nodup := by
  rw [List.nodup_append]
  refine ⟨h, List.nodup_singleton _, ?_⟩
  rintro old hold _ hnew rfl
  exact hfresh (List.mem_singleton.mp hnew ▸ hold)

theorem ensureProviderPool_pools {source : UuidSource} {provider : String} {now : Moment}
    {store found : Store} {pool : Uuid}
    (h : ensureProviderPool source provider now store = .ok (pool, found)) :
    ∃ fresh : List ProxyPool, found.pools = store.pools ++ fresh ∧
      ((store.pools.map ProxyPool.id).Nodup → (found.pools.map ProxyPool.id).Nodup) := by
  unfold ensureProviderPool at h
  dsimp only at h
  split at h
  · cases h
    exact ⟨[], (List.append_nil _).symm, id⟩
  · split at h
    · cases h
    · cases h
      refine ⟨_, rfl, fun hnodup => ?_⟩
      rw [List.map_append]
      exact nodup_append_fresh hnodup (source _).property

theorem syncProvider_pools {source : UuidSource} {provider : String} {now : Moment}
    {store after : Store} {raw : List RawProxy} {stats : ProxySyncStats}
    (h : syncProvider source provider now store raw = .ok (after, stats)) :
    ∃ fresh : List ProxyPool, after.pools = store.pools ++ fresh ∧
      ((store.pools.map ProxyPool.id).Nodup → (after.pools.map ProxyPool.id).Nodup) := by
  obtain ⟨pool, found, hpool, hreconcile⟩ := syncProvider_ok h
  have hpools : after.pools = found.pools := by
    have hkept : (reconcile source provider pool found (raw.foldl setProxy [])).1.pools =
        found.pools := rfl
    rw [← hkept, hreconcile]
  rw [hpools]
  exact ensureProviderPool_pools hpool

theorem key_free_of_find? {rows : List Proxy} {provider url : String}
    (h : rows.find? (fun proxy => proxy.url = url ∧ proxy.provider = provider) = none) :
    (provider, url) ∉ rows.map Proxy.key := by
  intro hkey
  obtain ⟨proxy, hrow, hproxy⟩ := List.mem_map.mp hkey
  obtain ⟨hprovider, hurl⟩ := Prod.mk.inj hproxy
  have hmissing := List.find?_eq_none.mp h proxy hrow
  exact hmissing (decide_eq_true ⟨hurl, hprovider⟩)

namespace Inventory

section Operations

variable (text : TextMethods) (source : UuidSource)

def createProxyPool (body : ProxyPoolCreate) (now : Moment) (inventory : Inventory) :
    Except CrawlerAPIError Inventory :=
  if body.name ∈ inventory.store.pools.map ProxyPool.name then
    .error (conflictError "Proxy pool name already exists")
  else
    let id := source (inventory.store.pools.map ProxyPool.id)
    .ok { inventory with
      store := { inventory.store with
        pools := inventory.store.pools ++ [⟨id, body.name, body.provider, now⟩] }
      poolIds := by
        rw [List.map_append]
        exact nodup_append_fresh inventory.poolIds id.property }

def addProxyToPool (poolId : Uuid) (body : ProxyCreate) (inventory : Inventory) :
    Except CrawlerAPIError Inventory :=
  match inventory.store.pools.find? (·.id = poolId) with
  | none => .error (notFoundError "Proxy pool not found")
  | some pool =>
      if poolId ∈ inventory.suspended then
        .error (authorizationError "Cannot add proxies to an inactive pool")
      else
        match h : inventory.store.proxies.rows.find? fun proxy =>
          proxy.url = body.url ∧ proxy.provider = "webshare" with
        | some _ => .error (conflictError "Proxy with this URL already exists")
        | none =>
            let id := source (inventory.store.proxies.rows.map Proxy.id)
            .ok { inventory with
              store := { inventory.store with
                proxies := inventory.store.proxies.insert (createdProxy text id poolId body)
                  id.property (key_free_of_find? h) }
              managed := if pool.provider = "webshare" then inventory.managed
                else id :: inventory.managed }

def sync (now : Moment) (raw : List RawProxy) (inventory : Inventory) : Inventory :=
  match h : syncProvider source "webshare" now inventory.store raw with
  | .error _ => inventory
  | .ok (after, _) =>
      { inventory with
        store := after
        poolIds := by
          obtain ⟨fresh, -, hnodup⟩ := syncProvider_pools h
          exact hnodup inventory.poolIds }

end Operations

end Inventory

inductive Operation where
  | createPool (body : ProxyPoolCreate) (now : Moment)
  | addProxy (poolId : Uuid) (body : ProxyCreate)
  | sync (now : Moment) (raw : List RawProxy)

namespace Inventory

/-- A request that is refused changes nothing. -/
def step (text : TextMethods) (source : UuidSource) (inventory : Inventory) :
    Operation → Option Inventory
  | .createPool body now =>
      some ((inventory.createProxyPool source body now).toOption.getD inventory)
  | .addProxy poolId body =>
      some ((inventory.addProxyToPool text source poolId body).toOption.getD inventory)
  | .sync now raw => some (inventory.sync source now raw)

def opened (inventory : Inventory) : Inventory := { inventory with managed := [] }

end Inventory

structure LeftAlone (proxy after : Proxy) : Prop where
  active : proxy.isActive = true → after.isActive = true
  pool : after.poolId = proxy.poolId
  proxyType : after.proxyType = proxy.proxyType

/-- A sync leaves the managed proxies alone. -/
def LeavesManaged (source : UuidSource) (inventory : Inventory) : Operation → Prop
  | .sync now raw => ∀ proxy ∈ inventory.store.proxies.rows, proxy.id ∈ inventory.managed →
      ∃ after, (inventory.sync source now raw).store.proxies.get proxy.id = some after ∧
        LeftAlone proxy after
  | _ => True

/-- No proxy is managed when a sync starts, or it finds no pool and raises. -/
def Spared (inventory : Inventory) : Operation → Prop
  | .sync .. => inventory.managed = [] ∨ ¬ PoolAvailable "webshare" inventory.store
  | _ => True

/-- The row an operator added: Webshare's by its provider, in a pool that is not. -/
structure Operated (pools : List ProxyPool) (proxy : Proxy) : Prop where
  provider : proxy.provider = "webshare"
  active : proxy.isActive = true
  pool : ∃ pool ∈ pools, pool.id = proxy.poolId ∧ pool.provider ≠ "webshare"

def InPlace (inventory : Inventory) : Prop :=
  ∀ id ∈ inventory.managed, ∃ proxy ∈ inventory.store.proxies.rows,
    proxy.id = id ∧ Operated inventory.store.pools proxy

section Syncing

variable {source : UuidSource} {now : Moment} {raw : List RawProxy} {inventory : Inventory}
  {store after : Store} {stats : ProxySyncStats} {proxy : Proxy} {provider : String}
  {entries : List RawProxy}

theorem syncProvider_available (source : UuidSource) (now : Moment) (raw : List RawProxy)
    (h : PoolAvailable provider store) :
    ∃ after stats, syncProvider source provider now store raw = .ok (after, stats) := by
  obtain ⟨pool, found, hpool, -⟩ := ensureProviderPool_ok source now h
  have hsync : syncProvider source provider now store raw =
      .ok (reconcile source provider pool found (raw.foldl setProxy [])) := by
    rw [syncProvider, hpool]
    rfl
  exact ⟨_, _, hsync⟩

theorem syncProvider_unavailable (source : UuidSource) (now : Moment) (raw : List RawProxy)
    (h : ¬ PoolAvailable provider store) :
    syncProvider source provider now store raw = .error .other := by
  rw [syncProvider, ensureProviderPool_error source now h]
  rfl

theorem sync_ok (h : syncProvider source "webshare" now inventory.store raw = .ok (after, stats)) :
    (inventory.sync source now raw).store = after ∧
      (inventory.sync source now raw).managed = inventory.managed := by
  unfold Inventory.sync
  split
  · rename_i hfailed
    rw [h] at hfailed
    cases hfailed
  · rename_i hdone
    rw [h] at hdone
    cases hdone
    exact ⟨rfl, rfl⟩

theorem sync_error {failure : Failure}
    (h : syncProvider source "webshare" now inventory.store raw = .error failure) :
    inventory.sync source now raw = inventory := by
  unfold Inventory.sync
  split
  · rfl
  · rename_i hdone
    rw [h] at hdone
    cases hdone

theorem sync_managed : (inventory.sync source now raw).managed = inventory.managed := by
  by_cases hpool : PoolAvailable "webshare" inventory.store
  · obtain ⟨after, stats, hsync⟩ := syncProvider_available source now raw hpool
    exact (sync_ok hsync).2
  · rw [sync_error (syncProvider_unavailable source now raw hpool)]

theorem syncProvider_settled
    (h : syncProvider source provider now store raw = .ok (after, stats)) :
    ∃ home ∈ after.pools, home.provider = provider ∧ ∀ proxy ∈ store.proxies.rows,
      after.proxies.get proxy.id =
        some (settled provider home.id (raw.foldl setProxy []) proxy) := by
  obtain ⟨pool, found, hpool, hreconcile⟩ := syncProvider_ok h
  obtain ⟨hproxies, -, home, rfl, hhome⟩ := ensureProviderPool_found hpool
  have hnodup : (urls (raw.foldl setProxy [])).Nodup := nodup_normalized
  obtain ⟨fresh, hrewrites⟩ := reconcile_rewrites source provider home.id found hnodup
  have hpools : (reconcile source provider home.id found (raw.foldl setProxy [])).1.pools =
      found.pools := rfl
  rw [hreconcile] at hrewrites hpools
  refine ⟨home, hpools ▸ hhome.mem, hhome.owned, fun proxy hrow => ?_⟩
  exact hrewrites.get (hproxies.symm ▸ hrow)

theorem not_leftAlone_settled {home : Uuid} (hprovider : proxy.provider = provider)
    (hactive : proxy.isActive = true) (hpool : home ≠ proxy.poolId) :
    ¬ LeftAlone proxy (settled provider home entries proxy) := by
  intro h
  by_cases hlisted : proxy.url ∈ urls entries
  · obtain ⟨entry, -, hfind, -⟩ := find_url_some hlisted
    have hmoved := h.pool
    rw [settled_of_listed hprovider hfind] at hmoved
    exact hpool hmoved
  · exact hlisted ((settled_active hprovider).mp (h.active hactive))

theorem eq_of_pool_id {home other : ProxyPool} (hnodup : (store.pools.map ProxyPool.id).Nodup)
    (hhome : home ∈ store.pools) (hother : other ∈ store.pools) (h : home.id = other.id) :
    home = other := List.inj_on_of_nodup_map hnodup hhome hother h

/-- A sync that finds a pool disturbs every managed proxy that is in place. -/
theorem sync_disturbs (hplace : InPlace inventory) (hmanaged : inventory.managed ≠ [])
    (hpool : PoolAvailable "webshare" inventory.store) :
    ¬ LeavesManaged source inventory (.sync now raw) := by
  intro hleaves
  obtain ⟨id, hid⟩ := List.exists_mem_of_ne_nil _ hmanaged
  obtain ⟨proxy, hrow, rfl, hoperated⟩ := hplace id hid
  obtain ⟨after, stats, hsync⟩ := syncProvider_available source now raw hpool
  obtain ⟨home, hhome, howned, hsettled⟩ := syncProvider_settled hsync
  obtain ⟨later, hlater, halone⟩ := hleaves proxy hrow hid
  rw [(sync_ok hsync).1, hsettled proxy hrow] at hlater
  cases hlater
  refine not_leftAlone_settled hoperated.provider hoperated.active ?_ halone
  obtain ⟨pool, hmem, hsame, hother⟩ := hoperated.pool
  obtain ⟨fresh, hpools, hnodup⟩ := syncProvider_pools hsync
  intro heq
  have hkept : pool ∈ after.pools := hpools.symm ▸ List.mem_append_left _ hmem
  have hpool := eq_of_pool_id (hnodup inventory.poolIds) hhome hkept (heq.trans hsame.symm)
  exact hother (hpool ▸ howned)

theorem leavesManaged_of_spared {operation : Operation} (h : Spared inventory operation) :
    LeavesManaged source inventory operation := by
  cases operation with
  | createPool body now => trivial
  | addProxy poolId body => trivial
  | sync now raw =>
      intro proxy hrow hmanaged
      rcases h with hnone | hpool
      · rw [hnone] at hmanaged
        cases hmanaged
      · rw [sync_error (syncProvider_unavailable source now raw hpool)]
        exact ⟨proxy, ProxyTable.get_eq_some hrow, id, rfl, rfl⟩

theorem spared_of_leavesManaged {operation : Operation} (hplace : InPlace inventory)
    (h : LeavesManaged source inventory operation) : Spared inventory operation := by
  cases operation with
  | createPool body now => trivial
  | addProxy poolId body => trivial
  | sync now raw =>
      by_cases hnone : inventory.managed = []
      · exact .inl hnone
      · exact .inr fun hpool => sync_disturbs hplace hnone hpool h

end Syncing

section Steps

variable {text : TextMethods} {source : UuidSource} {inventory next : Inventory}
  {operation : Operation} {body : ProxyPoolCreate} {now : Moment}

theorem createProxyPool_inPlace (h : InPlace inventory)
    (hok : inventory.createProxyPool source body now = .ok next) : InPlace next := by
  unfold Inventory.createProxyPool at hok
  split at hok
  · cases hok
  · cases hok
    intro id hid
    obtain ⟨proxy, hrow, hsame, hoperated⟩ := h id hid
    obtain ⟨pool, hmem, hpool⟩ := hoperated.pool
    exact ⟨proxy, hrow, hsame, hoperated.provider, hoperated.active, pool,
      List.mem_append_left _ hmem, hpool⟩

theorem addProxyToPool_inPlace {poolId : Uuid} {body : ProxyCreate} (h : InPlace inventory)
    (hok : inventory.addProxyToPool text source poolId body = .ok next) : InPlace next := by
  unfold Inventory.addProxyToPool at hok
  split at hok
  · cases hok
  · rename_i pool hfind
    split at hok
    · cases hok
    · split at hok
      · cases hok
      · cases hok
        have hold (id : Uuid) (hid : id ∈ inventory.managed) : ∃ proxy ∈
            (inventory.store.proxies.rows ++ [createdProxy text
              (source (inventory.store.proxies.rows.map Proxy.id)) poolId body]),
            proxy.id = id ∧ Operated inventory.store.pools proxy := by
          obtain ⟨proxy, hrow, hproxy⟩ := h id hid
          exact ⟨proxy, List.mem_append_left _ hrow, hproxy⟩
        intro id hid
        dsimp only at hid
        split at hid
        · exact hold id hid
        · rename_i hother
          rcases List.mem_cons.mp hid with rfl | hrest
          · have hpool : pool.id = poolId := by simpa using List.find?_some hfind
            refine ⟨_, List.mem_append_right _ (List.mem_singleton_self _), rfl, rfl, rfl, ?_⟩
            exact ⟨pool, List.mem_of_find?_eq_some hfind, hpool, hother⟩
          · exact hold id hrest

theorem toOption_getD_inPlace {answer : Except CrawlerAPIError Inventory} (h : InPlace inventory)
    (hok : ∀ next, answer = .ok next → InPlace next) :
    InPlace (answer.toOption.getD inventory) := by
  cases answer with
  | error error => exact h
  | ok next => exact hok next rfl

theorem step_inPlace (h : InPlace inventory) (hspared : Spared inventory operation)
    (hstep : inventory.step text source operation = some next) : InPlace next := by
  cases operation with
  | createPool body now =>
      cases hstep
      exact toOption_getD_inPlace h fun next hok => createProxyPool_inPlace h hok
  | addProxy poolId body =>
      cases hstep
      exact toOption_getD_inPlace h fun next hok => addProxyToPool_inPlace h hok
  | sync now raw =>
      cases hstep
      rcases hspared with hnone | hpool
      · intro id hid
        rw [sync_managed, hnone] at hid
        cases hid
      · rw [sync_error (syncProvider_unavailable source now raw hpool)]
        exact h

end Steps

/-- Along a run of requests and syncs the syncs leave the managed proxies alone exactly
when each of them finds none, or finds no pool and raises. -/
theorem managed_left_alone_iff (text : TextMethods) (source : UuidSource) (inventory : Inventory)
    (operations : List Operation) :
    Along (Inventory.step text source) (LeavesManaged source) inventory.opened operations ↔
      Along (Inventory.step text source) Spared inventory.opened operations := by
  constructor
  · intro halong
    have hopened : InPlace inventory.opened := fun id hid => by cases hid
    have hspared (state : Inventory) (operation : Operation) (h : InPlace state)
        (hleaves : LeavesManaged source state operation) : Spared state operation :=
      spared_of_leavesManaged h hleaves
    exact Along.of_invariant (fun state operation next h hleaves hstep =>
      step_inPlace h (hspared state operation h hleaves) hstep) hspared hopened halong
  · intro halong
    have hleaves (state : Inventory) (operation : Operation) (_ : True)
        (hspared : Spared state operation) : LeavesManaged source state operation :=
      leavesManaged_of_spared hspared
    exact Along.of_invariant (fun _ _ _ _ _ _ => trivial) hleaves trivial halong

/-! A proxy in an operator's own pool, and a sync that lists nothing. -/

def emptyInventory : Inventory where
  store := ⟨[], ⟨[], List.nodup_nil, List.nodup_nil⟩, []⟩
  poolIds := List.nodup_nil

def ownProxy : List Operation :=
  [.createPool { name := "own", provider := "custom" } 0,
    .addProxy 0 { url := "http://u:p@192.0.2.1:8080", proxyType := .residential }, .sync 1 []]

theorem own_proxy_deactivated :
    ¬ ∀ text source inventory operations, Along (Inventory.step text source)
      (LeavesManaged source) (Inventory.opened inventory) operations := by
  intro h
  have halong := h asciiText nextUuid emptyInventory ownProxy
  have hsync := ((halong.2 _ rfl).2 _ rfl).1
  refine sync_disturbs ?_ ?_ ?_ hsync
  · intro id hid
    cases List.mem_singleton.mp hid
    exact ⟨_, List.mem_cons_self .., rfl, rfl, rfl, _, List.mem_cons_self .., rfl, by decide⟩
  · exact List.cons_ne_nil _ _
  · right
    decide

end CrawlerApi.Proxies
