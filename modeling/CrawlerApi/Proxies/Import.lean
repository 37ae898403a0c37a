import CrawlerApi.Proxies.Inserts
import CrawlerApi.Proxies.Managed
import CrawlerApi.Proxies.Sticky

/-!
# Importing proxies in bulk

`import_proxies` opens a pool and upserts the listed proxies one after the other.  What an
upsert leaves of a row that is there is read off at its key; whether the row is active is not
among the columns it writes.
-/

namespace CrawlerApi.Proxies

open Keys

/-- `pool_id.hex[:8]`. -/
def shortHex (id : Uuid) : String := String.ofList (((Nat.toDigits 16 id).leftpad 32 '0').take 8)

section Import

variable (text : TextMethods) (source : UuidSource)

theorem id_free (table : ProxyTable) :
    (source (table.rows.map Proxy.id)).val ∉ table.rows.map Proxy.id :=
  (source (table.rows.map Proxy.id)).property

/-- The `INSERT … ON CONFLICT DO UPDATE` of one item. -/
def importItem (pool : Uuid) (table : ProxyTable) (item : ImportItem) : ProxyTable :=
  let found := table.rows.find? fun proxy => proxy.url = item.url ∧ proxy.provider = "webshare"
  if hfree : found.isNone = true then
    table.insert (importedProxy text (source (table.rows.map Proxy.id)) pool item)
      (id_free source table)
      (key_free_of_find? (Option.isNone_iff_eq_none.mp hfree))
  else table.edit (reimport text item)

/-- `import_proxies` and the number it answers; `none` where the name of the pool is taken. -/
def importProxies (now : Moment) (items : List ImportItem) (store : Store) :
    Option (Store × Nat) :=
  let pool := source (store.pools.map ProxyPool.id)
  let name := "bulk-import-" ++ shortHex pool
  if name ∈ store.pools.map ProxyPool.name then none
  else
    some ({ store with
        pools := store.pools ++ [⟨pool, name, "webshare", now⟩]
        proxies := items.foldl (importItem text source pool) store.proxies },
      items.length)

end Import

/-- `get_proxy` can select the row for every call without a pool whose filters it matches. -/
def Selectable (text : TextMethods) (table : ProxyTable) (row : Proxy) : Prop :=
  ∀ lookups arguments now, lookups.isCircuitOpen = false → arguments.stickyKey = none →
    arguments.effectivePool = none → Fits text arguments row → row.id ∉ arguments.excludeIds →
      ∃ draw, Draw.InRange draw ∧
        (getProxy text table lookups arguments now draw).proxy = some row

structure Usable (text : TextMethods) (table : ProxyTable) (item : ImportItem) (row : Proxy) :
    Prop where
  present : row ∈ table.rows
  key : row.key = ("webshare", item.url)
  active : row.isActive = true
  rested : ∀ now, row.isOnCooldown now = false
  country : row.country = some (Arguments.countryCode text item.country)
  proxyType : row.proxyType = item.proxyType
  selectable : Selectable text table row

def ListedIn (items : List ImportItem) (row : Proxy) : Prop :=
  row.provider = "webshare" ∧ ∃ item ∈ items, item.url = row.url

/-- Every listed proxy is usable as its last occurrence says, and no other row changes. -/
structure MakesUsable (text : TextMethods) (items : List ImportItem)
    (before after : ProxyTable) : Prop where
  usable : ∀ earlier item later, items = earlier ++ item :: later →
    (∀ other ∈ later, other.url ≠ item.url) → ∃ row, Usable text after item row
  others : ∀ row, ¬ ListedIn items row → (row ∈ after.rows ↔ row ∈ before.rows)

section Lookup

variable {text : TextMethods} {source : UuidSource} {pool : Uuid} {table : ProxyTable}
  {item : ImportItem} {row : Proxy} {url : String}

def ProxyTable.atUrl (table : ProxyTable) (url : String) : Option Proxy :=
  table.rows.find? fun row => row.key = ("webshare", url)

theorem atUrl_eq_some : table.atUrl url = some row ↔
    row ∈ table.rows ∧ row.key = ("webshare", url) := by
  constructor
  · exact fun h => ⟨List.mem_of_find?_eq_some h, by simpa using List.find?_some h⟩
  · rintro ⟨hrow, hkey⟩
    cases hfind : table.atUrl url with
    | none => exact absurd (by simpa using hkey) (List.find?_eq_none.mp hfind row hrow)
    | some other =>
        have hother : other.key = ("webshare", url) := by simpa using List.find?_some hfind
        rw [List.inj_on_of_nodup_map table.keyUnique (List.mem_of_find?_eq_some hfind) hrow
          (hother.trans hkey.symm)]

def overwritten (text : TextMethods) (item : ImportItem) (row : Proxy) : Proxy :=
  { row with
    country := some (Arguments.countryCode text item.country)
    proxyType := item.proxyType
    healthScore := 1
    consecutiveFailures := 0
    cooldownUntil := none }

theorem reimport_apply_of_key (h : row.key = ("webshare", item.url)) :
    (reimport text item).apply row = overwritten text item row := if_pos h

theorem reimport_apply_of_ne (h : row.key ≠ ("webshare", item.url)) :
    (reimport text item).apply row = row := if_neg h

theorem importItem_cases :
    (∃ row, table.atUrl item.url = some row ∧
        importItem text source pool table item = table.edit (reimport text item)) ∨
      table.atUrl item.url = none ∧ ∃ id,
        (importItem text source pool table item).rows =
          table.rows ++ [importedProxy text id pool item] := by
  have hsame : table.rows.find? (fun proxy => proxy.url = item.url ∧ proxy.provider = "webshare") =
      table.atUrl item.url := by
    unfold ProxyTable.atUrl
    congr 1
    funext proxy
    unfold Proxy.key
    rw [decide_eq_decide, Prod.mk.injEq]
    exact and_comm
  unfold importItem
  dsimp only
  split
  · rename_i hnone
    exact .inr ⟨hsame ▸ Option.isNone_iff_eq_none.mp hnone, _, rfl⟩
  · rename_i hsome
    obtain ⟨found, hfound⟩ := Option.ne_none_iff_exists'.mp
      fun hnone => hsome (Option.isNone_iff_eq_none.mpr hnone)
    exact .inl ⟨found, hsame ▸ hfound, rfl⟩

theorem atUrl_importItem : ∃ row,
    (importItem text source pool table item).atUrl item.url = some row ∧
      overwritten text item row = row ∧
      row.isActive = ((table.atUrl item.url).map Proxy.isActive).getD true := by
  rcases @importItem_cases text source pool table item with ⟨old, hold, hedit⟩ | ⟨hnone, id, hrows⟩
  · obtain ⟨hmem, hkey⟩ := atUrl_eq_some.mp hold
    refine ⟨overwritten text item old, atUrl_eq_some.mpr ⟨?_, hkey⟩, rfl, ?_⟩
    · rw [hedit, ← reimport_apply_of_key hkey]
      exact List.mem_map_of_mem hmem
    · rw [hold]
      rfl
  · refine ⟨importedProxy text id pool item, atUrl_eq_some.mpr ⟨?_, rfl⟩, rfl, ?_⟩
    · rw [hrows]
      exact List.mem_append_right _ (List.mem_singleton_self _)
    · rw [hnone]
      rfl

theorem mem_importItem_of_ne (h : row.key ≠ ("webshare", item.url)) :
    row ∈ (importItem text source pool table item).rows ↔ row ∈ table.rows := by
  rcases @importItem_cases text source pool table item with ⟨old, hold, hedit⟩ | ⟨hnone, id, hrows⟩
  · rw [hedit]
    constructor
    · intro hmem
      obtain ⟨before, hbefore, rfl⟩ := List.mem_map.mp hmem
      rw [(reimport text item).key before] at h
      rwa [reimport_apply_of_ne h]
    · intro hmem
      exact List.mem_map.mpr ⟨row, hmem, reimport_apply_of_ne h⟩
  · rw [hrows, List.mem_append, List.mem_singleton, or_iff_left]
    rintro rfl
    exact h rfl

theorem atUrl_importItem_of_ne (h : url ≠ item.url) :
    (importItem text source pool table item).atUrl url = table.atUrl url := by
  apply Option.ext
  intro row
  rw [atUrl_eq_some, atUrl_eq_some]
  apply and_congr_left
  intro hkey
  apply mem_importItem_of_ne
  rw [hkey]
  exact fun heq => h (Prod.mk.inj heq).2

theorem active_importItem :
    (((importItem text source pool table item).atUrl url).map Proxy.isActive).getD true =
      ((table.atUrl url).map Proxy.isActive).getD true := by
  by_cases h : url = item.url
  · subst h
    obtain ⟨row, hrow, -, hactive⟩ := @atUrl_importItem text source pool table item
    rw [hrow]
    exact hactive
  · rw [atUrl_importItem_of_ne h]

end Lookup

section Lists

variable {text : TextMethods} {source : UuidSource} {pool : Uuid} {table : ProxyTable}
  {items : List ImportItem} {row : Proxy} {url : String}

theorem active_imported :
    (((items.foldl (importItem text source pool) table).atUrl url).map Proxy.isActive).getD true =
      ((table.atUrl url).map Proxy.isActive).getD true := by
  induction items generalizing table with
  | nil => rfl
  | cons item items ih => exact ih.trans active_importItem

theorem atUrl_imported_of_ne (h : ∀ item ∈ items, item.url ≠ url) :
    (items.foldl (importItem text source pool) table).atUrl url = table.atUrl url := by
  induction items generalizing table with
  | nil => rfl
  | cons item items ih =>
      obtain ⟨hfirst, hrest⟩ := List.forall_mem_cons.mp h
      exact (ih hrest).trans (atUrl_importItem_of_ne hfirst.symm)

theorem mem_imported_of_not_listed (h : ¬ ListedIn items row) :
    row ∈ (items.foldl (importItem text source pool) table).rows ↔ row ∈ table.rows := by
  induction items generalizing table with
  | nil => rfl
  | cons item items ih =>
      have hrest : ¬ ListedIn items row := fun ⟨hprovider, other, hother, hurl⟩ =>
        h ⟨hprovider, other, List.mem_cons_of_mem _ hother, hurl⟩
      refine (ih hrest).trans (mem_importItem_of_ne fun hkey => h ?_)
      obtain ⟨hprovider, hurl⟩ := Prod.mk.inj hkey
      exact ⟨hprovider, item, List.mem_cons_self .., hurl.symm⟩

/-- The last item of a URL says what its row becomes. -/
theorem atUrl_imported_last {earlier later : List ImportItem} {item : ImportItem}
    (hlast : ∀ other ∈ later, other.url ≠ item.url) : ∃ row,
    ((earlier ++ item :: later).foldl (importItem text source pool) table).atUrl item.url =
        some row ∧
      overwritten text item row = row ∧
      row.isActive = ((table.atUrl item.url).map Proxy.isActive).getD true := by
  obtain ⟨row, hrow, hcolumns, hactive⟩ := @atUrl_importItem text source pool
    (earlier.foldl (importItem text source pool) table) item
  refine ⟨row, ?_, hcolumns, hactive.trans active_imported⟩
  rw [List.foldl_append, List.foldl_cons, atUrl_imported_of_ne hlast, hrow]

theorem exists_last (h : ∃ item ∈ items, item.url = url) :
    ∃ earlier last later, items = earlier ++ last :: later ∧ last.url = url ∧
      ∀ other ∈ later, other.url ≠ url := by
  induction items with
  | nil =>
      obtain ⟨item, hitem, -⟩ := h
      cases hitem
  | cons first items ih =>
      by_cases hagain : ∃ item ∈ items, item.url = url
      · obtain ⟨earlier, last, later, rfl, hlast⟩ := ih hagain
        exact ⟨first :: earlier, last, later, rfl, hlast⟩
      · have hnone : ∀ other ∈ items, other.url ≠ url :=
          fun other hother hurl => hagain ⟨other, hother, hurl⟩
        obtain ⟨item, hitem, hurl⟩ := h
        rcases List.mem_cons.mp hitem with rfl | hrest
        · exact ⟨[], item, items, rfl, hurl, hnone⟩
        · exact absurd hurl (hnone item hrest)

theorem usable_of_overwritten {item : ImportItem} (hrow : table.atUrl item.url = some row)
    (hcolumns : overwritten text item row = row) (hactive : row.isActive = true) :
    Usable text table item row := by
  obtain ⟨hmem, hkey⟩ := atUrl_eq_some.mp hrow
  have hrested : ∀ now, row.isOnCooldown now = false := by
    intro now
    rw [← hcolumns]
    rfl
  refine ⟨hmem, hkey, hactive, hrested, ?_, ?_, ?_⟩
  · rw [← hcolumns]
    rfl
  · rw [← hcolumns]
    rfl
  · intro lookups arguments now hclosed hkey hpool hfits hexcluded
    have heligible : Eligible text arguments now row := ⟨hactive, hrested now, hexcluded, hfits⟩
    obtain ⟨draw, hrange, hdrawn⟩ := drawProxy_reaches hmem heligible []
    refine ⟨draw, hrange, ?_⟩
    unfold getProxy
    rw [hclosed, hkey]
    exact hdrawn

end Lists

theorem proxies_importProxies {text : TextMethods} {source : UuidSource} {now : Moment}
    {items : List ImportItem} {store after : Store} {count : Nat}
    (h : importProxies text source now items store = some (after, count)) :
    ∃ pool, after.proxies = items.foldl (importItem text source pool) store.proxies := by
  unfold importProxies at h
  dsimp only at h
  split at h
  · cases h
  · cases h
    exact ⟨_, rfl⟩

/-- An import makes its proxies usable exactly if no listed row was inactive. -/
theorem import_makes_usable_iff {text : TextMethods} {source : UuidSource} {now : Moment}
    {items : List ImportItem} {store after : Store} {count : Nat}
    (h : importProxies text source now items store = some (after, count)) :
    MakesUsable text items store.proxies after.proxies ↔
      ∀ row ∈ store.proxies.rows, ListedIn items row → row.isActive = true := by
  obtain ⟨pool, hproxies⟩ := proxies_importProxies h
  rw [hproxies]
  constructor
  · rintro makes row hrow ⟨hprovider, hlisted⟩
    obtain ⟨earlier, last, later, hitems, hurl, hnone⟩ := exists_last hlisted
    rw [← hurl] at hnone
    obtain ⟨found, usable⟩ := makes.usable earlier last later hitems hnone
    have hfound := atUrl_eq_some.mpr ⟨usable.present, usable.key⟩
    have hbefore : store.proxies.atUrl last.url = some row :=
      atUrl_eq_some.mpr ⟨hrow, by rw [hurl, ← hprovider]; rfl⟩
    have hactive := @active_imported text source pool store.proxies items last.url
    rw [hfound, hbefore] at hactive
    exact hactive.symm.trans usable.active
  · intro hactive
    refine ⟨?_, fun row hrow => mem_imported_of_not_listed hrow⟩
    rintro earlier item later rfl hlast
    obtain ⟨row, hrow, hcolumns, hsame⟩ :=
      @atUrl_imported_last text source pool store.proxies earlier later item hlast
    refine ⟨row, usable_of_overwritten hrow hcolumns ?_⟩
    rw [hsame]
    cases hbefore : store.proxies.atUrl item.url with
    | none => rfl
    | some old =>
        obtain ⟨hmem, hkey⟩ := atUrl_eq_some.mp hbefore
        obtain ⟨hprovider, hurl⟩ := Prod.mk.inj hkey
        exact hactive old hmem ⟨hprovider, item, List.mem_append_right _ (List.mem_cons_self ..),
          hurl.symm⟩

/-! A proxy that a sync has deactivated, and one that was put on cooldown. -/

def listedItem : ImportItem where
  host := "10.0.0.1"
  port := 8080
  username := "user"
  password := "secret"
  country := "de"
  proxyType := .isp
  typed := isp_ne_mobile

def listedRow (isActive : Bool) : Proxy where
  id := 1
  poolId := 2
  url := listedItem.url
  cooldownUntil := some 100
  isActive := isActive

def listedStore (isActive : Bool) : Store where
  pools := [⟨2, "webshare-pool", "webshare", 0⟩]
  proxies := ⟨[listedRow isActive], List.nodup_singleton _, List.nodup_singleton _⟩

theorem cooled_proxy_usable : ∃ after count,
    importProxies asciiText nextUuid 7 [listedItem] (listedStore true) = some (after, count) ∧
      MakesUsable asciiText [listedItem] (listedStore true).proxies after.proxies := by
  refine ⟨_, _, rfl, ?_⟩
  refine (@import_makes_usable_iff asciiText nextUuid 7 [listedItem] (listedStore true) _ _ rfl).mpr
    fun row hrow _ => ?_
  rw [List.mem_singleton.mp hrow]
  rfl

theorem deactivated_proxy_stays : ∃ after count,
    importProxies asciiText nextUuid 7 [listedItem] (listedStore false) = some (after, count) ∧
      ¬ MakesUsable asciiText [listedItem] (listedStore false).proxies after.proxies := by
  refine ⟨_, _, rfl, fun makes => ?_⟩
  obtain ⟨row, usable⟩ := makes.usable [] listedItem [] rfl (List.forall_mem_nil _)
  have hinactive : ∀ other ∈ ([listedItem].foldl (importItem asciiText nextUuid 3)
      (listedStore false).proxies).rows, other.isActive = false := by decide +kernel
  have hactive := usable.active
  rw [hinactive row usable.present] at hactive
  cases hactive

end CrawlerApi.Proxies
