import CrawlerApi.Proxies.Settled
import Mathlib.Data.List.Dedup
import Mathlib.Data.List.Perm.Basic

/-!
# What a provider sync leaves behind

The tables, the events and the counts behind `_sync_provider`, for every list, and the
same list once more.
-/

namespace CrawlerApi.Proxies

open Keys

structure ProviderPool (provider : String) (store : Store) (pool : ProxyPool) : Prop where
  mem : pool ∈ store.pools
  owned : pool.provider = provider
  oldest : ∀ other ∈ store.pools, other.provider = provider → pool.createdAt ≤ other.createdAt

/-- The columns a sync writes from a list's entry. -/
structure Carries (entry : RawProxy) (pool : ProxyPool) (row : Proxy) : Prop where
  pool : row.poolId = pool.id
  country : row.country = entry.country
  city : row.city = entry.city
  proxyType : row.proxyType = entry.proxyType

def wentUp (before after : ProxyTable) : List Proxy :=
  before.rows.filter fun row => !row.isActive && (after.get row.id).any (·.isActive)

def wentDown (before after : ProxyTable) : List Proxy :=
  before.rows.filter fun row => row.isActive && (after.get row.id).any (!·.isActive)

def added (before after : ProxyTable) : List Proxy :=
  after.rows.filter fun row => (before.get row.id).isNone

def relisted (provider : String) (raw : List RawProxy) (before : ProxyTable) : List Proxy :=
  before.rows.filter fun row => row.provider = provider ∧ row.url ∈ urls raw

/-- The tables, the events and the counts behind a sync of the provider's list. -/
structure Synced (provider : String) (raw : List RawProxy) (before after : Store)
    (stats : ProxySyncStats) : Prop where
  active : ∀ row ∈ after.proxies.rows, row.provider = provider →
    (row.isActive = true ↔ row.url ∈ urls raw)
  listed : ∃ pool, ProviderPool provider after pool ∧ ∀ url ∈ urls raw, ∃ entry row,
    lastListed raw url = some entry ∧
      after.proxies.rows.filter (·.key = (provider, url)) = [row] ∧ Carries entry pool row
  kept : ∀ row ∈ before.proxies.rows, ∃ later, after.proxies.get row.id = some later ∧
    later.key = row.key ∧ SameHealth row later
  others : after.proxies.rows.filter (·.provider ≠ provider) =
    before.proxies.rows.filter (·.provider ≠ provider)
  events : after.events = before.events ++
    eventsFor provider .activated (wentUp before.proxies after.proxies) ++
      eventsFor provider .deactivated (wentDown before.proxies after.proxies)
  stats : stats =
    { provider := provider
      fetched := (urls raw).dedup.length
      inserted := (added before.proxies after.proxies).length
      updated := (relisted provider raw before.proxies).length
      activated := (wentUp before.proxies after.proxies).length
      deactivated := (wentDown before.proxies after.proxies).length }

/-- Nothing but `updated_at` changes, and no event is added. -/
def Settles (provider : String) (raw : List RawProxy) (after : Store) (fetched : Nat) : Prop :=
  ∀ source now, syncProvider source provider now after raw =
    .ok (after, ⟨provider, fetched, 0, fetched, 0, 0⟩)

structure Rewrites (provider : String) (pool : Uuid) (entries : List RawProxy)
    (before after : ProxyTable) (fresh : List Proxy) : Prop where
  rows : after.rows = before.rows.map (settled provider pool entries) ++ fresh
  listed : fresh.map Proxy.url =
    (urls entries).filter fun url => (provider, url) ∉ before.rows.map Proxy.key
  entered : ∀ row ∈ fresh, ∃ entry ∈ entries, row = newProxy provider pool row.id entry

section Rewrites

variable {source : UuidSource} {provider : String} {pool : Uuid} {entries : List RawProxy}
  {before after : ProxyTable} {fresh : List Proxy} {row : Proxy}

theorem reconcile_rewrites (source : UuidSource) (provider : String) (pool : Uuid) (store : Store)
    (hnodup : (urls entries).Nodup) :
    ∃ fresh, Rewrites provider pool entries store.proxies
      (reconcile source provider pool store entries).1.proxies fresh := by
  obtain ⟨fresh, hrows, hurls, hentered⟩ :=
    @upsertAll_rows source provider pool store.proxies entries hnodup
  refine ⟨fresh, ?_, hurls, hentered⟩
  rw [reconcile_proxies, hrows, List.map_append, List.map_map]
  congr 1
  · apply List.map_congr_left
    intro row hrow
    exact updates_refreshed hnodup hrow
  · conv_rhs => rw [← List.map_id fresh]
    apply List.map_congr_left
    intro row hrow
    obtain ⟨entry, hentry, heq⟩ := hentered row hrow
    have hurl : entry.url ∈ fresh.map Proxy.url := by
      have hsame : row.url = entry.url := congrArg Proxy.url heq
      exact hsame ▸ List.mem_map_of_mem hrow
    rw [hurls] at hurl
    rw [heq]
    exact updates_newProxy hentry (by simpa using (List.mem_filter.mp hurl).2)

theorem Rewrites.get (h : Rewrites provider pool entries before after fresh)
    (hrow : row ∈ before.rows) : after.get row.id = some (settled provider pool entries row) := by
  have hmem : settled provider pool entries row ∈ after.rows := by
    rw [h.rows]
    exact List.mem_append_left _ (List.mem_map_of_mem hrow)
  rw [← ProxyTable.get_eq_some hmem, settled_id]

theorem Rewrites.fixed (h : Rewrites provider pool entries before after fresh)
    (hnodup : (urls entries).Nodup) (hrow : row ∈ after.rows) :
    settled provider pool entries row = row := by
  rw [h.rows, List.mem_append] at hrow
  rcases hrow with hold | hnew
  · obtain ⟨old, -, rfl⟩ := List.mem_map.mp hold
    exact settled_settled
  · obtain ⟨entry, hentry, heq⟩ := h.entered row hnew
    rw [heq]
    exact settled_newProxy hnodup hentry

theorem Rewrites.active (h : Rewrites provider pool entries before after fresh)
    (hnodup : (urls entries).Nodup) (hrow : row ∈ after.rows)
    (hprovider : row.provider = provider) : row.isActive = true ↔ row.url ∈ urls entries := by
  have hsettled : (settled provider pool entries row).isActive = true ↔ row.url ∈ urls entries :=
    settled_active hprovider
  rwa [h.fixed hnodup hrow] at hsettled

theorem Rewrites.mem_keys (h : Rewrites provider pool entries before after fresh) {url : String}
    (hlisted : url ∈ urls entries) : ∃ row ∈ after.rows, row.key = (provider, url) := by
  by_cases hold : (provider, url) ∈ before.rows.map Proxy.key
  · obtain ⟨row, hrow, hkey⟩ := List.mem_map.mp hold
    refine ⟨settled provider pool entries row, ?_, settled_key.trans hkey⟩
    rw [h.rows]
    exact List.mem_append_left _ (List.mem_map_of_mem hrow)
  · have hnew : url ∈ fresh.map Proxy.url := by
      rw [h.listed]
      exact List.mem_filter.mpr ⟨hlisted, by simpa using hold⟩
    obtain ⟨row, hrow, hurl⟩ := List.mem_map.mp hnew
    obtain ⟨entry, -, heq⟩ := h.entered row hrow
    have hprovider : row.provider = provider := congrArg Proxy.provider heq
    refine ⟨row, ?_, Prod.ext hprovider hurl⟩
    rw [h.rows]
    exact List.mem_append_right _ hrow

theorem filter_key (hrow : row ∈ after.rows) : after.rows.filter (·.key = row.key) = [row] := by
  apply List.perm_singleton.mp
  apply (List.perm_ext_iff_of_nodup ?_ (List.nodup_singleton _)).mpr
  · intro other
    rw [List.mem_filter, List.mem_singleton, decide_eq_true_eq]
    constructor
    · rintro ⟨hother, hkey⟩
      exact List.inj_on_of_nodup_map after.keyUnique hother hrow hkey
    · rintro rfl
      exact ⟨hrow, rfl⟩
  · exact (List.Nodup.of_map _ after.keyUnique).filter _

theorem Rewrites.carries {home : ProxyPool}
    (h : Rewrites provider home.id entries before after fresh) (hnodup : (urls entries).Nodup)
    {url : String} (hlisted : url ∈ urls entries) :
    ∃ entry row, entries.find? (·.url = url) = some entry ∧
      after.rows.filter (·.key = (provider, url)) = [row] ∧ Carries entry home row := by
  obtain ⟨row, hrow, hkey⟩ := h.mem_keys hlisted
  obtain ⟨hprovider, hurl⟩ := Prod.mk.inj hkey
  obtain ⟨entry, -, hfind, -⟩ := find_url_some hlisted
  refine ⟨entry, row, hfind, hkey ▸ filter_key hrow, ?_⟩
  rw [← h.fixed hnodup hrow, settled_of_listed hprovider (hurl.symm ▸ hfind)]
  exact ⟨rfl, rfl, rfl, rfl⟩

theorem Rewrites.others (h : Rewrites provider pool entries before after fresh) :
    after.rows.filter (·.provider ≠ provider) = before.rows.filter (·.provider ≠ provider) := by
  have hfresh : fresh.filter (·.provider ≠ provider) = [] := by
    rw [List.filter_eq_nil_iff]
    intro row hrow
    obtain ⟨entry, -, heq⟩ := h.entered row hrow
    have hprovider : row.provider = provider := congrArg Proxy.provider heq
    simp [hprovider]
  have hprovider : (fun row : Proxy => decide (row.provider ≠ provider)) ∘
      settled provider pool entries = fun row => decide (row.provider ≠ provider) := by
    funext row
    have hsame : (settled provider pool entries row).provider = row.provider :=
      congrArg Prod.fst settled_key
    simp [hsame]
  rw [h.rows, List.filter_append, hfresh, List.append_nil, List.filter_map, hprovider]
  conv_rhs => rw [← List.map_id (before.rows.filter _)]
  apply List.map_congr_left
  intro row hrow
  exact settled_of_other (by simpa using (List.mem_filter.mp hrow).2)

theorem Rewrites.added (h : Rewrites provider pool entries before after fresh) :
    added before after = fresh := by
  have hold : (before.rows.map (settled provider pool entries)).filter
      (fun row => (before.get row.id).isNone) = [] := by
    rw [List.filter_eq_nil_iff]
    intro row hrow
    obtain ⟨old, hmem, rfl⟩ := List.mem_map.mp hrow
    rw [settled_id, ProxyTable.get_eq_some hmem]
    exact Bool.false_ne_true
  have hnew : fresh.filter (fun row => (before.get row.id).isNone) = fresh := by
    rw [List.filter_eq_self]
    intro row hrow
    cases hget : before.get row.id with
    | none => rfl
    | some old =>
        obtain ⟨hmem, hid⟩ := ProxyTable.get_mem hget
        have hids := after.idUnique
        rw [h.rows, List.map_append, List.nodup_append] at hids
        refine absurd ?_ (hids.2.2 old.id ?_ row.id (List.mem_map_of_mem hrow))
        · exact hid
        · rw [List.map_map]
          exact List.mem_map.mpr ⟨old, hmem, settled_id⟩
  rw [Proxies.added, h.rows, List.filter_append, hold, hnew, List.nil_append]

theorem Rewrites.wentUp (h : Rewrites provider pool entries before after fresh) :
    (existing provider before).filter (fun row => !row.isActive && row.url ∈ urls entries) =
      wentUp before after := by
  unfold existing Proxies.wentUp
  rw [List.filter_filter]
  apply List.filter_congr
  intro row hrow
  rw [h.get hrow, Option.any_some]
  by_cases hprovider : row.provider = provider
  · have hactive : (settled provider pool entries row).isActive = decide (row.url ∈ urls entries) :=
      Bool.eq_iff_iff.mpr ((settled_active hprovider).trans decide_eq_true_iff.symm)
    simp [hactive, hprovider]
  · rw [settled_of_other hprovider]
    simp [hprovider]

theorem Rewrites.wentDown (h : Rewrites provider pool entries before after fresh) :
    (existing provider before).filter (fun row => row.isActive && row.url ∉ urls entries) =
      wentDown before after := by
  unfold existing Proxies.wentDown
  rw [List.filter_filter]
  apply List.filter_congr
  intro row hrow
  rw [h.get hrow, Option.any_some]
  by_cases hprovider : row.provider = provider
  · have hactive : (settled provider pool entries row).isActive = decide (row.url ∈ urls entries) :=
      Bool.eq_iff_iff.mpr ((settled_active hprovider).trans decide_eq_true_iff.symm)
    simp [hactive, hprovider]
  · rw [settled_of_other hprovider]
    simp [hprovider]

theorem mem_existing_urls {url : String} :
    url ∈ (existing provider before).map Proxy.url ↔
      (provider, url) ∈ before.rows.map Proxy.key := by
  rw [existing, List.mem_map, List.mem_map]
  constructor
  · rintro ⟨row, hrow, hurl⟩
    obtain ⟨hmem, hprovider⟩ := List.mem_filter.mp hrow
    rw [decide_eq_true_eq] at hprovider
    exact ⟨row, hmem, Prod.ext hprovider hurl⟩
  · rintro ⟨row, hrow, hkey⟩
    obtain ⟨hprovider, hurl⟩ := Prod.mk.inj hkey
    exact ⟨row, List.mem_filter.mpr ⟨hrow, decide_eq_true hprovider⟩, hurl⟩

theorem Rewrites.inserted (h : Rewrites provider pool entries before after fresh) :
    ((urls entries).filter fun url => url ∉ (existing provider before).map Proxy.url).length =
      (Proxies.added before after).length := by
  rw [h.added, ← List.length_map (f := Proxy.url), h.listed]
  congr 1
  apply List.filter_congr
  intro url _
  exact decide_eq_decide.mpr (not_congr mem_existing_urls)

theorem nodup_relisted : ((relisted provider entries before).map Proxy.url).Nodup := by
  have hkeys : ((relisted provider entries before).map Proxy.key).Nodup :=
    (List.filter_sublist.map _).nodup before.keyUnique
  have hpairs : (relisted provider entries before).map Proxy.key =
      ((relisted provider entries before).map Proxy.url).map (provider, ·) := by
    rw [List.map_map]
    apply List.map_congr_left
    intro row hrow
    have hpick := (List.mem_filter.mp hrow).2
    rw [decide_eq_true_eq] at hpick
    exact Prod.ext hpick.1 rfl
  rw [hpairs] at hkeys
  exact hkeys.of_map

theorem updated_rows (hnodup : (urls entries).Nodup) :
    ((urls entries).filter fun url => url ∈ (existing provider before).map Proxy.url).length =
      (relisted provider entries before).length := by
  rw [← List.length_map (f := Proxy.url)]
  apply List.Perm.length_eq
  refine (List.perm_ext_iff_of_nodup (hnodup.filter _) nodup_relisted).mpr fun url => ?_
  rw [List.mem_filter, decide_eq_true_eq, mem_existing_urls, List.mem_map, List.mem_map]
  constructor
  · rintro ⟨hlisted, row, hrow, hkey⟩
    obtain ⟨hprovider, rfl⟩ := Prod.mk.inj hkey
    exact ⟨row, List.mem_filter.mpr ⟨hrow, decide_eq_true ⟨hprovider, hlisted⟩⟩, rfl⟩
  · rintro ⟨row, hrow, rfl⟩
    obtain ⟨hmem, hpick⟩ := List.mem_filter.mp hrow
    rw [decide_eq_true_eq] at hpick
    exact ⟨hpick.2, row, hmem, Prod.ext hpick.1 rfl⟩

theorem ProxyTable.eq_of_rows (h : before.rows = after.rows) : before = after := by
  cases before
  cases after
  cases h
  rfl

/-- On tables a sync with these entries has left, it writes nothing. -/
theorem reconcile_again {store : Store} (source : UuidSource) (hnodup : (urls entries).Nodup)
    (hfixed : ∀ row ∈ store.proxies.rows, settled provider pool entries row = row)
    (hkeys : ∀ url ∈ urls entries, (provider, url) ∈ store.proxies.rows.map Proxy.key) :
    reconcile source provider pool store entries =
      (store, ⟨provider, (urls entries).length, 0, (urls entries).length, 0, 0⟩) := by
  obtain ⟨fresh, hrewrites⟩ := reconcile_rewrites source provider pool store hnodup
  have hfresh : fresh = [] := by
    rw [← List.map_eq_nil_iff (f := Proxy.url), hrewrites.listed, List.filter_eq_nil_iff]
    intro url hurl
    simpa using hkeys url hurl
  have hproxies : (reconcile source provider pool store entries).1.proxies = store.proxies := by
    apply ProxyTable.eq_of_rows
    rw [hrewrites.rows, hfresh, List.append_nil]
    conv_rhs => rw [← List.map_id store.proxies.rows]
    exact List.map_congr_left hfixed
  have hactive : ∀ row ∈ existing provider store.proxies,
      row.isActive = decide (row.url ∈ urls entries) := by
    intro row hrow
    obtain ⟨hmem, hprovider⟩ := List.mem_filter.mp hrow
    have hsettled : (settled provider pool entries row).isActive = true ↔
        row.url ∈ urls entries := settled_active (by simpa using hprovider)
    rw [hfixed row hmem] at hsettled
    exact Bool.eq_iff_iff.mpr (hsettled.trans decide_eq_true_iff.symm)
  have hup : (existing provider store.proxies).filter
      (fun row => !row.isActive && row.url ∈ urls entries) = [] := by
    rw [List.filter_eq_nil_iff]
    intro row hrow
    simp [hactive row hrow]
  have hdown : (existing provider store.proxies).filter
      (fun row => row.isActive && row.url ∉ urls entries) = [] := by
    rw [List.filter_eq_nil_iff]
    intro row hrow
    simp [hactive row hrow]
  have hall : (urls entries).filter
      (fun url => url ∈ (existing provider store.proxies).map Proxy.url) = urls entries := by
    rw [List.filter_eq_self]
    intro url hurl
    exact decide_eq_true (mem_existing_urls.mpr (hkeys url hurl))
  have hnone : (urls entries).filter
      (fun url => url ∉ (existing provider store.proxies).map Proxy.url) = [] := by
    rw [List.filter_eq_nil_iff]
    intro url hurl
    simpa using mem_existing_urls.mpr (hkeys url hurl)
  unfold reconcile at hproxies ⊢
  dsimp only at hproxies ⊢
  rw [hproxies, hup, hdown, hall, hnone]
  simp [eventsFor]

end Rewrites

section Sync

variable {source : UuidSource} {provider : String} {pool : Uuid} {now : Moment}
  {store found after : Store} {raw : List RawProxy} {stats : ProxySyncStats}

theorem createdAt_le_of_head {pools : List ProxyPool} {home other : ProxyPool}
    (h : (pools.mergeSort fun left right => left.createdAt ≤ right.createdAt).head? = some home)
    (hother : other ∈ pools) : home.createdAt ≤ other.createdAt := by
  have hsorted := @List.pairwise_mergeSort ProxyPool
    (fun left right => left.createdAt ≤ right.createdAt)
    (fun first second third hfirst hsecond => decide_eq_true
      (Int.le_trans (of_decide_eq_true hfirst) (of_decide_eq_true hsecond)))
    (fun left right => by simpa using Int.le_total left.createdAt right.createdAt) pools
  obtain ⟨rest, hrest⟩ := List.head?_eq_some_iff.mp h
  rw [hrest, List.pairwise_cons] at hsorted
  have hmem : other ∈ home :: rest := hrest ▸ List.mem_mergeSort.mpr hother
  rcases List.mem_cons.mp hmem with rfl | hlater
  · exact Int.le_refl _
  · exact of_decide_eq_true (hsorted.1 other hlater)

theorem ensureProviderPool_found
    (h : ensureProviderPool source provider now store = .ok (pool, found)) :
    found.proxies = store.proxies ∧ found.events = store.events ∧
      ∃ home, home.id = pool ∧ ProviderPool provider found home := by
  unfold ensureProviderPool at h
  dsimp only at h
  split at h
  · rename_i home hhead
    cases h
    refine ⟨rfl, rfl, home, rfl, ?_⟩
    have hmem := List.mem_mergeSort.mp (List.mem_of_head? hhead)
    obtain ⟨hpool, howned⟩ := List.mem_filter.mp hmem
    refine ⟨hpool, of_decide_eq_true howned, fun other hother hsame => ?_⟩
    exact createdAt_le_of_head hhead (List.mem_filter.mpr ⟨hother, decide_eq_true hsame⟩)
  · rename_i hhead
    have hnone := List.filter_eq_nil_iff.mp (eq_nil_of_head_mergeSort hhead)
    split at h
    · cases h
    · cases h
      refine ⟨rfl, rfl, _, rfl, List.mem_append_right _ (List.mem_singleton_self _), rfl, ?_⟩
      intro other hother hsame
      rcases List.mem_append.mp hother with hold | hnew
      · exact absurd (decide_eq_true hsame) (hnone other hold)
      · have hsame : other = _ := List.mem_singleton.mp hnew
        exact Int.le_of_eq (congrArg ProxyPool.createdAt hsame.symm)

theorem ensureProviderPool_again
    (h : ensureProviderPool source provider now store = .ok (pool, found))
    (hpools : after.pools = found.pools) (source : UuidSource) (now : Moment) :
    ensureProviderPool source provider now after = .ok (pool, after) := by
  unfold ensureProviderPool at h ⊢
  dsimp only at h ⊢
  rw [hpools]
  split at h
  · rename_i home hhead
    cases h
    rw [hhead]
  · rename_i hhead
    have hnone := eq_nil_of_head_mergeSort hhead
    split at h
    · cases h
    · cases h
      rw [List.filter_append, hnone]
      simp

theorem syncProvider_ok (h : syncProvider source provider now store raw = .ok (after, stats)) :
    ∃ pool found, ensureProviderPool source provider now store = .ok (pool, found) ∧
      reconcile source provider pool found (raw.foldl setProxy []) = (after, stats) := by
  unfold syncProvider at h
  cases hpool : ensureProviderPool source provider now store with
  | error failure =>
      rw [hpool] at h
      cases h
  | ok result =>
      obtain ⟨pool, found⟩ := result
      rw [hpool] at h
      exact ⟨pool, found, rfl, Except.ok.inj h⟩

section Reconcile

variable {entries : List RawProxy} {fresh : List Proxy}

theorem reconcile_events (h : Rewrites provider pool entries store.proxies
      (reconcile source provider pool store entries).1.proxies fresh) :
    (reconcile source provider pool store entries).1.events = store.events ++
      eventsFor provider .activated
        (wentUp store.proxies (reconcile source provider pool store entries).1.proxies) ++
      eventsFor provider .deactivated
        (wentDown store.proxies (reconcile source provider pool store entries).1.proxies) := by
  rw [← h.wentUp, ← h.wentDown]
  rfl

theorem reconcile_stats (hnodup : (urls entries).Nodup)
    (h : Rewrites provider pool entries store.proxies
      (reconcile source provider pool store entries).1.proxies fresh) :
    (reconcile source provider pool store entries).2 =
      { provider := provider
        fetched := (urls entries).length
        inserted := (added store.proxies
          (reconcile source provider pool store entries).1.proxies).length
        updated := (relisted provider entries store.proxies).length
        activated := (wentUp store.proxies
          (reconcile source provider pool store entries).1.proxies).length
        deactivated := (wentDown store.proxies
          (reconcile source provider pool store entries).1.proxies).length } := by
  rw [← h.wentUp, ← h.wentDown, ← h.inserted, ← updated_rows hnodup]
  rfl

end Reconcile

theorem mem_urls_normalized {url : String} :
    url ∈ urls (raw.foldl setProxy []) ↔ url ∈ urls raw := by
  rw [mem_urls_setAll]
  exact or_iff_right List.not_mem_nil

theorem nodup_normalized : (urls (raw.foldl setProxy [])).Nodup := by
  apply nodup_urls_setAll
  exact List.nodup_nil

theorem length_urls_normalized :
    (urls (raw.foldl setProxy [])).length = (urls raw).dedup.length := by
  apply List.Perm.length_eq
  apply (List.perm_ext_iff_of_nodup nodup_normalized (List.nodup_dedup _)).mpr
  intro url
  rw [mem_urls_normalized, List.mem_dedup]

theorem relisted_normalized :
    relisted provider (raw.foldl setProxy []) store.proxies =
      relisted provider raw store.proxies := by
  unfold relisted
  apply List.filter_congr
  intro row _
  exact decide_eq_decide.mpr (and_congr_right fun _ => mem_urls_normalized)

theorem sync_postcondition
    (h : syncProvider source provider now store raw = .ok (after, stats)) :
    Synced provider raw store after stats ∧ Settles provider raw after stats.fetched := by
  obtain ⟨pool, found, hpool, hreconcile⟩ := syncProvider_ok h
  obtain ⟨hproxies, hevents, home, rfl, hhome⟩ := ensureProviderPool_found hpool
  have hnodup : (urls (raw.foldl setProxy [])).Nodup := nodup_normalized
  obtain ⟨fresh, hrewrites⟩ := reconcile_rewrites source provider home.id found hnodup
  have hadded := reconcile_events hrewrites
  have hcounts := reconcile_stats hnodup hrewrites
  have hpools : (reconcile source provider home.id found (raw.foldl setProxy [])).1.pools =
      found.pools := rfl
  rw [hreconcile] at hrewrites hadded hcounts hpools
  rw [hproxies] at hrewrites hadded hcounts
  dsimp only at hrewrites hadded hcounts hpools
  constructor
  · constructor
    · intro row hrow hprovider
      rw [hrewrites.active hnodup hrow hprovider, mem_urls_normalized]
    · refine ⟨home, ⟨hpools ▸ hhome.mem, hhome.owned, hpools ▸ hhome.oldest⟩, ?_⟩
      intro url hurl
      obtain ⟨entry, row, hfind, hrow, hcarries⟩ :=
        hrewrites.carries hnodup (mem_urls_normalized.mpr hurl)
      rw [find_setAll, List.find?_nil, Option.or_none] at hfind
      exact ⟨entry, row, hfind, hrow, hcarries⟩
    · intro row hrow
      exact ⟨_, hrewrites.get hrow, settled_key, settled_health⟩
    · exact hrewrites.others
    · rw [hadded, hevents]
    · rw [hcounts, length_urls_normalized, relisted_normalized]
  · intro source now
    rw [syncProvider, ensureProviderPool_again hpool hpools]
    refine congrArg Except.ok ?_
    rw [hcounts]
    refine reconcile_again source hnodup (fun row hrow => hrewrites.fixed hnodup hrow) ?_
    intro url hurl
    obtain ⟨row, hrow, hkey⟩ := hrewrites.mem_keys hurl
    exact List.mem_map.mpr ⟨row, hrow, hkey⟩

end Sync

/-! A list that names one row twice and drops another. -/

def syncedBefore : Store where
  pools := [⟨7, "webshare-pool", "webshare", 0⟩, ⟨8, "custom-pool", "custom", 0⟩]
  proxies := ⟨[
    { id := 1, poolId := 8, url := "http://a", healthScore := 1 / 3, isActive := false },
    { id := 2, poolId := 7, url := "http://b", totalErrors := 45 },
    { id := 3, poolId := 8, provider := "custom", url := "http://a" }], by decide, by decide⟩

def relistedProxies : List RawProxy :=
  [⟨"http://a", some "PL", .datacenter, some "Warsaw"⟩, ⟨"http://c", none, .residential, none⟩,
    ⟨"http://a", some "PL", .residential, some "Krakow"⟩]

theorem relisted_synced : ∃ after stats,
    syncProvider nextUuid "webshare" 0 syncedBefore relistedProxies = .ok (after, stats) ∧
      Synced "webshare" relistedProxies syncedBefore after stats ∧
        Settles "webshare" relistedProxies after stats.fetched := by
  obtain ⟨pool, found, hpool, -⟩ := @ensureProviderPool_ok syncedBefore nextUuid 0 "webshare"
    (.inl ⟨_, List.mem_cons_self .., rfl⟩)
  have hsync : syncProvider nextUuid "webshare" 0 syncedBefore relistedProxies =
      .ok (reconcile nextUuid "webshare" pool found (relistedProxies.foldl setProxy [])) := by
    rw [syncProvider, hpool]
    rfl
  exact ⟨_, _, hsync, sync_postcondition hsync⟩

end CrawlerApi.Proxies
