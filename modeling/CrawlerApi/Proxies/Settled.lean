import CrawlerApi.Proxies.Sync

/-!
# A row behind a provider sync

The upsert, the pool move and the two conditional updates of `_sync_provider` all work
from one snapshot of the provider's rows.  Together they rewrite each row that was
there by `settled` and append the listed URLs that had none.
-/

namespace CrawlerApi.Proxies

open Keys

def withEntry (pool : Uuid) (proxy : Proxy) : Option RawProxy → Proxy
  | none => { proxy with isActive := false }
  | some entry =>
      { proxy with
          poolId := pool
          country := entry.country
          city := entry.city
          proxyType := entry.proxyType
          isActive := true }

def settled (provider : String) (pool : Uuid) (entries : List RawProxy) (proxy : Proxy) : Proxy :=
  if proxy.provider = provider then
    withEntry pool proxy (entries.find? (·.url = proxy.url))
  else proxy

def refreshed (provider : String) (entries : List RawProxy) (proxy : Proxy) : Proxy :=
  entries.foldl (fun row entry => (refresh provider entry).apply row) proxy

structure SameHealth (proxy later : Proxy) : Prop where
  healthScore : later.healthScore = proxy.healthScore
  consecutiveFailures : later.consecutiveFailures = proxy.consecutiveFailures
  cooldownUntil : later.cooldownUntil = proxy.cooldownUntil
  totalRequests : later.totalRequests = proxy.totalRequests
  totalErrors : later.totalErrors = proxy.totalErrors

section Rows

variable {source : UuidSource} {provider : String} {pool : Uuid} {table : ProxyTable}
  {proxy : Proxy} {entry : RawProxy} {entries : List RawProxy} {store : Store}

theorem refresh_of_ne (h : proxy.key ≠ (provider, entry.url)) :
    (refresh provider entry).apply proxy = proxy := if_neg h

theorem refreshed_of_not (h : ∀ entry ∈ entries, proxy.key ≠ (provider, entry.url)) :
    refreshed provider entries proxy = proxy := by
  induction entries with
  | nil => rfl
  | cons first entries ih =>
      rw [refreshed, List.foldl_cons, refresh_of_ne (h first (List.mem_cons_self ..))]
      exact ih fun entry hentry => h entry (List.mem_cons_of_mem _ hentry)

theorem refreshed_of_mem (hnodup : (urls entries).Nodup) (h : entry ∈ entries)
    (hkey : proxy.key = (provider, entry.url)) :
    refreshed provider entries proxy =
      { proxy with
        country := entry.country, city := entry.city, proxyType := entry.proxyType } := by
  induction entries with
  | nil => cases h
  | cons first entries ih =>
      obtain ⟨hfirst, hrest⟩ := List.nodup_cons.mp hnodup
      rw [refreshed, List.foldl_cons]
      rcases List.mem_cons.mp h with rfl | hmem
      · rw [show (refresh provider entry).apply proxy = { proxy with
          country := entry.country, city := entry.city, proxyType := entry.proxyType } from
            if_pos hkey]
        apply refreshed_of_not
        intro other hother hsame
        have hurl : entry.url = other.url := (Prod.mk.inj (hkey.symm.trans hsame)).2
        exact hfirst (List.mem_map.mpr ⟨other, hother, hurl.symm⟩)
      · rw [refresh_of_ne]
        · exact ih hrest hmem
        · intro hsame
          have hurl : entry.url = first.url := (Prod.mk.inj (hkey.symm.trans hsame)).2
          exact hfirst (List.mem_map.mpr ⟨entry, hmem, hurl⟩)

theorem upsert_rows : (upsert source provider pool table entry).rows =
    table.rows.map (refresh provider entry).apply ++
      if (provider, entry.url) ∈ table.rows.map Proxy.key then []
      else [newProxy provider pool (source (table.rows.map Proxy.id)) entry] := by
  unfold upsert
  split
  · exact (List.append_nil _).symm
  · rename_i hnew
    have hkept : table.rows.map (refresh provider entry).apply = table.rows := by
      conv_rhs => rw [← List.map_id table.rows]
      apply List.map_congr_left
      intro row hrow
      exact refresh_of_ne fun hsame => hnew (List.mem_map.mpr ⟨row, hrow, hsame⟩)
    rw [hkept]
    rfl

theorem upsert_keys : (upsert source provider pool table entry).rows.map Proxy.key =
    table.rows.map Proxy.key ++
      if (provider, entry.url) ∈ table.rows.map Proxy.key then [] else [(provider, entry.url)] := by
  have hkeys : (table.rows.map (refresh provider entry).apply).map Proxy.key =
      table.rows.map Proxy.key := by
    rw [List.map_map]
    exact List.map_congr_left fun row _ => (refresh provider entry).key row
  rw [upsert_rows, List.map_append, hkeys]
  split
  · rfl
  · rfl

theorem upsertAll_rows (hnodup : (urls entries).Nodup) :
    ∃ fresh, (entries.foldl (upsert source provider pool) table).rows =
        table.rows.map (refreshed provider entries) ++ fresh ∧
      fresh.map Proxy.url =
        (urls entries).filter (fun url => (provider, url) ∉ table.rows.map Proxy.key) ∧
      ∀ row ∈ fresh, ∃ entry ∈ entries, row = newProxy provider pool row.id entry := by
  induction entries generalizing table with
  | nil =>
      refine ⟨[], ?_, rfl, fun row hrow => absurd hrow List.not_mem_nil⟩
      exact ((List.append_nil _).trans (List.map_id' _)).symm
  | cons entry entries ih =>
      obtain ⟨hentry, hrest⟩ := List.nodup_cons.mp hnodup
      obtain ⟨fresh, hrows, hurls, hnew⟩ :=
        @ih (upsert source provider pool table entry) hrest
      rw [upsert_keys] at hurls
      rw [upsert_rows] at hrows
      by_cases hmem : (provider, entry.url) ∈ table.rows.map Proxy.key
      · refine ⟨fresh, ?_, ?_, ?_⟩
        · rw [List.foldl_cons, hrows, if_pos hmem, List.append_nil, List.map_map]
          rfl
        · rw [hurls, if_pos hmem, List.append_nil, urls_cons,
            List.filter_cons_of_neg (by simpa using hmem)]
        · intro row hrow
          obtain ⟨other, hother, heq⟩ := hnew row hrow
          exact ⟨other, List.mem_cons_of_mem _ hother, heq⟩
      · refine ⟨newProxy provider pool (source (table.rows.map Proxy.id)) entry :: fresh,
          ?_, ?_, ?_⟩
        · have hkept : refreshed provider entries
              (newProxy provider pool (source (table.rows.map Proxy.id)) entry) =
                newProxy provider pool (source (table.rows.map Proxy.id)) entry := by
            apply refreshed_of_not
            intro other hother hsame
            have hurl : entry.url = other.url := (Prod.mk.inj hsame).2
            exact hentry (List.mem_map.mpr ⟨other, hother, hurl.symm⟩)
          rw [List.foldl_cons, hrows, if_neg hmem, List.map_append, List.map_map,
            List.map_singleton, hkept, List.append_assoc]
          rfl
        · rw [List.map_cons, hurls, if_neg hmem, urls_cons,
            List.filter_cons_of_pos (by simpa using hmem)]
          refine congrArg (entry.url :: ·) (List.filter_congr fun url hurl => ?_)
          have hne : url ≠ entry.url := by
            rintro rfl
            exact hentry hurl
          simp [hne]
        · intro row hrow
          rcases List.mem_cons.mp hrow with rfl | hfresh
          · exact ⟨entry, List.mem_cons_self .., rfl⟩
          · obtain ⟨other, hother, heq⟩ := hnew row hfresh
            exact ⟨other, List.mem_cons_of_mem _ hother, heq⟩

def updates (provider : String) (pool : Uuid) (fetched up down : List String) (row : Proxy) :
    Proxy :=
  (editUrls provider down (setActive false)).apply
    ((editUrls provider up (setActive true)).apply
      ((editUrls provider fetched (setPool pool)).apply row))

def raisedUrls (provider : String) (table : ProxyTable) (entries : List RawProxy) : List String :=
  ((existing provider table).filter fun row =>
    !row.isActive && row.url ∈ urls entries).map Proxy.url

def loweredUrls (provider : String) (table : ProxyTable) (entries : List RawProxy) : List String :=
  ((existing provider table).filter fun row => row.isActive && row.url ∉ urls entries).map Proxy.url

theorem reconcile_proxies : (reconcile source provider pool store entries).1.proxies.rows =
    (entries.foldl (upsert source provider pool) store.proxies).rows.map
      (updates provider pool (urls entries) (raisedUrls provider store.proxies entries)
        (loweredUrls provider store.proxies entries)) := by
  unfold reconcile
  dsimp only [ProxyTable.edit]
  rw [List.map_map, List.map_map]
  rfl

section Updates

variable {fetched up down : List String}

theorem updates_of_other (h : proxy.provider ≠ provider) :
    updates provider pool fetched up down proxy = proxy := by
  unfold updates
  rw [editUrls_of_not fun hmem => h hmem.1, editUrls_of_not fun hmem => h hmem.1,
    editUrls_of_not fun hmem => h hmem.1]

theorem updates_of_listed (hprovider : proxy.provider = provider) (hlisted : proxy.url ∈ fetched)
    (hup : proxy.url ∈ up ∨ proxy.isActive = true) (hdown : proxy.url ∉ down) :
    updates provider pool fetched up down proxy =
      { proxy with poolId := pool, isActive := true } := by
  have hmoved : (editUrls provider fetched (setPool pool)).apply proxy =
      { proxy with poolId := pool } := editUrls_of_mem hprovider hlisted
  have hactive : (editUrls provider up (setActive true)).apply { proxy with poolId := pool } =
      { proxy with poolId := pool, isActive := true } := by
    by_cases hraised : proxy.url ∈ up
    · exact editUrls_of_mem hprovider hraised
    · rw [← hup.resolve_left hraised]
      exact editUrls_of_not fun hmem => hraised hmem.2
  rw [updates, hmoved, hactive]
  exact editUrls_of_not fun hmem => hdown hmem.2

theorem updates_of_unlisted (hprovider : proxy.provider = provider) (hlisted : proxy.url ∉ fetched)
    (hup : proxy.url ∉ up) (hdown : proxy.url ∈ down ∨ proxy.isActive = false) :
    updates provider pool fetched up down proxy = { proxy with isActive := false } := by
  unfold updates
  rw [editUrls_of_not fun hmem => hlisted hmem.2, editUrls_of_not fun hmem => hup hmem.2]
  by_cases hlowered : proxy.url ∈ down
  · exact editUrls_of_mem hprovider hlowered
  · have hinactive : proxy.isActive = false := hdown.resolve_left hlowered
    rw [editUrls_of_not fun hmem => hlowered hmem.2, ← hinactive]

end Updates

theorem mem_raisedUrls (hrow : proxy ∈ table.rows) (hprovider : proxy.provider = provider) :
    proxy.url ∈ raisedUrls provider table entries ↔
      proxy.isActive = false ∧ proxy.url ∈ urls entries := by
  rw [raisedUrls, pick_of_mem_urls hrow hprovider]
  simp

theorem mem_loweredUrls (hrow : proxy ∈ table.rows) (hprovider : proxy.provider = provider) :
    proxy.url ∈ loweredUrls provider table entries ↔
      proxy.isActive = true ∧ proxy.url ∉ urls entries := by
  rw [loweredUrls, pick_of_mem_urls hrow hprovider]
  simp

theorem updates_refreshed (hnodup : (urls entries).Nodup) (hrow : proxy ∈ table.rows) :
    updates provider pool (urls entries) (raisedUrls provider table entries)
      (loweredUrls provider table entries) (refreshed provider entries proxy) =
        settled provider pool entries proxy := by
  unfold settled
  by_cases hprovider : proxy.provider = provider
  · have hraised : proxy.url ∈ raisedUrls provider table entries ↔
        proxy.isActive = false ∧ proxy.url ∈ urls entries := mem_raisedUrls hrow hprovider
    have hlowered : proxy.url ∈ loweredUrls provider table entries ↔
        proxy.isActive = true ∧ proxy.url ∉ urls entries := mem_loweredUrls hrow hprovider
    rw [if_pos hprovider]
    by_cases hlisted : proxy.url ∈ urls entries
    · obtain ⟨entry, hentry, hfind, hurl⟩ := find_url_some hlisted
      rw [hfind, refreshed_of_mem hnodup hentry (Prod.ext hprovider hurl.symm)]
      refine updates_of_listed hprovider hlisted ?_ fun hmem => (hlowered.mp hmem).2 hlisted
      cases hactive : proxy.isActive with
      | false => exact .inl (hraised.mpr ⟨hactive, hlisted⟩)
      | true => exact .inr rfl
    · rw [find_url_none hlisted, refreshed_of_not]
      · refine updates_of_unlisted hprovider hlisted (fun hmem => hlisted (hraised.mp hmem).2) ?_
        cases hactive : proxy.isActive with
        | false => exact .inr rfl
        | true => exact .inl (hlowered.mpr ⟨hactive, hlisted⟩)
      · intro entry hentry hkey
        exact hlisted (List.mem_map.mpr ⟨entry, hentry, (Prod.mk.inj hkey).2.symm⟩)
  · rw [if_neg hprovider, refreshed_of_not fun entry _ hkey => hprovider (Prod.mk.inj hkey).1]
    exact updates_of_other hprovider

theorem updates_newProxy {id : Uuid} (hentry : entry ∈ entries)
    (hnew : (provider, entry.url) ∉ table.rows.map Proxy.key) :
    updates provider pool (urls entries) (raisedUrls provider table entries)
      (loweredUrls provider table entries) (newProxy provider pool id entry) =
        newProxy provider pool id entry := by
  have hlisted : entry.url ∈ urls entries := List.mem_map_of_mem hentry
  refine updates_of_listed rfl hlisted (.inr rfl) fun hmem => ?_
  obtain ⟨row, hrow, hprovider, hurl, -⟩ := mem_urls_existing hmem
  exact hnew (List.mem_map.mpr ⟨row, hrow, Prod.ext hprovider hurl⟩)

theorem settled_id : (settled provider pool entries proxy).id = proxy.id := by
  unfold settled
  split
  · cases entries.find? (·.url = proxy.url) with
    | none => rfl
    | some entry => rfl
  · rfl

theorem settled_key : (settled provider pool entries proxy).key = proxy.key := by
  unfold settled
  split
  · cases entries.find? (·.url = proxy.url) with
    | none => rfl
    | some entry => rfl
  · rfl

theorem settled_health : SameHealth proxy (settled provider pool entries proxy) := by
  unfold settled
  split
  · cases entries.find? (·.url = proxy.url) with
    | none => exact ⟨rfl, rfl, rfl, rfl, rfl⟩
    | some entry => exact ⟨rfl, rfl, rfl, rfl, rfl⟩
  · exact ⟨rfl, rfl, rfl, rfl, rfl⟩

theorem settled_of_listed (hprovider : proxy.provider = provider)
    (hfind : entries.find? (·.url = proxy.url) = some entry) :
    settled provider pool entries proxy = withEntry pool proxy (some entry) := by
  rw [settled, if_pos hprovider, hfind]

theorem settled_of_other (h : proxy.provider ≠ provider) :
    settled provider pool entries proxy = proxy := if_neg h

theorem settled_active (hprovider : proxy.provider = provider) :
    (settled provider pool entries proxy).isActive = true ↔ proxy.url ∈ urls entries := by
  by_cases hlisted : proxy.url ∈ urls entries
  · obtain ⟨entry, -, hfind, -⟩ := find_url_some hlisted
    rw [settled_of_listed hprovider hfind]
    exact iff_of_true rfl hlisted
  · rw [settled, if_pos hprovider, find_url_none hlisted]
    exact iff_of_false Bool.false_ne_true hlisted

/-- A second sync with the same entries finds nothing to write. -/
theorem settled_settled :
    settled provider pool entries (settled provider pool entries proxy) =
      settled provider pool entries proxy := by
  by_cases hprovider : proxy.provider = provider
  · cases hfind : entries.find? (·.url = proxy.url) with
    | none =>
        have hsettled : settled provider pool entries proxy = { proxy with isActive := false } := by
          rw [settled, if_pos hprovider, hfind]
          rfl
        rw [hsettled, settled, if_pos hprovider, hfind]
        rfl
    | some entry =>
        rw [settled_of_listed hprovider hfind]
        exact settled_of_listed hprovider hfind
  · rw [settled_of_other hprovider, settled_of_other hprovider]

theorem settled_newProxy {id : Uuid} (hnodup : (urls entries).Nodup) (hentry : entry ∈ entries) :
    settled provider pool entries (newProxy provider pool id entry) =
      newProxy provider pool id entry := settled_of_listed rfl (find_url_of_mem hnodup hentry)

end Rows

end CrawlerApi.Proxies
