import CrawlerApi.Foundation.Pagination
import CrawlerApi.Proxies.Webshare
import Mathlib.Algebra.Order.BigOperators.Group.List
import Mathlib.Algebra.Order.Ring.Nat

/-!
# Discovery of the account's proxies

The requests of one sync.  The plan list is followed by the `next` links it answers with, a
plan's proxies by page numbers for as long as there is such a link.  Both give what a
`Listing` of the same pages collects, so the account of those listings is what is merged.
-/

namespace CrawlerApi.Proxies

open Foundation (Page Pages readPages readPages_of_pages)

def websharePlanUrl : String := "https://proxy.webshare.io/api/v2/subscription/plan/"

structure PlanEntry where
  id : Int
  status : Option String := none
  proxyType : Option String := none
  proxySubtype : Option String := none

def PlanEntry.plan (entry : PlanEntry) : WebsharePlan where
  id := entry.id
  status := entry.status.getD "unknown"
  proxyType := entry.proxyType.getD ""
  proxySubtype := entry.proxySubtype.getD "default"

/-- The page and the page size, which only the first request of the plan list carries. -/
structure PlanRequest where
  url : String
  params : Option (Nat × Nat)

structure ProxyRequest where
  mode : String
  page : Nat
  pageSize : Nat
  planId : Int

structure Response (α : Type) where
  results : List α
  next : Option String

structure Api where
  planList : PlanRequest → Except Failure (Response PlanEntry)
  proxyList : ProxyRequest → Except Failure (Response Item)

section Requests

variable (text : TextMethods) (api : Api)

def Api.planPage (request : PlanRequest) : Except Failure (Page PlanRequest PlanEntry) :=
  (api.planList request).map fun data =>
    ⟨data.results, (orNone data.next).map fun url => ⟨url, none⟩⟩

def Api.proxyPage (plan : WebsharePlan) (page : Nat) : Except Failure (Page Nat Item) :=
  (api.proxyList ⟨"direct", page, 100, plan.id⟩).map fun data =>
    ⟨data.results, (orNone data.next).map fun _ => page + 1⟩

def firstPlanRequest : PlanRequest := ⟨websharePlanUrl, some (1, 100)⟩

def listWebsharePlans (fuel : Nat) : Option (Except Failure (List WebsharePlan)) :=
  readPages api.planPage (fun entry => some entry.plan) fuel firstPlanRequest []

def fetchWebshareProxiesForPlan (fuel : Nat) (plan : WebsharePlan) :
    Option (Except Failure (List RawProxy)) :=
  if plan.proxySubtype ∈ directCapableSubtypes then
    readPages (api.proxyPage plan) (rawProxy text plan) fuel 1 []
  else some (.ok [])

/-- The loop of `fetch_all_webshare_proxies` over the active plans. -/
def fetchPlans (fuel : Nat) : List WebsharePlan → List RawProxy →
    Option (Except Failure (List RawProxy))
  | [], allProxies => some (.ok allProxies)
  | plan :: plans, allProxies =>
      match fetchWebshareProxiesForPlan text api fuel plan with
      | none => none
      | some (.error .http) => fetchPlans fuel plans allProxies
      | some (.error .other) => some (.error .other)
      | some (.ok proxies) => fetchPlans fuel plans (proxies.foldl addProxy allProxies)

def fetchAllWebshareProxies (fuel : Nat) : Option (Except Failure (List RawProxy)) :=
  match listWebsharePlans api fuel with
  | none => none
  | some (.error failure) => some (.error failure)
  | some (.ok plans) => fetchPlans text api fuel (plans.filter (·.status = "active")) []

end Requests

/-! ### The account behind the pages -/

def Listing.ofPages : List (List α) → Listing α
  | [] => .last []
  | [items] => .last items
  | items :: next :: rest => .more items (ofPages (next :: rest))

theorem collect_ofPages (pages : List (List α)) :
    (Listing.ofPages pages).collect = .ok pages.flatten := by
  induction pages with
  | nil => rfl
  | cons items rest ih =>
      cases rest with
      | nil => rw [Listing.ofPages, Listing.collect, List.flatten_singleton]
      | cons next rest =>
          rw [Listing.ofPages, Listing.collect, ih, List.flatten_cons]
          rfl

def accountOf (planPages : List (List PlanEntry)) (proxyPages : Int → List (List Item)) :
    Account where
  discovery := .ofPages (planPages.map fun entries => entries.map PlanEntry.plan)
  listing plan := .ofPages (proxyPages plan.id)

/-- A plan of the list that the sync fetches the proxies of. -/
structure Fetched (planPages : List (List PlanEntry)) (plan : WebsharePlan) : Prop where
  listed : ∃ entry ∈ planPages.flatten, entry.plan = plan
  active : plan.status = "active"
  capable : plan.proxySubtype = "isp" ∨ plan.proxySubtype = "default"

section Account

variable {text : TextMethods} {api : Api} {planPages : List (List PlanEntry)}
  {proxyPages : Int → List (List Item)} {plan : WebsharePlan} {plans : List WebsharePlan}
  {fuel : Nat}

theorem mem_directCapableSubtypes {subtype : String} :
    subtype ∈ directCapableSubtypes ↔ subtype = "isp" ∨ subtype = "default" := by
  unfold directCapableSubtypes
  rw [List.mem_cons, List.mem_singleton]

theorem fetchPlan_accountOf (hcapable : plan.proxySubtype ∈ directCapableSubtypes) :
    (accountOf planPages proxyPages).fetchPlan text plan =
      .ok ((proxyPages plan.id).flatten.filterMap (rawProxy text plan)) := by
  unfold Account.fetchPlan accountOf
  dsimp only
  rw [if_pos hcapable, collect_ofPages]
  rfl

theorem activePlans_accountOf : (accountOf planPages proxyPages).activePlans =
    .ok ((planPages.flatten.map PlanEntry.plan).filter (·.status = "active")) := by
  unfold Account.activePlans accountOf
  dsimp only
  rw [collect_ofPages, ← List.map_flatten]
  rfl

/-- With enough fuel for its pages, the loop over a plan's pages fetches what the account's
listing holds. -/
theorem fetchWebshareProxiesForPlan_eq
    (hpages : plan.proxySubtype ∈ directCapableSubtypes →
      Pages (api.proxyPage plan) 1 (proxyPages plan.id))
    (hfuel : (proxyPages plan.id).length ≤ fuel) :
    fetchWebshareProxiesForPlan text api fuel plan =
      some ((accountOf planPages proxyPages).fetchPlan text plan) := by
  unfold fetchWebshareProxiesForPlan
  by_cases hcapable : plan.proxySubtype ∈ directCapableSubtypes
  · rw [if_pos hcapable, fetchPlan_accountOf hcapable,
      readPages_of_pages (hpages hcapable) hfuel, List.nil_append]
  · unfold Account.fetchPlan
    rw [if_neg hcapable, if_neg hcapable]

theorem fetchPlans_eq
    (hpages : ∀ plan ∈ plans, plan.proxySubtype ∈ directCapableSubtypes →
      Pages (api.proxyPage plan) 1 (proxyPages plan.id))
    (hfuel : ∀ plan ∈ plans, (proxyPages plan.id).length ≤ fuel) (allProxies : List RawProxy) :
    fetchPlans text api fuel plans allProxies =
      some (plans.foldlM ((accountOf planPages proxyPages).addPlan text) allProxies) := by
  induction plans generalizing allProxies with
  | nil => rfl
  | cons plan plans ih =>
      obtain ⟨hfirst, hrest⟩ := List.forall_mem_cons.mp hpages
      obtain ⟨henough, hothers⟩ := List.forall_mem_cons.mp hfuel
      rw [fetchPlans, fetchWebshareProxiesForPlan_eq hfirst henough, List.foldlM_cons,
        Account.addPlan]
      cases (accountOf planPages proxyPages).fetchPlan text plan with
      | error failure =>
          cases failure with
          | http => exact ih hrest hothers _
          | other => rfl
      | ok proxies => exact ih hrest hothers _

theorem listWebsharePlans_eq (hpages : Pages api.planPage firstPlanRequest planPages)
    (hfuel : planPages.length ≤ fuel) :
    listWebsharePlans api fuel = some (.ok (planPages.flatten.map PlanEntry.plan)) := by
  unfold listWebsharePlans
  rw [readPages_of_pages hpages hfuel, List.nil_append]
  congr 2
  exact congrFun List.filterMap_eq_map _

theorem fetchAllWebshareProxies_eq (hplans : Pages api.planPage firstPlanRequest planPages)
    (hproxies : ∀ plan, Fetched planPages plan →
      Pages (api.proxyPage plan) 1 (proxyPages plan.id))
    (hfuel : planPages.length ≤ fuel)
    (henough : ∀ entry ∈ planPages.flatten, (proxyPages entry.id).length ≤ fuel) :
    fetchAllWebshareProxies text api fuel =
      some ((accountOf planPages proxyPages).fetchAll text) := by
  unfold fetchAllWebshareProxies Account.fetchAll
  rw [listWebsharePlans_eq hplans hfuel, activePlans_accountOf]
  dsimp only
  refine fetchPlans_eq (fun plan hplan hcapable => ?_) (fun plan hplan => ?_) []
  · obtain ⟨hlisted, hactive⟩ := List.mem_filter.mp hplan
    exact hproxies plan ⟨List.mem_map.mp hlisted, of_decide_eq_true hactive,
      mem_directCapableSubtypes.mp hcapable⟩
  · obtain ⟨entry, hentry, rfl⟩ := List.mem_map.mp (List.mem_filter.mp hplan).1
    exact henough entry hentry

end Account

/-! ### What the account lists -/

structure Complete (item : Item) (host : String) (port : Int) (username password : String) :
    Prop where
  host : item.proxyAddress = some host ∧ host ≠ ""
  port : item.port = some port ∧ port ≠ 0
  username : item.username = some username ∧ username ≠ ""
  password : item.password = some password ∧ password ≠ ""

/-- The URL is the one of a complete item on the pages. -/
def ListedUnder (pages : List (List Item)) (url : String) : Prop :=
  ∃ item ∈ pages.flatten, ∃ host port username password,
    Complete item host port username password ∧
      url = "http://" ++ username ++ ":" ++ password ++ "@" ++ host ++ ":" ++ toString port

def Residential (proxies : List RawProxy) (url : String) : Prop :=
  ∃ proxy ∈ proxies, proxy.url = url ∧ proxy.proxyType = .residential

section Items

variable {text : TextMethods} {plan : WebsharePlan} {item : Item} {proxy : RawProxy}
  {url : String}

theorem orNone_eq_some {value : Option String} {word : String} :
    orNone value = some word ↔ value = some word ∧ word ≠ "" := by
  unfold orNone
  rw [Option.filter_eq_some_iff, decide_eq_true_eq]

theorem proxyType_rawProxy (h : rawProxy text plan item = some proxy) :
    proxy.proxyType = internalProxyType plan := by
  unfold rawProxy at h
  split at h
  · cases h
    rfl
  · cases h

theorem rawProxy_url_iff :
    (∃ proxy, rawProxy text plan item = some proxy ∧ proxy.url = url) ↔
      ∃ host port username password, Complete item host port username password ∧
        url = "http://" ++ username ++ ":" ++ password ++ "@" ++ host ++ ":" ++ toString port := by
  constructor
  · rintro ⟨proxy, hproxy, rfl⟩
    unfold rawProxy at hproxy
    split at hproxy
    · rename_i host port username password hhost hport husername hpassword
      cases hproxy
      rw [Option.filter_eq_some_iff, decide_eq_true_eq] at hport
      exact ⟨host, port, username, password, ⟨orNone_eq_some.mp hhost, hport,
        orNone_eq_some.mp husername, orNone_eq_some.mp hpassword⟩, rfl⟩
    · cases hproxy
  · rintro ⟨host, port, username, password, complete, rfl⟩
    have hport : item.port.filter (· ≠ 0) = some port := by
      rw [Option.filter_eq_some_iff, decide_eq_true_eq]
      exact complete.port
    unfold rawProxy
    rw [orNone_eq_some.mpr complete.host, hport, orNone_eq_some.mpr complete.username,
      orNone_eq_some.mpr complete.password]
    exact ⟨_, rfl, rfl⟩

theorem internalProxyType_eq_residential (h : plan.proxySubtype ∈ directCapableSubtypes) :
    internalProxyType plan = .residential ↔ plan.proxySubtype = "isp" := by
  unfold internalProxyType
  rcases mem_directCapableSubtypes.mp h with hsubtype | hsubtype
  · simp [hsubtype]
  · simp [hsubtype]

end Items

section Merge

variable {proxies fetched : List RawProxy} {proxy entry : RawProxy} {url : String}

theorem mem_setProxy (h : entry ∈ setProxy proxies proxy) : entry ∈ proxies ∨ entry = proxy := by
  unfold setProxy at h
  split at h
  · obtain ⟨old, hold, rfl⟩ := List.mem_map.mp h
    split
    · exact .inr rfl
    · exact .inl hold
  · rwa [List.mem_append, List.mem_singleton] at h

theorem self_mem_setProxy : proxy ∈ setProxy proxies proxy := by
  unfold setProxy
  split
  · rename_i hmem
    obtain ⟨old, hold, hurl⟩ := List.mem_map.mp hmem
    exact List.mem_map.mpr ⟨old, hold, if_pos hurl⟩
  · exact List.mem_append_right _ (List.mem_singleton_self _)

theorem mem_setProxy_of_ne (h : entry ∈ proxies) (hne : entry.url ≠ proxy.url) :
    entry ∈ setProxy proxies proxy := by
  unfold setProxy
  split
  · exact List.mem_map.mpr ⟨entry, h, if_neg hne⟩
  · exact List.mem_append_left _ h

theorem nodup_urls_addProxy (h : (urls proxies).Nodup) : (urls (addProxy proxies proxy)).Nodup := by
  unfold addProxy
  split
  · exact nodup_urls_setProxy h
  · split
    · exact nodup_urls_setProxy h
    · exact h

theorem nodup_urls_addAll (h : (urls proxies).Nodup) :
    (urls (fetched.foldl addProxy proxies)).Nodup := by
  induction fetched generalizing proxies with
  | nil => exact h
  | cons proxy fetched ih => exact ih (nodup_urls_addProxy h)

theorem residential_setProxy (h : proxy.url ∈ urls proxies → proxy.proxyType = .residential) :
    Residential (setProxy proxies proxy) url ↔
      Residential proxies url ∨ proxy.url = url ∧ proxy.proxyType = .residential := by
  constructor
  · rintro ⟨entry, hentry, hurl, htype⟩
    rcases mem_setProxy hentry with hold | rfl
    · exact .inl ⟨entry, hold, hurl, htype⟩
    · exact .inr ⟨hurl, htype⟩
  · rintro (⟨entry, hentry, hurl, htype⟩ | ⟨hurl, htype⟩)
    · by_cases hsame : entry.url = proxy.url
      · have hmem : proxy.url ∈ urls proxies := List.mem_map.mpr ⟨entry, hentry, hsame⟩
        exact ⟨proxy, self_mem_setProxy, hsame.symm.trans hurl, h hmem⟩
      · exact ⟨entry, mem_setProxy_of_ne hentry hsame, hurl, htype⟩
    · exact ⟨proxy, self_mem_setProxy, hurl, htype⟩

theorem residential_addProxy : Residential (addProxy proxies proxy) url ↔
    Residential proxies url ∨ proxy.url = url ∧ proxy.proxyType = .residential := by
  unfold addProxy
  split
  · rename_i hnone
    apply residential_setProxy
    intro hmem
    obtain ⟨entry, -, hfound, -⟩ := find_url_some hmem
    rw [hnone] at hfound
    cases hfound
  · rename_i existing hfound
    split
    · rename_i hbetter
      exact residential_setProxy fun _ => hbetter.2
    · rename_i hkept
      refine ⟨.inl, fun h => h.elim id fun hlisted => ?_⟩
      have hexisting : existing.url = proxy.url := by simpa using List.find?_some hfound
      refine ⟨existing, List.mem_of_find?_eq_some hfound, hexisting.trans hlisted.1, ?_⟩
      by_contra hother
      exact hkept ⟨hother, hlisted.2⟩

theorem residential_addAll : Residential (fetched.foldl addProxy proxies) url ↔
    Residential proxies url ∨ Residential fetched url := by
  induction fetched generalizing proxies with
  | nil => simp [Residential]
  | cons proxy fetched ih =>
      rw [List.foldl_cons, ih, residential_addProxy, or_assoc]
      simp [Residential]

theorem residential_of_mem (hnodup : (urls proxies).Nodup) (h : proxy ∈ proxies) :
    proxy.proxyType = .residential ↔ Residential proxies proxy.url := by
  constructor
  · exact fun htype => ⟨proxy, h, rfl, htype⟩
  · rintro ⟨entry, hentry, hurl, htype⟩
    rwa [← List.inj_on_of_nodup_map hnodup hentry h hurl]

end Merge

section FetchAll

variable {text : TextMethods} {planPages : List (List PlanEntry)}
  {proxyPages : Int → List (List Item)} {plan : WebsharePlan} {url : String}

def planProxies (text : TextMethods) (proxyPages : Int → List (List Item)) (plan : WebsharePlan) :
    List RawProxy :=
  if plan.proxySubtype ∈ directCapableSubtypes then
    (proxyPages plan.id).flatten.filterMap (rawProxy text plan)
  else []

def listings (text : TextMethods) (planPages : List (List PlanEntry))
    (proxyPages : Int → List (List Item)) : List RawProxy :=
  ((planPages.flatten.map PlanEntry.plan).filter (·.status = "active")).flatMap
    (planProxies text proxyPages)

theorem foldlM_addPlan_accountOf (plans : List WebsharePlan) (proxies : List RawProxy) :
    plans.foldlM ((accountOf planPages proxyPages).addPlan text) proxies =
      .ok ((plans.flatMap (planProxies text proxyPages)).foldl addProxy proxies) := by
  induction plans generalizing proxies with
  | nil => rfl
  | cons plan plans ih =>
      have hfetch : (accountOf planPages proxyPages).fetchPlan text plan =
          .ok (planProxies text proxyPages plan) := by
        unfold planProxies
        split
        · rename_i hcapable
          exact fetchPlan_accountOf hcapable
        · rename_i hcapable
          exact if_neg hcapable
      rw [List.foldlM_cons, Account.addPlan, hfetch, List.flatMap_cons, List.foldl_append]
      exact ih _

theorem fetchAll_accountOf : (accountOf planPages proxyPages).fetchAll text =
    .ok ((listings text planPages proxyPages).foldl addProxy []) := by
  unfold Account.fetchAll
  rw [activePlans_accountOf]
  exact foldlM_addPlan_accountOf _ []

theorem mem_planProxies_iff (hcapable : plan.proxySubtype ∈ directCapableSubtypes) :
    url ∈ urls (planProxies text proxyPages plan) ↔ ListedUnder (proxyPages plan.id) url := by
  unfold planProxies ListedUnder urls
  rw [if_pos hcapable, List.mem_map]
  constructor
  · rintro ⟨proxy, hproxy, hurl⟩
    obtain ⟨item, hitem, hraw⟩ := List.mem_filterMap.mp hproxy
    exact ⟨item, hitem, rawProxy_url_iff.mp ⟨proxy, hraw, hurl⟩⟩
  · rintro ⟨item, hitem, hcomplete⟩
    obtain ⟨proxy, hraw, hurl⟩ := (@rawProxy_url_iff text plan item url).mpr hcomplete
    exact ⟨proxy, List.mem_filterMap.mpr ⟨item, hitem, hraw⟩, hurl⟩

theorem planProxies_capable {proxy : RawProxy} (h : proxy ∈ planProxies text proxyPages plan) :
    plan.proxySubtype ∈ directCapableSubtypes ∧ proxy.proxyType = internalProxyType plan := by
  unfold planProxies at h
  split at h
  · rename_i hcapable
    obtain ⟨item, -, hraw⟩ := List.mem_filterMap.mp h
    exact ⟨hcapable, proxyType_rawProxy hraw⟩
  · cases h

theorem mem_listings {proxy : RawProxy} : proxy ∈ listings text planPages proxyPages ↔
    ∃ plan, Fetched planPages plan ∧ proxy ∈ planProxies text proxyPages plan := by
  unfold listings
  rw [List.mem_flatMap]
  constructor
  · rintro ⟨plan, hplan, hproxy⟩
    obtain ⟨hlisted, hactive⟩ := List.mem_filter.mp hplan
    exact ⟨plan, ⟨List.mem_map.mp hlisted, of_decide_eq_true hactive,
      mem_directCapableSubtypes.mp (planProxies_capable hproxy).1⟩, hproxy⟩
  · rintro ⟨plan, fetched, hproxy⟩
    exact ⟨plan, List.mem_filter.mpr ⟨List.mem_map.mpr fetched.listed,
      decide_eq_true fetched.active⟩, hproxy⟩

theorem mem_urls_listings : url ∈ urls (listings text planPages proxyPages) ↔
    ∃ plan, Fetched planPages plan ∧ ListedUnder (proxyPages plan.id) url := by
  constructor
  · intro h
    obtain ⟨proxy, hproxy, hurl⟩ := List.mem_map.mp h
    obtain ⟨plan, fetched, hmem⟩ := mem_listings.mp hproxy
    exact ⟨plan, fetched, (mem_planProxies_iff (planProxies_capable hmem).1).mp
      (List.mem_map.mpr ⟨proxy, hmem, hurl⟩)⟩
  · rintro ⟨plan, fetched, hlisted⟩
    have hcapable := mem_directCapableSubtypes.mpr fetched.capable
    obtain ⟨proxy, hmem, hurl⟩ :=
      List.mem_map.mp ((@mem_planProxies_iff text _ _ _ hcapable).mpr hlisted)
    exact List.mem_map.mpr ⟨proxy, mem_listings.mpr ⟨plan, fetched, hmem⟩, hurl⟩

theorem residential_listings : Residential (listings text planPages proxyPages) url ↔
    ∃ plan, Fetched planPages plan ∧ plan.proxySubtype = "isp" ∧
      ListedUnder (proxyPages plan.id) url := by
  constructor
  · rintro ⟨proxy, hproxy, hurl, htype⟩
    obtain ⟨plan, fetched, hmem⟩ := mem_listings.mp hproxy
    obtain ⟨hcapable, hinternal⟩ := planProxies_capable hmem
    exact ⟨plan, fetched, (internalProxyType_eq_residential hcapable).mp (hinternal ▸ htype),
      (mem_planProxies_iff hcapable).mp (List.mem_map.mpr ⟨proxy, hmem, hurl⟩)⟩
  · rintro ⟨plan, fetched, hisp, hlisted⟩
    have hcapable := mem_directCapableSubtypes.mpr fetched.capable
    obtain ⟨proxy, hmem, hurl⟩ :=
      List.mem_map.mp ((@mem_planProxies_iff text _ _ _ hcapable).mpr hlisted)
    refine ⟨proxy, mem_listings.mpr ⟨plan, fetched, hmem⟩, hurl, ?_⟩
    rw [(planProxies_capable hmem).2]
    exact (internalProxyType_eq_residential hcapable).mpr hisp

end FetchAll

/-- Which proxies are discovered, and which of them are residential, depends on what the
pages list alone, not on their order. -/
theorem discovery_complete {text : TextMethods} {api : Api} {planPages : List (List PlanEntry)}
    {proxyPages : Int → List (List Item)}
    (hplans : Pages api.planPage firstPlanRequest planPages)
    (hproxies : ∀ plan, Fetched planPages plan →
      Pages (api.proxyPage plan) 1 (proxyPages plan.id)) :
    ∃ enough, ∀ fuel, enough ≤ fuel → ∃ proxies,
      fetchAllWebshareProxies text api fuel = some (.ok proxies) ∧ (urls proxies).Nodup ∧
      (∀ url, url ∈ urls proxies ↔
        ∃ plan, Fetched planPages plan ∧ ListedUnder (proxyPages plan.id) url) ∧
      ∀ proxy ∈ proxies, proxy.proxyType = .residential ↔
        ∃ plan, Fetched planPages plan ∧ plan.proxySubtype = "isp" ∧
          ListedUnder (proxyPages plan.id) proxy.url := by
  refine ⟨planPages.length +
    (planPages.flatten.map fun entry => (proxyPages entry.id).length).sum, fun fuel hfuel => ?_⟩
  have henough : ∀ entry ∈ planPages.flatten, (proxyPages entry.id).length ≤ fuel := by
    intro entry hentry
    have hsum := List.single_le_sum (fun _ _ => Nat.zero_le _) _
      (List.mem_map_of_mem (f := fun entry => (proxyPages entry.id).length) hentry)
    omega
  have hnodup : (urls ((listings text planPages proxyPages).foldl addProxy [])).Nodup :=
    nodup_urls_addAll List.nodup_nil
  refine ⟨_, ?_, hnodup, fun url => ?_, fun proxy hproxy => ?_⟩
  · rw [fetchAllWebshareProxies_eq hplans hproxies (by omega) henough, fetchAll_accountOf]
  · rw [mem_urls_addAll, mem_urls_listings]
    exact or_iff_right List.not_mem_nil
  · rw [residential_of_mem hnodup hproxy, residential_addAll, residential_listings]
    exact or_iff_right fun ⟨_, h, _⟩ => absurd h List.not_mem_nil

/-! Two plans on two pages share an endpoint. -/

def sharedItem : Item where
  proxyAddress := some "10.0.0.1"
  port := some 8080
  username := some "user"
  password := some "secret"

def ownItem : Item := { sharedItem with proxyAddress := some "10.0.0.2" }

def sampleApi : Api where
  planList request :=
    if request.url = websharePlanUrl then
      .ok ⟨[⟨7, some "active", none, none⟩], some "https://proxy.webshare.io/plans?page=2"⟩
    else .ok ⟨[⟨8, some "active", none, some "isp"⟩], none⟩
  proxyList request :=
    if request.planId = 8 then .ok ⟨[sharedItem], none⟩
    else if request.page = 1 then .ok ⟨[sharedItem, {}], some "https://proxy.webshare.io/?page=2"⟩
    else .ok ⟨[ownItem], none⟩

def samplePlanPages : List (List PlanEntry) :=
  [[⟨7, some "active", none, none⟩], [⟨8, some "active", none, some "isp"⟩]]

def sampleProxyPages (id : Int) : List (List Item) :=
  if id = 8 then [[sharedItem]] else [[sharedItem, {}], [ownItem]]

theorem sample_discovered : ∃ enough, ∀ fuel, enough ≤ fuel → ∃ proxies,
    fetchAllWebshareProxies asciiText sampleApi fuel = some (.ok proxies) ∧ (urls proxies).Nodup ∧
    (∀ url, url ∈ urls proxies ↔
      ∃ plan, Fetched samplePlanPages plan ∧ ListedUnder (sampleProxyPages plan.id) url) ∧
    ∀ proxy ∈ proxies, proxy.proxyType = .residential ↔
      ∃ plan, Fetched samplePlanPages plan ∧ plan.proxySubtype = "isp" ∧
        ListedUnder (sampleProxyPages plan.id) proxy.url := by
  refine discovery_complete (.more (by rfl) (.last (by rfl))) fun plan fetched => ?_
  obtain ⟨entry, hentry, rfl⟩ := fetched.listed
  rcases List.mem_cons.mp hentry with rfl | hlast
  · exact .more (by rfl) (.last (by rfl))
  · rw [List.mem_singleton.mp hlast]
    exact .last (by rfl)

end CrawlerApi.Proxies
