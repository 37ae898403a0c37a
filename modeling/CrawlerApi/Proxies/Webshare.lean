import CrawlerApi.Core.Text
import CrawlerApi.Proxies.Table

/-!
# Webshare's proxy lists

The plans of an account and the proxies of each plan are listed page by page.  A plan
whose listing fails with an HTTP error is skipped, any other failure ends the sync.
-/

namespace CrawlerApi.Proxies

open Fetch (ProxyType)

/-- What a listing can raise: an `httpx.HTTPError`, or anything else. -/
inductive Failure where
  | http | other
deriving DecidableEq

/-- The answers to the requests of one listing, up to the last page or a failure. -/
inductive Listing (α : Type) where
  | failed (failure : Failure)
  | last (results : List α)
  | more (results : List α) (rest : Listing α)

def Listing.collect : Listing α → Except Failure (List α)
  | .failed failure => .error failure
  | .last results => .ok results
  | .more results rest => rest.collect.map (results ++ ·)

structure WebsharePlan where
  id : Int
  status : String
  proxyType : String
  proxySubtype : String
deriving DecidableEq

/-- One entry of a proxy listing, as JSON; a missing field is `none`. -/
structure Item where
  proxyAddress : Option String := none
  port : Option Int := none
  username : Option String := none
  password : Option String := none
  countryCode : Option String := none
  cityName : Option String := none

structure RawProxy where
  url : String
  country : Option String
  proxyType : ProxyType
  city : Option String := none
deriving DecidableEq

structure Account where
  discovery : Listing WebsharePlan
  listing : WebsharePlan → Listing Item

def internalProxyType (plan : WebsharePlan) : ProxyType :=
  if plan.proxySubtype = "isp" ∨ plan.proxySubtype = "residential" then .residential
  else .datacenter

def directCapableSubtypes : List String := ["isp", "default"]

/-- `value or None` on text. -/
def orNone (value : Option String) : Option String := value.filter (· ≠ "")

def rawProxy (text : TextMethods) (plan : WebsharePlan) (item : Item) : Option RawProxy :=
  match orNone item.proxyAddress, item.port.filter (· ≠ 0), orNone item.username,
    orNone item.password with
  | some host, some port, some username, some password =>
      some {
        url := "http://" ++ username ++ ":" ++ password ++ "@" ++ host ++ ":" ++ toString port
        country := orNone (some (String.ofList
          ((text.upper (item.countryCode.getD "")).toList.take 2)))
        proxyType := internalProxyType plan
        city := orNone item.cityName }
  | _, _, _, _ => none

def urls (proxies : List RawProxy) : List String := proxies.map RawProxy.url

/-- `proxies[proxy.url] = proxy` on a dictionary in insertion order. -/
def setProxy (proxies : List RawProxy) (proxy : RawProxy) : List RawProxy :=
  if proxy.url ∈ urls proxies then
    proxies.map fun old => if old.url = proxy.url then proxy else old
  else proxies ++ [proxy]

def lastListed (raw : List RawProxy) (url : String) : Option RawProxy :=
  raw.reverse.find? (·.url = url)

def addProxy (proxies : List RawProxy) (proxy : RawProxy) : List RawProxy :=
  match proxies.find? (·.url = proxy.url) with
  | none => setProxy proxies proxy
  | some existing =>
      if existing.proxyType ≠ .residential ∧ proxy.proxyType = .residential then
        setProxy proxies proxy
      else proxies

namespace Account

variable (text : TextMethods) (account : Account)

def fetchPlan (plan : WebsharePlan) : Except Failure (List RawProxy) :=
  if plan.proxySubtype ∈ directCapableSubtypes then
    (account.listing plan).collect.map fun items => items.filterMap (rawProxy text plan)
  else .ok []

def activePlans : Except Failure (List WebsharePlan) :=
  account.discovery.collect.map fun plans => plans.filter (·.status = "active")

def addPlan (proxies : List RawProxy) (plan : WebsharePlan) : Except Failure (List RawProxy) :=
  match account.fetchPlan text plan with
  | .error .http => .ok proxies
  | .error .other => .error .other
  | .ok fetched => .ok (fetched.foldl addProxy proxies)

/-- `fetch_all_webshare_proxies`. -/
def fetchAll : Except Failure (List RawProxy) :=
  account.activePlans.bind fun plans => plans.foldlM (account.addPlan text) []

end Account

section Urls

variable {proxies fetched raw : List RawProxy} {proxy : RawProxy} {url : String}

theorem urls_cons : urls (proxy :: proxies) = proxy.url :: urls proxies := rfl

theorem urls_setProxy : urls (setProxy proxies proxy) =
    if proxy.url ∈ urls proxies then urls proxies else urls proxies ++ [proxy.url] := by
  unfold setProxy
  split
  · unfold urls
    rw [List.map_map]
    apply List.map_congr_left
    intro old _
    by_cases hsame : old.url = proxy.url
    · simp [hsame]
    · simp [hsame]
  · simp [urls]

theorem mem_urls_setProxy : url ∈ urls (setProxy proxies proxy) ↔
    url ∈ urls proxies ∨ url = proxy.url := by
  rw [urls_setProxy]
  split
  · rename_i hmem
    constructor
    · exact .inl
    · rintro (hold | rfl)
      · exact hold
      · exact hmem
  · rw [List.mem_append, List.mem_singleton]

theorem mem_urls_setAll :
    url ∈ urls (raw.foldl setProxy proxies) ↔ url ∈ urls proxies ∨ url ∈ urls raw := by
  induction raw generalizing proxies with
  | nil => simp [urls]
  | cons proxy raw ih =>
      rw [List.foldl_cons, ih, mem_urls_setProxy]
      simp [urls, or_assoc]

theorem nodup_urls_setProxy (h : (urls proxies).Nodup) : (urls (setProxy proxies proxy)).Nodup := by
  rw [urls_setProxy]
  split
  · exact h
  · rename_i hnew
    rw [← List.concat_eq_append]
    exact h.concat hnew

theorem nodup_urls_setAll (h : (urls proxies).Nodup) :
    (urls (raw.foldl setProxy proxies)).Nodup := by
  induction raw generalizing proxies with
  | nil => exact h
  | cons proxy raw ih => exact ih (nodup_urls_setProxy h)

theorem find_url_none (h : url ∉ urls proxies) : proxies.find? (·.url = url) = none := by
  rw [List.find?_eq_none]
  intro entry hentry hsame
  exact h (List.mem_map.mpr ⟨entry, hentry, by simpa using hsame⟩)

theorem find_url_some (h : url ∈ urls proxies) :
    ∃ entry ∈ proxies, proxies.find? (·.url = url) = some entry ∧ entry.url = url := by
  cases hfind : proxies.find? (·.url = url) with
  | none =>
      obtain ⟨entry, hentry, hsame⟩ := List.mem_map.mp h
      exact absurd (by simpa using hsame) (List.find?_eq_none.mp hfind entry hentry)
  | some entry =>
      exact ⟨entry, List.mem_of_find?_eq_some hfind, rfl, by simpa using List.find?_some hfind⟩

theorem find_url_of_mem (hnodup : (urls proxies).Nodup) (h : proxy ∈ proxies) :
    proxies.find? (·.url = proxy.url) = some proxy := by
  obtain ⟨entry, hentry, hfind, hsame⟩ := find_url_some (List.mem_map_of_mem (f := RawProxy.url) h)
  rw [hfind, List.inj_on_of_nodup_map hnodup hentry h hsame]

theorem find_setProxy : (setProxy proxies proxy).find? (·.url = url) =
    if proxy.url = url then some proxy else proxies.find? (·.url = url) := by
  unfold setProxy
  split
  · rename_i hmem
    have hurls : (fun entry : RawProxy => decide (entry.url = url)) ∘
        (fun old => if old.url = proxy.url then proxy else old) =
          fun entry => decide (entry.url = url) := by
      funext old
      by_cases hold : old.url = proxy.url
      · simp [hold]
      · simp [hold]
    rw [List.find?_map, hurls]
    by_cases hurl : proxy.url = url
    · obtain ⟨entry, -, hfind, hsame⟩ := find_url_some (hurl ▸ hmem)
      rw [hfind, if_pos hurl, Option.map_some, if_pos (hsame.trans hurl.symm)]
    · rw [if_neg hurl]
      cases hfind : proxies.find? (·.url = url) with
      | none => rfl
      | some entry =>
          have hsame : entry.url = url := by simpa using List.find?_some hfind
          rw [Option.map_some, if_neg fun h => hurl (h.symm.trans hsame)]
  · rename_i hnew
    rw [List.find?_append]
    split
    · rename_i hurl
      rw [find_url_none (hurl ▸ hnew)]
      simp [hurl]
    · rename_i hurl
      simp [hurl]

theorem find_setAll : (raw.foldl setProxy proxies).find? (·.url = url) =
    (lastListed raw url).or (proxies.find? (·.url = url)) := by
  induction raw generalizing proxies with
  | nil => rfl
  | cons proxy raw ih =>
      rw [List.foldl_cons, ih, find_setProxy, lastListed, lastListed, List.reverse_cons,
        List.find?_append, Option.or_assoc]
      congr 1
      by_cases hurl : proxy.url = url
      · simp [hurl]
      · simp [hurl]

theorem mem_urls_addProxy : url ∈ urls (addProxy proxies proxy) ↔
    url ∈ urls proxies ∨ url = proxy.url := by
  unfold addProxy
  split
  · exact mem_urls_setProxy
  · rename_i existing hfind
    split
    · exact mem_urls_setProxy
    · have hmem : proxy.url ∈ urls proxies :=
        List.mem_map.mpr ⟨existing, List.mem_of_find?_eq_some hfind, by
          simpa using List.find?_some hfind⟩
      constructor
      · exact .inl
      · rintro (hold | rfl)
        · exact hold
        · exact hmem

theorem mem_urls_addAll : url ∈ urls (fetched.foldl addProxy proxies) ↔
    url ∈ urls proxies ∨ url ∈ urls fetched := by
  induction fetched generalizing proxies with
  | nil => simp [urls]
  | cons proxy fetched ih =>
      rw [List.foldl_cons, ih, mem_urls_addProxy]
      simp [urls, or_assoc]

end Urls

section FetchAll

variable {text : TextMethods} {account : Account} {plans : List WebsharePlan}

def FailSoft (text : TextMethods) (account : Account) (plans : List WebsharePlan) : Prop :=
  ∀ plan ∈ plans, account.fetchPlan text plan ≠ .error .other

def Listed (text : TextMethods) (account : Account) (plans : List WebsharePlan) (url : String) :
    Prop :=
  ∃ plan ∈ plans, ∃ fetched, account.fetchPlan text plan = .ok fetched ∧ url ∈ urls fetched

theorem listed_cons {plan : WebsharePlan} {url : String} :
    Listed text account (plan :: plans) url ↔
      (∃ fetched, account.fetchPlan text plan = .ok fetched ∧ url ∈ urls fetched) ∨
        Listed text account plans url := by
  simp [Listed]

theorem foldlM_addPlan (hsoft : FailSoft text account plans) (proxies : List RawProxy) :
    ∃ raw, plans.foldlM (account.addPlan text) proxies = .ok raw ∧
      ∀ url, url ∈ urls raw ↔ url ∈ urls proxies ∨ Listed text account plans url := by
  induction plans generalizing proxies with
  | nil => exact ⟨proxies, rfl, fun url => by simp [Listed]⟩
  | cons plan plans ih =>
      have hrest : FailSoft text account plans :=
        fun other hother => hsoft other (List.mem_cons_of_mem _ hother)
      cases hfetch : account.fetchPlan text plan with
      | error failure =>
          cases failure with
          | other => exact absurd hfetch (hsoft plan (List.mem_cons_self ..))
          | http =>
              obtain ⟨raw, hraw, hurls⟩ := ih hrest proxies
              refine ⟨raw, ?_, fun url => ?_⟩
              · rw [List.foldlM_cons, Account.addPlan, hfetch]
                exact hraw
              · rw [hurls, listed_cons]
                simp [hfetch]
      | ok fetched =>
          obtain ⟨raw, hraw, hurls⟩ := ih hrest (fetched.foldl addProxy proxies)
          refine ⟨raw, ?_, fun url => ?_⟩
          · rw [List.foldlM_cons, Account.addPlan, hfetch]
            exact hraw
          · rw [hurls, mem_urls_addAll, listed_cons]
            simp [hfetch, or_assoc]

theorem foldlM_addPlan_error (hhard : ¬ FailSoft text account plans)
    (proxies : List RawProxy) :
    plans.foldlM (account.addPlan text) proxies = .error .other := by
  induction plans generalizing proxies with
  | nil => exact absurd (fun _ h => absurd h List.not_mem_nil) hhard
  | cons plan plans ih =>
      have hrest (hother : account.fetchPlan text plan ≠ .error .other) :
          ¬ FailSoft text account plans :=
        fun hsoft => hhard (List.forall_mem_cons.mpr ⟨hother, hsoft⟩)
      rw [List.foldlM_cons, Account.addPlan]
      cases hfetch : account.fetchPlan text plan with
      | error failure =>
          cases failure with
          | other => rfl
          | http => exact ih (hrest (by simp [hfetch])) proxies
      | ok fetched => exact ih (hrest (by simp [hfetch])) _

end FetchAll

end CrawlerApi.Proxies
