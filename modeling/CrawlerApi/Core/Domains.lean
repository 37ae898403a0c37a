import CrawlerApi.Core.UrlGuard
import Mathlib.Data.List.Basic

/-!
# The domain a URL is accounted to

`normalize_domain` and the places that call it for a URL: the rate limiter, the policy
lookup, the job and the retry loop.  The registered domain of a text is `tldextract`'s and
given.
-/

namespace CrawlerApi.Domains

open Foundation.Url (ParseResult urlparse)
open UrlGuard (WebUrl)

/-- `str.removeprefix`. -/
def removePrefix (start text : String) : String :=
  if start.toList.isPrefixOf text.toList then String.ofList (text.toList.drop start.toList.length)
  else text

section Calls

variable (tables : TextTables) (registeredDomain : String → String)

def normalizeDomain (hostname : String) : String :=
  let stripped := removePrefix "www." (tables.lower hostname)
  let registered := registeredDomain stripped
  if registered ≠ "" then registered else stripped

/-- `urlparse(url).hostname`. -/
def parsedHostname (url : String) : Except String (Option String) :=
  match urlparse tables.toTables url.toList [] with
  | .error message => .error message
  | .ok parsed => .ok ((parsed.toSplitResult.hostname tables.toTables).map String.ofList)

/-- `_parse_hostname`: the domain `resolve_policy` looks up. -/
def parseHostname (url : String) : Except String String :=
  match parsedHostname tables url with
  | .error message => .error message
  | .ok host =>
      if host.getD "" = "" then .error ("Cannot extract hostname from URL: " ++ tables.repr url)
      else .ok (normalizeDomain tables registeredDomain (host.getD ""))

/-- `hostname or url`, normalized. -/
def normalizeHostnameOr (url : String) : Except String String :=
  match parsedHostname tables url with
  | .error message => .error message
  | .ok host =>
      .ok (normalizeDomain tables registeredDomain
        (if host.getD "" = "" then url else host.getD ""))

/-- The domain of the job that `create_fetch` enqueues. -/
def createFetchDomain (url : String) : Except String String :=
  normalizeHostnameOr tables registeredDomain url

/-- The domain `fetch_with_retry` asks for proxies and reports on. -/
def normalizeDomainFromUrl (url : String) : Except String String :=
  normalizeHostnameOr tables registeredDomain url

/-- The key `check_domain` charges. -/
def checkDomainKey (domain : String) : String :=
  "rl:dom:" ++ normalizeDomain tables registeredDomain domain

/-- The key `create_fetch` has `check_all` charge for the domain: it passes the URL. -/
def createFetchKey (url : String) : String := checkDomainKey tables registeredDomain url

structure KeyedBy (url domain : String) : Prop where
  rateLimit : createFetchKey tables registeredDomain url = "rl:dom:" ++ domain
  policy : parseHostname tables registeredDomain url = .ok domain
  job : createFetchDomain tables registeredDomain url = .ok domain
  retry : normalizeDomainFromUrl tables registeredDomain url = .ok domain

def isPrintable (c : Char) : Bool := 32 < c.toNat && c.toNat < 127

def isDomainChar (c : Char) : Bool := isPrintable c && !"#/:<>?@[\\]^|%".toList.contains c

/-- A URL as `HttpUrl` writes it: in ASCII, and with a domain or an IPv6 address for host. -/
structure Accepted (url : String) (parsed : ParseResult) (host : String) : Prop
    extends WebUrl tables url parsed host where
  spelled : "http://".toList <+: url.toList ∨ "https://".toList <+: url.toList
  named : host ≠ ""
  written : ∀ c ∈ url.toList, isPrintable c = true
  literal : '[' ∈ parsed.netloc → ∃ bits,
    Foundation.IpAddress.read host.toList = some (.v6 bits none)
  domain : '[' ∉ parsed.netloc → ∀ c ∈ host.toList, isDomainChar c = true

/-- Lower-casing leaves a lower-case scheme and slashes alone. -/
structure LowersPlainly : Prop where
  scheme : ∀ text : String, "http".toList <+: text.toList →
    "http".toList <+: (tables.lower text).toList
  slash : ∀ text : String, '/' ∈ (tables.lower text).toList ↔ '/' ∈ text.toList

/-- The registered domain of a URL is that of its host, a registered domain is its own,
and none has a slash. -/
structure Extracts : Prop where
  url : ∀ url parsed host, Accepted tables url parsed host →
    registeredDomain (tables.lower url) = registeredDomain host
  self : ∀ host, registeredDomain (registeredDomain host) = registeredDomain host
  slash : ∀ text, '/' ∉ (registeredDomain text).toList

end Calls

section Keys

variable {tables : TextTables} {registeredDomain : String → String} {url host domain : String}
  {parsed : ParseResult}

theorem normalizeDomain_of_ne {hostname : String}
    (h : registeredDomain (removePrefix "www." (tables.lower hostname)) ≠ "") :
    normalizeDomain tables registeredDomain hostname =
      registeredDomain (removePrefix "www." (tables.lower hostname)) := if_pos h

theorem normalizeDomain_of_eq {hostname : String}
    (h : registeredDomain (removePrefix "www." (tables.lower hostname)) = "") :
    normalizeDomain tables registeredDomain hostname =
      removePrefix "www." (tables.lower hostname) := if_neg (not_not.mpr h)

theorem parsedHostname_of_accepted (h : Accepted tables url parsed host) :
    parsedHostname tables url = .ok (some host) := by
  unfold parsedHostname
  rw [h.parses]
  dsimp only
  rw [h.hostname, Option.map_some, String.ofList_toList]

theorem normalized_of_accepted (h : Accepted tables url parsed host) :
    parseHostname tables registeredDomain url =
        .ok (normalizeDomain tables registeredDomain host) ∧
      normalizeHostnameOr tables registeredDomain url =
        .ok (normalizeDomain tables registeredDomain host) := by
  unfold parseHostname normalizeHostnameOr
  rw [parsedHostname_of_accepted h]
  dsimp only
  rw [Option.getD_some, if_neg h.named, if_neg h.named]
  exact ⟨rfl, rfl⟩

theorem keyedBy_iff (h : Accepted tables url parsed host) :
    KeyedBy tables registeredDomain url domain ↔
      normalizeDomain tables registeredDomain url = domain ∧
        normalizeDomain tables registeredDomain host = domain := by
  obtain ⟨hpolicy, hjob⟩ := @normalized_of_accepted _ registeredDomain _ _ _ h
  constructor
  · intro hkeyed
    refine ⟨?_, Except.ok.inj (hpolicy.symm.trans hkeyed.policy)⟩
    have hkey := congrArg String.toList hkeyed.rateLimit
    unfold createFetchKey checkDomainKey at hkey
    rw [String.toList_append, String.toList_append] at hkey
    exact String.toList_inj.mp (List.append_cancel_left hkey)
  · rintro ⟨hrate, rfl⟩
    refine ⟨?_, hpolicy, hjob, hjob⟩
    unfold createFetchKey checkDomainKey
    rw [hrate]

theorem mem_of_mem_removePrefix {start text : String} {c : Char}
    (h : c ∈ (removePrefix start text).toList) : c ∈ text.toList := by
  unfold removePrefix at h
  split at h
  · rw [String.toList_ofList] at h
    exact List.mem_of_mem_drop h
  · exact h

theorem removePrefix_of_http {text : String} (h : "http".toList <+: text.toList) :
    removePrefix "www." text = text := by
  obtain ⟨rest, hrest⟩ := h
  refine if_neg fun hwww => ?_
  rw [← hrest] at hwww
  exact absurd hwww Bool.false_ne_true

theorem Accepted.http (h : Accepted tables url parsed host) : "http".toList <+: url.toList := by
  rcases h.spelled with hstart | hstart
  · exact List.IsPrefix.trans (by decide) hstart
  · exact List.IsPrefix.trans (by decide) hstart

theorem Accepted.slash_mem (h : Accepted tables url parsed host) : '/' ∈ url.toList := by
  rcases h.spelled with hstart | hstart
  · exact hstart.subset (by decide)
  · exact hstart.subset (by decide)

theorem Accepted.slash_not_mem (h : Accepted tables url parsed host)
    (hlowers : LowersPlainly tables) : '/' ∉ host.toList :=
  Foundation.Url.slash_not_mem_hostname (fun text => (hlowers.slash text).mp)
    (Foundation.Url.slash_not_mem_urlparse h.parses) h.hostname

theorem stripped_url (h : Accepted tables url parsed host) (hlowers : LowersPlainly tables) :
    removePrefix "www." (tables.lower url) = tables.lower url :=
  removePrefix_of_http (hlowers.scheme url h.http)

theorem slash_not_mem_normalizeDomain (h : Accepted tables url parsed host)
    (hlowers : LowersPlainly tables) (hextracts : Extracts tables registeredDomain) :
    '/' ∉ (normalizeDomain tables registeredDomain host).toList := by
  by_cases hnone : registeredDomain (removePrefix "www." (tables.lower host)) = ""
  · rw [normalizeDomain_of_eq hnone]
    intro hslash
    exact h.slash_not_mem hlowers ((hlowers.slash host).mp (mem_of_mem_removePrefix hslash))
  · rw [normalizeDomain_of_ne hnone]
    exact hextracts.slash _

theorem ne_of_unregistered (h : Accepted tables url parsed host) (hlowers : LowersPlainly tables)
    (hextracts : Extracts tables registeredDomain) (hnone : registeredDomain host = "") :
    normalizeDomain tables registeredDomain url ≠ normalizeDomain tables registeredDomain host := by
  have hurl : registeredDomain (removePrefix "www." (tables.lower url)) = "" := by
    rw [stripped_url h hlowers, hextracts.url url parsed host h, hnone]
  rw [normalizeDomain_of_eq hurl, stripped_url h hlowers]
  intro heq
  have hslash := (hlowers.slash url).mpr h.slash_mem
  rw [heq] at hslash
  exact slash_not_mem_normalizeDomain h hlowers hextracts hslash

theorem rateLimit_of_registered (h : Accepted tables url parsed host)
    (hlowers : LowersPlainly tables) (hextracts : Extracts tables registeredDomain)
    (hsome : registeredDomain host ≠ "") :
    normalizeDomain tables registeredDomain url = registeredDomain host := by
  have hurl :
      registeredDomain (removePrefix "www." (tables.lower url)) = registeredDomain host := by
    rw [stripped_url h hlowers, hextracts.url url parsed host h]
  rw [normalizeDomain_of_ne (by rw [hurl]; exact hsome), hurl]

theorem normalizeDomain_eq_iff (hextracts : Extracts tables registeredDomain)
    (hsome : registeredDomain host ≠ "") :
    normalizeDomain tables registeredDomain host = registeredDomain host ↔
      registeredDomain (removePrefix "www." (tables.lower host)) = registeredDomain host := by
  by_cases hnone : registeredDomain (removePrefix "www." (tables.lower host)) = ""
  · rw [normalizeDomain_of_eq hnone, hnone]
    refine iff_of_false (fun heq => ?_) (Ne.symm hsome)
    rw [heq, hextracts.self] at hnone
    exact hsome hnone
  · rw [normalizeDomain_of_ne hnone]

end Keys

/-- The four agree on a URL, and on all others of its host, exactly if the host has a
registered domain that stripping `www.` does not change. -/
theorem domains_agree_iff {tables : TextTables} {registeredDomain : String → String}
    {url host : String} {parsed : ParseResult} (hlowers : LowersPlainly tables)
    (hextracts : Extracts tables registeredDomain) (h : Accepted tables url parsed host) :
    (∀ other otherParsed, Accepted tables other otherParsed host → ∃ domain,
      KeyedBy tables registeredDomain url domain ∧ KeyedBy tables registeredDomain other domain) ↔
    registeredDomain host ≠ "" ∧
      registeredDomain (removePrefix "www." (tables.lower host)) = registeredDomain host := by
  constructor
  · intro hagree
    obtain ⟨domain, hkeyed, -⟩ := hagree url parsed h
    obtain ⟨hrate, hhost⟩ := (keyedBy_iff h).mp hkeyed
    have hsome : registeredDomain host ≠ "" := fun hnone =>
      ne_of_unregistered h hlowers hextracts hnone (hrate.trans hhost.symm)
    rw [rateLimit_of_registered h hlowers hextracts hsome] at hrate
    exact ⟨hsome, (normalizeDomain_eq_iff hextracts hsome).mp (hhost.trans hrate.symm)⟩
  · rintro ⟨hsome, hstripped⟩ other otherParsed hother
    have hhost := (normalizeDomain_eq_iff hextracts hsome).mpr hstripped
    exact ⟨registeredDomain host,
      (keyedBy_iff h).mpr ⟨rateLimit_of_registered h hlowers hextracts hsome, hhost⟩,
      (keyedBy_iff hother).mpr ⟨rateLimit_of_registered hother hlowers hextracts hsome, hhost⟩⟩

/-! ### Three hosts -/

theorem toLower_eq_slash {c : Char} : c.toLower = '/' ↔ c = '/' := by
  have hlower := toNat_toLower c
  rw [← Char.toNat_inj, ← Char.toNat_inj, hlower]
  show _ = 47 ↔ _ = 47
  split <;> omega

theorem toList_lower_asciiTables (text : String) :
    (asciiTables.lower text).toList = text.toList.map Char.toLower := by
  have hchars := congrArg String.toList (lower_asciiText text.toList)
  rwa [String.ofList_toList, String.toList_ofList] at hchars

theorem lowersPlainly_asciiTables : LowersPlainly asciiTables := by
  constructor
  · intro text h
    rw [toList_lower_asciiTables]
    exact h.map Char.toLower
  · intro text
    rw [toList_lower_asciiTables, List.mem_map]
    constructor
    · rintro ⟨c, hc, hslash⟩
      rwa [toLower_eq_slash.mp hslash] at hc
    · intro h
      exact ⟨'/', h, rfl⟩

def pageOf (host path : String) : ParseResult where
  scheme := "http".toList
  netloc := host.toList
  path := path.toList
  query := []
  fragment := []
  params := []

theorem accepted_example :
    Accepted asciiTables "http://example.com/a" (pageOf "example.com" "/a") "example.com" :=
  ⟨⟨by decide +kernel, by decide +kernel, by decide +kernel⟩, .inl (by decide), by decide,
    List.all_eq_true.mp (by decide +kernel), fun h => absurd h (by decide),
    fun _ => List.all_eq_true.mp (by decide +kernel)⟩

theorem accepted_other :
    Accepted asciiTables "http://example.com:80/b" (pageOf "example.com:80" "/b") "example.com" :=
  ⟨⟨by decide +kernel, by decide +kernel, by decide +kernel⟩, .inl (by decide), by decide,
    List.all_eq_true.mp (by decide +kernel), fun h => absurd h (by decide),
    fun _ => List.all_eq_true.mp (by decide +kernel)⟩

theorem example_agrees :
    ∃ domain, KeyedBy asciiTables (fun _ => "example.com") "http://example.com/a" domain ∧
      KeyedBy asciiTables (fun _ => "example.com") "http://example.com:80/b" domain := by
  have hextracts : Extracts asciiTables fun _ => "example.com" := by
    refine ⟨fun _ _ _ _ => rfl, fun _ => rfl, ?_⟩
    intro text
    decide
  exact (domains_agree_iff lowersPlainly_asciiTables hextracts accepted_example).mpr
    ⟨by decide, rfl⟩ _ _ accepted_other

/-- The registered domains of `www.gov.uk` and of the public suffix `gov.uk`. -/
def govUk (text : String) : String := if text = "gov.uk" then "" else "www.gov.uk"

theorem accepted_literal :
    Accepted asciiTables "http://192.0.2.1/a" (pageOf "192.0.2.1" "/a") "192.0.2.1" :=
  ⟨⟨by decide +kernel, by decide +kernel, by decide +kernel⟩, .inl (by decide), by decide,
    List.all_eq_true.mp (by decide +kernel), fun h => absurd h (by decide),
    fun _ => List.all_eq_true.mp (by decide +kernel)⟩

theorem accepted_govUk :
    Accepted asciiTables "http://www.gov.uk/a" (pageOf "www.gov.uk" "/a") "www.gov.uk" :=
  ⟨⟨by decide +kernel, by decide +kernel, by decide +kernel⟩, .inl (by decide), by decide,
    List.all_eq_true.mp (by decide +kernel), fun h => absurd h (by decide),
    fun _ => List.all_eq_true.mp (by decide +kernel)⟩

/-- The bucket of an address is its whole URL, and the one of `www.gov.uk` is not the domain
of its policy. -/
theorem keys_disagree :
    (¬ ∃ domain, KeyedBy asciiTables (fun _ => "") "http://192.0.2.1/a" domain) ∧
      ¬ ∃ domain, KeyedBy asciiTables govUk "http://www.gov.uk/a" domain := by
  constructor
  · rintro ⟨domain, hkeyed⟩
    obtain ⟨hrate, hhost⟩ := (keyedBy_iff accepted_literal).mp hkeyed
    exact absurd (hrate.trans hhost.symm) (by decide +kernel)
  · rintro ⟨domain, hkeyed⟩
    obtain ⟨hrate, hhost⟩ := (keyedBy_iff accepted_govUk).mp hkeyed
    exact absurd (hrate.trans hhost.symm) (by decide +kernel)

end CrawlerApi.Domains
