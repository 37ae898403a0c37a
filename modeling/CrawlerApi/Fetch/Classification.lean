import CrawlerApi.Fetch.BrowserGuard
import CrawlerApi.Fetch.FinalResponse

/-!
# What the engines hand the detector

The four engines call the detector with a part each of what they received: the body of
some statuses only, some of the headers or none.  A response is classified as it should be
where that part decides.
-/

namespace CrawlerApi.Fetch

open Foundation

namespace BlockDetector

def marker (body : Bytes) : Option BlockReason :=
  let sample := body.take 1000000
  if cloudflarePatterns.any (·.search sample) then some .cloudflare
  else if captchaPatterns.any (·.search sample) then some .captcha
  else if ipBanPatterns.any (·.search sample) then some .ipBan
  else if wafPatterns.any (·.search sample) then some .waf
  else none

def CloudflareFailure (methods : TextMethods) (statusCode : Int) (headers : Headers) : Prop :=
  statusCode ≥ 400 ∧ (Headers.has (lowered methods headers) "cf-ray" ∨
    contains "cloudflare".toList
      (methods.lower (Headers.value (lowered methods headers) "server")).toList)

instance (methods : TextMethods) (statusCode : Int) (headers : Headers) :
    Decidable (CloudflareFailure methods statusCode headers) :=
  inferInstanceAs (Decidable (_ ∧ _))

def refusal (statusCode : Int) : Option BlockReason :=
  if statusCode ∈ [401, 403, 407, 451] then some .ipBan else none

def Silent (statusCode : Int) (body : Bytes) : Prop :=
  marker body = none ∨ marker body = some .ipBan ∧ statusCode ∈ [401, 403, 407, 451]

section Detector

variable {methods : TextMethods} {statusCode : Int} {headers seenHeaders : Headers}
  {body seen : Bytes}

theorem detectBlockReason_eq (methods : TextMethods) (statusCode : Int) (headers : Headers)
    (body : Bytes) :
    detectBlockReason methods statusCode headers body =
      if statusCode = 429 then some .rateLimited
      else if CloudflareFailure methods statusCode headers then some .cloudflare
      else (marker body).or (refusal statusCode) := by
  unfold detectBlockReason marker refusal
  dsimp only
  by_cases hlimit : statusCode = 429
  · rw [if_pos hlimit, if_pos hlimit]
  · rw [if_neg hlimit, if_neg hlimit]
    by_cases hfailure : CloudflareFailure methods statusCode headers
    · rw [if_pos hfailure, if_pos (.inl hfailure)]
    · rw [if_neg hfailure]
      by_cases hcloudflare : cloudflarePatterns.any (·.search (body.take 1000000)) = true
      · rw [if_pos (.inr hcloudflare), if_pos hcloudflare]
        rfl
      · unfold CloudflareFailure at hfailure
        rw [if_neg (not_or.mpr ⟨hfailure, hcloudflare⟩), if_neg hcloudflare]
        split
        · rfl
        · split
          · rfl
          · split
            · rfl
            · exact Option.none_or.symm

theorem marker_nil : marker [] = none := by decide +kernel

theorem refusal_cases (statusCode : Int) :
    refusal statusCode = some .ipBan ∧ statusCode ∈ [401, 403, 407, 451] ∨
      refusal statusCode = none ∧ statusCode ∉ [401, 403, 407, 451] := by
  unfold refusal
  split
  · rename_i h
    exact .inl ⟨rfl, h⟩
  · rename_i h
    exact .inr ⟨rfl, h⟩

theorem or_refusal_eq_cloudflare {reason : Option BlockReason} :
    reason.or (refusal statusCode) = some .cloudflare ↔ reason = some .cloudflare := by
  cases reason with
  | some found => rfl
  | none =>
      rcases refusal_cases statusCode with ⟨h, -⟩ | ⟨h, -⟩
      · rw [h]
        decide
      · rw [h]
        decide

theorem silent_iff : refusal statusCode = (marker body).or (refusal statusCode) ↔
    Silent statusCode body := by
  unfold Silent
  rcases refusal_cases statusCode with ⟨h, hmem⟩ | ⟨h, hmem⟩
  · rw [h]
    cases marker body with
    | none => simp
    | some found => simp [hmem, eq_comm]
  · rw [h]
    cases marker body with
    | none => simp
    | some found => simp [hmem]

theorem detect_agrees_iff :
    detectBlockReason methods statusCode seenHeaders seen =
        detectBlockReason methods statusCode headers body ↔
      statusCode = 429 ∨
        if CloudflareFailure methods statusCode seenHeaders then
          CloudflareFailure methods statusCode headers ∨ marker body = some .cloudflare
        else if CloudflareFailure methods statusCode headers then marker seen = some .cloudflare
        else (marker seen).or (refusal statusCode) = (marker body).or (refusal statusCode) := by
  rw [detectBlockReason_eq, detectBlockReason_eq]
  by_cases hlimit : statusCode = 429
  · rw [if_pos hlimit, if_pos hlimit]
    exact iff_of_true rfl (.inl hlimit)
  · rw [if_neg hlimit, if_neg hlimit, or_iff_right hlimit]
    by_cases hseen : CloudflareFailure methods statusCode seenHeaders
    · rw [if_pos hseen, if_pos hseen]
      by_cases hsent : CloudflareFailure methods statusCode headers
      · rw [if_pos hsent]
        exact iff_of_true rfl (.inl hsent)
      · rw [if_neg hsent, or_iff_right hsent, eq_comm, or_refusal_eq_cloudflare]
    · rw [if_neg hseen, if_neg hseen]
      by_cases hsent : CloudflareFailure methods statusCode headers
      · rw [if_pos hsent, if_pos hsent, or_refusal_eq_cloudflare]
      · rw [if_neg hsent, if_neg hsent]

theorem not_cloudflareFailure_nil (htext : ReadsAscii methods) :
    ¬ CloudflareFailure methods statusCode [] := by
  have hlower : methods.lower "" = "" := (htext.lower "" rfl).trans (lower_asciiText [])
  rintro ⟨-, hray | hserver⟩
  · cases hray
  · rw [show Headers.value (lowered methods []) "server" = "" from rfl, hlower] at hserver
    exact absurd hserver (by decide)

theorem not_cloudflareFailure_of_lt (h : statusCode < 400) :
    ¬ CloudflareFailure methods statusCode headers := by
  intro hfailure
  have hge := hfailure.1
  omega

end Detector

end BlockDetector

theorem BlockReason.value_injective {first second : BlockReason}
    (h : first.value = second.value) : first = second := by
  cases first <;> cases second <;> first | rfl | exact absurd h (by decide)

/-- A response of a server, with the body it stands for: its codings undone. -/
structure ServerResponse (tables : TextTables) (codecs : Codecs) where
  statusCode : Int
  headers : Headers
  raw : Bytes
  body : Bytes
  decodes : undoListed codecs raw
    (listed tables.toTextMethods (headers.get "content-encoding")) = some body

open BlockDetector

section Engines

variable {tables : TextTables} {codecs : Codecs}

/-- The engine ends a fetch with the response and builds the result. -/
inductive Receives (response : ServerResponse tables codecs) : Engine → FetchResult → Prop where
  | httpx {dns : Dns} {invalidLocation : HttpRequest → String → Option String} {server : Server}
      {elapsedMs : Int} {url : String} {proxy : Option Proxy} {headers : Option Headers}
      {followRedirects : Bool} {maxRedirects : Int} {result : FetchResult} :
      (HttpxFetcher.fetch tables codecs dns invalidLocation server elapsedMs url proxy headers
        followRedirects maxRedirects).Received
          ⟨response.statusCode, response.headers, response.raw⟩ →
      (HttpxFetcher.fetch tables codecs dns invalidLocation server elapsedMs url proxy headers
        followRedirects maxRedirects).outcome = .ok result →
      Receives response .httpx result
  | curlCffi {dns : Dns} {server : Server} {elapsedMs : Int} {url : String}
      {proxy : Option Proxy} {headers : Option Headers} {followRedirects : Bool}
      {maxRedirects : Int} {result : FetchResult} :
      (CurlFetcher.fetch tables dns server elapsedMs url proxy headers followRedirects
        maxRedirects).Received ⟨response.statusCode, response.headers, response.body⟩ →
      (CurlFetcher.fetch tables dns server elapsedMs url proxy headers followRedirects
        maxRedirects).outcome = .ok result →
      Receives response .curlCffi result
  | playwright {dns : Dns} {pool : Option Browser} {elapsedMs : Int} {url : String}
      {proxy : Option Proxy} {navigation : Navigation} {page : BrowserResponse}
      {result : FetchResult} :
      PlaywrightFetcher.start tables dns pool url proxy = .ok navigation →
      navigation.goto = .ok (some page) → page.status = response.statusCode →
      navigation.content = .ok response.body →
      (PlaywrightFetcher.fetch tables dns pool elapsedMs url proxy).outcome = .ok result →
      Receives response .playwright result
  | camoufox {dns : Dns} {ready : Option Bool} {package : Option Browser} {elapsedMs : Int}
      {url : String} {proxy : Option Proxy} {headers : Option Headers} {navigation : Navigation}
      {page : BrowserResponse} {result : FetchResult} :
      CamoufoxFetcher.start tables dns ready package url proxy headers = .ok navigation →
      navigation.goto = .ok (some page) → page.status = response.statusCode →
      page.allHeaders = .ok response.headers → navigation.content = .ok response.body →
      (CamoufoxFetcher.fetch tables dns ready package elapsedMs url proxy headers).outcome =
        .ok result →
      Receives response .camoufox result

/-- The body `httpx` decodes for itself. -/
def ServerResponse.undone (response : ServerResponse tables codecs) : Bytes :=
  (undoFirst codecs response.raw (firstEncoding tables.toTextMethods
    (response.headers.get "content-encoding"))).getD response.raw

def ServerResponse.handed (response : ServerResponse tables codecs) : Engine → Headers × Bytes
  | .httpx => (response.headers, if response.statusCode = 200 then response.undone else [])
  | .curlCffi => (Headers.toDict (response.headers.take 50),
      if 200 ≤ response.statusCode ∧ response.statusCode < 300 then response.body else [])
  | .playwright => ([], response.body)
  | .camoufox => (response.headers, response.body)

/-- What the engine hands over decides the reason. -/
def ServerResponse.Decides (response : ServerResponse tables codecs) : Engine → Prop
  | .httpx => response.statusCode = 429 ∨
      CloudflareFailure tables.toTextMethods response.statusCode response.headers ∨
      if response.statusCode = 200 then marker response.undone = marker response.body
      else Silent response.statusCode response.body
  | .curlCffi => response.statusCode = 429 ∨
      (200 ≤ response.statusCode ∧ response.statusCode < 300) ∨
      if CloudflareFailure tables.toTextMethods response.statusCode
          (Headers.toDict (response.headers.take 50)) then
        CloudflareFailure tables.toTextMethods response.statusCode response.headers ∨
          marker response.body = some .cloudflare
      else ¬ CloudflareFailure tables.toTextMethods response.statusCode response.headers ∧
        Silent response.statusCode response.body
  | .playwright => response.statusCode = 429 ∨
      ¬ CloudflareFailure tables.toTextMethods response.statusCode response.headers ∨
      marker response.body = some .cloudflare
  | .camoufox => True

variable {response : ServerResponse tables codecs} {engine : Engine} {result : FetchResult}

theorem block_of_closing_ok {closed : Except String Unit} {block : Except String FetchResult}
    {failure : String → Exn} (h : (closing closed block).mapError failure = .ok result) :
    block = .ok result := by
  cases closed with
  | error message => cases h
  | ok closed =>
      cases block with
      | error message => cases h
      | ok returned =>
          cases h
          rfl

theorem Receives.blockReason (h : Receives response engine result) :
    result.blockReason = (detectBlockReason tables.toTextMethods response.statusCode
      (response.handed engine).1 (response.handed engine).2).map BlockReason.value := by
  cases h with
  | httpx hreceived hok =>
      obtain ⟨other, last, hother, rfl⟩ := HttpxFetcher.finish_of_ok hok
      cases hreceived.unique hother
      dsimp only [HttpxFetcher.finish, ServerResponse.handed, ServerResponse.undone]
      rw [decodedBody_eq]
  | curlCffi hreceived hok =>
      obtain ⟨other, last, hother, rfl⟩ := CurlFetcher.finish_of_ok hok
      cases hreceived.unique hother
      simp only [CurlFetcher.finish, CurlFetcher.rules, ServerResponse.handed, Bool.and_eq_true,
        decide_eq_true_eq]
  | @playwright _ _ _ _ _ navigation page _ hstarted hgoto hstatus hcontent hok =>
      rw [PlaywrightFetcher.fetch_outcome hstarted, PlaywrightFetcher.navigate] at hok
      split at hok
      · cases hok
      · have hread := block_of_closing_ok hok
        unfold PlaywrightFetcher.read at hread
        rw [hgoto, hcontent] at hread
        cases hread
        rw [← hstatus]
        rfl
  | camoufox hstarted hgoto hstatus hheaders hcontent hok =>
      rw [CamoufoxFetcher.fetch_outcome hstarted, CamoufoxFetcher.navigate] at hok
      split at hok
      · cases hok
      · split at hok
        · have hread := block_of_closing_ok hok
          cases hread
        · have hread := block_of_closing_ok hok
          unfold CamoufoxFetcher.read at hread
          rw [hgoto, hcontent] at hread
          cases hread
          dsimp only [CamoufoxFetcher.rawHeaders]
          rw [hheaders, ← hstatus]
          rfl

theorem decides_iff (htext : ReadsAscii tables.toTextMethods) (engine : Engine) :
    detectBlockReason tables.toTextMethods response.statusCode (response.handed engine).1
        (response.handed engine).2 =
      detectBlockReason tables.toTextMethods response.statusCode response.headers response.body ↔
    response.Decides engine := by
  cases engine with
  | httpx =>
      dsimp only [ServerResponse.handed, ServerResponse.Decides]
      rw [detect_agrees_iff]
      refine or_congr_right ?_
      by_cases hfailure : CloudflareFailure tables.toTextMethods response.statusCode
        response.headers
      · rw [if_pos hfailure]
        exact iff_of_true (.inl hfailure) (.inl hfailure)
      · rw [if_neg hfailure, if_neg hfailure, or_iff_right hfailure]
        by_cases hok : response.statusCode = 200
        · rw [if_pos hok, if_pos hok, hok]
          rw [show refusal 200 = none from rfl, Option.or_none, Option.or_none]
        · rw [if_neg hok, if_neg hok, marker_nil, Option.none_or, silent_iff]
  | curlCffi =>
      dsimp only [ServerResponse.handed, ServerResponse.Decides]
      rw [detect_agrees_iff]
      refine or_congr_right ?_
      by_cases hsuccess : 200 ≤ response.statusCode ∧ response.statusCode < 300
      · have hlt : response.statusCode < 400 := by omega
        rw [if_pos hsuccess, if_neg (not_cloudflareFailure_of_lt hlt),
          if_neg (not_cloudflareFailure_of_lt hlt)]
        exact iff_of_true rfl (.inl hsuccess)
      · rw [if_neg hsuccess, or_iff_right hsuccess, marker_nil, Option.none_or, silent_iff]
        by_cases hseen : CloudflareFailure tables.toTextMethods response.statusCode
          (Headers.toDict (response.headers.take 50))
        · rw [if_pos hseen, if_pos hseen]
        · rw [if_neg hseen, if_neg hseen]
          by_cases hfailure : CloudflareFailure tables.toTextMethods response.statusCode
            response.headers
          · rw [if_pos hfailure]
            exact iff_of_false nofun fun h => h.1 hfailure
          · rw [if_neg hfailure, and_iff_right hfailure]
  | playwright =>
      dsimp only [ServerResponse.handed, ServerResponse.Decides]
      rw [detect_agrees_iff, if_neg (not_cloudflareFailure_nil htext)]
      refine or_congr_right ?_
      split
      · rename_i hfailure
        rw [or_iff_right (not_not.mpr hfailure)]
      · rename_i hfailure
        exact iff_of_true rfl (.inl hfailure)
  | camoufox => exact iff_of_true rfl trivial

end Engines

/-- An engine classifies a response as the detector classifies the whole of it exactly if
the part it hands over decides. -/
theorem block_reason_iff {tables : TextTables} {codecs : Codecs}
    {response : ServerResponse tables codecs} {engine : Engine} {result : FetchResult}
    (htext : ReadsAscii tables.toTextMethods) (h : Receives response engine result) :
    result.blockReason = (detectBlockReason tables.toTextMethods response.statusCode
        response.headers response.body).map BlockReason.value ↔ response.Decides engine := by
  rw [h.blockReason, ← decides_iff htext]
  exact (Option.map_injective fun _ _ => BlockReason.value_injective).eq_iff

/-! ### A page on one host -/

def pageHost : String := "http://a.example/"

theorem pageHost_accepted (lookup : Nat) :
    UrlGuard.validateUrlAsync asciiTables (publicDns lookup) pageHost = .ok () := by
  show UrlGuard.validateUrlAsync asciiTables (publicDns 0) pageHost = .ok ()
  decide +kernel

/-- The answer of a host that has nothing but the response. -/
def ServerResponse.answer (response : ServerResponse asciiTables markCodecs) : HttpResponse :=
  ⟨response.statusCode, response.headers, response.raw⟩

def ServerResponse.fetched (response : ServerResponse asciiTables markCodecs) : FetchResult :=
  HttpxFetcher.finish asciiTables markCodecs 0 none pageHost response.answer

theorem hop_fetched (response : ServerResponse asciiTables markCodecs) :
    hop asciiTables (HttpxFetcher.rules asciiTables markCodecs 0 none none) publicDns
        (fun _ _ => .ok response.answer) false 0 ⟨0, pageHost⟩ =
      ⟨[.guarded 0 pageHost (.ok ()), .got 0 ⟨pageHost, [], none⟩ (.ok response.answer)],
        .done (.ok response.fetched)⟩ := by
  have haccepted : (HttpxFetcher.rules asciiTables markCodecs 0 none none).validate
      (publicDns 1) pageHost = .ok () := pageHost_accepted 1
  have hexit : hopExit asciiTables (HttpxFetcher.rules asciiTables markCodecs 0 none none) false
      ⟨0, pageHost⟩ (.ok response.answer) = .done (.ok response.fetched) :=
    if_neg fun h => Bool.false_ne_true h.2
  unfold hop
  dsimp only
  rw [haccepted]
  dsimp only
  rw [hexit]
  rfl

theorem receives_httpx (response : ServerResponse asciiTables markCodecs) :
    Receives response .httpx response.fetched := by
  have hexit := congrArg Iteration.exit (hop_fetched response)
  refine @Receives.httpx asciiTables markCodecs response publicDns (fun _ _ => none)
    (fun _ _ => .ok response.answer) 0 pageHost none none false 0 _
    ⟨0, ⟨pageHost, [], none⟩, ?_⟩ ?_
  · unfold HttpxFetcher.fetch
    rw [pageHost_accepted 0, HttpxFetcher.streamed_valid]
    show (gets (loopEvents _ (0 + 1) _)).getLast? = _
    rw [loopEvents_done hexit, hop_fetched]
    rfl
  · unfold HttpxFetcher.fetch
    rw [pageHost_accepted 0, HttpxFetcher.streamed_valid]
    show loop _ _ (0 + 1) _ = _
    rw [loop_done hexit]

def ServerResponse.shown (response : ServerResponse asciiTables markCodecs) : Navigation where
  opened := .ok ()
  setHeaders := .ok ()
  responses := [pageHost]
  goto := .ok (some ⟨response.statusCode, .ok response.headers⟩)
  url := pageHost
  content := .ok response.body
  closed := .ok ()

theorem receives_playwright (response : ServerResponse asciiTables markCodecs) :
    ∃ result, Receives response .playwright result := by
  have hstarted : PlaywrightFetcher.start asciiTables publicDns (some fun _ => response.shown)
      pageHost none = .ok response.shown := by
    unfold PlaywrightFetcher.start
    rw [pageHost_accepted 0]
    rfl
  have houtcome : ∃ result, (PlaywrightFetcher.fetch asciiTables publicDns
      (some fun _ => response.shown) 0 pageHost none).outcome = .ok result := by
    rw [PlaywrightFetcher.fetch_outcome hstarted]
    exact ⟨_, rfl⟩
  obtain ⟨result, hok⟩ := houtcome
  exact ⟨result, .playwright hstarted rfl rfl rfl hok⟩

def plainPage (statusCode : Int) (text : String) : ServerResponse asciiTables markCodecs where
  statusCode := statusCode
  headers := []
  raw := asciiBytes text
  body := asciiBytes text
  decodes := by
    have hlisted : listed asciiTables.toTextMethods none = [""] := listed_none readsAscii_asciiText
    show undoListed markCodecs _ (listed asciiTables.toTextMethods none) = _
    rw [hlisted]
    rfl

theorem undone_plainPage (statusCode : Int) (text : String) :
    (plainPage statusCode text).undone =
      (guess markCodecs (asciiBytes text)).getD (asciiBytes text) := by
  have hfirst : firstEncoding asciiTables.toTextMethods
      ((plainPage statusCode text).headers.get "content-encoding") = "" :=
    firstEncoding_none readsAscii_asciiText
  unfold ServerResponse.undone
  rw [hfirst]
  rfl

theorem detect_plain {statusCode : Int} (hlimit : statusCode ≠ 429) (body : Bytes) :
    detectBlockReason asciiText statusCode [] body = (marker body).or (refusal statusCode) := by
  rw [detectBlockReason_eq, if_neg hlimit, if_neg (not_cloudflareFailure_nil readsAscii_asciiText)]

def captchaPage : ServerResponse asciiTables markCodecs := plainPage 200 "<p class=g-recaptcha>"

theorem captcha_page_classified :
    captchaPage.fetched.blockReason = (detectBlockReason asciiTables.toTextMethods
      captchaPage.statusCode captchaPage.headers captchaPage.body).map BlockReason.value := by
  refine (block_reason_iff readsAscii_asciiText (receives_httpx captchaPage)).mpr
    (.inr (.inr ?_))
  show marker captchaPage.undone = marker captchaPage.body
  rw [captchaPage, undone_plainPage]
  decide +kernel

def challengePage : ServerResponse asciiTables markCodecs := plainPage 503 "<p class=cf-chl-1>"

/-- A challenge page behind a 503 is no block for `httpx` and Cloudflare's for a browser. -/
theorem challenge_split :
    detectBlockReason asciiText challengePage.statusCode challengePage.headers
        challengePage.body = some .cloudflare ∧
      (Receives challengePage .httpx challengePage.fetched ∧
        challengePage.fetched.blockReason = none) ∧
      ∃ result, Receives challengePage .playwright result ∧
        result.blockReason = some "cloudflare" := by
  have hmarker : marker challengePage.body = some .cloudflare := by decide +kernel
  have hdetected : detectBlockReason asciiText 503 [] challengePage.body = some .cloudflare := by
    rw [detect_plain (by decide), hmarker]
    rfl
  have hdropped : detectBlockReason asciiText 503 [] [] = none := by
    rw [detect_plain (by decide), marker_nil]
    rfl
  obtain ⟨result, hreceives⟩ := receives_playwright challengePage
  exact ⟨hdetected, ⟨receives_httpx _,
      (receives_httpx _).blockReason.trans (congrArg (Option.map BlockReason.value) hdropped)⟩,
    result, hreceives,
      hreceives.blockReason.trans (congrArg (Option.map BlockReason.value) hdetected)⟩

end CrawlerApi.Fetch
