import CrawlerApi.Core.UrlGuard
import CrawlerApi.Fetch.BlockDetector

/-!
# The browser engines

`PlaywrightFetcher` and `CamoufoxFetcher`.  The browser follows redirects by
itself: it is given by what each call on it returns and by the responses it
reports while the page loads.  The guard is asked once before the navigation and
once for every response reported.
-/

namespace CrawlerApi.Fetch

open UrlGuard (validateUrlAsync)
open BlockDetector (contains detectBlockReason)

/-- The resolver as the lookups of one fetch find it, the first one at 0. -/
abbrev Dns := Nat → Resolver

def publicDns : Dns := fun _ _ => .addresses ["93.184.216.34"]

structure ProxyConfig where
  username : Option String
  password : Option String
  server : String
deriving DecidableEq, Repr

structure BrowserResponse where
  status : Int
  allHeaders : Except String Headers

/-- What one navigation does.  `responses` are the URLs reported to the handler of
the page; a call that raises gives the text of its exception. -/
structure Navigation where
  opened : Except String Unit
  setHeaders : Except String Unit
  responses : List String
  goto : Except String (Option BrowserResponse)
  url : String
  content : Except String Bytes
  closed : Except String Unit

structure Launch where
  proxy : Option ProxyConfig
  geoip : Bool
  country : Option String
  extraHeaders : Headers
  url : String
deriving DecidableEq, Repr

abbrev Browser := Launch → Navigation

structure BrowserRun where
  warnings : List String
  outcome : Except Exn FetchResult

section

variable (tables : TextTables)

def splitProxyCredentials (proxyUrl : String) : Except String ProxyConfig :=
  match Foundation.Url.urlsplit tables.toTables proxyUrl.toList [] with
  | .error message => .error message
  | .ok parts =>
      match parts.port tables.toTables with
      | .error message => .error message
      | .ok port =>
          let host := (parts.hostname tables.toTables).getD []
          let netloc :=
            match port with
            | none | some 0 => host
            | some port => host ++ ':' :: (toString port).toList
          let given (text : Option (List Char)) := (text.filter (· ≠ [])).map String.ofList
          .ok {
            username := given parts.userinfo.username
            password := given parts.userinfo.password
            server := String.ofList (Foundation.Url.urlunsplit { parts with netloc := netloc }) }

def proxyConfig (proxy : Option Proxy) : Except String (Option ProxyConfig) :=
  match proxy with
  | none => .ok none
  | some proxy =>
      if proxy.url = "" then .ok none else (splitProxyCredentials tables proxy.url).map some

def browserFailure (network timedOut failed message : String) : Exn :=
  if contains "ERR_".toList message.toList ∨ contains "net::".toList message.toList then
    .fetchError (network ++ message) none false
  else if contains "timeout".toList (tables.lower message).toList then
    .fetchError timedOut none false
  else .fetchError (failed ++ message) none false

def pageStatus (response : Option BrowserResponse) : Int := (response.map (·.status)).getD 200

/-- The handler runs on every response, the lookup of response `n` being lookup
`lookup + n`; it can log and nothing else. -/
def handleResponses (handle : UrlGuard.Exn → String → List String) (dns : Dns) :
    Nat → List String → List String
  | _, [] => []
  | lookup, url :: urls =>
      (match validateUrlAsync tables (dns lookup) url with
        | .ok () => []
        | .error exn => handle exn url) ++
      handleResponses handle dns (lookup + 1) urls

def closing (closed : Except String Unit) (block : Except String α) : Except String α :=
  match closed with
  | .error message => .error message
  | .ok () => block

end

namespace PlaywrightFetcher

variable (tables : TextTables) (dns : Dns) (pool : Option Browser) (elapsedMs : Int) (url : String)
  (proxy : Option Proxy)

/-- `_check_response`; an exception that is no `URLGuardError` stays in the page's
event emitter. -/
def checkResponse : UrlGuard.Exn → String → List String
  | .urlGuardError _, url =>
      ["[playwright] SSRF blocked navigation to " ++ url ++ " — aborting"]
  | .exception _, _ => []

def failure (message : String) : Exn :=
  browserFailure tables "Playwright network error: " ("Request timed out: " ++ url)
    "Playwright fetch failed: " message

/-- Up to the browser: the navigation that is started, or the exception before it. -/
def start : Except Exn Navigation :=
  match validateUrlAsync tables (dns 0) url with
  | .error (.urlGuardError message) => .error (.fetchError message none false)
  | .error (.exception message) => .error (.exception message)
  | .ok () =>
      match proxyConfig tables proxy with
      | .error message => .error (.exception message)
      | .ok config =>
          match pool with
          | none => .error (.fetchError
              "BrowserPool not available — ensure worker startup completed successfully" none false)
          | some browser => .ok (browser {
              proxy := config
              geoip := false
              country := none
              extraHeaders := []
              url := url })

def read (navigation : Navigation) : Except String FetchResult := do
  let response ← navigation.goto
  let statusCode := pageStatus response
  let body ← navigation.content
  let blockReason := detectBlockReason tables.toTextMethods statusCode [] body
  return {
    url := navigation.url
    statusCode
    headers := []
    body
    encoding := "utf-8"
    elapsedMs
    proxyId := proxy.map (·.id)
    engine := .playwright
    blocked := blockReason.isSome
    blockReason := blockReason.map (·.value)
    retriesUsed := 0
    rawBody := body
    rawHeaders := [] }

def navigate (navigation : Navigation) : BrowserRun :=
  match navigation.opened with
  | .error message => ⟨[], .error (failure tables url message)⟩
  | .ok () => {
      warnings := handleResponses tables checkResponse dns 1 navigation.responses
      outcome := (closing navigation.closed (read tables elapsedMs proxy navigation)).mapError
        (failure tables url) }

def fetch : BrowserRun :=
  match start tables dns pool url proxy with
  | .error exn => ⟨[], .error exn⟩
  | .ok navigation => navigate tables dns elapsedMs url proxy navigation

end PlaywrightFetcher

namespace CamoufoxFetcher

variable (tables : TextTables) (dns : Dns) (ready : Option Bool) (package : Option Browser)
  (elapsedMs : Int) (url : String) (proxy : Option Proxy) (headers : Option Headers)

def checkResponse : UrlGuard.Exn → String → List String
  | .urlGuardError _, url =>
      if url = "" then [] else ["[camoufox] SSRF blocked navigation to " ++ url]
  | .exception _, _ => []

def failure (message : String) : Exn :=
  browserFailure tables "Camoufox network error: " ("Camoufox request timed out: " ++ url)
    "Camoufox fetch failed: " message

def extraHeaders : Headers :=
  (headers.getD []).filter fun header =>
    tables.lower header.1 ≠ "user-agent" ∧ tables.lower header.1 ≠ "accept-language"

def start : Except Exn Navigation :=
  if ready = some false then
    .error (.fetchError "Camoufox failed self-check at worker startup — see logs" none false)
  else
    match validateUrlAsync tables (dns 0) url with
    | .error (.urlGuardError message) => .error (.fetchError message none false)
    | .error (.exception message) => .error (.exception message)
    | .ok () =>
        match package with
        | none => .error (.fetchError "camoufox is not installed — install crawler-api[browser]"
            none false)
        | some browser =>
            match proxyConfig tables proxy with
            | .error message => .error (.exception message)
            | .ok config =>
                let country := proxy.bind (·.country)
                .ok (browser {
                  proxy := config
                  geoip := country.isSome
                  country := (country.filter (· ≠ "")).map tables.upper
                  extraHeaders := extraHeaders tables headers
                  url := url })

/-- `set_extra_http_headers` is called when there are any. -/
def prepared (navigation : Navigation) : Except String Unit :=
  if extraHeaders tables headers = [] then .ok () else navigation.setHeaders

def rawHeaders : Option BrowserResponse → Headers
  | none => []
  | some response => response.allHeaders.toOption.getD []

def read (navigation : Navigation) : Except String FetchResult := do
  let response ← navigation.goto
  let statusCode := pageStatus response
  let body ← navigation.content
  let headers := rawHeaders response
  let blockReason := detectBlockReason tables.toTextMethods statusCode headers body
  return {
    url := navigation.url
    statusCode
    headers
    body
    encoding := "utf-8"
    elapsedMs
    proxyId := proxy.map (·.id)
    engine := .camoufox
    blocked := blockReason.isSome
    blockReason := blockReason.map (·.value)
    retriesUsed := 0
    rawBody := body
    rawHeaders := headers }

def navigate (navigation : Navigation) : BrowserRun :=
  match navigation.opened with
  | .error message => ⟨[], .error (failure tables url message)⟩
  | .ok () =>
      match prepared tables headers navigation with
      | .error message =>
          ⟨[], (closing navigation.closed (.error message)).mapError (failure tables url)⟩
      | .ok () => {
          warnings := handleResponses tables checkResponse dns 1 navigation.responses
          outcome := (closing navigation.closed (read tables elapsedMs proxy navigation)).mapError
            (failure tables url) }

def fetch : BrowserRun :=
  match start tables dns ready package url proxy headers with
  | .error exn => ⟨[], .error exn⟩
  | .ok navigation => navigate tables dns elapsedMs url proxy headers navigation

end CamoufoxFetcher

end CrawlerApi.Fetch
