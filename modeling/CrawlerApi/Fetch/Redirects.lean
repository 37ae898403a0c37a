import CrawlerApi.Fetch.Browser
import CrawlerApi.Fetch.ContentDecoder
import CrawlerApi.Foundation.Loop

/-!
# The engines that follow redirects themselves

The hop loop of `HttpxFetcher` and `CurlFetcher`.  Servers and resolver are
functions of the hop as well, so they may answer differently every time.
-/

namespace CrawlerApi.Fetch

open Foundation
open UrlGuard (validateUrlAsync validateUrlSync)
open BlockDetector (detectBlockReason)

structure HttpRequest where
  url : String
  headers : Headers
  proxy : Option String
deriving DecidableEq, Repr

structure HttpResponse where
  statusCode : Int
  headers : Headers
  body : Bytes
deriving DecidableEq, Repr

/-- The answer to the request of a hop; a transport error is its text. -/
abbrev Server := Nat → HttpRequest → Except String HttpResponse

inductive HopEvent where
  | guarded (hop : Nat) (url : String) (verdict : Except UrlGuard.Exn Unit)
  | got (hop : Nat) (request : HttpRequest) (answer : Except String HttpResponse)

structure Hop where
  number : Nat
  url : String
deriving DecidableEq, Repr

structure FetchRun where
  events : List HopEvent
  outcome : Except Exn FetchResult

def redirectCodes : List Int := [301, 302, 303, 307, 308]

structure HopRules (β : Type) where
  validate : Resolver → String → Except UrlGuard.Exn Unit
  raised : UrlGuard.Exn → Exn
  request : String → HttpRequest
  location : HttpResponse → Option String
  finish : String → HttpResponse → β

section Loop

variable (tables : TextTables) (rules : HopRules β) (dns : Dns) (server : Server)
  (followRedirects : Bool)

def hopExit (hop : Hop) : Except String HttpResponse → Exit Hop (Except Exn β)
  | .error message => .done (.error (.exception message))
  | .ok response =>
      if response.statusCode ∈ redirectCodes ∧ followRedirects then
        let location := (rules.location response).getD ""
        if location = "" then
          .done (.error (.fetchError
            ("Redirect (" ++ toString response.statusCode ++ ") with no Location header")
            none false))
        else
          match Url.urljoin tables.toTables hop.url.toList location.toList with
          | .error message => .done (.error (.exception message))
          | .ok next => .again ⟨hop.number + 1, String.ofList next⟩
      else .done (.ok (rules.finish hop.url response))

/-- One hop: the guard, and the request once the guard has accepted its URL.  The
lookup of hop `n` is lookup `n + 1`, the one before the loop being lookup 0. -/
def hop : Body Hop HopEvent (Except Exn β) := fun _ hop =>
  match rules.validate (dns (hop.number + 1)) hop.url with
  | .error exn => ⟨[.guarded hop.number hop.url (.error exn)], .done (.error (rules.raised exn))⟩
  | .ok () =>
      let request := rules.request hop.url
      let answer := server hop.number request
      ⟨[.guarded hop.number hop.url (.ok ()), .got hop.number request answer],
        hopExit tables rules followRedirects hop answer⟩

def tooManyRedirects (url : String) : Exn :=
  .fetchError ("Too many redirects from " ++ url) none false

/-- `range(max_redirects + 1)`. -/
def hopBudget (maxRedirects : Int) : Nat := (maxRedirects + 1).toNat

def hopEvents (maxRedirects : Int) (url : String) : List HopEvent :=
  loopEvents (hop tables rules dns server followRedirects) (hopBudget maxRedirects) ⟨0, url⟩

def followHops (maxRedirects : Int) (url : String) : Except Exn β :=
  loop (hop tables rules dns server followRedirects) (fun _ => .error (tooManyRedirects url))
    (hopBudget maxRedirects) ⟨0, url⟩

end Loop

def Headers.toDict (items : Headers) : Headers :=
  items.foldl (fun headers item => Headers.set headers item.1 item.2) []

def proxyUrl (proxy : Option Proxy) : Option String := (proxy.map (·.url)).filter (· ≠ "")

def guardFetchError : UrlGuard.Exn → Exn
  | .urlGuardError message => .fetchError message none false
  | .exception message => .exception message

namespace HttpxFetcher

variable (tables : TextTables) (codecs : Codecs) (dns : Dns)
  (invalidLocation : HttpRequest → String → Option String) (server : Server) (elapsedMs : Int)
  (url : String) (proxy : Option Proxy) (headers : Option Headers) (followRedirects : Bool)
  (maxRedirects : Int)

/-- What `client.stream` answers.  httpx builds the next request of a redirect that it is told
not to follow, and raises its own error for a Location that it cannot parse. -/
def streamed : Server := fun hop request =>
  match server hop request with
  | .error message => .error message
  | .ok response =>
      if response.statusCode ∈ redirectCodes then
        match (response.headers.get "location").bind (invalidLocation request) with
        | some message => .error message
        | none => .ok response
      else .ok response

theorem streamed_valid (server : Server) : streamed (fun _ _ => none) server = server := by
  funext hop request
  unfold streamed
  cases server hop request with
  | error message => rfl
  | ok response => simp

/-- The body as it was sent when its encoding cannot be decoded. -/
def decodedBody (response : HttpResponse) : Bytes :=
  match decodeBody tables.toTextMethods codecs response.body
      (response.headers.get "content-encoding") with
  | .ok decoded => decoded.1
  | .error _ => response.body

def finish (url : String) (response : HttpResponse) : FetchResult :=
  let body := decodedBody tables codecs response
  let blockReason := detectBlockReason tables.toTextMethods response.statusCode response.headers
    (if response.statusCode = 200 then body else [])
  { url
    statusCode := response.statusCode
    headers := normalizeHeaders tables.toTextMethods response.headers body.length
    body
    encoding := "utf-8"
    elapsedMs
    proxyId := proxy.map (·.id)
    engine := .httpx
    blocked := blockReason.isSome
    blockReason := blockReason.map (·.value)
    retriesUsed := 0
    rawBody := response.body
    rawHeaders := response.headers }

def rules : HopRules FetchResult where
  validate := validateUrlAsync tables
  raised := guardFetchError
  request url := { url, headers := headers.getD [], proxy := proxyUrl proxy }
  location response := response.headers.get "location"
  finish := finish tables codecs elapsedMs proxy

def fetch : FetchRun :=
  match validateUrlAsync tables (dns 0) url with
  | .error exn => ⟨[], .error (guardFetchError exn)⟩
  | .ok () => {
      events := hopEvents tables (rules tables codecs elapsedMs proxy headers) dns
        (streamed invalidLocation server) followRedirects maxRedirects url
      outcome := followHops tables (rules tables codecs elapsedMs proxy headers) dns
        (streamed invalidLocation server) followRedirects maxRedirects url }

end HttpxFetcher

namespace CurlFetcher

variable (tables : TextTables) (dns : Dns) (server : Server) (elapsedMs : Int) (url : String)
  (proxy : Option Proxy) (headers : Option Headers) (followRedirects : Bool) (maxRedirects : Int)

def chrome120Ua : String :=
  "Mozilla/5.0 (Windows NT 10.0; Win64; x64) AppleWebKit/537.36 " ++
    "(KHTML, like Gecko) Chrome/120.0.0.0 Safari/537.36"

def requestHeaders : Headers :=
  match headers with
  | none | some [] => []
  | some headers => Headers.set headers "User-Agent" chrome120Ua

/-- What the thread hands back: the final URL, the status, the headers, the body
and whether the status is a success. -/
structure Fetched where
  url : String
  statusCode : Int
  headers : Headers
  body : Bytes
  isSuccess : Bool

def rules : HopRules Fetched where
  validate := validateUrlSync tables
  raised exn := .exception exn.message
  request url := { url, headers := requestHeaders headers, proxy := proxyUrl proxy }
  location response :=
    (response.headers.find? fun header => tables.lower header.1 = "location").map Prod.snd
  finish url response := {
    url
    statusCode := response.statusCode
    headers := Headers.toDict (response.headers.take 50)
    body := response.body
    isSuccess := decide (200 ≤ response.statusCode) && decide (response.statusCode < 300) }

/-- What leaves the thread other than a `FetchError` is wrapped in one. -/
def wrapped : Exn → Exn
  | .fetchError message statusCode blocked => .fetchError message statusCode blocked
  | exn => .fetchError ("curl_cffi fetch failed: " ++ exn.message) none false

def finish (fetched : Fetched) : FetchResult :=
  let blockReason := detectBlockReason tables.toTextMethods fetched.statusCode fetched.headers
    (if fetched.isSuccess then fetched.body else [])
  { url := fetched.url
    statusCode := fetched.statusCode
    headers := fetched.headers
    body := fetched.body
    encoding := "utf-8"
    elapsedMs
    proxyId := proxy.map (·.id)
    engine := .curlCffi
    blocked := blockReason.isSome
    blockReason := blockReason.map (·.value)
    retriesUsed := 0
    rawBody := fetched.body
    rawHeaders := fetched.headers }

def fetch : FetchRun :=
  match validateUrlSync tables (dns 0) url with
  | .error exn => ⟨[], .error (guardFetchError exn)⟩
  | .ok () => {
      events := hopEvents tables (rules tables proxy headers) dns server followRedirects
        maxRedirects url
      outcome :=
        match followHops tables (rules tables proxy headers) dns server followRedirects
            maxRedirects url with
        | .error exn => .error (wrapped exn)
        | .ok fetched => .ok (finish tables elapsedMs proxy fetched) }

end CurlFetcher

end CrawlerApi.Fetch
