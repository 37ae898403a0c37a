import CrawlerApi.Fetch.Normalization
import CrawlerApi.Fetch.RedirectGuard
import CrawlerApi.Fetch.Retry

/-!
# The response behind a result

A fetch returns what its engine makes of the answer to its last request.  The retry loop
hands that on with its own marks.
-/

namespace CrawlerApi.Fetch

open UrlGuard (validateUrlAsync validateUrlSync)

def FetchRun.Received (run : FetchRun) (response : HttpResponse) : Prop :=
  ∃ hop request, (gets run.events).getLast? = some ⟨hop, request, .ok response⟩

def Marks (fetched result : FetchResult) : Prop :=
  ∃ retriesUsed traceId tierUsed, result = { fetched with retriesUsed, traceId, tierUsed }

theorem FetchRun.Received.unique {run : FetchRun} {response other : HttpResponse}
    (h : run.Received response) (hother : run.Received other) : response = other := by
  obtain ⟨hop, request, hlast⟩ := h
  obtain ⟨_, _, hlater⟩ := hother
  cases hlast.symm.trans hlater
  rfl

theorem Marks.refl (result : FetchResult) : Marks result result := ⟨_, _, _, rfl⟩

theorem Marks.stamp {fetched result : FetchResult} (h : Marks fetched result) (request : Request)
    (state : State) : Marks fetched (stamp request state result) := by
  obtain ⟨retriesUsed, traceId, tierUsed, rfl⟩ := h
  exact ⟨_, _, _, rfl⟩

namespace HttpxFetcher

def ReturnedFor (tables : TextTables) (codecs : Codecs) (response : HttpResponse)
    (result : FetchResult) : Prop :=
  ∃ elapsedMs proxy url, Marks (finish tables codecs elapsedMs proxy url response) result

structure Fields (tables : TextTables) (codecs : Codecs) (response : HttpResponse)
    (result : FetchResult) : Prop where
  body : result.body = decodedBody tables codecs response
  rawBody : result.rawBody = response.body
  headers : result.headers = normalizeHeaders tables.toTextMethods response.headers
    (decodedBody tables codecs response).length
  rawHeaders : result.rawHeaders = response.headers
  statusCode : result.statusCode = response.statusCode

variable {tables : TextTables} {codecs : Codecs} {dns : Dns}
  {invalidLocation : HttpRequest → String → Option String} {server : Server} {elapsedMs : Int}
  {url : String} {proxy : Option Proxy} {headers : Option Headers} {followRedirects : Bool}
  {maxRedirects : Int} {result : FetchResult}

theorem ReturnedFor.fields {response : HttpResponse}
    (h : ReturnedFor tables codecs response result) : Fields tables codecs response result := by
  obtain ⟨elapsedMs, proxy, url, retriesUsed, traceId, tierUsed, rfl⟩ := h
  exact ⟨rfl, rfl, rfl, rfl, rfl⟩

theorem finish_of_ok
    (h : (fetch tables codecs dns invalidLocation server elapsedMs url proxy headers followRedirects
      maxRedirects).outcome = .ok result) :
    ∃ response last, (fetch tables codecs dns invalidLocation server elapsedMs url proxy headers
        followRedirects maxRedirects).Received response ∧
      result = finish tables codecs elapsedMs proxy last response := by
  unfold fetch at h ⊢
  cases hguard : validateUrlAsync tables (dns 0) url with
  | error exn =>
      rw [hguard] at h
      cases h
  | ok accepted =>
      rw [hguard] at h
      obtain ⟨number, last, response, hlast, hresult⟩ := last_of_ok nofun h
      exact ⟨response, last, ⟨number, _, hlast⟩, hresult⟩

end HttpxFetcher

namespace CurlFetcher

variable {tables : TextTables} {dns : Dns} {server : Server} {elapsedMs : Int} {url : String}
  {proxy : Option Proxy} {headers : Option Headers} {followRedirects : Bool} {maxRedirects : Int}
  {result : FetchResult}

theorem finish_of_ok
    (h : (fetch tables dns server elapsedMs url proxy headers followRedirects
      maxRedirects).outcome = .ok result) :
    ∃ response last, (fetch tables dns server elapsedMs url proxy headers followRedirects
        maxRedirects).Received response ∧
      result =
        finish tables elapsedMs proxy ((rules tables proxy headers).finish last response) := by
  unfold fetch at h ⊢
  cases hguard : validateUrlSync tables (dns 0) url with
  | error exn =>
      rw [hguard] at h
      cases h
  | ok accepted =>
      rw [hguard] at h
      dsimp only at h ⊢
      cases hloop : followHops tables (rules tables proxy headers) dns server followRedirects
          maxRedirects url with
      | error exn =>
          rw [hloop] at h
          cases h
      | ok fetched =>
          rw [hloop] at h
          obtain ⟨number, last, response, hlast, rfl⟩ := last_of_ok nofun hloop
          exact ⟨response, last, ⟨number, _, hlast⟩, (Except.ok.inj h).symm⟩

end CurlFetcher

end CrawlerApi.Fetch
