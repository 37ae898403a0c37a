import CrawlerApi.Fetch.FinalResponse
import CrawlerApi.Worker.Commands

/-!
# What a completed status publishes

The body of a response is decoded in the fetcher and once more in the task.  Both go on
with the bytes as they were sent when that fails.
-/

namespace CrawlerApi.Worker

open Keys Fetch Jobs Foundation
open HttpxFetcher (decodedBody ReturnedFor)

section Publication

variable (tables : TextTables) (codecs : Codecs) (response : HttpResponse)

def declaredCodings : List String :=
  listed tables.toTextMethods (response.headers.get "content-encoding")

/-- The retry loop returned with the response. -/
structure Serves (context : Context) (environment : Environment) : Prop where
  readsText : context.text = tables.toTextMethods
  decodes : context.codecs = codecs
  fetch : ∃ result, environment.fetch = .ok result ∧ ReturnedFor tables codecs response result

variable (context : Context) (environment : Environment) (task : FetchTask)
  (redis : Redis FetchResultSchema)

/-- What is published as completed is the complete decoding, and without one the job
fails. -/
structure PublishesDecoded : Prop where
  published : ∀ data ∈
      (finalWorld (fetchTask context environment task (World.start redis))).statusWrites,
    data.status = .completed → ∃ schema full, data.result = some schema ∧
      undoAll codecs response.body (declaredCodings tables response) = some full ∧
      schema.bodyB64 = base64 full ∧ schema.bodyIsCompressed = false
  failed : undoAll codecs response.body (declaredCodings tables response) = none →
    (∀ site, environment.deliveries site = .completes) → ∃ data,
      (finalWorld (fetchTask context environment task (World.start redis))).redis.jobStatus
        task.jobId = some data ∧ data.status = .failed

end Publication

section Decoding

variable {tables : TextTables} {codecs : Codecs} {response : HttpResponse} {context : Context}
  {environment : Environment} {task : FetchTask} {redis : Redis FetchResultSchema}
  {result : FetchResult}

theorem normalizeResult_body (hempty : EmptyStaysEmpty codecs)
    (htext : context.text = tables.toTextMethods) (hcodecs : context.codecs = codecs)
    (hresult : ReturnedFor tables codecs response result) :
    (normalizeResult context result).1.body = decodedBody tables codecs response := by
  have hfields := hresult.fields
  have hraw : (if result.rawBody ≠ [] then result.rawBody else result.body) = response.body := by
    rw [hfields.rawBody, hfields.body]
    split
    · rfl
    · rename_i hnil
      rw [decodedBody_nil hempty tables (not_not.mp hnil), not_not.mp hnil]
  have hencoding : Headers.get (if result.rawHeaders ≠ [] then result.rawHeaders
      else result.headers) "content-encoding" = response.headers.get "content-encoding" := by
    rw [hfields.rawHeaders, hfields.headers]
    split
    · rfl
    · rename_i hnil
      rw [not_not.mp hnil, get_contentEncoding_normalizeHeaders]
      rfl
  unfold normalizeResult
  dsimp only
  rw [hraw, hencoding, htext, hcodecs, hfields.body]
  unfold decodedBody
  cases decodeBody tables.toTextMethods codecs response.body
    (response.headers.get "content-encoding") <;> rfl

theorem publishedSchema_body (hempty : EmptyStaysEmpty codecs)
    (hserves : Serves tables codecs response context environment)
    (hfetch : environment.fetch = .ok result) :
    (publishedSchema context result).bodyB64 = base64 (decodedBody tables codecs response) := by
  obtain ⟨fetched, hfetched, hreturned⟩ := hserves.fetch
  cases hfetch.symm.trans hfetched
  exact congrArg base64
    (normalizeResult_body hempty hserves.readsText hserves.decodes hreturned)

theorem firstSuffices_iff : FirstSuffices codecs response.body (declaredCodings tables response) ↔
    undoAll codecs response.body (declaredCodings tables response) =
      some (decodedBody tables codecs response) := by
  unfold FirstSuffices declaredCodings
  rw [headD_listed, ← decodedBody_eq]
  constructor
  · rintro ⟨full, hfull, rfl⟩
    exact hfull
  · intro h
    exact ⟨_, h, rfl⟩

theorem publishesDecoded_of_first (hempty : EmptyStaysEmpty codecs)
    (hserves : Serves tables codecs response context environment)
    (hfirst : undoAll codecs response.body (declaredCodings tables response) =
      some (decodedBody tables codecs response)) :
    PublishesDecoded tables codecs response context environment task redis where
  published data hmem hcompleted := by
    obtain ⟨fetched, hfetch, hresult⟩ := completed_of_mem hmem hcompleted
    exact ⟨_, _, hresult, hfirst, publishedSchema_body hempty hserves hfetch, rfl⟩
  failed hnone := by
    rw [hfirst] at hnone
    cases hnone

def calmEnvironment (result : FetchResult) : Environment where
  deliveries _ := .completes
  now _ := 0
  month := 0
  policy := none
  lockedRow := none
  fetch := .ok result

theorem calmEnvironment_publishes (context : Context) (result : FetchResult) :
    Publishes context (calmEnvironment result) where
  runningGet := rfl
  runningSet := rfl
  policySelect := rfl
  fetch := ⟨result, rfl, fun _ => ⟨rfl, rfl, fun h => absurd h Bool.false_ne_true, rfl, rfl⟩⟩
  completedGet := rfl
  completedSet := trivial

theorem calmEnvironment_quiet (result : FetchResult) :
    ¬ ((calmEnvironment result).deliveries .completedSet ≠ .completes ∨
      AccountRaises (calmEnvironment result)) := by
  rintro (hset | haccount)
  · exact hset rfl
  · cases haccount with
    | learner hpolicy _ => exact hpolicy rfl
    | usage husage =>
        cases husage with
        | execute houtcome => cases houtcome
        | commit _ houtcome => cases houtcome

/-- The run without a fault publishes the body of the fetcher. -/
theorem decoded_of_publishes (hempty : EmptyStaysEmpty codecs)
    (hserves : Serves tables codecs response context (calmEnvironment result))
    (h : PublishesDecoded tables codecs response context (calmEnvironment result) task redis) :
    undoAll codecs response.body (declaredCodings tables response) =
      some (decodedBody tables codecs response) := by
  obtain ⟨data, hmem, fetched, hfetch, hcompleted, hresult⟩ := published_of_quiet
    (calmEnvironment_publishes context result) (calmEnvironment_quiet result) task redis
  obtain ⟨schema, full, hschema, hfull, hbody, -⟩ := h.published data hmem hcompleted
  cases hresult.symm.trans hschema
  rw [publishedSchema_body hempty hserves hfetch] at hbody
  rw [hfull, base64_injective hbody]

end Decoding

/-- A response is published decoded in every run exactly if undoing the first of its
codings is all there is to do. -/
theorem publishes_decoded_iff {codecs : Codecs} (hempty : EmptyStaysEmpty codecs)
    (tables : TextTables) (response : HttpResponse) :
    (∀ context environment task redis, Serves tables codecs response context environment →
      PublishesDecoded tables codecs response context environment task redis) ↔
    FirstSuffices codecs response.body (declaredCodings tables response) := by
  rw [firstSuffices_iff]
  constructor
  · intro h
    have hserves : Serves tables codecs response
        { text := tables.toTextMethods, codecs }
        (calmEnvironment (HttpxFetcher.finish tables codecs 0 none "" response)) :=
      ⟨rfl, rfl, _, rfl, 0, none, "", .refl _⟩
    exact decoded_of_publishes hempty hserves (h _ _ plainTask Redis.empty hserves)
  · intro h context environment task redis hserves
    exact publishesDecoded_of_first hempty hserves h

/-! ### Responses in formats that only mark their bytes -/

theorem emptyStaysEmpty_markCodecs : EmptyStaysEmpty markCodecs := by
  intro format payload h
  cases format <;> cases h

def markContext : Context where
  text := asciiText
  codecs := markCodecs

def encodedResponse (encoding : String) (body : Bytes) : HttpResponse where
  statusCode := 200
  headers := [("content-encoding", encoding)]
  body := body

def calmRun (response : HttpResponse) : Environment :=
  calmEnvironment (HttpxFetcher.finish asciiTables markCodecs 0 none "" response)

theorem calmRun_serves (response : HttpResponse) :
    Serves asciiTables markCodecs response markContext (calmRun response) :=
  ⟨rfl, rfl, _, rfl, 0, none, "", .refl _⟩

theorem gzip_published_decoded :
    PublishesDecoded asciiTables markCodecs (encodedResponse "gzip" [0x1f, 0x8b, 65]) markContext
      (calmRun (encodedResponse "gzip" [0x1f, 0x8b, 65])) plainTask Redis.empty := by
  refine (publishes_decoded_iff emptyStaysEmpty_markCodecs asciiTables
    (encodedResponse "gzip" [0x1f, 0x8b, 65])).mpr ⟨[65], ?_, ?_⟩ _ _ _ _ (calmRun_serves _)
  · decide +kernel
  · decide +kernel

/-- An unsupported coding, a body that is not in its coding and a list of two codings are
published all the same. -/
theorem published_undecoded :
    (¬ PublishesDecoded asciiTables markCodecs (encodedResponse "exi" [1, 2]) markContext
      (calmRun (encodedResponse "exi" [1, 2])) plainTask Redis.empty) ∧
    (¬ PublishesDecoded asciiTables markCodecs (encodedResponse "gzip" [60, 104]) markContext
      (calmRun (encodedResponse "gzip" [60, 104])) plainTask Redis.empty) ∧
    ¬ PublishesDecoded asciiTables markCodecs
      (encodedResponse "gzip, br" [0x0b, 0x1f, 0x8b, 65]) markContext
      (calmRun (encodedResponse "gzip, br" [0x0b, 0x1f, 0x8b, 65])) plainTask Redis.empty := by
  refine ⟨fun h => ?_, fun h => ?_, fun h => ?_⟩
  all_goals
    have hdecoded := decoded_of_publishes emptyStaysEmpty_markCodecs (calmRun_serves _) h
    revert hdecoded
    decide +kernel

end CrawlerApi.Worker
