import CrawlerApi.Warc.Framed
import CrawlerApi.Worker.Publication

/-!
# What a record says of its payload

The archive gets the bytes of the body, out of their transfer coding, and the headers as they
are for the API.  A reader of the record has only its headers to go by.
-/

namespace CrawlerApi.Worker

open Keys Fetch Foundation
open HttpxFetcher (decodedBody ReturnedFor)
open Warc (Libraries Storage ArchiveCall WarcRecord WarcIndex)

/-- Step 7 of the task: the call that archives a result. -/
def archiveCall (context : Context) (fetched : FetchResult) : ArchiveCall :=
  let result := (normalizeResult context fetched).1
  { fetchResult := result
    warcBody := some (if result.rawBody ≠ [] then result.rawBody else result.body) }

/-- `dict(response.headers)`: httpx gives the names in lower case. -/
def LowerNames (text : TextMethods) (headers : Headers) : Prop :=
  ∀ header ∈ headers, text.lower header.1 = header.1

/-- The content stream hands a payload out as it is where the headers declare no coding of it. -/
def StreamsUncoded (libraries : Libraries) : Prop :=
  ∀ headers payload, LowerNames libraries.text headers → headers.get "content-encoding" = none →
    headers.get "transfer-encoding" = none → libraries.contentStream headers payload = .ok payload

/-- The headers of the record describe its payload: its length, the coding it was sent in and
no transfer coding, which it has none of; the reader gets the body of the API from it. -/
structure Faithful (libraries : Libraries) (response : HttpResponse) (apiBody : Bytes)
    (record : WarcRecord) : Prop where
  payload : record.payload = response.body
  length : ∀ value, record.headers.get "content-length" = some value →
    value = toString record.payload.length
  encoding : record.headers.get "content-encoding" = response.headers.get "content-encoding"
  transfer : record.headers.get "transfer-encoding" = none
  readable : libraries.contentStream record.headers record.payload = .ok apiBody

/-- The response declares no coding, and its bytes are not taken for a coding either. -/
structure SentPlain (codecs : Codecs) (response : HttpResponse) : Prop where
  unencoded : response.headers.get "content-encoding" = none
  untransferred : response.headers.get "transfer-encoding" = none
  kept : (guess codecs response.body).getD response.body = response.body

section Fidelity

variable {text : TextMethods} {tables : TextTables} {codecs : Codecs} {response : HttpResponse}
  {context : Context} {result : FetchResult} {headers : Headers} {bodyLength : Nat}

theorem LowerNames.normalized (htext : ReadsAscii text) (h : LowerNames text headers) :
    LowerNames text (normalizeHeaders text headers bodyLength) := by
  intro header hheader
  rcases (mem_names_normalizeHeaders text headers bodyLength _).mp
      (List.mem_map_of_mem hheader) with
    hlength | ⟨-, sent, hsent, hname⟩
  · rw [hlength]
    exact (htext.lower "content-length" (by decide)).trans (by decide +kernel)
  · rw [← hname, h sent hsent, h sent hsent]

theorem LowerNames.get_transferEncoding (h : LowerNames text headers) :
    (normalizeHeaders text headers bodyLength).get "transfer-encoding" = none ↔
      headers.get "transfer-encoding" = none := by
  rw [get_normalizeHeaders_eq_none, Headers.get_eq_none_iff]
  constructor
  · rintro ⟨-, hencoding | hlower⟩ header hheader
    · exact absurd hencoding (by decide)
    · rw [← h header hheader]
      exact hlower header hheader
  · intro hnames
    refine ⟨by decide, .inr fun header hheader => ?_⟩
    rw [h header hheader]
    exact hnames header hheader

theorem decodedBody_undeclared (htext : ReadsAscii tables.toTextMethods)
    (h : response.headers.get "content-encoding" = none) :
    decodedBody tables codecs response = (guess codecs response.body).getD response.body := by
  rw [decodedBody_eq, h, firstEncoding_none htext]
  rfl

theorem archiveStep_call {environment : Environment}
    (h : ¬ (normalizeResult context result).1.blocked ∧ context.hasWarcStorage) :
    archiveStep context environment (normalizeResult context result).1 =
      onSession (archive context environment (archiveCall context result).fetchResult.url
        (archiveCall context result).body) := if_pos h

theorem archiveCall_body (hempty : EmptyStaysEmpty codecs)
    (hreads : context.text = tables.toTextMethods) (hdecodes : context.codecs = codecs)
    (hresult : ReturnedFor tables codecs response result) :
    (archiveCall context result).body = response.body := by
  have hbody := normalizeResult_body hempty hreads hdecodes hresult
  have hraw : (normalizeResult context result).1.rawBody = response.body := hresult.fields.rawBody
  show (if (normalizeResult context result).1.rawBody ≠ [] then _ else _) = _
  rw [hraw, hbody]
  split
  · rfl
  · rename_i hnil
    rw [decodedBody_nil hempty tables (not_not.mp hnil), not_not.mp hnil]

end Fidelity

/-- The response record of a result is faithful exactly if the response was sent without a
coding, of its content or of the transfer, and was not taken to have one. -/
theorem record_faithful_iff {tables : TextTables} {codecs : Codecs} {response : HttpResponse}
    {context : Context} {environment : Environment} {result : FetchResult} {libraries : Libraries}
    (htext : ReadsAscii tables.toTextMethods) (hempty : EmptyStaysEmpty codecs)
    (hnames : LowerNames tables.toTextMethods response.headers)
    (hserves : Serves tables codecs response context environment)
    (hfetch : environment.fetch = .ok result) (hreads : libraries.text = tables.toTextMethods)
    (hstreams : StreamsUncoded libraries) (storage : Storage) (now : Instant)
    (recordId : String) :
    Faithful libraries response (normalizeResult context result).1.body
        (storage.write libraries (archiveCall context result) none now recordId).1.record ↔
      SentPlain codecs response := by
  obtain ⟨returned, hreturned, hresult⟩ := hserves.fetch
  cases hfetch.symm.trans hreturned
  have hpayload := archiveCall_body hempty hserves.readsText hserves.decodes hresult
  have hbody := normalizeResult_body hempty hserves.readsText hserves.decodes hresult
  generalize hrecord :
    (storage.write libraries (archiveCall context result) none now recordId).1.record = record
  have hsent : record.payload = response.body := by
    rw [← hpayload, ← hrecord]
    rfl
  have hheaders : record.headers = normalizeHeaders tables.toTextMethods result.headers
      (normalizeResult context result).1.body.length := by
    rw [← hrecord, ← hserves.readsText]
    rfl
  have hfetched : LowerNames tables.toTextMethods result.headers := by
    rw [hresult.fields.headers]
    exact hnames.normalized htext
  have hlower : LowerNames libraries.text record.headers := by
    rw [hheaders, hreads]
    exact hfetched.normalized htext
  have hnone : record.headers.get "content-encoding" = none := by
    rw [hheaders, get_contentEncoding_normalizeHeaders]
  have htransfer : record.headers.get "transfer-encoding" = none ↔
      response.headers.get "transfer-encoding" = none := by
    rw [hheaders, hfetched.get_transferEncoding, hresult.fields.headers,
      hnames.get_transferEncoding]
  have hread (h : record.headers.get "transfer-encoding" = none) :
      libraries.contentStream record.headers record.payload = .ok response.body := by
    rw [hstreams record.headers record.payload hlower hnone h, hsent]
  constructor
  · intro h
    have hunencoded : response.headers.get "content-encoding" = none :=
      h.encoding.symm.trans hnone
    refine ⟨hunencoded, htransfer.mp h.transfer, ?_⟩
    rw [← decodedBody_undeclared htext hunencoded, ← hbody]
    exact Except.ok.inj (h.readable.symm.trans (hread h.transfer))
  · intro h
    have hsame : (normalizeResult context result).1.body = response.body := by
      rw [hbody, decodedBody_undeclared htext h.unencoded, h.kept]
    have huntransferred := htransfer.mpr h.untransferred
    refine ⟨hsent, fun value hvalue => ?_, hnone.trans h.unencoded.symm, huntransferred,
      (hread huntransferred).trans ?_⟩
    · rw [hheaders, get_contentLength_normalizeHeaders, hsame, ← hsent] at hvalue
      exact (Option.some.inj hvalue).symm
    · rw [hsame]

/-! ### Records of three responses -/

def emptyArchive : Storage where
  writer := .start Warc.uploading "crawl.warc.gz" 0
  objects _ := none
  rows := []

/-- `b"5\r\nhello\r\n0\r\n\r\n"` and what is in its one chunk. -/
def oneChunk : Bytes := asciiBytes "5\r\nhello\r\n0\r\n\r\n"

/-- On `oneChunk` the stream undoes the transfer coding that the headers declare. -/
def chunkReader : Libraries :=
  { Warc.framed Warc.digests with
    contentStream := fun headers payload =>
      if headers.get "transfer-encoding" = some "chunked" ∧ payload = oneChunk then
        .ok (asciiBytes "hello")
      else .ok payload }

theorem streamsUncoded_chunkReader : StreamsUncoded chunkReader := by
  intro headers payload _ _ htransfer
  simp [chunkReader, htransfer]

def recordOf (response : HttpResponse) : WarcRecord :=
  (emptyArchive.write chunkReader (archiveCall markContext
    (HttpxFetcher.finish asciiTables markCodecs 0 none "" response)) none 0 "<urn:uuid:1>").1.record

def apiBodyOf (response : HttpResponse) : Bytes :=
  (normalizeResult markContext
    (HttpxFetcher.finish asciiTables markCodecs 0 none "" response)).1.body

def plainResponse (body : Bytes) : HttpResponse where
  statusCode := 200
  headers := [("content-type", "text/html")]
  body := body

theorem plain_record_faithful :
    Faithful chunkReader (plainResponse [60, 112, 62]) (apiBodyOf (plainResponse [60, 112, 62]))
      (recordOf (plainResponse [60, 112, 62])) := by
  refine (record_faithful_iff readsAscii_asciiText emptyStaysEmpty_markCodecs ?_
    (calmRun_serves (plainResponse [60, 112, 62])) rfl rfl streamsUncoded_chunkReader emptyArchive
    0 "<urn:uuid:1>").mpr ⟨?_, ?_, ?_⟩
  · intro header hheader
    rw [List.mem_singleton.mp hheader]
    decide +kernel
  · decide
  · decide
  · decide +kernel

def chunkedResponse : HttpResponse where
  statusCode := 200
  headers := [("transfer-encoding", "chunked")]
  body := oneChunk

/-- A gzip body is archived without its coding, and with the length of what it decodes to;
the same where the coding is not declared but sniffed.  A chunked body is archived out of its
chunks as one that is in chunks. -/
theorem coded_records_unfaithful :
    ¬ Faithful chunkReader (encodedResponse "gzip" [0x1f, 0x8b, 65])
      (apiBodyOf (encodedResponse "gzip" [0x1f, 0x8b, 65]))
      (recordOf (encodedResponse "gzip" [0x1f, 0x8b, 65])) ∧
    ¬ Faithful chunkReader (plainResponse [0x1f, 0x8b, 65])
      (apiBodyOf (plainResponse [0x1f, 0x8b, 65])) (recordOf (plainResponse [0x1f, 0x8b, 65])) ∧
    ¬ Faithful chunkReader chunkedResponse (apiBodyOf chunkedResponse)
      (recordOf chunkedResponse) := by
  refine ⟨fun h => ?_, fun h => ?_, fun h => ?_⟩
  · have hencoding := h.encoding
    revert hencoding
    decide +kernel
  · have hread := h.readable
    revert hread
    decide +kernel
  · have hread := h.readable
    revert hread
    decide +kernel

end CrawlerApi.Worker
