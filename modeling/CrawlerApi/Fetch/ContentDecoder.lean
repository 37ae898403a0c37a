import CrawlerApi.Core.Text
import CrawlerApi.Fetch.Result
import CrawlerApi.Foundation.Pattern

/-!
# Content decoding

`decode_body` and the response normalization behind the API.  The decompressors
and the digest are given; a decompressor that fails says why.
-/

namespace CrawlerApi.Fetch

open Foundation (isSpaceByte lowerByte asciiBytes)

structure Codecs where
  brotli : Bytes → Except String Bytes
  gzip : Bytes → Except String Bytes
  zlib : Bytes → Except String Bytes
  rawDeflate : Bytes → Except String Bytes
  zstandard : Bytes → Except String Bytes
  sha256 : Bytes → String

inductive DecodingError where
  | unsupportedContentEncoding (message : String)
  | contentDecodingFailed (message : String)
deriving DecidableEq, Repr

def supported : List String := ["br", "gzip", "x-gzip", "deflate", "zstd", "identity", ""]

/-- The content encoding the first bytes suggest. -/
def sniff : Bytes → Option String
  | 0x1f :: 0x8b :: _ => some "gzip"
  | 0x28 :: 0xb5 :: 0x2f :: 0xfd :: _ => some "zstd"
  | cmf :: flg :: _ =>
      if cmf &&& 0x0f = 8 ∧ (cmf.toNat * 256 + flg.toNat) % 31 = 0 then some "deflate" else none
  | _ => none

def textPrefixes : List Bytes :=
  ["<!doctype", "<html", "<?xml", "\x7b", "["].map asciiBytes

def looksLikeText (body : Bytes) : Bool :=
  let head := ((body.take 512).dropWhile isSpaceByte).map lowerByte
  textPrefixes.any (·.isPrefixOf head) || !(body.take 512).contains 0

def firstEncoding (text : TextMethods) (encoding : Option String) : String :=
  let lowered := text.lower (text.strip (encoding.getD ""))
  text.strip (String.ofList (lowered.toList.takeWhile (· ≠ ',')))

/-- One declared or sniffed encoding; an encoding outside the table leaves the body. -/
def decodeAs (codecs : Codecs) (raw : Bytes) (encoding : String) :
    Except String (Bytes × Option String) :=
  if encoding = "br" then (codecs.brotli raw).map (·, some "br")
  else if encoding = "gzip" ∨ encoding = "x-gzip" then (codecs.gzip raw).map (·, some encoding)
  else if encoding = "deflate" then
    match codecs.zlib raw with
    | .ok body => .ok (body, some "deflate")
    | .error _ => (codecs.rawDeflate raw).map (·, some "deflate")
  else if encoding = "zstd" then (codecs.zstandard raw).map (·, some "zstd")
  else .ok (raw, none)

def decodeDeclared (codecs : Codecs) (raw : Bytes) (encoding : String) :
    Except DecodingError (Bytes × Option String) :=
  match decodeAs codecs raw encoding with
  | .ok decoded => .ok decoded
  | .error reason => .error (.contentDecodingFailed
      ("CONTENT_DECODING_FAILED: encoding=" ++ encoding ++ ": " ++ reason))

def decodeBody (text : TextMethods) (codecs : Codecs) (raw : Bytes) (encoding : Option String) :
    Except DecodingError (Bytes × Option String) :=
  let declared := firstEncoding text encoding
  if declared ∉ supported then
    .error (.unsupportedContentEncoding ("UNSUPPORTED_CONTENT_ENCODING: " ++ declared))
  else if declared = "" ∨ declared = "identity" then
    match sniff raw with
    | some sniffed => decodeDeclared codecs raw sniffed
    | none =>
        if looksLikeText raw then .ok (raw, none)
        else match codecs.brotli raw with
          | .ok body => .ok (body, some "br")
          | .error _ => .ok (raw, none)
  else decodeDeclared codecs raw declared

def Headers.get (headers : Headers) (name : String) : Option String :=
  (headers.find? fun header => header.1 = name).map Prod.snd

namespace Headers

variable {headers : Headers} {name other value : String}

theorem get_cons (header : String × String) (rest : Headers) :
    Headers.get (header :: rest) name =
      if header.1 = name then some header.2 else rest.get name := by
  unfold Headers.get
  rw [List.find?_cons]
  by_cases h : header.1 = name
  · simp [h]
  · simp [h]

theorem get_append (headers rest : Headers) :
    Headers.get (headers ++ rest) name = (headers.get name).or (Headers.get rest name) := by
  unfold Headers.get
  rw [List.find?_append]
  cases List.find? (fun header => decide (header.1 = name)) headers <;> rfl

theorem get_replace_self (h : (headers.any fun header => header.1 = name) = true) :
    Headers.get (headers.map fun header => if header.1 = name then (name, value) else header)
      name = some value := by
  induction headers with
  | nil => cases h
  | cons header rest ih =>
      rw [List.map_cons, get_cons]
      by_cases hname : header.1 = name
      · rw [if_pos hname, if_pos rfl]
      · rw [if_neg hname, if_neg hname]
        exact ih (by simpa [hname] using h)

theorem get_eq_none_iff : headers.get name = none ↔ ∀ header ∈ headers, header.1 ≠ name := by
  simp [Headers.get]

theorem mem_names_set : other ∈ (headers.set name value).map Prod.fst ↔
    other = name ∨ other ∈ headers.map Prod.fst := by
  unfold Headers.set
  split
  · rename_i hany
    obtain ⟨old, hold, hname⟩ := List.any_eq_true.mp hany
    have hnames : (headers.map fun header => if header.1 = name then (name, value) else header).map
        Prod.fst = headers.map Prod.fst := by
      rw [List.map_map]
      apply List.map_congr_left
      intro header _
      simp only [Function.comp_apply]
      split
      · rename_i hsame
        exact hsame.symm
      · rfl
    rw [hnames]
    refine ⟨.inr, ?_⟩
    rintro (rfl | hmem)
    · exact List.mem_map.mpr ⟨old, hold, of_decide_eq_true hname⟩
    · exact hmem
  · simp [or_comm]

theorem get_set_self : (headers.set name value).get name = some value := by
  unfold Headers.set
  split
  · rename_i hany
    exact get_replace_self hany
  · rename_i hany
    have hnone : headers.get name = none := by
      rw [get_eq_none_iff]
      intro header hmem hname
      exact hany (List.any_eq_true.mpr ⟨header, hmem, decide_eq_true hname⟩)
    rw [get_append, hnone, get_cons, if_pos rfl]
    rfl

end Headers

/-- The headers without the transport's encoding and length, and with the length
of the body they now go with.  Names that agree in lower case are merged. -/
def normalizeHeaders (text : TextMethods) (headers : Headers) (bodyLength : Nat) : Headers :=
  let kept := headers.filter fun header =>
    text.lower header.1 ≠ "content-encoding" ∧ text.lower header.1 ≠ "content-length"
  (kept.foldl (fun merged header => Headers.set merged (text.lower header.1) header.2) []).set
    "content-length" (toString bodyLength)

theorem mem_names_foldl (text : TextMethods) (kept start : Headers) {name : String} :
    name ∈ (kept.foldl (fun merged header => Headers.set merged (text.lower header.1) header.2)
        start).map Prod.fst ↔
      name ∈ start.map Prod.fst ∨ ∃ header ∈ kept, text.lower header.1 = name := by
  induction kept generalizing start with
  | nil => simp
  | cons header rest ih =>
      rw [List.foldl_cons, ih, Headers.mem_names_set]
      simp only [List.exists_mem_cons_iff, eq_comm (a := name)]
      tauto

theorem mem_names_normalizeHeaders (text : TextMethods) (headers : Headers) (bodyLength : Nat)
    (name : String) : name ∈ (normalizeHeaders text headers bodyLength).map Prod.fst ↔
      name = "content-length" ∨ name ≠ "content-encoding" ∧
        ∃ header ∈ headers, text.lower header.1 = name := by
  unfold normalizeHeaders
  rw [Headers.mem_names_set, mem_names_foldl]
  simp only [List.map_nil, List.not_mem_nil, false_or, List.mem_filter, decide_eq_true_eq]
  constructor
  · rintro (hlength | ⟨header, ⟨hmem, hencoding, -⟩, rfl⟩)
    · exact .inl hlength
    · exact .inr ⟨hencoding, header, hmem, rfl⟩
  · rintro (hlength | ⟨hencoding, header, hmem, rfl⟩)
    · exact .inl hlength
    · by_cases hlength : text.lower header.1 = "content-length"
      · exact .inl hlength
      · exact .inr ⟨header, ⟨hmem, hencoding, hlength⟩, rfl⟩

theorem get_normalizeHeaders_eq_none (text : TextMethods) (headers : Headers) (bodyLength : Nat)
    {name : String} : (normalizeHeaders text headers bodyLength).get name = none ↔
      name ≠ "content-length" ∧
        (name = "content-encoding" ∨ ∀ header ∈ headers, text.lower header.1 ≠ name) := by
  have hnames := not_congr (mem_names_normalizeHeaders text headers bodyLength name)
  rw [List.mem_map, not_or, not_and_or, not_not] at hnames
  simp only [not_exists, not_and] at hnames
  exact Headers.get_eq_none_iff.trans hnames

@[simp] theorem get_contentEncoding_normalizeHeaders (text : TextMethods) (headers : Headers)
    (bodyLength : Nat) :
    (normalizeHeaders text headers bodyLength).get "content-encoding" = none :=
  (get_normalizeHeaders_eq_none text headers bodyLength).mpr ⟨by decide, .inl rfl⟩

@[simp] theorem get_contentLength_normalizeHeaders (text : TextMethods) (headers : Headers)
    (bodyLength : Nat) :
    (normalizeHeaders text headers bodyLength).get "content-length" = some (toString bodyLength) :=
  Headers.get_set_self

structure Integrity where
  bodyBytes : Nat
  contentSha256 : String
  originalContentEncoding : Option String := none
deriving DecidableEq, Repr

def integrity (codecs : Codecs) (body : Bytes) : Integrity where
  bodyBytes := body.length
  contentSha256 := codecs.sha256 body

end CrawlerApi.Fetch
