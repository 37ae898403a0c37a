import CrawlerApi.Fetch.Normalization

/-!
# Bodies without a content coding

Without a declared coding the decoder goes by the first bytes.  Once they suggest a coding
there is no way back: the body is decoded, or the decoding fails.
-/

namespace CrawlerApi.Fetch

open Foundation

/-- No coding, the empty one or `identity`. -/
def Undeclared (encoding : Option String) : Prop :=
  encoding = none ∨ encoding = some "" ∨ encoding = some "identity"

/-- The bytes are a complete stream of a format that is looked for. -/
def CompleteStream (compressed : Compression) (raw : Bytes) : Prop :=
  ∃ format ∈ [Format.gzip, .zstandard, .zlib, .brotli], ∃ payload, compressed format payload raw

section Decoding

variable {text : TextMethods} {codecs : Codecs} {raw : Bytes} {encoding : Option String}
  {coding : Coding}

theorem firstEncoding_word {word : String} (htext : ReadsAscii text)
    (hchars : word.toList.all isListChar = true) (hstrip : asciiText.strip word = word)
    (hlower : asciiText.lower word = word)
    (hcomma : word.toList.takeWhile (· ≠ ',') = word.toList) :
    firstEncoding text (some word) = word := by
  unfold firstEncoding
  dsimp only
  rw [Option.getD_some, htext.strip _ hchars, hstrip, htext.lower _ hchars, hlower, hcomma,
    String.ofList_toList, htext.strip _ hchars, hstrip]

theorem firstEncoding_undeclared (htext : ReadsAscii text) (h : Undeclared encoding) :
    firstEncoding text encoding = "" ∨ firstEncoding text encoding = "identity" := by
  have hempty : firstEncoding text (some "") = "" :=
    firstEncoding_word htext (by decide) (by decide +kernel) (by decide +kernel) (by decide)
  rcases h with rfl | rfl | rfl
  · exact .inl hempty
  · exact .inl hempty
  · exact .inr (firstEncoding_word htext (by decide) (by decide +kernel) (by decide +kernel)
      (by decide))

theorem supported_undeclared (h : firstEncoding text encoding = "" ∨
    firstEncoding text encoding = "identity") : firstEncoding text encoding ∈ supported := by
  rcases h with hempty | hidentity
  · rw [hempty]
    decide
  · rw [hidentity]
    decide

theorem decodeBody_sniffed {name : String} (htext : ReadsAscii text) (h : Undeclared encoding)
    (hsniff : sniff raw = some name) :
    decodeBody text codecs raw encoding = decodeDeclared codecs raw name := by
  have hplain := firstEncoding_undeclared htext h
  unfold decodeBody
  dsimp only
  rw [if_neg (not_not.mpr (supported_undeclared hplain)), if_pos hplain, hsniff]

theorem decodeBody_unsniffed (htext : ReadsAscii text) (h : Undeclared encoding)
    (hsniff : sniff raw = none) (hbrotli : ∀ payload, codecs.brotli raw ≠ .ok payload) :
    decodeBody text codecs raw encoding = .ok (raw, none) := by
  have hplain := firstEncoding_undeclared htext h
  unfold decodeBody
  dsimp only
  rw [if_neg (not_not.mpr (supported_undeclared hplain)), if_pos hplain, hsniff]
  dsimp only
  split
  · rfl
  · cases hdecompressed : codecs.brotli raw with
    | error reason => rfl
    | ok payload => exact absurd hdecompressed (hbrotli payload)

theorem map_pair_ne {result : Except String Bytes} {name : String} :
    result.map (·, some name) ≠ .ok (raw, none) := by
  cases result with
  | ok body => exact fun h => by cases h
  | error reason => exact fun h => by cases h

theorem decodeAs_ne (hcoding : coding ≠ .identity) :
    decodeAs codecs raw coding.name ≠ .ok (raw, none) := by
  cases coding with
  | identity => exact absurd rfl hcoding
  | br => exact map_pair_ne
  | gzip => exact map_pair_ne
  | xGzip => exact map_pair_ne
  | zstd => exact map_pair_ne
  | deflate =>
      intro h
      unfold decodeAs Coding.name at h
      rw [if_neg (by decide), if_neg (by decide), if_pos rfl] at h
      split at h
      · cases h
      · exact map_pair_ne h

theorem decodeDeclared_ne (hcoding : coding ≠ .identity) :
    decodeDeclared codecs raw coding.name ≠ .ok (raw, none) := by
  intro h
  unfold decodeDeclared at h
  split at h
  · rename_i decoded hdecoded
    cases h
    exact decodeAs_ne hcoding hdecoded
  · cases h

end Decoding

/-- A body in none of the formats is left alone exactly if its first bytes suggest none. -/
theorem plain_body_left_alone_iff {text : TextMethods} {codecs : Codecs}
    {compressed : Compression} {raw : Bytes} {encoding : Option String}
    (htext : ReadsAscii text)
    (hbrotli : ∀ payload, codecs.brotli raw = .ok payload → compressed .brotli payload raw)
    (hencoding : Undeclared encoding) (hraw : ¬ CompleteStream compressed raw) :
    decodeBody text codecs raw encoding = .ok (raw, none) ↔ sniff raw = none := by
  cases hsniff : sniff raw with
  | some name =>
      obtain ⟨coding, hcoding, rfl⟩ := sniff_name hsniff
      rw [decodeBody_sniffed htext hencoding hsniff]
      exact iff_of_false (decodeDeclared_ne hcoding) (Option.some_ne_none _)
  | none =>
      refine iff_of_true (decodeBody_unsniffed htext hencoding hsniff ?_) rfl
      intro payload hdecompressed
      exact hraw ⟨.brotli, by decide, payload, hbrotli payload hdecompressed⟩

/-! A formula is taken for a zlib stream. -/

def formula : Bytes := asciiBytes "x^2 + y^2 = 1"

def formulaCodecs : Codecs where
  brotli _ :=
    .error "brotli: decoder process called with data when 'can_accept_more_data()' is False"
  gzip _ := .error "Not a gzipped file (b'x^')"
  zlib _ := .error "Error -3 while decompressing data: invalid distance too far back"
  rawDeflate _ := .error "Error -3 while decompressing data: invalid stored block lengths"
  zstandard _ := .error "error determining content size from frame header"
  sha256 _ := ""

def formulaStreams : Compression := fun format payload raw =>
  formulaCodecs.decompress format raw = .ok payload

theorem not_completeStream_formulaStreams (raw : Bytes) : ¬ CompleteStream formulaStreams raw := by
  rintro ⟨format, -, payload, h⟩
  cases format <;> cases h

theorem sentence_left_alone :
    decodeBody asciiText formulaCodecs (asciiBytes "a plain sentence") (some "identity") =
      .ok (asciiBytes "a plain sentence", none) :=
  (plain_body_left_alone_iff readsAscii_asciiText (fun _ h => h) (.inr (.inr rfl))
    (not_completeStream_formulaStreams _)).mpr (by decide +kernel)

theorem formula_rejected :
    ¬ ∀ text codecs compressed raw encoding, ReadsAscii text →
      (∀ payload, codecs.brotli raw = .ok payload → compressed .brotli payload raw) →
      Undeclared encoding → ¬ CompleteStream compressed raw →
        decodeBody text codecs raw encoding = .ok (raw, none) := by
  intro hleft
  have hformula := hleft asciiText formulaCodecs formulaStreams formula none readsAscii_asciiText
    (fun _ h => h) (.inl rfl) (not_completeStream_formulaStreams _)
  exact absurd hformula (by decide +kernel)

end CrawlerApi.Fetch
