import CrawlerApi.Fetch.ContentDecoder
import CrawlerApi.Foundation.Trim

/-!
# Chains of content codings

A body is coded by the listed codings one after the other.  The decoder reads the first
of the list and undoes it alone, so it undoes a chain exactly where the first coding alone
accounts for the bytes.
-/

namespace CrawlerApi.Fetch

open Foundation

inductive Coding where
  | br | gzip | xGzip | deflate | zstd | identity
deriving DecidableEq, Repr

def Coding.name : Coding → String
  | .br => "br"
  | .gzip => "gzip"
  | .xGzip => "x-gzip"
  | .deflate => "deflate"
  | .zstd => "zstd"
  | .identity => "identity"

inductive Format where
  | brotli | gzip | zlib | rawDeflate | zstandard
deriving DecidableEq, Repr

def Coding.format : Coding → Option Format
  | .br => some .brotli
  | .gzip | .xGzip => some .gzip
  | .deflate => some .zlib
  | .zstd => some .zstandard
  | .identity => none

def Codecs.decompress (codecs : Codecs) : Format → Bytes → Except String Bytes
  | .brotli => codecs.brotli
  | .gzip => codecs.gzip
  | .zlib => codecs.zlib
  | .rawDeflate => codecs.rawDeflate
  | .zstandard => codecs.zstandard

/-- `compressed format payload raw`: the compressor makes `raw` of the payload. -/
abbrev Compression := Format → Bytes → Bytes → Prop

/-- Each decompressor inverts its compressor and rejects anything else. -/
def Inverts (codecs : Codecs) (compressed : Compression) : Prop :=
  ∀ format payload raw,
    codecs.decompress format raw = .ok payload ↔ compressed format payload raw

def Coded (compressed : Compression) (coding : Coding) (payload raw : Bytes) : Prop :=
  match coding.format with
  | none => raw = payload
  | some format => compressed format payload raw

/-- The codings of a list, applied in its order. -/
def CodedBy (compressed : Compression) : List Coding → Bytes → Bytes → Prop
  | [], payload, raw => raw = payload
  | coding :: rest, payload, raw =>
      ∃ middle, Coded compressed coding payload middle ∧ CodedBy compressed rest middle raw

/-! ### The header -/

def isListBlank (c : Char) : Bool := c = ' ' || c = '\t'

def Writes (part : List Char) (coding : Coding) : Prop :=
  ∃ before name after, part = before ++ name ++ after ∧
    (∀ c ∈ before, isListBlank c = true) ∧ (∀ c ∈ after, isListBlank c = true) ∧
      name.map Char.toLower = coding.name.toList

/-- The header lists the codings, a comma between each two. -/
def Lists (header : String) (codings : List Coding) : Prop :=
  ∃ parts, header.toList = List.intercalate [','] parts ∧ List.Forall₂ Writes parts codings

def isListChar (c : Char) : Bool := c = '\t' || decide (32 ≤ c.toNat ∧ c.toNat < 127)

/-- The text methods do on plain text what they do on ASCII. -/
structure ReadsAscii (text : TextMethods) : Prop where
  lower : ∀ s : String, s.toList.all isListChar = true → text.lower s = asciiText.lower s
  strip : ∀ s : String, s.toList.all isListChar = true → text.strip s = asciiText.strip s

section Header

variable {text : TextMethods} {header : String} {part name rest : List Char} {coding : Coding}
  {codings : List Coding} {c : Char}

theorem strip_asciiText (chars : List Char) :
    asciiText.strip (String.ofList chars) = String.ofList (trim Char.isWhitespace chars) := by
  show String.ofList (trim Char.isWhitespace (String.ofList chars).toList) = _
  rw [String.toList_ofList]

theorem isWhitespace_iff : c.isWhitespace = true ↔
    c.toNat = 32 ∨ c.toNat = 9 ∨ c.toNat = 13 ∨ c.toNat = 10 := by
  simp [Char.isWhitespace, ← Char.toNat_inj, or_assoc]

theorem isWhitespace_toLower (c : Char) : c.toLower.isWhitespace = c.isWhitespace := by
  have hlower := toNat_toLower c
  rw [Bool.eq_iff_iff, isWhitespace_iff, isWhitespace_iff, hlower]
  split <;> omega

theorem toLower_eq_comma : c.toLower = ',' ↔ c = ',' := by
  have hlower := toNat_toLower c
  rw [← Char.toNat_inj, ← Char.toNat_inj, hlower]
  show _ = 44 ↔ _ = 44
  split <;> omega

theorem isListChar_iff : isListChar c = true ↔ c.toNat = 9 ∨ 32 ≤ c.toNat ∧ c.toNat < 127 := by
  simp [isListChar, ← Char.toNat_inj]

theorem isListChar_toLower (c : Char) : isListChar c.toLower = isListChar c := by
  have hlower := toNat_toLower c
  rw [Bool.eq_iff_iff, isListChar_iff, isListChar_iff, hlower]
  split <;> omega

def isNameChar (c : Char) : Bool := c = '-' || decide (97 ≤ c.toNat ∧ c.toNat ≤ 122)

theorem name_chars (coding : Coding) : coding.name.toList.all isNameChar = true := by
  cases coding <;> decide +kernel

theorem isNameChar_of_toLower (h : isNameChar c.toLower = true) :
    isListChar c = true ∧ c.isWhitespace = false ∧ c ≠ ',' := by
  have hlower := toNat_toLower c
  have hname : c.toLower.toNat = 45 ∨ 97 ≤ c.toLower.toNat ∧ c.toLower.toNat ≤ 122 := by
    simpa [isNameChar, ← Char.toNat_inj] using h
  rw [hlower] at hname
  refine ⟨isListChar_iff.mpr ?_, ?_, fun hcomma => ?_⟩
  · split at hname <;> omega
  · rw [← Bool.not_eq_true, isWhitespace_iff]
    split at hname <;> omega
  · rw [hcomma] at hname
    exact absurd hname (by decide)

theorem isListBlank_facts (h : isListBlank c = true) :
    isListChar c = true ∧ c.isWhitespace = true ∧ c ≠ ',' := by
  have hblank : c = ' ' ∨ c = '\t' := by simpa [isListBlank] using h
  rcases hblank with rfl | rfl <;> decide

theorem Writes.facts (h : Writes part coding) :
    (trim Char.isWhitespace part).map Char.toLower = coding.name.toList ∧
      part.all isListChar = true ∧ ',' ∉ part := by
  obtain ⟨before, name, after, rfl, hbefore, hafter, hname⟩ := h
  have hchars : ∀ c ∈ name, isListChar c = true ∧ c.isWhitespace = false ∧ c ≠ ',' := by
    intro c hc
    apply isNameChar_of_toLower
    have hmem : c.toLower ∈ coding.name.toList := hname ▸ List.mem_map_of_mem hc
    exact List.all_eq_true.mp (name_chars coding) _ hmem
  refine ⟨?_, ?_, ?_⟩
  · rw [trim_append_right fun c hc => (isListBlank_facts (hafter c hc)).2.1,
      trim_append_left fun c hc => (isListBlank_facts (hbefore c hc)).2.1,
      trim_of_none fun c hc => (hchars c hc).2.1, hname]
  · rw [List.all_eq_true]
    intro c hc
    rcases List.mem_append.mp hc with hc | hc
    · rcases List.mem_append.mp hc with hc | hc
      · exact (isListBlank_facts (hbefore c hc)).1
      · exact (hchars c hc).1
    · exact (isListBlank_facts (hafter c hc)).1
  · intro hc
    rcases List.mem_append.mp hc with hc | hc
    · rcases List.mem_append.mp hc with hc | hc
      · exact (isListBlank_facts (hbefore _ hc)).2.2 rfl
      · exact (hchars _ hc).2.2 rfl
    · exact (isListBlank_facts (hafter _ hc)).2.2 rfl

theorem Lists.head (h : Lists header (coding :: codings)) :
    Writes (header.toList.takeWhile (· ≠ ',')) coding := by
  obtain ⟨parts, hheader, hparts⟩ := h
  cases hparts with
  | cons hfirst hrest =>
      rename_i part rest
      have hpart : ∀ c ∈ part, decide (c ≠ ',') = true := by
        intro c hc
        exact decide_eq_true fun hcomma => hfirst.facts.2.2 (hcomma ▸ hc)
      cases hrest with
      | nil =>
          rw [hheader, List.intercalate_singleton]
          rwa [List.takeWhile_eq_self_iff.mpr hpart]
      | cons hnext hrest =>
          rw [hheader, List.intercalate_cons_cons, List.append_assoc,
            List.takeWhile_append_of_pos hpart]
          simpa using hfirst

theorem Lists.isListChar (h : Lists header codings) : header.toList.all isListChar = true := by
  obtain ⟨parts, hheader, hparts⟩ := h
  rw [hheader]
  clear hheader
  induction hparts with
  | nil => rfl
  | cons hfirst hrest ih =>
      cases hrest with
      | nil =>
          rw [List.intercalate_singleton]
          exact hfirst.facts.2.1
      | cons hnext hrest =>
          rw [List.intercalate_cons_cons, List.all_append, List.all_append, ih,
            hfirst.facts.2.1]
          decide

theorem firstEncoding_lists (htext : ReadsAscii text) (h : Lists header (coding :: codings)) :
    firstEncoding text (some header) = coding.name := by
  have hheader := List.all_eq_true.mp h.isListChar
  have hcomma : (fun c => decide (c ≠ ',')) ∘ Char.toLower = fun c => decide (c ≠ ',') := by
    funext c
    exact decide_eq_decide.mpr (not_congr toLower_eq_comma)
  have hstrip : text.strip header =
      String.ofList (trim Char.isWhitespace header.toList) := by
    rw [htext.strip header h.isListChar, ← strip_asciiText, String.ofList_toList]
  have hlower : text.lower (text.strip header) =
      String.ofList ((trim Char.isWhitespace header.toList).map Char.toLower) := by
    rw [hstrip, htext.lower, lower_asciiText]
    rw [String.toList_ofList, List.all_eq_true]
    exact fun c hc => hheader c (mem_of_mem_trim hc)
  unfold firstEncoding
  dsimp only [Option.getD_some]
  rw [hlower, String.toList_ofList, List.takeWhile_map, hcomma, htext.strip, strip_asciiText,
    trim_map isWhitespace_toLower, trim_takeWhile_trim, h.head.facts.1, String.ofList_toList]
  · intro c hc
    refine decide_eq_true fun heq => ?_
    rw [heq] at hc
    exact absurd hc (by decide)
  · rw [String.toList_ofList, List.all_map, List.all_eq_true]
    intro c hc
    have hmem := mem_of_mem_trim ((List.takeWhile_prefix _).subset hc)
    exact (isListChar_toLower c).trans (hheader c hmem)

end Header

/-- The bytes are the payload in the coding alone, or, where it is `identity`, in what the
decoder takes them for. -/
inductive Alone (compressed : Compression) (payload raw : Bytes) : Coding → Prop where
  | named {coding : Coding} {format : Format} : coding.format = some format →
      compressed format payload raw → Alone compressed payload raw coding
  | rawDeflate : (∀ other, ¬ compressed .zlib other raw) → compressed .rawDeflate payload raw →
      Alone compressed payload raw .deflate
  | sniffed {coding : Coding} : sniff raw = some coding.name → coding ≠ .identity →
      Alone compressed payload raw coding → Alone compressed payload raw .identity
  | guessed : sniff raw = none → looksLikeText raw = false → compressed .brotli payload raw →
      Alone compressed payload raw .identity
  | plain : sniff raw = none →
      (looksLikeText raw = true ∨ ∀ other, ¬ compressed .brotli other raw) → raw = payload →
      Alone compressed payload raw .identity

section Decoding

variable {text : TextMethods} {codecs : Codecs} {compressed : Compression} {payload raw : Bytes}
  {coding : Coding} {name : String}

theorem sniff_name (h : sniff raw = some name) :
    ∃ coding : Coding, coding ≠ .identity ∧ name = coding.name := by
  unfold sniff at h
  split at h
  · exact ⟨.gzip, nofun, (Option.some.inj h).symm⟩
  · exact ⟨.zstd, nofun, (Option.some.inj h).symm⟩
  · split at h
    · exact ⟨.deflate, nofun, (Option.some.inj h).symm⟩
    · cases h
  · cases h

theorem name_injective {other : Coding} (h : coding.name = other.name) : coding = other := by
  cases coding <;> cases other <;> first | rfl | exact absurd h (by decide)

theorem alone_iff_of_format (coding : Coding) {format : Format}
    (hformat : coding.format = some format) (hcoding : coding ≠ .deflate) :
    Alone compressed payload raw coding ↔ compressed format payload raw := by
  constructor
  · intro h
    cases h with
    | named hother hcompressed =>
        rw [hformat] at hother
        cases hother
        exact hcompressed
    | rawDeflate => exact absurd rfl hcoding
    | sniffed => cases hformat
    | guessed => cases hformat
    | plain => cases hformat
  · exact .named hformat

theorem map_pair_ok {result : Except String Bytes} :
    (∃ detected, result.map (·, some name) = .ok (payload, detected)) ↔ result = .ok payload := by
  cases result with
  | ok body =>
      constructor
      · rintro ⟨detected, h⟩
        cases h
        rfl
      · intro h
        cases h
        exact ⟨_, rfl⟩
  | error message =>
      constructor
      · rintro ⟨detected, h⟩
        cases h
      · intro h
        cases h

theorem decodeAs_iff (hinverts : Inverts codecs compressed) (hcoding : coding ≠ .identity) :
    (∃ detected, decodeAs codecs raw coding.name = .ok (payload, detected)) ↔
      Alone compressed payload raw coding := by
  cases coding with
  | identity => exact absurd rfl hcoding
  | br =>
      rw [alone_iff_of_format .br rfl (by decide), ← hinverts]
      exact map_pair_ok
  | gzip =>
      rw [alone_iff_of_format .gzip rfl (by decide), ← hinverts, decodeAs, if_neg (by decide),
        if_pos (by decide)]
      exact map_pair_ok
  | xGzip =>
      rw [alone_iff_of_format .xGzip rfl (by decide), ← hinverts, decodeAs, if_neg (by decide),
        if_pos (by decide)]
      exact map_pair_ok
  | zstd =>
      rw [alone_iff_of_format .zstd rfl (by decide), ← hinverts, decodeAs, if_neg (by decide),
        if_neg (by decide), if_neg (by decide), if_pos (by decide)]
      exact map_pair_ok
  | deflate =>
      rw [decodeAs, if_neg (by decide), if_neg (by decide), if_pos (by decide)]
      cases hzlib : codecs.zlib raw with
      | ok body =>
          have hbody : compressed .zlib body raw := (hinverts .zlib body raw).mp hzlib
          constructor
          · rintro ⟨detected, hdetected⟩
            cases hdetected
            exact .named rfl hbody
          · intro h
            cases h with
            | rawDeflate hnone => exact absurd hbody (hnone body)
            | named hformat hcompressed =>
                cases hformat
                have hpayload := (hinverts .zlib payload raw).mpr hcompressed
                exact ⟨some "deflate", congrArg (fun result : Except String Bytes =>
                  result.map (·, some "deflate")) (hzlib.symm.trans hpayload)⟩
      | error message =>
          have hnone : ∀ other, ¬ compressed .zlib other raw := by
            intro other hother
            have hok := (hinverts .zlib other raw).mpr hother
            exact absurd (hzlib.symm.trans hok) (by simp)
          refine map_pair_ok.trans ((hinverts .rawDeflate payload raw).trans ?_)
          constructor
          · exact .rawDeflate hnone
          · intro h
            cases h with
            | rawDeflate _ hcompressed => exact hcompressed
            | named hformat hcompressed =>
                cases hformat
                exact absurd hcompressed (hnone payload)

theorem decodeDeclared_iff (hinverts : Inverts codecs compressed) (hcoding : coding ≠ .identity) :
    (∃ detected, decodeDeclared codecs raw coding.name = .ok (payload, detected)) ↔
      Alone compressed payload raw coding := by
  rw [← decodeAs_iff hinverts hcoding]
  unfold decodeDeclared
  cases decodeAs codecs raw coding.name <;> simp

private theorem alone_identity_iff_of_sniffed (hcoding : coding ≠ .identity)
    (hsniff : sniff raw = some coding.name) :
    Alone compressed payload raw .identity ↔ Alone compressed payload raw coding := by
  constructor
  · intro h
    cases h with
    | named hformat => cases hformat
    | sniffed hother _ halone =>
        rw [hsniff] at hother
        exact name_injective (Option.some.inj hother) ▸ halone
    | guessed hnone => exact absurd (hsniff.symm.trans hnone) (by simp)
    | plain hnone => exact absurd (hsniff.symm.trans hnone) (by simp)
  · exact .sniffed hsniff hcoding

private theorem alone_identity_iff_of_text (hsniff : sniff raw = none)
    (htext : looksLikeText raw = true ∨ ∀ other, ¬ compressed .brotli other raw) :
    Alone compressed payload raw .identity ↔ raw = payload := by
  constructor
  · intro h
    cases h with
    | named hformat => cases hformat
    | sniffed hother => exact absurd (hsniff.symm.trans hother) (by simp)
    | plain _ _ heq => exact heq
    | guessed _ hbinary hcompressed =>
        rcases htext with htrue | hnone
        · rw [hbinary] at htrue
          cases htrue
        · exact absurd hcompressed (hnone payload)
  · exact .plain hsniff htext

private theorem alone_identity_iff_of_brotli {body : Bytes} (hinverts : Inverts codecs compressed)
    (hsniff : sniff raw = none) (hbinary : looksLikeText raw = false)
    (hbrotli : codecs.brotli raw = .ok body) :
    Alone compressed payload raw .identity ↔ body = payload := by
  constructor
  · intro h
    cases h with
    | named hformat => cases hformat
    | sniffed hother => exact absurd (hsniff.symm.trans hother) (by simp)
    | guessed _ _ hcompressed =>
        have hpayload := (hinverts .brotli payload raw).mpr hcompressed
        exact Except.ok.inj (hbrotli.symm.trans hpayload)
    | plain _ htext _ =>
        rcases htext with htrue | hnone
        · rw [hbinary] at htrue
          cases htrue
        · exact absurd ((hinverts .brotli body raw).mp hbrotli) (hnone body)
  · rintro rfl
    exact .guessed hsniff hbinary ((hinverts .brotli _ raw).mp hbrotli)

theorem decodeBody_iff {encoding : Option String} (hinverts : Inverts codecs compressed)
    (hfirst : firstEncoding text encoding = coding.name) :
    (∃ detected, decodeBody text codecs raw encoding = .ok (payload, detected)) ↔
      Alone compressed payload raw coding := by
  have hsupported : ¬ coding.name ∉ supported := by cases coding <;> decide
  unfold decodeBody
  dsimp only
  rw [hfirst, if_neg hsupported]
  by_cases hcoding : coding = .identity
  · subst hcoding
    rw [if_pos (by decide)]
    cases hsniff : sniff raw with
    | some name =>
        obtain ⟨coding, hne, rfl⟩ := sniff_name hsniff
        rw [alone_identity_iff_of_sniffed hne hsniff]
        exact decodeDeclared_iff hinverts hne
    | none =>
        cases htext : looksLikeText raw with
        | true => simp [alone_identity_iff_of_text hsniff (.inl htext)]
        | false =>
            cases hbrotli : codecs.brotli raw with
            | ok body => simp [alone_identity_iff_of_brotli hinverts hsniff htext hbrotli]
            | error message =>
                have hnone : ∀ other, ¬ compressed .brotli other raw := by
                  intro other hother
                  have hok : codecs.brotli raw = .ok other :=
                    (hinverts .brotli other raw).mpr hother
                  rw [hbrotli] at hok
                  cases hok
                simp [alone_identity_iff_of_text hsniff (.inr hnone)]
  · have hplain : ¬ (coding.name = "" ∨ coding.name = "identity") := by
      cases coding with
      | identity => exact absurd rfl hcoding
      | _ => decide
    rw [if_neg hplain]
    exact decodeDeclared_iff hinverts hcoding

end Decoding

/-- A chain is undone exactly where its first coding alone accounts for the bytes. -/
theorem chain_undone_iff {text : TextMethods} {codecs : Codecs} {compressed : Compression}
    {header : String} {coding : Coding} {rest : List Coding} (htext : ReadsAscii text)
    (hinverts : Inverts codecs compressed) (hheader : Lists header (coding :: rest))
    (payload raw : Bytes) :
    (CodedBy compressed (coding :: rest) payload raw →
      ∃ detected, decodeBody text codecs raw (some header) = .ok (payload, detected)) ↔
    (CodedBy compressed (coding :: rest) payload raw → Alone compressed payload raw coding) :=
  imp_congr_right fun _ => decodeBody_iff hinverts (firstEncoding_lists htext hheader)

/-! ### Formats that only mark their bytes -/

def mark : Format → Bytes
  | .brotli => [0x0b]
  | .gzip => [0x1f, 0x8b]
  | .zlib => [0x78, 0x9c]
  | .rawDeflate => [0x4b]
  | .zstandard => [0x28, 0xb5, 0x2f, 0xfd]

def unmark (format : Format) (raw : Bytes) : Except String Bytes :=
  if (mark format).isPrefixOf raw then .ok (raw.drop (mark format).length)
  else .error "unknown format"

def markCodecs : Codecs where
  brotli := unmark .brotli
  gzip := unmark .gzip
  zlib := unmark .zlib
  rawDeflate := unmark .rawDeflate
  zstandard := unmark .zstandard
  sha256 _ := ""

def marked : Compression := fun format payload raw => raw = mark format ++ payload

theorem unmark_iff (format : Format) (payload raw : Bytes) :
    unmark format raw = .ok payload ↔ marked format payload raw := by
  unfold unmark marked
  constructor
  · intro h
    split at h
    · rename_i hmark
      obtain ⟨rest, rfl⟩ := List.isPrefixOf_iff_prefix.mp hmark
      rw [List.drop_left] at h
      rw [Except.ok.inj h]
    · cases h
  · rintro rfl
    rw [if_pos (List.isPrefixOf_iff_prefix.mpr (List.prefix_append _ _)), List.drop_left]

theorem inverts_marked : Inverts markCodecs marked := by
  intro format payload raw
  cases format <;> exact unmark_iff _ payload raw

theorem one_coding_undone :
    ∃ detected, decodeBody asciiText markCodecs [0x1f, 0x8b, 65] (some " GZip") =
      .ok ([65], detected) := by
  have hlists : Lists " GZip" [.gzip] := by
    refine ⟨[" GZip".toList], by decide, .cons ⟨[' '], "GZip".toList, [], by decide, ?_,
      List.forall_mem_nil _, by decide⟩ .nil⟩
    intro c hc
    rw [List.mem_singleton.mp hc]
    rfl
  have htext : ReadsAscii asciiText := ⟨fun _ _ => rfl, fun _ _ => rfl⟩
  exact (chain_undone_iff htext inverts_marked hlists [65] [0x1f, 0x8b, 65]).mpr
    (fun _ => .named rfl rfl) ⟨_, rfl, rfl⟩

/-- Of two codings the first is tried on the bytes of the second. -/
theorem two_codings_not_undone :
    CodedBy marked [.gzip, .br] [65] [0x0b, 0x1f, 0x8b, 65] ∧
      ¬ ∃ detected, decodeBody asciiText markCodecs [0x0b, 0x1f, 0x8b, 65] (some "gzip, br") =
        .ok ([65], detected) := by
  refine ⟨⟨_, rfl, _, rfl, rfl⟩, ?_⟩
  rintro ⟨detected, h⟩
  have hfails : decodeBody asciiText markCodecs [0x0b, 0x1f, 0x8b, 65] (some "gzip, br") =
      .error (.contentDecodingFailed
        "CONTENT_DECODING_FAILED: encoding=gzip: unknown format") := by
    decide +kernel
  rw [hfails] at h
  cases h

end CrawlerApi.Fetch
