import CrawlerApi.Fetch.CodingChains
import CrawlerApi.Fetch.Redirects

/-!
# What decoding a response comes to

The codings a header lists, undone from the last to the first, and what the first of them
undoes alone.  A body that cannot be decoded is passed on as it was sent.
-/

namespace CrawlerApi.Fetch

open Foundation

def listed (text : TextMethods) (encoding : Option String) : List String :=
  ((text.lower (text.strip (encoding.getD ""))).toList.splitOn ',').map
    fun part => text.strip (String.ofList part)

def isPlain (coding : String) : Bool := coding = "" || coding = "identity"

section Undo

variable (codecs : Codecs) (raw : Bytes)

def undo (raw : Bytes) (coding : String) : Option Bytes :=
  if coding ∈ supported then (decodeAs codecs raw coding).toOption.map Prod.fst else none

def guess : Option Bytes :=
  match sniff raw with
  | some coding => undo codecs raw coding
  | none =>
      if looksLikeText raw then some raw else some ((codecs.brotli raw).toOption.getD raw)

def undoFirst (coding : String) : Option Bytes :=
  if isPlain coding then guess codecs raw else undo codecs raw coding

def undoListed (codings : List String) : Option Bytes := codings.reverse.foldlM (undo codecs) raw

def undoAll (codings : List String) : Option Bytes :=
  if codings.all isPlain then guess codecs raw else undoListed codecs raw codings

/-- All codings of the list can be undone, and the first alone comes to the same. -/
def FirstSuffices (codings : List String) : Prop :=
  ∃ full, undoAll codecs raw codings = some full ∧
    (undoFirst codecs raw (codings.headD "")).getD raw = full

end Undo

/-- No decompressor makes something of nothing. -/
def EmptyStaysEmpty (codecs : Codecs) : Prop :=
  ∀ format payload, codecs.decompress format [] = .ok payload → payload = []

section Normalization

variable {text : TextMethods} {codecs : Codecs} {raw : Bytes} {encoding : Option String}
  {coding : String}

theorem toOption_decodeDeclared (codecs : Codecs) (raw : Bytes) (coding : String) :
    (decodeDeclared codecs raw coding).toOption = (decodeAs codecs raw coding).toOption := by
  unfold decodeDeclared
  cases decodeAs codecs raw coding <;> rfl

theorem isPlain_iff : isPlain coding = true ↔ coding = "" ∨ coding = "identity" := by
  unfold isPlain
  rw [Bool.or_eq_true, decide_eq_true_iff, decide_eq_true_iff]

theorem toOption_decodeBody (text : TextMethods) (codecs : Codecs) (raw : Bytes)
    (encoding : Option String) :
    (decodeBody text codecs raw encoding).toOption.map Prod.fst =
      undoFirst codecs raw (firstEncoding text encoding) := by
  unfold decodeBody
  dsimp only
  generalize firstEncoding text encoding = declared
  by_cases hsupported : declared ∈ supported
  · rw [if_neg (not_not.mpr hsupported)]
    by_cases hplain : declared = "" ∨ declared = "identity"
    · have hguess : undoFirst codecs raw declared = guess codecs raw :=
        if_pos (isPlain_iff.mpr hplain)
      rw [if_pos hplain, hguess, guess]
      cases hsniff : sniff raw with
      | some sniffed =>
          obtain ⟨coding, -, rfl⟩ := sniff_name hsniff
          have hname : coding.name ∈ supported := by cases coding <;> decide
          dsimp only
          rw [undo, if_pos hname, toOption_decodeDeclared]
      | none =>
          dsimp only
          split
          · rfl
          · cases codecs.brotli raw <;> rfl
    · rw [if_neg hplain, undoFirst, if_neg (mt isPlain_iff.mp hplain), undo, if_pos hsupported,
        toOption_decodeDeclared]
  · have hnone : ¬ isPlain declared = true := by
      rw [isPlain_iff]
      rintro (rfl | rfl) <;> exact hsupported (by decide)
    rw [if_pos hsupported, undoFirst, if_neg hnone, undo, if_neg hsupported]
    rfl

theorem decodedBody_eq (tables : TextTables) (codecs : Codecs) (response : HttpResponse) :
    HttpxFetcher.decodedBody tables codecs response =
      (undoFirst codecs response.body
        (firstEncoding tables.toTextMethods (response.headers.get "content-encoding"))).getD
        response.body := by
  unfold HttpxFetcher.decodedBody
  rw [← toOption_decodeBody]
  cases decodeBody tables.toTextMethods codecs response.body
    (response.headers.get "content-encoding") <;> rfl

theorem head_splitOn (l : List Char) :
    (l.splitOn ',').head? = some (l.takeWhile (· ≠ ',')) := by
  induction l with
  | nil => rfl
  | cons c rest ih =>
      unfold List.splitOn at ih ⊢
      rw [List.splitOnP_cons_eq_if_modifyHead]
      by_cases hcomma : c = ','
      · rw [if_pos (by simpa using hcomma), List.takeWhile_cons_of_neg (by simpa using hcomma)]
        rfl
      · rw [if_neg (by simpa using hcomma), List.takeWhile_cons_of_pos (by simpa using hcomma),
          List.head?_modifyHead, ih]
        rfl

theorem head_listed (text : TextMethods) (encoding : Option String) :
    (listed text encoding).head? = some (firstEncoding text encoding) := by
  unfold listed firstEncoding
  rw [List.head?_map, head_splitOn]
  rfl

theorem headD_listed (text : TextMethods) (encoding : Option String) :
    (listed text encoding).headD "" = firstEncoding text encoding := by
  rw [List.headD_eq_head?_getD, head_listed]
  rfl

theorem listed_none (htext : ReadsAscii text) : listed text none = [""] := by
  have hstrip : text.strip "" = "" := (htext.strip "" rfl).trans rfl
  have hlower : text.lower "" = "" := (htext.lower "" rfl).trans (lower_asciiText [])
  unfold listed
  rw [Option.getD_none, hstrip, hlower]
  show [text.strip ""] = [""]
  rw [hstrip]

theorem firstEncoding_none (htext : ReadsAscii text) : firstEncoding text none = "" := by
  rw [← headD_listed, listed_none htext]
  rfl

theorem decodeAs_nil (hempty : EmptyStaysEmpty codecs) {payload : Bytes} {detected : Option String}
    (h : decodeAs codecs [] coding = .ok (payload, detected)) : payload = [] := by
  unfold decodeAs at h
  split at h
  · exact hempty .brotli _ (map_pair_ok.mp ⟨_, h⟩)
  · split at h
    · exact hempty .gzip _ (map_pair_ok.mp ⟨_, h⟩)
    · split at h
      · split at h
        · rename_i hzlib
          cases h
          exact hempty .zlib _ hzlib
        · exact hempty .rawDeflate _ (map_pair_ok.mp ⟨_, h⟩)
      · split at h
        · exact hempty .zstandard _ (map_pair_ok.mp ⟨_, h⟩)
        · cases h
          rfl

theorem undoFirst_nil (hempty : EmptyStaysEmpty codecs) {payload : Bytes}
    (h : undoFirst codecs [] coding = some payload) : payload = [] := by
  unfold undoFirst at h
  split at h
  · exact (Option.some.inj h).symm
  · unfold undo at h
    split at h
    · obtain ⟨decoded, hdecoded, rfl⟩ := Option.map_eq_some_iff.mp h
      cases hanswer : decodeAs codecs [] coding with
      | ok answer =>
          rw [hanswer] at hdecoded
          cases hdecoded
          exact decodeAs_nil hempty hanswer
      | error reason =>
          rw [hanswer] at hdecoded
          cases hdecoded
    · cases h

theorem decodedBody_nil (hempty : EmptyStaysEmpty codecs) (tables : TextTables)
    {response : HttpResponse} (h : response.body = []) :
    HttpxFetcher.decodedBody tables codecs response = [] := by
  rw [decodedBody_eq, h]
  cases hfirst : undoFirst codecs [] (firstEncoding tables.toTextMethods
    (response.headers.get "content-encoding")) with
  | none => rfl
  | some payload => exact undoFirst_nil hempty hfirst

end Normalization

theorem readsAscii_asciiText : ReadsAscii asciiText := ⟨fun _ _ => rfl, fun _ _ => rfl⟩

end CrawlerApi.Fetch
