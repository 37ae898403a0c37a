import CrawlerApi.Core.KeyTexts
import CrawlerApi.Fetch.Schema
import CrawlerApi.Keys.Service

/-!
# API keys in log lines

The bridge of the standard logging writes a record as one line of JSON.  Its message goes
through the redaction; the text of a logged exception does not.
-/

namespace CrawlerApi.Keys

open Foundation

/-- What `json.dumps` is given here: texts and lists of texts. -/
inductive LogValue where
  | text (text : List Char)
  | lines (lines : List (List Char))

/-- The names `bind_context` binds.  None of them is a name of the payload. -/
inductive ContextName where
  | traceId
  | jobId
  | applicationId

def ContextName.text : ContextName → List Char
  | .traceId => "trace_id".toList
  | .jobId => "job_id".toList
  | .applicationId => "application_id".toList

structure LogRecord where
  message : List Char
  name : String
  levelname : String
  excInfo : Option (List (List Char))

def hexDigit (value : Nat) : Char := "0123456789abcdef".toList.getD (value % 16) '0'

/-- `\uXXXX`. -/
def unicodeEscape (unit : Nat) : List Char :=
  ['\\', 'u', hexDigit (unit / 4096), hexDigit (unit / 256), hexDigit (unit / 16), hexDigit unit]

/-- One character as `json.dumps` writes it, in ASCII. -/
def jsonChar (c : Char) : List Char :=
  if c = '"' then ['\\', '"']
  else if c = '\\' then ['\\', '\\']
  else if c = '\n' then ['\\', 'n']
  else if c = '\r' then ['\\', 'r']
  else if c = '\t' then ['\\', 't']
  else if c.toNat = 8 then ['\\', 'b']
  else if c.toNat = 12 then ['\\', 'f']
  else if 32 ≤ c.toNat ∧ c.toNat ≤ 126 then [c]
  else if c.toNat < 65536 then unicodeEscape c.toNat
  else
    unicodeEscape (0xD800 + (c.toNat - 0x10000) / 1024) ++
      unicodeEscape (0xDC00 + (c.toNat - 0x10000) % 1024)

def jsonText (text : List Char) : List Char := '"' :: text.flatMap jsonChar ++ ['"']

def jsonJoin (parts : List (List Char)) : List Char := ", ".toList.intercalate parts

def LogValue.dumps : LogValue → List Char
  | .text value => jsonText value
  | .lines values => '[' :: jsonJoin (values.map jsonText) ++ [']']

def dumpsPayload (payload : List (List Char × LogValue)) : List Char :=
  '{' :: jsonJoin (payload.map fun field => jsonText field.1 ++ ": ".toList ++ field.2.dumps) ++
    ['}']

/-- The line written for a record at a time and with the bound context. -/
def emit (classes : CharClasses) (text : TextMethods) (timestamp : String)
    (context : List (ContextName × String)) (record : LogRecord) : List Char :=
  let payload := [
    ("event".toList, LogValue.text (classes.redact record.message)),
    ("logger".toList, .text record.name.toList),
    ("level".toList, .text (text.lower record.levelname).toList),
    ("timestamp".toList, .text timestamp.toList)]
  let payload := match record.excInfo with
    | none => payload
    | some lines => payload ++ [("exc_info".toList, .lines lines)]
  let payload := payload ++ context.map fun bound => (bound.1.text, .text bound.2.toList)
  dumpsPayload payload ++ ['\n']

def urlsafeChar (c : Char) : Char := if c = '+' then '-' else if c = '/' then '_' else c

/-- `secrets.token_urlsafe` of the drawn bytes. -/
def tokenUrlsafe (bytes : Fetch.Bytes) : String :=
  let urlsafe := (Fetch.base64Chars bytes).map urlsafeChar
  String.ofList (urlsafe.reverse.dropWhile (· = '=')).reverse

/-- The bytes and the salt one call of `generate_api_key` draws. -/
structure ByteDraw where
  short : Fetch.Bytes
  long : Fetch.Bytes
  salt : Nat
  short_length : short.length = 4
  long_length : long.length = 28

def ByteDraw.toDraw (draw : ByteDraw) : Draw :=
  ⟨tokenUrlsafe draw.short, tokenUrlsafe draw.long, draw.salt⟩

/-- The raw keys that `generate_api_key` can produce. -/
def Generated (hasher : Hasher) (rawKey : String) : Prop :=
  ∃ (mode : String) (draw : ByteDraw), (generateApiKey hasher mode draw.toDraw).1 = rawKey

/-- Where a key stands in a record: in the message, or in a line of the formatted exception. -/
inductive Mention where
  | message (before after : List Char) (excInfo : Option (List (List Char)))
  | exception (message : List Char) (linesBefore : List (List Char)) (before after : List Char)
      (linesAfter : List (List Char))

/-- The part of the record, and in the message the character before the key. -/
inductive Place where
  | message (before : Option Char)
  | exception

namespace Mention

def place : Mention → Place
  | message before _ _ => .message before.getLast?
  | exception .. => .exception

def record (name levelname : String) (key : List Char) : Mention → LogRecord
  | message before after excInfo => ⟨before ++ key ++ after, name, levelname, excInfo⟩
  | exception text linesBefore before after linesAfter =>
      ⟨text, name, levelname,
        some (linesBefore ++ (before ++ key ++ after) :: linesAfter)⟩

end Mention

/-- The message, where the key is at its beginning or behind a character that is not a word
character. -/
def Place.Masked (classes : CharClasses) (place : Place) : Prop :=
  ∃ before : Option Char, place = .message before ∧ before.any classes.isWord = false

section Tokens

theorem keyChar_urlsafe : ∀ value < 64,
    keyChar (urlsafeChar (Fetch.base64Digit value)) = true := by
  decide +kernel

theorem urlsafe_last : ∀ bits < 4,
    urlsafeChar (Fetch.base64Digit (bits * 16)) ∈ "AQgw".toList := by
  decide +kernel

theorem urlsafe_base64 (bytes : Fetch.Bytes) (h : bytes.length % 3 = 1) :
    ∃ front c, (Fetch.base64Chars bytes).map urlsafeChar = front ++ [c, '=', '='] ∧
      (∀ d ∈ front, keyChar d = true) ∧ c ∈ "AQgw".toList ∧
      front.length = bytes.length / 3 * 4 + 1 := by
  induction bytes using Fetch.base64Chars.induct with
  | case1 => cases h
  | case2 a =>
      have ha := a.toNat_lt
      refine ⟨[urlsafeChar (Fetch.base64Digit (a.toNat / 4))], _, rfl, ?_,
        urlsafe_last (a.toNat % 4) (Nat.mod_lt _ (by decide)), by simp⟩
      intro d hd
      rw [List.mem_singleton.mp hd]
      exact keyChar_urlsafe _ (by omega)
  | case3 a b => cases h
  | case4 a b c rest ih =>
      have ha := a.toNat_lt
      have hb := b.toNat_lt
      have hc := c.toNat_lt
      have hrest : rest.length % 3 = 1 := by
        simp only [List.length_cons] at h
        omega
      obtain ⟨front, last, hfront, hchars, hlast, hlength⟩ := ih hrest
      refine ⟨urlsafeChar (Fetch.base64Digit (a.toNat / 4)) ::
        urlsafeChar (Fetch.base64Digit (a.toNat % 4 * 16 + b.toNat / 16)) ::
        urlsafeChar (Fetch.base64Digit (b.toNat % 16 * 4 + c.toNat / 64)) ::
        urlsafeChar (Fetch.base64Digit (c.toNat % 64)) :: front, last, ?_, ?_, hlast, ?_⟩
      · unfold Fetch.base64Chars
        simp only [List.map_cons, hfront, List.cons_append]
      · simp only [List.forall_mem_cons]
        exact ⟨keyChar_urlsafe _ (by omega), keyChar_urlsafe _ (by omega),
          keyChar_urlsafe _ (by omega), keyChar_urlsafe _ (by omega), hchars⟩
      · simp only [List.length_cons, hlength]
        omega

theorem tokenUrlsafe_eq (bytes : Fetch.Bytes) (h : bytes.length % 3 = 1) :
    ∃ front c, (tokenUrlsafe bytes).toList = front ++ [c] ∧
      (∀ d ∈ front, keyChar d = true) ∧ c ∈ "AQgw".toList ∧
      front.length = bytes.length / 3 * 4 + 1 := by
  obtain ⟨front, c, hfront, hchars, hc, hlength⟩ := urlsafe_base64 bytes h
  refine ⟨front, c, ?_, hchars, hc, hlength⟩
  have hne : ¬ decide (c = '=') = true := by
    intro heq
    rw [of_decide_eq_true heq] at hc
    revert hc
    decide
  unfold tokenUrlsafe
  rw [String.toList_ofList, hfront]
  simp [List.dropWhile, hne]

/-- Every generated key has the shape of a key. -/
theorem keyShape_of_generated {hasher : Hasher} {rawKey : String}
    (h : Generated hasher rawKey) : KeyShape rawKey.toList := by
  obtain ⟨mode, draw, rfl⟩ := h
  obtain ⟨short, c, hshort, hshortChars, hc, hshortLength⟩ := tokenUrlsafe_eq draw.short
    (by rw [draw.short_length])
  obtain ⟨long, d, hlong, hlongChars, hd, hlongLength⟩ := tokenUrlsafe_eq draw.long
    (by rw [draw.long_length])
  rw [draw.short_length] at hshortLength
  rw [draw.long_length] at hlongLength
  have hlast : ∀ e ∈ "AQgw".toList, keyChar e = true := List.all_eq_true.mp (by decide)
  have htag : ∃ tag : Char, (if mode = "live" then "l" else "t" : String).toList = [tag] ∧
      (tag = 'l' ∨ tag = 't') ∧ keyChar tag = true := by
    split
    · exact ⟨'l', rfl, Or.inl rfl, rfl⟩
    · exact ⟨'t', rfl, Or.inr rfl, rfl⟩
  obtain ⟨tag, htagText, htag, htagChar⟩ := htag
  have hkey : (generateApiKey hasher mode draw.toDraw).1.toList =
      'c' :: 'r' :: 'w' :: tag :: (short ++ [c] ++ (long ++ [d])) := by
    unfold generateApiKey ByteDraw.toDraw
    simp only [String.toList_append, hshort, hlong, htagText]
    rfl
  rw [hkey]
  refine ⟨⟨tag, _, rfl, htag⟩, ?_, ?_,
    ⟨'c' :: 'r' :: 'w' :: tag :: (short ++ [c] ++ long), d, hd, by simp⟩⟩
  · intro e he
    simp only [List.mem_cons, List.mem_append, List.not_mem_nil, or_false] at he
    rcases he with rfl | rfl | rfl | rfl | (he | rfl) | he | rfl
    · rfl
    · rfl
    · rfl
    · exact htagChar
    · exact hshortChars e he
    · exact hlast e hc
    · exact hlongChars e he
    · exact hlast e hd
  · simp only [List.length_cons, List.length_append, List.length_nil, hshortLength, hlongLength]

end Tokens

section Lines

variable (classes : CharClasses) (text : TextMethods) (timestamp : String)
  (context : List (ContextName × String))

theorem jsonText_part {before after one other : List Char}
    (h : jsonText (before ++ one ++ after) = jsonText (before ++ other ++ after)) :
    one.flatMap jsonChar = other.flatMap jsonChar := by
  unfold jsonText at h
  simp only [List.flatMap_append] at h
  exact List.append_cancel_left (List.append_cancel_right
    (List.append_cancel_right (List.cons.inj h).2))

theorem join_append (before after : List (List Char)) :
    ∃ left right, ∀ part, jsonJoin (before ++ part :: after) = left ++ part ++ right := by
  induction before with
  | nil =>
      cases after with
      | nil => exact ⟨[], [], fun part => by simp [jsonJoin, List.intercalate]⟩
      | cons next after =>
          exact ⟨[], ", ".toList ++ jsonJoin (next :: after), fun part => by
            simp [jsonJoin, List.intercalate]⟩
  | cons first before ih =>
      obtain ⟨left, right, h⟩ := ih
      refine ⟨first ++ ", ".toList ++ left, right, fun part => ?_⟩
      have hjoin : jsonJoin (first :: (before ++ part :: after)) =
          first ++ ", ".toList ++ jsonJoin (before ++ part :: after) := by
        cases before <;> simp [jsonJoin, List.intercalate]
      rw [List.cons_append, hjoin, h]
      simp

def dumpsField (field : List Char × LogValue) : List Char :=
  jsonText field.1 ++ ": ".toList ++ field.2.dumps

theorem payload_append (before after : List (List Char × LogValue)) (name : List Char) :
    ∃ left right, ∀ value : LogValue,
      dumpsPayload (before ++ (name, value) :: after) = left ++ value.dumps ++ right := by
  obtain ⟨left, right, h⟩ := join_append (before.map dumpsField) (after.map dumpsField)
  refine ⟨'{' :: left ++ jsonText name ++ ": ".toList, right ++ ['}'], fun value => ?_⟩
  have hmap : (before ++ (name, value) :: after).map dumpsField =
      before.map dumpsField ++ dumpsField (name, value) :: after.map dumpsField := List.map_append
  show '{' :: jsonJoin ((before ++ (name, value) :: after).map dumpsField) ++ ['}'] = _
  rw [hmap, h]
  simp [dumpsField]

theorem emit_message (name levelname : String) : ∃ left right, ∀ message : List Char,
    emit classes text timestamp context ⟨message, name, levelname, none⟩ =
      left ++ jsonText (classes.redact message) ++ right := by
  obtain ⟨left, right, h⟩ := payload_append [] ([
    ("logger".toList, .text name.toList),
    ("level".toList, .text (text.lower levelname).toList),
    ("timestamp".toList, .text timestamp.toList)] ++
      context.map fun bound => (bound.1.text, .text bound.2.toList)) "event".toList
  refine ⟨left, right ++ ['\n'], fun message => ?_⟩
  have hpayload := h (.text (classes.redact message))
  unfold emit
  exact (congrArg (· ++ ['\n']) hpayload).trans (List.append_assoc ..)

theorem emit_exception (message : List Char) (name levelname : String) :
    ∃ left right, ∀ lines : List (List Char),
      emit classes text timestamp context ⟨message, name, levelname, some lines⟩ =
        left ++ (LogValue.lines lines).dumps ++ right := by
  obtain ⟨left, right, h⟩ := payload_append [
    ("event".toList, .text (classes.redact message)),
    ("logger".toList, .text name.toList),
    ("level".toList, .text (text.lower levelname).toList),
    ("timestamp".toList, .text timestamp.toList)]
    (context.map fun bound => (bound.1.text, .text bound.2.toList)) "exc_info".toList
  refine ⟨left, right ++ ['\n'], fun lines => ?_⟩
  have hpayload := h (.lines lines)
  unfold emit
  exact (congrArg (· ++ ['\n']) hpayload).trans (List.append_assoc ..)

end Lines

section Kept

variable {classes : CharClasses} {text : List Char}

theorem replaceAll_of_none {find : Finder} {word : Char → Bool}
    (h : ∀ done c more, text = done ++ c :: more →
      find (afterText word false done) (c :: more) = none) : replaceAll word find text = text := by
  have hcopy := @replaceFrom_append_of_none word find false text [] fun done c more hsplit => by
    rw [List.append_nil]
    exact h done c more hsplit
  rw [List.append_nil] at hcopy
  exact hcopy.trans (List.append_nil text)

theorem replace_proxy_of_notMem (h : ':' ∉ text) :
    replaceAll classes.isWord classes.urlFinder
      (replaceAll classes.isWord classes.lineFinder text) = text := by
  have hmore : ∀ {done more : List Char}, text = done ++ more → ':' ∉ more :=
    fun hsplit hmem => h (hsplit ▸ List.mem_append_right _ hmem)
  have hline : replaceAll classes.isWord classes.lineFinder text = text := by
    apply replaceAll_of_none
    intro done c more hsplit
    rw [lineFinder_eq]
    cases hread : classes.readLine (afterText classes.isWord false done) (c :: more) with
    | none => exact congrArg (Option.map _) hread
    | some found =>
        obtain ⟨-, host, port, tail, htail, -⟩ := readLine_eq_some hread
        exact absurd (htail ▸ List.mem_append_right host List.mem_cons_self) (hmore hsplit)
  rw [hline]
  apply replaceAll_of_none
  intro done c more hsplit
  rw [urlFinder_eq]
  cases hread : classes.readUrl (c :: more) with
  | none => exact congrArg (Option.map _) hread
  | some found =>
      obtain ⟨scheme, -, tail, htail, -⟩ := readUrl_eq_some hread
      have hcolon : ':' ∈ scheme ++ "://".toList ++ tail :=
        List.mem_append_left _ (List.mem_append_right _ (by decide))
      exact absurd (htail ▸ hcolon) (hmore hsplit)

/-- A key right behind a word character, without a hyphen in it, stays as it is. -/
theorem redact_behind_word {c : Char} {rest : List Char}
    (hrest : ∀ d ∈ c :: 'c' :: rest, classes.isWord d = true) :
    classes.redact (c :: 'c' :: rest) = c :: 'c' :: rest := by
  have hcolon : ':' ∉ c :: 'c' :: rest := by
    intro hmem
    have hword : classes.isWord ':' = false := classes.word_ascii ':' (by decide)
    rw [hrest ':' hmem] at hword
    cases hword
  unfold CharClasses.redact
  dsimp only
  rw [replace_proxy_of_notMem hcolon]
  apply replaceAll_of_none
  intro done d more hsplit
  have hd : classes.isWord d = true :=
    hrest d (hsplit ▸ List.mem_append_right done List.mem_cons_self)
  rw [keyFinder_eq]
  unfold finderOf
  rw [readKey_eq]
  rcases List.eq_nil_or_concat done with rfl | ⟨start, last, rfl⟩
  · obtain ⟨rfl, rfl⟩ := List.cons.inj hsplit
    have hcut : keyCut (c :: 'c' :: rest) = none := by
      have hcrw : "crw".toList.isPrefixOf (c :: 'c' :: rest) = false := by
        show ('c' == c && ('r' == 'c' && _)) = false
        simp
      have hcrwMark : "crw_".toList.isPrefixOf (c :: 'c' :: rest) = false := by
        show ('c' == c && ('r' == 'c' && _)) = false
        simp
      unfold keyCut shortHead longHead
      rw [hcrw, hcrwMark]
      simp
    rw [hcut]
    split
    · rfl
    · rfl
  · rw [List.concat_eq_append] at hsplit ⊢
    have hlast : classes.isWord last = true := by
      apply hrest
      rw [hsplit, List.append_assoc]
      exact List.mem_append_right start List.mem_cons_self
    rw [afterText_singleton_end, List.head?_cons, Option.any_some, hlast, hd, if_pos rfl]
    rfl

end Kept

section Samples

theorem zeros_length (count : Nat) : (List.replicate count (0 : UInt8)).length = count :=
  List.length_replicate

def sampleDraw (first : UInt8) : ByteDraw where
  short := List.replicate 4 0
  long := first :: List.replicate 27 0
  salt := 0
  short_length := zeros_length 4
  long_length := congrArg Nat.succ (zeros_length 27)

def sampleKey (hasher : Hasher) (first : UInt8) : String :=
  (generateApiKey hasher "live" (sampleDraw first).toDraw).1

theorem sampleKey_generated (hasher : Hasher) (first : UInt8) :
    Generated hasher (sampleKey hasher first) := ⟨"live", sampleDraw first, rfl⟩

def zeroKey : List Char := "crwlAAAAAAAAAAAAAAAAAAAAAAAAAAAAAAAAAAAAAAAAAAAA".toList

def fourKey : List Char := "crwlAAAAAABAAAAAAAAAAAAAAAAAAAAAAAAAAAAAAAAAAAAA".toList

theorem sampleKey_zero (hasher : Hasher) : (sampleKey hasher 0).toList = zeroKey := by
  unfold sampleKey generateApiKey
  rw [if_pos rfl]
  dsimp only
  decide +kernel

theorem sampleKey_four (hasher : Hasher) : (sampleKey hasher 4).toList = fourKey := by
  unfold sampleKey generateApiKey
  rw [if_pos rfl]
  dsimp only
  decide +kernel

theorem sampleKeys_alike (hasher : Hasher) :
    firstChars (sampleKey hasher 0) 8 = firstChars (sampleKey hasher 4) 8 := by
  have htake : zeroKey.take 8 = fourKey.take 8 := by decide +kernel
  unfold firstChars
  rw [sampleKey_zero, sampleKey_four, htake]

theorem jsonText_zeroKey : zeroKey.flatMap jsonChar ≠ fourKey.flatMap jsonChar := by
  decide +kernel

theorem sampleKeys_word {classes : CharClasses} {key : List Char}
    (hkey : key = zeroKey ∨ key = fourKey) :
    (∀ d ∈ key, classes.isWord d = true) ∧ ∃ rest, key = 'c' :: rest := by
  have hascii : ∀ d ∈ key, d.toNat < 128 ∧ (d.isAlphanum || d = '_') = true := by
    rcases hkey with rfl | rfl
    · exact List.forall_iff_forall_mem.mp (by decide +kernel)
    · exact List.forall_iff_forall_mem.mp (by decide +kernel)
  refine ⟨fun d hd => isWord_ascii (hascii d hd).1 (hascii d hd).2, key.tail, ?_⟩
  rcases hkey with rfl | rfl
  · decide +kernel
  · decide +kernel

end Samples

theorem afterText_eq_getLast (word : Char → Bool) (text : List Char) :
    afterText word false text = text.getLast?.any word := by
  rcases List.eq_nil_or_concat text with rfl | ⟨front, c, rfl⟩
  · rfl
  · rw [List.concat_eq_append, afterText_singleton_end, List.getLast?_concat, Option.any_some]

/-- Every two generated keys of one prefix give the same line, in every record that has them at
a place, if and only if the place is in the message and not right behind a word character. -/
theorem key_masked_iff (hasher : Hasher) (classes : CharClasses) (text : TextMethods)
    (timestamp : String) (context : List (ContextName × String)) (place : Place) :
    (∀ (mention : Mention) (name levelname key other : String), mention.place = place →
        Generated hasher key → Generated hasher other → firstChars key 8 = firstChars other 8 →
        emit classes text timestamp context (mention.record name levelname key.toList) =
          emit classes text timestamp context (mention.record name levelname other.toList)) ↔
      place.Masked classes := by
  constructor
  · intro h
    have hone : ∀ mention : Mention, mention.place = place →
        emit classes text timestamp context (mention.record "" "" zeroKey) =
          emit classes text timestamp context (mention.record "" "" fourKey) := by
      intro mention hplace
      have hsame := h mention "" "" _ _ hplace (sampleKey_generated hasher 0)
        (sampleKey_generated hasher 4) (sampleKeys_alike hasher)
      rwa [sampleKey_zero, sampleKey_four] at hsame
    cases place with
    | message before =>
        refine ⟨before, rfl, ?_⟩
        by_contra hword
        obtain ⟨c, rfl, hc⟩ : ∃ c, before = some c ∧ classes.isWord c = true := by
          cases before with
          | none => exact absurd rfl hword
          | some c => exact ⟨c, rfl, by simpa using hword⟩
        have hsame := hone (.message [c] [] none) rfl
        have hkept : ∀ key, key = zeroKey ∨ key = fourKey →
            classes.redact ([c] ++ key ++ []) = [c] ++ key ++ [] := by
          intro key hkey
          obtain ⟨hchars, rest, hrest⟩ := @sampleKeys_word classes key hkey
          rw [hrest] at hchars
          rw [List.append_nil, hrest]
          exact redact_behind_word (List.forall_mem_cons.mpr ⟨hc, hchars⟩)
        obtain ⟨left, right, hline⟩ := emit_message classes text timestamp context "" ""
        unfold Mention.record at hsame
        rw [hline, hline, hkept _ (Or.inl rfl), hkept _ (Or.inr rfl)] at hsame
        have htext := List.append_cancel_left (List.append_cancel_right hsame)
        exact jsonText_zeroKey (jsonText_part htext)
    | exception =>
        have hsame := hone (.exception [] [] [] [] []) rfl
        obtain ⟨left, right, hline⟩ := emit_exception classes text timestamp context [] "" ""
        unfold Mention.record at hsame
        rw [hline, hline] at hsame
        have hlines := List.append_cancel_left (List.append_cancel_right hsame)
        obtain ⟨leftPart, rightPart, hpart⟩ := join_append [] []
        have htext : jsonJoin ([] ++ [jsonText ([] ++ zeroKey ++ [])]) =
            jsonJoin ([] ++ [jsonText ([] ++ fourKey ++ [])]) :=
          List.append_cancel_right (List.cons.inj hlines).2
        rw [hpart, hpart] at htext
        exact (jsonText_zeroKey
          (jsonText_part (List.append_cancel_left (List.append_cancel_right htext)))).elim
  · rintro ⟨before, rfl, hword⟩ mention name levelname key other hplace hkey hother hprefix
    cases mention with
    | message start after excInfo =>
        have hstart : afterText classes.isWord false start = false := by
          rw [afterText_eq_getLast, Place.message.inj hplace]
          exact hword
        have htake : key.toList.take 8 = other.toList.take 8 := by
          have hlist := congrArg String.toList hprefix
          unfold firstChars at hlist
          rwa [String.toList_ofList, String.toList_ofList] at hlist
        have hredact := @redact_key classes _ _ start after (keyShape_of_generated hkey)
          (keyShape_of_generated hother) htake hstart
        unfold Mention.record emit
        dsimp only
        rw [hredact]
    | exception message linesBefore before after linesAfter => cases hplace

def plainHasher : Hasher := ⟨fun rawKey _ => rawKey, fun stored rawKey => stored = rawKey⟩

/-- A key in the text of an exception is written as it is. -/
theorem key_in_exception_shows :
    ¬ ∀ (mention : Mention) (name levelname key other : String),
      Generated plainHasher key → Generated plainHasher other →
        firstChars key 8 = firstChars other 8 →
        emit asciiClasses asciiText "2026-01-01T00:00:00+00:00" []
            (mention.record name levelname key.toList) =
          emit asciiClasses asciiText "2026-01-01T00:00:00+00:00" []
            (mention.record name levelname other.toList) := by
  intro h
  have hsame := h (.exception "lookup failed".toList [] "KeyError: ".toList ['\n'] []) "app" "ERROR"
    _ _ (sampleKey_generated plainHasher 0) (sampleKey_generated plainHasher 4)
    (sampleKeys_alike plainHasher)
  rw [sampleKey_zero, sampleKey_four] at hsame
  exact absurd hsame (by decide +kernel)

end CrawlerApi.Keys
