import CrawlerApi.Fetch.BlockDetector
import CrawlerApi.Fetch.ContentDecoder

/-!
# The published result

`FetchResultSchema` and the normalization of block reasons on the way into it.
-/

namespace CrawlerApi.Fetch

open Keys

def legacyBlockReasons : List (String × BlockReason) := [
  ("bot_detection", .other),
  ("bot_detected", .other),
  ("forbidden", .ipBan),
  ("access_denied", .ipBan),
  ("too_many_requests", .rateLimited),
  ("cf_challenge", .cloudflare),
  ("akamai_bot_manager", .akamai),
  ("dd_challenge", .datadome),
  ("px_challenge", .perimeterx),
  ("kp_challenge", .kasada)]

/-- `BlockReason(value)`: a value, a legacy name, or `other`. -/
def BlockReason.ofValue (text : TextMethods) (value : String) : BlockReason :=
  match BlockReason.all.find? fun reason => reason.value = value with
  | some reason => reason
  | none =>
      let name := text.lower (text.strip value)
      ((legacyBlockReasons.find? fun entry => entry.1 = name).map Prod.snd).getD .other

def normalizeBlockReason (text : TextMethods) : Option String → Option BlockReason
  | none => none
  | some value =>
      if value = "" then none
      else some (BlockReason.ofValue text (text.lower (text.strip value)))

def base64Alphabet : List Char :=
  "ABCDEFGHIJKLMNOPQRSTUVWXYZabcdefghijklmnopqrstuvwxyz0123456789+/".toList

def base64Digit (value : Nat) : Char := base64Alphabet.getD (value % 64) '='

def base64Chars : Bytes → List Char
  | [] => []
  | [a] =>
      [base64Digit (a.toNat / 4), base64Digit (a.toNat % 4 * 16), '=', '=']
  | [a, b] =>
      [base64Digit (a.toNat / 4), base64Digit (a.toNat % 4 * 16 + b.toNat / 16),
        base64Digit (b.toNat % 16 * 4), '=']
  | a :: b :: c :: rest =>
      base64Digit (a.toNat / 4) :: base64Digit (a.toNat % 4 * 16 + b.toNat / 16) ::
        base64Digit (b.toNat % 16 * 4 + c.toNat / 64) :: base64Digit (c.toNat % 64) ::
        base64Chars rest

/-- `base64.b64encode(body).decode()`. -/
def base64 (body : Bytes) : String := String.ofList (base64Chars body)

theorem base64Digit_inj : ∀ a < 64, ∀ b < 64, base64Digit a = base64Digit b → a = b := by
  decide +kernel

theorem base64Digit_ne_pad : ∀ a < 64, base64Digit a ≠ '=' := by decide +kernel

section Base64

variable {a b c d e f : UInt8}

private theorem first_digit (h : base64Digit (a.toNat / 4) = base64Digit (d.toNat / 4)) :
    a.toNat / 4 = d.toNat / 4 := by
  have ha := a.toNat_lt
  have hd := d.toNat_lt
  exact base64Digit_inj _ (by omega) _ (by omega) h

private theorem second_digit (h : base64Digit (a.toNat % 4 * 16 + b.toNat / 16) =
    base64Digit (d.toNat % 4 * 16 + e.toNat / 16)) :
    a.toNat % 4 = d.toNat % 4 ∧ b.toNat / 16 = e.toNat / 16 := by
  have hb := b.toNat_lt
  have he := e.toNat_lt
  have heq := base64Digit_inj _ (by omega) _ (by omega) h
  omega

private theorem third_digit (h : base64Digit (b.toNat % 16 * 4 + c.toNat / 64) =
    base64Digit (e.toNat % 16 * 4 + f.toNat / 64)) :
    b.toNat % 16 = e.toNat % 16 ∧ c.toNat / 64 = f.toNat / 64 := by
  have hc := c.toNat_lt
  have hf := f.toNat_lt
  have heq := base64Digit_inj _ (by omega) _ (by omega) h
  omega

private theorem fourth_digit (h : base64Digit (c.toNat % 64) = base64Digit (f.toNat % 64)) :
    c.toNat % 64 = f.toNat % 64 :=
  base64Digit_inj _ (by omega) _ (by omega) h

private theorem third_ne_pad : base64Digit (b.toNat % 16 * 4 + c.toNat / 64) ≠ '=' := by
  have hc := c.toNat_lt
  exact base64Digit_ne_pad _ (by omega)

theorem base64Chars_injective (first second : Bytes) (h : base64Chars first = base64Chars second) :
    first = second := by
  induction first using base64Chars.induct generalizing second with
  | case1 =>
      rcases second with _ | ⟨d, _ | ⟨e, _ | ⟨f, rest⟩⟩⟩
      · rfl
      all_goals cases h
  | case2 a =>
      rcases second with _ | ⟨d, _ | ⟨e, _ | ⟨f, rest⟩⟩⟩
      · cases h
      · obtain ⟨h1, h2, -⟩ : base64Digit (a.toNat / 4) = base64Digit (d.toNat / 4) ∧
            base64Digit (a.toNat % 4 * 16 + (0 : UInt8).toNat / 16) =
              base64Digit (d.toNat % 4 * 16 + (0 : UInt8).toNat / 16) ∧ True := by
          simpa [base64Chars] using h
        have hhigh := first_digit h1
        have hlow := second_digit h2
        rw [UInt8.toNat_inj.mp (show a.toNat = d.toNat by omega)]
      · have hpad := (List.cons.inj (List.cons.inj (List.cons.inj h).2).2).1
        exact absurd hpad.symm (base64Digit_ne_pad _ (by omega))
      · have hpad := (List.cons.inj (List.cons.inj (List.cons.inj h).2).2).1
        exact absurd hpad.symm third_ne_pad
  | case3 a b =>
      rcases second with _ | ⟨d, _ | ⟨e, _ | ⟨f, rest⟩⟩⟩
      · cases h
      · have hpad := (List.cons.inj (List.cons.inj (List.cons.inj h).2).2).1
        exact absurd hpad (base64Digit_ne_pad _ (by omega))
      · obtain ⟨h1, h2, h3⟩ : base64Digit (a.toNat / 4) = base64Digit (d.toNat / 4) ∧
            base64Digit (a.toNat % 4 * 16 + b.toNat / 16) =
              base64Digit (d.toNat % 4 * 16 + e.toNat / 16) ∧
            base64Digit (b.toNat % 16 * 4 + (0 : UInt8).toNat / 64) =
              base64Digit (e.toNat % 16 * 4 + (0 : UInt8).toNat / 64) := by
          simpa [base64Chars] using h
        have hhigh := first_digit h1
        have hmiddle := second_digit h2
        have hlow := third_digit h3
        rw [UInt8.toNat_inj.mp (show a.toNat = d.toNat by omega),
          UInt8.toNat_inj.mp (show b.toNat = e.toNat by omega)]
      · have hpad :=
          (List.cons.inj (List.cons.inj (List.cons.inj (List.cons.inj h).2).2).2).1
        exact absurd hpad.symm (base64Digit_ne_pad _ (by omega))
  | case4 a b c rest ih =>
      rcases second with _ | ⟨d, _ | ⟨e, _ | ⟨f, others⟩⟩⟩
      · cases h
      · have hpad := (List.cons.inj (List.cons.inj (List.cons.inj h).2).2).1
        exact absurd hpad third_ne_pad
      · have hpad :=
          (List.cons.inj (List.cons.inj (List.cons.inj (List.cons.inj h).2).2).2).1
        exact absurd hpad (base64Digit_ne_pad _ (by omega))
      · obtain ⟨h1, h2, h3, h4, hrest⟩ :
            base64Digit (a.toNat / 4) = base64Digit (d.toNat / 4) ∧
            base64Digit (a.toNat % 4 * 16 + b.toNat / 16) =
              base64Digit (d.toNat % 4 * 16 + e.toNat / 16) ∧
            base64Digit (b.toNat % 16 * 4 + c.toNat / 64) =
              base64Digit (e.toNat % 16 * 4 + f.toNat / 64) ∧
            base64Digit (c.toNat % 64) = base64Digit (f.toNat % 64) ∧
              base64Chars rest = base64Chars others := by
          simpa [base64Chars] using h
        have hfirst := first_digit h1
        have hsecond := second_digit h2
        have hthird := third_digit h3
        have hfourth := fourth_digit h4
        rw [UInt8.toNat_inj.mp (show a.toNat = d.toNat by omega),
          UInt8.toNat_inj.mp (show b.toNat = e.toNat by omega),
          UInt8.toNat_inj.mp (show c.toNat = f.toNat by omega), ih others hrest]

theorem base64_injective {first second : Bytes} (h : base64 first = base64 second) :
    first = second := by
  unfold base64 at h
  have hchars := congrArg String.toList h
  rw [String.toList_ofList, String.toList_ofList] at hchars
  exact base64Chars_injective first second hchars

end Base64

structure FetchResultSchema where
  apiVersion : Nat := 2
  url : String
  statusCode : Int
  headers : Headers
  bodyB64 : String
  bodyIsCompressed : Bool := false
  bodyBytes : Nat
  contentSha256 : String
  originalContentEncoding : Option String
  encoding : String
  elapsedMs : Int
  proxyId : Option Uuid
  proxyCountry : Option String := none
  engine : Engine
  blocked : Bool
  blockReason : Option BlockReason
  retriesUsed : Nat
  tierUsed : Nat
  traceId : Option String
deriving DecidableEq, Repr

def FetchResultSchema.fromResult (text : TextMethods) (result : FetchResult)
    (integrityFields : Integrity) : FetchResultSchema where
  url := result.url
  statusCode := result.statusCode
  headers := result.headers
  bodyB64 := base64 result.body
  bodyBytes := integrityFields.bodyBytes
  contentSha256 := integrityFields.contentSha256
  originalContentEncoding := integrityFields.originalContentEncoding
  encoding := result.encoding
  elapsedMs := result.elapsedMs
  proxyId := result.proxyId
  engine := result.engine
  blocked := result.blocked
  blockReason := normalizeBlockReason text result.blockReason
  retriesUsed := result.retriesUsed
  tierUsed := result.tierUsed
  traceId := result.traceId

end CrawlerApi.Fetch
