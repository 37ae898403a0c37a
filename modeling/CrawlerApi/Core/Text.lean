import CrawlerApi.Foundation.Url

/-!
# Python's text methods

`str.upper`, `str.lower` and `str.strip`, the compatibility normalization and
`repr` go by the interpreter's Unicode tables; the model is generic in them.
-/

namespace CrawlerApi

structure TextMethods where
  upper : String → String
  lower : String → String
  strip : String → String

def asciiText : TextMethods where
  upper := String.toUpper
  lower := String.toLower
  strip text := String.ofList
    ((text.toList.dropWhile Char.isWhitespace).reverse.dropWhile Char.isWhitespace).reverse

theorem lower_asciiText (chars : List Char) :
    asciiText.lower (String.ofList chars) = String.ofList (chars.map Char.toLower) := by
  rw [← String.toList_inj, String.toList_ofList]
  exact String.toList_map.trans (by rw [String.toList_ofList])

theorem toNat_toLower (c : Char) :
    c.toLower.toNat = if 65 ≤ c.toNat ∧ c.toNat ≤ 90 then c.toNat + 32 else c.toNat := by
  unfold Char.toLower
  split
  · rename_i h
    have hrange : 65 ≤ c.toNat ∧ c.toNat ≤ 90 := h
    rw [if_pos hrange]
    show (c.val + 32).toNat = c.toNat + 32
    rw [UInt32.toNat_add]
    exact Nat.mod_eq_of_lt (Nat.lt_of_le_of_lt (Nat.add_le_add_right hrange.2 32) (by decide))
  · rename_i h
    have hrange : ¬ (65 ≤ c.toNat ∧ c.toNat ≤ 90) := h
    rw [if_neg hrange]

/-- What parsing a URL asks of the interpreter besides. -/
structure TextTables extends TextMethods, Foundation.Url.Tables

def asciiTables : TextTables where
  toTextMethods := asciiText
  nfkc := id
  repr text := "'" ++ text ++ "'"

end CrawlerApi
