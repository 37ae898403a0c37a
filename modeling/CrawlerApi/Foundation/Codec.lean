import Mathlib.Data.List.Basic

/-!
# Self-delimiting byte codes

A codec reads back what it wrote whatever follows it, so encodings can be laid
one behind the other in a file and read in order.  A slice of a file is the part
an offset and a length name.
-/

namespace CrawlerApi.Foundation

structure Codec (α : Type) where
  encode : α → List UInt8
  decode : List UInt8 → Option (α × List UInt8)
  decode_encode : ∀ value rest, decode (encode value ++ rest) = some (value, rest)

namespace Codec

def byte : Codec UInt8 where
  encode value := [value]
  decode
    | [] => none
    | value :: rest => some (value, rest)
  decode_encode _ _ := rfl

def pair (first : Codec α) (second : Codec β) : Codec (α × β) where
  encode value := first.encode value.1 ++ second.encode value.2
  decode bytes :=
    (first.decode bytes).bind fun a => (second.decode a.2).map fun b => ((a.1, b.1), b.2)
  decode_encode value rest := by
    rw [List.append_assoc, first.decode_encode, Option.bind_some, second.decode_encode,
      Option.map_some]

/-- A type every value of which comes from another's. -/
def map (codec : Codec α) (make : α → β) (parts : β → α) (h : ∀ value, make (parts value) = value) :
    Codec β where
  encode value := codec.encode (parts value)
  decode bytes := (codec.decode bytes).map fun a => (make a.1, a.2)
  decode_encode value rest := by rw [codec.decode_encode, Option.map_some, h]

section Lists

variable (codec : Codec α)

def encodeList (values : List α) : List UInt8 :=
  values.flatMap (fun value => 1 :: codec.encode value) ++ [0]

def decodeList : Nat → List UInt8 → Option (List α × List UInt8)
  | 0, _ | _, [] => none
  | fuel + 1, flag :: bytes =>
      if flag = 0 then some ([], bytes)
      else
        (codec.decode bytes).bind fun a =>
          (decodeList fuel a.2).map fun b => (a.1 :: b.1, b.2)

theorem decodeList_encodeList (values : List α) (rest : List UInt8) {fuel : Nat}
    (hfuel : values.length < fuel) :
    codec.decodeList fuel (codec.encodeList values ++ rest) = some (values, rest) := by
  induction values generalizing fuel with
  | nil =>
      cases fuel with
      | zero => cases hfuel
      | succ fuel => rfl
  | cons value values ih =>
      cases fuel with
      | zero => cases hfuel
      | succ fuel =>
          have hhead : codec.encodeList (value :: values) ++ rest =
              1 :: (codec.encode value ++ (codec.encodeList values ++ rest)) := by
            simp [encodeList]
          rw [hhead, decodeList, if_neg (by decide), codec.decode_encode, Option.bind_some,
            ih (Nat.lt_of_succ_lt_succ hfuel), Option.map_some]

theorem length_lt_encodeList (values : List α) :
    values.length < (codec.encodeList values).length := by
  induction values with
  | nil => exact Nat.zero_lt_one
  | cons value values ih =>
      simp only [encodeList, List.flatMap_cons, List.length_append, List.length_cons,
        List.length_nil] at ih ⊢
      omega

def list : Codec (List α) where
  encode := codec.encodeList
  decode bytes := codec.decodeList bytes.length bytes
  decode_encode values rest := by
    refine codec.decodeList_encodeList values rest ?_
    have hlength := codec.length_lt_encodeList values
    rw [List.length_append]
    omega

/-- Read values one behind the other; `none` where no value can be read. -/
def readAll : Nat → List UInt8 → List (Option α)
  | 0, _ | _, [] => []
  | fuel + 1, bytes =>
      match codec.decode bytes with
      | none => [none]
      | some (value, rest) => some value :: readAll fuel rest

theorem readAll_flatMap_encode (hpositive : ∀ value, codec.encode value ≠ []) (values : List α)
    {fuel : Nat} (hfuel : values.length ≤ fuel) :
    codec.readAll fuel (values.flatMap codec.encode) = values.map some := by
  induction values generalizing fuel with
  | nil => cases fuel <;> rfl
  | cons value values ih =>
      cases fuel with
      | zero => cases hfuel
      | succ fuel =>
          rw [List.flatMap_cons, List.map_cons, ← ih (Nat.le_of_succ_le_succ hfuel)]
          have hread := codec.decode_encode value (values.flatMap codec.encode)
          cases hencode : codec.encode value with
          | nil => exact absurd hencode (hpositive value)
          | cons first rest =>
              rw [hencode] at hread
              rw [List.cons_append] at hread ⊢
              rw [readAll, hread]
              exact nofun

theorem length_le_flatMap_encode (hpositive : ∀ value, codec.encode value ≠ [])
    (values : List α) : values.length ≤ (values.flatMap codec.encode).length := by
  induction values with
  | nil => exact Nat.le_refl 0
  | cons value values ih =>
      have hfirst := List.length_pos_iff.mpr (hpositive value)
      rw [List.flatMap_cons, List.length_append, List.length_cons]
      omega

def readFile (bytes : List UInt8) : List (Option α) := codec.readAll bytes.length bytes

/-- A file of encodings reads as what was written, in order. -/
theorem readFile_flatMap_encode (hpositive : ∀ value, codec.encode value ≠ []) (values : List α) :
    codec.readFile (values.flatMap codec.encode) = values.map some :=
  codec.readAll_flatMap_encode hpositive values (codec.length_le_flatMap_encode hpositive values)

end Lists

end Codec

def slice (bytes : List α) (offset length : Nat) : List α := (bytes.drop offset).take length

theorem slice_append_right (before after : List α) :
    slice (before ++ after) before.length after.length = after := by
  rw [slice, List.drop_left, List.take_length]

theorem slice_append_left {bytes : List α} {offset length : Nat}
    (h : offset + length ≤ bytes.length) (more : List α) :
    slice (bytes ++ more) offset length = slice bytes offset length := by
  rw [slice, slice, List.drop_append_of_le_length (by omega),
    List.take_append_of_le_length (by rw [List.length_drop]; omega)]

end CrawlerApi.Foundation
