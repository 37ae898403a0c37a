/-!
# Internet addresses

Addresses in text and the networks they belong to: dotted quads without leading
zeros, and hextets with at most one `::`, an optional dotted tail and an optional
zone.  An address belongs only to networks of its own family.
-/

namespace CrawlerApi.Foundation

inductive IpAddress where
  | v4 (bits : BitVec 32)
  | v6 (bits : BitVec 128) (scope : Option (List Char))
deriving DecidableEq, Repr

namespace IpAddress

def decimalDigit (digit : Char) : Option Nat :=
  if digit.isDigit then some (digit.toNat - '0'.toNat) else none

def hexDigit (digit : Char) : Option Nat :=
  if digit.isDigit then some (digit.toNat - '0'.toNat)
  else if 'a' ≤ digit ∧ digit ≤ 'f' then some (digit.toNat - 'a'.toNat + 10)
  else if 'A' ≤ digit ∧ digit ≤ 'F' then some (digit.toNat - 'A'.toNat + 10)
  else none

def number (base : Nat) (digit : Char → Option Nat) (digits : List Char) : Option Nat :=
  (digits.mapM digit).map (·.foldl (fun value next => value * base + next) 0)

def octet (text : List Char) : Option (BitVec 8) :=
  match number 10 decimalDigit text with
  | none => none
  | some value =>
      if text = [] ∨ text.length > 3 ∨ (text ≠ ['0'] ∧ text.head? = some '0') ∨ value > 255 then
        none
      else some (.ofNat 8 value)

def hextet (text : List Char) : Option (BitVec 16) :=
  if text = [] ∨ text.length > 4 then none
  else (number 16 hexDigit text).map (.ofNat 16)

def quad (a b c d : BitVec 8) : BitVec 32 := a ++ b ++ c ++ d

def readV4 (text : List Char) : Option (BitVec 32) :=
  match text.splitOn '.' with
  | [a, b, c, d] => do pure (quad (← octet a) (← octet b) (← octet c) (← octet d))
  | _ => none

def expandTail (parts : List (List Char)) : Option (List (List Char)) :=
  match parts.getLast? with
  | none => none
  | some tail =>
      if '.' ∈ tail then
        (readV4 tail).map fun bits => parts.dropLast ++
          [Nat.toDigits 16 (bits.toNat / 65536), Nat.toDigits 16 (bits.toNat % 65536)]
      else some parts

/-- Where a run of zeros is left out: the empty parts between the first and the last. -/
def skips (parts : List (List Char)) : List Nat :=
  (List.range parts.length).filter fun i =>
    decide (0 < i) && decide (i + 1 < parts.length) && decide (parts[i]? = some [])

def join (hextets : List (BitVec 16)) : BitVec 128 :=
  hextets.foldl (fun bits hextet => bits <<< 16 ||| hextet.setWidth 128) 0

def assemble (parts : List (List Char)) : Option (BitVec 128) :=
  let leading := parts.head? = some []
  let trailing := parts.getLast? = some []
  match skips parts with
  | [] =>
      if parts.length ≠ 8 ∨ leading ∨ trailing then none
      else (parts.mapM hextet).map join
  | [skip] =>
      let high := if leading then skip - 1 else skip
      let low := if trailing then parts.length - skip - 2 else parts.length - skip - 1
      if (leading ∧ high ≠ 0) ∨ (trailing ∧ low ≠ 0) ∨ high + low > 7 then none
      else do
        let before ← (parts.take high).mapM hextet
        let after ← (parts.drop (parts.length - low)).mapM hextet
        pure (join (before ++ List.replicate (8 - (high + low)) 0 ++ after))
  | _ => none

def readV6 (text : List Char) : Option (BitVec 128) :=
  let parts := text.splitOn ':'
  if parts.length < 3 then none
  else
    match expandTail parts with
    | none => none
    | some parts => if parts.length > 9 then none else assemble parts

def readScoped (text : List Char) : Option IpAddress :=
  let scope := text.dropWhile (· ≠ '%')
  match scope with
  | [] => (readV6 text).map (.v6 · none)
  | _ :: zone =>
      if zone = [] ∨ '%' ∈ zone then none
      else (readV6 (text.takeWhile (· ≠ '%'))).map (.v6 · (some zone))

def read (text : List Char) : Option IpAddress :=
  if '/' ∈ text then none
  else
    match readV4 text with
    | some bits => some (.v4 bits)
    | none => readScoped text

example : read "::ffff:10.0.0.1".toList = some (.v6 0xffff0a000001 none) := by decide +kernel

example : read "10.0.0.01".toList = none := by decide +kernel

theorem read_ne_v6 {text : List Char} (h : ':' ∉ text) (bits : BitVec 128)
    (scope : Option (List Char)) : read text ≠ some (.v6 bits scope) := by
  have hnone {part : List Char} (hpart : ':' ∉ part) : readV6 part = none := by
    unfold readV6
    rw [List.splitOn_eq_singleton hpart]
    rfl
  have hscoped : readScoped text = none := by
    unfold readScoped
    dsimp only
    split
    · rw [hnone h]
      rfl
    · split
      · rfl
      · rw [hnone fun hmem => h ((List.takeWhile_prefix _).subset hmem)]
        rfl
  unfold read
  split
  · exact nofun
  · split
    · exact nofun
    · rw [hscoped]
      exact nofun

inductive Network where
  | v4 (address : BitVec 32) (length : Nat)
  | v6 (address : BitVec 128) (length : Nat)
deriving DecidableEq, Repr

def Network.contains : Network → IpAddress → Bool
  | .v4 address length, .v4 bits => bits &&& (BitVec.allOnes 32 <<< (32 - length)) == address
  | .v6 address length, .v6 bits _ => bits &&& (BitVec.allOnes 128 <<< (128 - length)) == address
  | _, _ => false

private theorem masked_of_masked {width length shorter : Nat} {bits address : BitVec width}
    (hle : shorter ≤ length)
    (h : bits &&& (BitVec.allOnes width <<< (width - length)) = address) :
    bits &&& (BitVec.allOnes width <<< (width - shorter)) =
      address &&& (BitVec.allOnes width <<< (width - shorter)) := by
  rw [← h]
  ext i hi
  simp only [BitVec.getElem_and, BitVec.getElem_shiftLeft, BitVec.getElem_allOnes]
  by_cases hlow : i < width - shorter
  · simp [hlow]
  · have hhigh : ¬ i < width - length := by omega
    simp [hlow, hhigh]

def Network.within : Network → Network → Bool
  | .v4 address length, .v4 other shorter =>
      decide (shorter ≤ length) && (Network.v4 other shorter).contains (.v4 address)
  | .v6 address length, .v6 other shorter =>
      decide (shorter ≤ length) && (Network.v6 other shorter).contains (.v6 address none)
  | _, _ => false

def Network.disjoint : Network → Network → Bool
  | .v4 address length, .v4 other shorter =>
      if shorter ≤ length then !(Network.v4 other shorter).contains (.v4 address)
      else !(Network.v4 address length).contains (.v4 other)
  | .v6 address length, .v6 other shorter =>
      if shorter ≤ length then !(Network.v6 other shorter).contains (.v6 address none)
      else !(Network.v6 address length).contains (.v6 other none)
  | _, _ => true

section Networks

variable {bits address other : BitVec 32} {wide outer inner : BitVec 128} {length shorter : Nat}
  {scope : Option (List Char)} {network blocked : Network} {host : IpAddress}

/-- What is in a network is in a shorter one exactly if the network's own address is. -/
theorem Network.contains_v4_of_contains (hle : shorter ≤ length)
    (h : (Network.v4 address length).contains (.v4 bits) = true) :
    (Network.v4 other shorter).contains (.v4 bits) =
      (Network.v4 other shorter).contains (.v4 address) := by
  dsimp only [Network.contains] at h ⊢
  rw [masked_of_masked hle (beq_iff_eq.mp h)]

theorem Network.contains_v6_of_contains (hle : shorter ≤ length)
    (h : (Network.v6 inner length).contains (.v6 wide scope) = true) :
    (Network.v6 outer shorter).contains (.v6 wide scope) =
      (Network.v6 outer shorter).contains (.v6 inner none) := by
  dsimp only [Network.contains] at h ⊢
  rw [masked_of_masked hle (beq_iff_eq.mp h)]

theorem Network.contains_of_within (h : network.within blocked = true)
    (hin : network.contains host = true) : blocked.contains host = true := by
  cases host with
  | v4 bits =>
      cases network with
      | v6 address length => cases hin
      | v4 address length =>
          cases blocked with
          | v6 other shorter => cases h
          | v4 other shorter =>
              have hparts := Bool.and_eq_true_iff.mp h
              rw [contains_v4_of_contains (of_decide_eq_true hparts.1) hin]
              exact hparts.2
  | v6 bits scope =>
      cases network with
      | v4 address length => cases hin
      | v6 address length =>
          cases blocked with
          | v4 other shorter => cases h
          | v6 other shorter =>
              have hparts := Bool.and_eq_true_iff.mp h
              rw [contains_v6_of_contains (of_decide_eq_true hparts.1) hin]
              exact hparts.2

theorem Network.not_contains_of_disjoint (h : network.disjoint blocked = true)
    (hin : network.contains host = true) : blocked.contains host = false := by
  rw [← Bool.not_eq_true]
  intro hblocked
  cases host with
  | v4 bits =>
      cases network with
      | v6 address length => cases hin
      | v4 address length =>
          cases blocked with
          | v6 other shorter => cases hblocked
          | v4 other shorter =>
              dsimp only [Network.disjoint] at h
              split at h
              · rename_i hle
                rw [← contains_v4_of_contains hle hin, hblocked] at h
                cases h
              · rename_i hlt
                rw [← contains_v4_of_contains (Nat.le_of_not_le hlt) hblocked, hin] at h
                cases h
  | v6 bits scope =>
      cases network with
      | v4 address length => cases hin
      | v6 address length =>
          cases blocked with
          | v4 other shorter => cases hblocked
          | v6 other shorter =>
              dsimp only [Network.disjoint] at h
              split at h
              · rename_i hle
                rw [← contains_v6_of_contains hle hin, hblocked] at h
                cases h
              · rename_i hlt
                rw [← contains_v6_of_contains (Nat.le_of_not_le hlt) hblocked, hin] at h
                cases h

end Networks

end IpAddress

end CrawlerApi.Foundation
