import Mathlib.Data.Int.Log
import Mathlib.Data.Rat.Floor
import Mathlib.Tactic.FieldSimp
import Mathlib.Tactic.Linarith
import Mathlib.Tactic.Positivity

/-!
# Rounding to doubles

A double is the rational it stands for.  Overflow, infinities and signed zeros are left out:
the values rounded here are far below the largest double.
-/

namespace CrawlerApi.Foundation

def roundHalfEven (value : Rat) : Int :=
  if value - ⌊value⌋ < 1 / 2 ∨ value - ⌊value⌋ = 1 / 2 ∧ ⌊value⌋ % 2 = 0 then ⌊value⌋
  else ⌊value⌋ + 1

def lastPlace (value : Rat) : Int := max (Int.log 2 |value| - 52) (-1074)

def ulp (value : Rat) : Rat := 2 ^ lastPlace value

def binary64 (value : Rat) : Rat := roundHalfEven (value / ulp value) * ulp value

section Integers

variable {value other : Rat}

theorem roundHalfEven_intCast (n : Int) : roundHalfEven n = n := by
  unfold roundHalfEven
  rw [Int.floor_intCast, sub_self, if_pos (.inl (by norm_num))]

theorem roundHalfEven_add_even (value : Rat) (k : Int) :
    roundHalfEven (value + (2 * k : Int)) = roundHalfEven value + 2 * k := by
  unfold roundHalfEven
  have hparity : (⌊value⌋ + 2 * k) % 2 = ⌊value⌋ % 2 := by omega
  rw [Int.floor_add_intCast, Int.cast_add, add_sub_add_right_eq_sub, hparity]
  split
  · rfl
  · exact add_right_comm ..

theorem abs_roundHalfEven_sub_le (value : Rat) : |roundHalfEven value - value| ≤ 1 / 2 := by
  have hle := Int.floor_le value
  have hlt := Int.lt_floor_add_one value
  unfold roundHalfEven
  rw [abs_le]
  split
  · rename_i h
    have hhalf : value - ⌊value⌋ ≤ 1 / 2 := h.elim le_of_lt fun h => le_of_eq h.1
    constructor <;> linarith
  · rename_i h
    have hhalf : 1 / 2 ≤ value - ⌊value⌋ := not_lt.mp fun hlow => h (.inl hlow)
    push_cast
    constructor <;> linarith

theorem roundHalfEven_mono (h : value ≤ other) : roundHalfEven value ≤ roundHalfEven other := by
  have hfloor := Int.floor_le_floor h
  rcases hfloor.lt_or_eq with hbelow | hsame
  · have hnext : roundHalfEven value ≤ ⌊value⌋ + 1 := by
      unfold roundHalfEven
      split <;> omega
    have hfrom : ⌊other⌋ ≤ roundHalfEven other := by
      unfold roundHalfEven
      split <;> omega
    omega
  · unfold roundHalfEven
    rw [hsame]
    split
    · split <;> omega
    · rename_i hup
      rw [if_neg]
      rintro (hlow | ⟨htie, heven⟩)
      · exact hup (.inl (by linarith))
      · rcases h.lt_or_eq with hless | rfl
        · exact hup (.inl (by linarith))
        · exact hup (.inr ⟨htie, heven⟩)

end Integers

theorem ulp_pos (value : Rat) : 0 < ulp value := zpow_pos (by norm_num) _

structure InBinade (exponent : Int) (value : Rat) : Prop where
  normal : -1022 ≤ exponent
  lower : 2 ^ exponent ≤ value
  upper : value < 2 ^ (exponent + 1)

section Doubles

variable {exponent : Int} {value other : Rat}

theorem InBinade.log_abs (h : InBinade exponent value) : Int.log 2 |value| = exponent := by
  have hpos : 0 < value := (zpow_pos (by norm_num) _).trans_le h.lower
  rw [abs_of_pos hpos]
  have hlower := (Int.zpow_le_iff_le_log (b := 2) (by norm_num) hpos).mp (by exact_mod_cast h.lower)
  have hupper := (Int.lt_zpow_iff_log_lt (b := 2) (by norm_num) hpos).mp (by exact_mod_cast h.upper)
  omega

theorem InBinade.ulp (h : InBinade exponent value) : ulp value = 2 ^ (exponent - 52) := by
  have hnormal := h.normal
  unfold Foundation.ulp lastPlace
  rw [h.log_abs, max_eq_left (by omega)]

/-- The doubles of a binade lie on one grid, so rounding to them is monotone and goes with
every shift by an even number of its steps. -/
theorem InBinade.binary64_add_le (h : InBinade exponent value) (hother : InBinade exponent other)
    {shift : Rat} {k : Int} (hshift : shift = (2 * k : Int) * 2 ^ (exponent - 52))
    (hle : value + shift ≤ other) : binary64 value + shift ≤ binary64 other := by
  unfold binary64
  rw [h.ulp, hother.ulp]
  have hstep : (0 : Rat) < 2 ^ (exponent - 52) := zpow_pos (by norm_num) _
  generalize (2 : Rat) ^ (exponent - 52) = step at hshift hstep ⊢
  have hquotient : value / step + (2 * k : Int) ≤ other / step := by
    rw [← mul_div_cancel_right₀ ((2 * k : Int) : Rat) hstep.ne', ← hshift, ← add_div]
    exact div_le_div_of_nonneg_right hle hstep.le
  have hround := roundHalfEven_mono hquotient
  rw [roundHalfEven_add_even] at hround
  have hcast : ((roundHalfEven (value / step) + 2 * k : Int) : Rat) ≤
      (roundHalfEven (other / step) : Int) := by exact_mod_cast hround
  rw [hshift, ← add_mul, ← Int.cast_add]
  exact mul_le_mul_of_nonneg_right hcast hstep.le

theorem InBinade.exists_binary64 (h : InBinade exponent value) :
    ∃ steps : Int, binary64 value = steps * 2 ^ (exponent - 52) :=
  ⟨_, by unfold binary64; rw [h.ulp]⟩

theorem binary64_zero : binary64 0 = 0 := by
  unfold binary64
  have hround : roundHalfEven 0 = 0 := roundHalfEven_intCast 0
  rw [zero_div, hround, Int.cast_zero, zero_mul]

theorem ulp_le (hnormal : -1021 ≤ exponent) (hzero : value ≠ 0) (h : |value| < 2 ^ exponent) :
    ulp value ≤ 2 ^ (exponent - 53) := by
  have hlog := (Int.lt_zpow_iff_log_lt (b := 2) (by norm_num) (abs_pos.mpr hzero)).mp
    (by exact_mod_cast h)
  unfold ulp lastPlace
  exact zpow_le_zpow_right₀ (by norm_num) (max_le (by omega) (by omega))

theorem abs_binary64_sub_le (hnormal : -1021 ≤ exponent) (h : |value| < 2 ^ exponent) :
    |binary64 value - value| ≤ 2 ^ (exponent - 54) := by
  by_cases hzero : value = 0
  · rw [hzero, binary64_zero, sub_zero, abs_zero]
    exact zpow_nonneg (by norm_num) _
  · have hpos := ulp_pos value
    have hscaled : binary64 value - value =
        (roundHalfEven (value / ulp value) - value / ulp value) * ulp value := by
      unfold binary64
      rw [sub_mul, div_mul_cancel₀ _ hpos.ne']
    calc |binary64 value - value| =
        |roundHalfEven (value / ulp value) - value / ulp value| * ulp value := by
          rw [hscaled, abs_mul, abs_of_pos hpos]
      _ ≤ 1 / 2 * 2 ^ (exponent - 53) :=
          mul_le_mul (abs_roundHalfEven_sub_le _) (ulp_le hnormal hzero h) hpos.le (by norm_num)
      _ = 2 ^ (exponent - 54) := by
          have hsplit : exponent - 53 = exponent - 54 + 1 := by omega
          rw [hsplit, zpow_add_one₀ (by norm_num)]
          ring

theorem binary64_intCast {n : Int} (h : |n| < 2 ^ 53) : binary64 n = n := by
  by_cases hzero : n = 0
  · rw [hzero, Int.cast_zero, binary64_zero]
  · have hbelow : |(n : Rat)| < (2 : Nat) ^ (53 : Int) := by exact_mod_cast h
    have hlog : Int.log 2 |(n : Rat)| < 53 := (Int.lt_zpow_iff_log_lt (by norm_num)
      (abs_pos.mpr (Int.cast_ne_zero.mpr hzero))).mp hbelow
    have hplace : lastPlace n ≤ 0 := max_le (by omega) (by omega)
    obtain ⟨places, hplaces⟩ := Int.eq_ofNat_of_zero_le (neg_nonneg.mpr hplace)
    have hulp : ulp n * 2 ^ places = 1 := by
      unfold ulp
      rw [← zpow_natCast, ← hplaces, ← zpow_add₀ (by norm_num), add_neg_cancel, zpow_zero]
    have hwhole : (n : Rat) / ulp n = (n * 2 ^ places : Int) := by
      rw [div_eq_iff (ulp_pos _).ne']
      push_cast
      rw [mul_assoc, mul_comm (2 ^ places), hulp, mul_one]
    unfold binary64
    rw [hwhole, roundHalfEven_intCast, ← hwhole, div_mul_cancel₀ _ (ulp_pos _).ne']

theorem zpow_le_binary64 (hnormal : -1022 ≤ exponent) (h : 2 ^ exponent ≤ value) :
    2 ^ exponent ≤ binary64 value := by
  have hpos : 0 < value := (zpow_pos (by norm_num) _).trans_le h
  have hlog : exponent ≤ Int.log 2 value :=
    (Int.zpow_le_iff_le_log (b := 2) (by norm_num) hpos).mp (by exact_mod_cast h)
  have hbinade : InBinade (Int.log 2 value) value :=
    ⟨hnormal.trans hlog, by exact_mod_cast Int.zpow_log_le_self (b := 2) (by norm_num) hpos,
      by exact_mod_cast Int.lt_zpow_succ_log_self (b := 2) (by norm_num) value⟩
  generalize Int.log 2 value = place at hlog hbinade
  have hstep : (0 : Rat) < 2 ^ (place - 52) := zpow_pos (by norm_num) _
  have hsplit : (2 : Rat) ^ place = (2 ^ 52 : Int) * 2 ^ (place - 52) := by
    rw [zpow_sub₀ (by norm_num)]
    norm_num
    ring
  have hdigits : ((2 ^ 52 : Int) : Rat) ≤ value / 2 ^ (place - 52) := by
    rw [le_div_iff₀ hstep, ← hsplit]
    exact hbinade.lower
  have hround := roundHalfEven_mono hdigits
  rw [roundHalfEven_intCast] at hround
  calc (2 : Rat) ^ exponent ≤ 2 ^ place := zpow_le_zpow_right₀ (by norm_num) hlog
    _ = (2 ^ 52 : Int) * 2 ^ (place - 52) := hsplit
    _ ≤ roundHalfEven (value / 2 ^ (place - 52)) * 2 ^ (place - 52) :=
        mul_le_mul_of_nonneg_right (by exact_mod_cast hround) hstep.le
    _ = binary64 value := by
        unfold binary64
        rw [hbinade.ulp]

end Doubles

end CrawlerApi.Foundation
