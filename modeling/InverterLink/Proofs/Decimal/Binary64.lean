import InverterLink.Decimal.Literal
import Mathlib.Algebra.Order.Field.Basic
import Mathlib.Algebra.Order.Field.Power
import Mathlib.Algebra.Order.Floor.Ring
import Mathlib.Data.Rat.Cast.Order
import Mathlib.Data.Rat.Lemmas
import Mathlib.Tactic.Linarith
import Mathlib.Tactic.NormNum
import Mathlib.Tactic.Positivity
import Mathlib.Tactic.Ring

/-!
# How far rounding goes

A number lies between the power of two of its exponent and the next one, so the grid on which
`nearest` rounds is at most as wide as a part in `2 ^ 52` of the number, unless that would be finer
than the finest grid. Rounding moves a number by half of this at most, and never across zero. A
literal is read with this error alone, although its value is not computed when it is far outside the
range. For readings in tenths it follows that a decimal between two of them rounds to a number of
tenths between both, and that a number of tenths is off by a half and almost nothing more.

## Main statements

* `abs_nearest_sub_le`: the error of `nearest`, relative to the number.
* `Decimal.Literal.abs_sub_value_le`: the error with which a literal is read.
* `Decimal.tenths_mem_of_between`: the tenths of a decimal between two numbers of tenths.
* `Decimal.abs_tenths_sub_le`: the error of tenths.
-/

namespace InverterLink

namespace Binary64

theorem magnitude_eq_abs (r : Rat) : magnitude r = |r| := by
  rw [magnitude]
  split_ifs with h
  · rw [abs_of_neg h]
  · rw [abs_of_nonneg (not_lt.mp h)]

theorem powTwo_pos (k : Int) : 0 < powTwo k :=
  zpow_pos two_pos k

/-! ### The grid -/

/-- The exponent of a number does not exceed it. -/
theorem powTwo_exponent_le {r : Rat} (h : r ≠ 0) : powTwo (exponent r) ≤ |r| := by
  rw [exponent, ← magnitude_eq_abs]
  split_ifs with hfits
  · exact hfits
  -- the numerator has the bits that its logarithm says, and the denominator at most one more
  have hnum : ((2 : Rat) ^ Nat.log2 r.num.natAbs) ≤ (r.num.natAbs : Rat) := by
    exact_mod_cast Nat.log2_self_le (Int.natAbs_ne_zero.mpr (Rat.num_ne_zero.mpr h))
  have hden : (r.den : Rat) ≤ 2 ^ (Nat.log2 r.den + 1) := by
    exact_mod_cast Nat.lt_log2_self.le
  have habs : |r| = (r.num.natAbs : Rat) / r.den := by
    conv_lhs => rw [← Rat.num_div_den r]
    rw [abs_div, Nat.abs_cast, Nat.cast_natAbs, Int.cast_abs]
  have hpos : (0 : Rat) < r.den := by exact_mod_cast r.den_pos
  rw [magnitude_eq_abs, habs, powTwo, le_div_iff₀ hpos]
  calc (2 : Rat) ^ ((Nat.log2 r.num.natAbs : Int) - (Nat.log2 r.den : Int) - 1) * r.den
      ≤ 2 ^ ((Nat.log2 r.num.natAbs : Int) - (Nat.log2 r.den : Int) - 1) *
          2 ^ (Nat.log2 r.den + 1) := by gcongr
    _ = 2 ^ Nat.log2 r.num.natAbs := by
      rw [← zpow_natCast, ← zpow_natCast, ← zpow_add₀ two_ne_zero]
      congr 1
      push_cast
      ring
    _ ≤ r.num.natAbs := hnum

/-- The grid around a number is fine. -/
theorem spacing_le {r : Rat} (h : r ≠ 0) : spacing r ≤ |r| / 2 ^ 52 + powTwo (-1074) := by
  have hexponent := powTwo_exponent_le h
  rw [spacing]
  obtain hle | hle := le_total (exponent r - 52) (-1074)
  · rw [max_eq_right hle]
    have : 0 ≤ |r| / 2 ^ 52 := by positivity
    linarith
  · rw [max_eq_left hle, powTwo, zpow_sub₀ two_ne_zero]
    have hscaled : powTwo (exponent r) / 2 ^ 52 ≤ |r| / 2 ^ 52 := by gcongr
    have := powTwo_pos (-1074)
    exact le_trans hscaled (le_add_of_nonneg_right this.le)

/-! ### Rounding to an integer -/

theorem abs_roundEven_sub_le (r : Rat) : |(roundEven r : Rat) - r| ≤ 1 / 2 := by
  have hlow := Rat.floor_le r
  have hhigh := Rat.lt_floor_add_one r
  push_cast at hhigh
  rw [roundEven, abs_le]
  split_ifs
  all_goals
    push_cast
    constructor <;> linarith

theorem abs_roundAway_sub_le (r : Rat) : |(roundAway r : Rat) - r| ≤ 1 / 2 := by
  rw [roundAway, abs_le]
  split_ifs
  · have hlow := Rat.floor_le (-r + 1 / 2)
    have hhigh := Rat.lt_floor_add_one (-r + 1 / 2)
    push_cast at hhigh ⊢
    constructor <;> linarith
  · have hlow := Rat.floor_le (r + 1 / 2)
    have hhigh := Rat.lt_floor_add_one (r + 1 / 2)
    push_cast at hhigh
    constructor <;> linarith

theorem roundEven_nonneg {r : Rat} (h : 0 ≤ r) : 0 ≤ roundEven r := by
  have hclose := abs_le.mp (abs_roundEven_sub_le r)
  by_contra hneg
  have hless : (roundEven r : Rat) ≤ -1 := by exact_mod_cast Int.le_sub_one_of_lt (not_le.mp hneg)
  linarith

theorem roundEven_nonpos {r : Rat} (h : r ≤ 0) : roundEven r ≤ 0 := by
  have hclose := abs_le.mp (abs_roundEven_sub_le r)
  by_contra hpos
  have hmore : (1 : Rat) ≤ roundEven r := by exact_mod_cast not_le.mp hpos
  linarith

/-! ### Rounding to binary64 -/

/-- **The error of rounding** is half of the grid at most. -/
theorem abs_nearest_sub_le (r : Rat) :
    |nearest r - r| ≤ |r| / 2 ^ 53 + powTwo (-1075) := by
  by_cases hr : r = 0
  · subst hr
    rw [nearest, if_pos rfl, sub_zero, abs_zero, zero_div, zero_add]
    exact (powTwo_pos _).le
  have hpos : 0 < spacing r := powTwo_pos _
  have hround := abs_roundEven_sub_le (r / spacing r)
  have hsplit :
      nearest r - r = ((roundEven (r / spacing r) : Rat) - r / spacing r) * spacing r := by
    rw [nearest, if_neg hr, sub_mul, div_mul_cancel₀ r hpos.ne']
  have hhalf : powTwo (-1074) = 2 * powTwo (-1075) := by
    rw [powTwo, powTwo, show (-1074 : Int) = 1 + -1075 by norm_num, zpow_add₀ two_ne_zero, zpow_one]
  rw [hsplit, abs_mul, abs_of_pos hpos]
  calc |(roundEven (r / spacing r) : Rat) - r / spacing r| * spacing r
      ≤ 1 / 2 * (|r| / 2 ^ 52 + powTwo (-1074)) := by
        gcongr
        exact spacing_le hr
    _ = |r| / 2 ^ 53 + powTwo (-1075) := by
        rw [hhalf]
        ring

/-- Rounding does not make a number negative. -/
theorem nearest_nonneg {r : Rat} (h : 0 ≤ r) : 0 ≤ nearest r := by
  rw [nearest]
  split_ifs
  · exact le_rfl
  · have hround : (0 : Rat) ≤ roundEven (r / spacing r) := by
      exact_mod_cast roundEven_nonneg (div_nonneg h (powTwo_pos _).le)
    exact mul_nonneg hround (powTwo_pos _).le

/-- Rounding does not make a number positive. -/
theorem nearest_nonpos {r : Rat} (h : r ≤ 0) : nearest r ≤ 0 := by
  rw [nearest]
  split_ifs
  · exact le_rfl
  · have hround : (roundEven (r / spacing r) : Rat) ≤ 0 := by
      exact_mod_cast roundEven_nonpos (div_nonpos_of_nonpos_of_nonneg h (powTwo_pos _).le)
    exact mul_nonpos_of_nonpos_of_nonneg hround (powTwo_pos _).le

/-- The error of rounding, with the finest grid counted as part of one. -/
theorem abs_nearest_sub_le_add_one (r : Rat) : |nearest r - r| ≤ (|r| + 1) / 2 ^ 53 := by
  have hfinest : powTwo (-1075) ≤ 1 / 2 ^ 53 := by
    rw [powTwo, one_div, ← zpow_natCast, ← zpow_neg]
    exact zpow_le_zpow_right₀ (by norm_num) (by norm_num)
  calc |nearest r - r| ≤ |r| / 2 ^ 53 + powTwo (-1075) := abs_nearest_sub_le r
    _ ≤ |r| / 2 ^ 53 + 1 / 2 ^ 53 := by gcongr
    _ = (|r| + 1) / 2 ^ 53 := by rw [add_div]

/-- A number is not much greater than what it is rounded to. -/
theorem abs_le_of_abs_sub_le {r v : Rat} (h : |v - r| ≤ (|r| + 1) / 2 ^ 53) :
    |r| ≤ 2 * |v| + 1 := by
  have htriangle : |r| ≤ |v| + |v - r| := by
    calc |r| = |v - (v - r)| := by rw [sub_sub_cancel]
      _ ≤ |v| + |v - r| := abs_sub v (v - r)
  have hr := abs_nonneg r
  have hv := abs_nonneg v
  norm_num at h
  linarith

/-- Rounding a number of a few thousands moves it by less than a millionth. -/
theorem abs_nearest_sub_lt {r : Rat} (h : |r| ≤ 10000) : |nearest r - r| < 1 / 1000000 :=
  calc |nearest r - r| ≤ (|r| + 1) / 2 ^ 53 := abs_nearest_sub_le_add_one r
    _ ≤ (10000 + 1) / 2 ^ 53 := by gcongr
    _ < 1 / 1000000 := by norm_num

end Binary64

/-! ### Literals -/

namespace Decimal

open Binary64

namespace Literal

theorem abs_value (l : Literal) : |l.value| = (l.significand : Rat) * (10 : Rat) ^ l.scale := by
  have hsize : 0 ≤ (l.significand : Rat) * (10 : Rat) ^ l.scale := by positivity
  rw [value]
  split_ifs
  · rw [abs_neg, abs_of_nonneg hsize]
  · exact abs_of_nonneg hsize

/-- The reach of a literal is an upper bound of the exponent of ten. -/
theorem abs_value_lt (l : Literal) : |l.value| < (10 : Rat) ^ l.reach := by
  have hdigits : l.significand < 10 ^ (Digits.write l.significand).length :=
    (Nat.length_toDigits_le_iff (by decide) (List.length_pos_iff.mpr Nat.toDigits_ne_nil)).mp le_rfl
  have hdigits' : (l.significand : Rat) < (10 : Rat) ^ (Digits.write l.significand).length := by
    exact_mod_cast hdigits
  have hscale : (0 : Rat) < 10 ^ l.scale := by positivity
  rw [abs_value, reach, zpow_add₀ (by norm_num), Int.ofNat_eq_natCast, zpow_natCast]
  exact mul_lt_mul_of_pos_right hdigits' hscale

/-- **A literal is read with the error of rounding.** -/
theorem abs_sub_value_le {l : Literal} {v : Rat} (h : l.nearest? = some v) :
    |v - l.value| ≤ (|l.value| + 1) / 2 ^ 53 := by
  rw [nearest?] at h
  split_ifs at h with hsmall hlarge
  · obtain rfl := Option.some.inj h
    have htiny : |l.value| ≤ 1 / 2 ^ 53 := by
      obtain hzero | hreach := hsmall
      · rw [abs_value, hzero, Nat.cast_zero, zero_mul]
        positivity
      · calc |l.value| ≤ (10 : Rat) ^ l.reach := l.abs_value_lt.le
          _ ≤ (10 : Rat) ^ (-20 : Int) := zpow_le_zpow_right₀ (by norm_num) (by omega)
          _ ≤ 1 / 2 ^ 53 := by norm_num
    rw [zero_sub, abs_neg]
    exact htiny.trans (by gcongr; exact le_add_of_nonneg_left (abs_nonneg _))
  · dsimp only at h
    split_ifs at h
    obtain rfl := Option.some.inj h
    exact abs_nearest_sub_le_add_one l.value

end Literal

/-! ### Tenths -/

/-- Rounding to an integer, a half going away from zero, keeps what lies half a unit or more above
an integer above it. -/
theorem le_roundAway {n : Nat} {r : Rat} (h : (n : Rat) - 1 / 2 ≤ r) (hr : 0 ≤ r) :
    (n : Int) ≤ roundAway r := by
  rw [roundAway, if_neg (not_lt.mpr hr), Rat.le_floor_iff]
  push_cast
  linarith

theorem roundAway_le {n : Nat} {r : Rat} (h : r < n + 1 / 2) : roundAway r ≤ n := by
  rw [roundAway]
  split_ifs with hneg
  · have : 0 ≤ (-r + 1 / 2).floor := Rat.le_floor_iff.mpr (by push_cast; linarith)
    omega
  · rw [← Int.lt_add_one_iff, Rat.floor_lt_iff]
    push_cast
    linarith

/-- A decimal that has tenths is positive. -/
theorem pos_of_tenths_pos {v : Rat} (h : 0 < tenths v) : 0 < v := by
  by_contra hv
  have hproduct : nearest (v * 10) ≤ 0 := nearest_nonpos (by linarith)
  have hle : tenths v ≤ (0 : Nat) := roundAway_le (by push_cast; linarith)
  exact absurd h (not_lt.mpr hle)

/-- **Tenths are monotone at the numbers of tenths.** A decimal between the binary64 numbers of two
numbers of tenths, of a few thousands at most, has a number of tenths between both. -/
theorem tenths_mem_of_between {low high : Nat} {v : Rat} (hhigh : high ≤ 9000)
    (h : nearest ((low : Rat) / 10) ≤ v ∧ v ≤ nearest ((high : Rat) / 10)) (horder : low ≤ high) :
    (low : Int) ≤ tenths v ∧ tenths v ≤ high := by
  have hhigh' : (high : Rat) ≤ 9000 := by exact_mod_cast hhigh
  have hlow' : (low : Rat) ≤ high := by exact_mod_cast horder
  have hlow0 : (0 : Rat) ≤ low := by exact_mod_cast Nat.zero_le low
  have hnonneg : 0 ≤ v := le_trans (nearest_nonneg (by linarith)) h.1
  -- each of the three roundings goes less than a millionth
  have hbelow := abs_lt.mp (abs_nearest_sub_lt (r := (low : Rat) / 10)
    (abs_le.mpr ⟨by linarith, by linarith⟩))
  have habove := abs_lt.mp (abs_nearest_sub_lt (r := (high : Rat) / 10)
    (abs_le.mpr ⟨by linarith, by linarith⟩))
  have hproduct := abs_lt.mp (abs_nearest_sub_lt (r := v * 10)
    (abs_le.mpr ⟨by linarith, by linarith [h.2]⟩))
  have hproduct0 : 0 ≤ nearest (v * 10) := nearest_nonneg (by linarith)
  exact ⟨le_roundAway (by linarith [h.1]) hproduct0, roundAway_le (by linarith [h.2])⟩

/-- **Tenths are off by a half**, up to the rounding of the product. -/
theorem abs_tenths_sub_le {v : Rat} (h : |(tenths v : Rat)| ≤ 1000) :
    |(tenths v : Rat) - 10 * v| ≤ 1 / 2 + 1 / 10 ^ 9 := by
  have hround : |(tenths v : Rat) - nearest (v * 10)| ≤ 1 / 2 := abs_roundAway_sub_le _
  have herror := abs_nearest_sub_le_add_one (v * 10)
  have hsize := abs_le_of_abs_sub_le herror
  have hrounded : |nearest (v * 10)| ≤ 1001 := by
    rw [abs_le] at h hround ⊢
    constructor <;> linarith
  have hfine : |nearest (v * 10) - v * 10| ≤ 1 / 10 ^ 9 :=
    calc |nearest (v * 10) - v * 10| ≤ (|v * 10| + 1) / 2 ^ 53 := herror
      _ ≤ (2 * 1001 + 1 + 1) / 2 ^ 53 := by gcongr; linarith
      _ ≤ 1 / 10 ^ 9 := by norm_num
  calc |(tenths v : Rat) - 10 * v|
      = |((tenths v : Rat) - nearest (v * 10)) + (nearest (v * 10) - v * 10)| := by ring_nf
    _ ≤ |(tenths v : Rat) - nearest (v * 10)| + |nearest (v * 10) - v * 10| := abs_add_le _ _
    _ ≤ 1 / 2 + 1 / 10 ^ 9 := add_le_add hround hfine

/-- The same about the number that a literal denotes exactly. -/
theorem Literal.abs_tenths_sub_value_le {l : Literal} {v : Rat} (hread : l.nearest? = some v)
    (h : |(tenths v : Rat)| ≤ 1000) : |(tenths v : Rat) - 10 * l.value| ≤ 1 / 2 + 1 / 10 ^ 8 := by
  have htenths := abs_tenths_sub_le h
  have herror := l.abs_sub_value_le hread
  have hsize := abs_le_of_abs_sub_le herror
  have hv : |v| ≤ 101 := by
    rw [abs_le] at h htenths ⊢
    norm_num at htenths
    constructor <;> linarith
  have hfine : |v - l.value| ≤ 1 / 10 ^ 10 :=
    calc |v - l.value| ≤ (|l.value| + 1) / 2 ^ 53 := herror
      _ ≤ (2 * 101 + 1 + 1) / 2 ^ 53 := by gcongr; linarith
      _ ≤ 1 / 10 ^ 10 := by norm_num
  rw [abs_le] at htenths hfine ⊢
  norm_num at htenths hfine ⊢
  constructor <;> linarith

end Decimal

end InverterLink
