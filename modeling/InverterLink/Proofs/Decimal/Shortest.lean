import InverterLink.Decimal.Shortest
import InverterLink.Proofs.Decimal.Binary64
import InverterLink.Proofs.Text.Digits

/-!
# The search for the shortest decimal

The search tries finer and finer grids, and stops at the first one on which one of the two
neighbours of the number reads back. So a grid on which a neighbour does is reached unless the
search stops before it, and whatever is found reads back. It begins near the first digit of the
number, whose place follows from powers of ten below and above the number.

## Main statements

* `Shortest.onGrid?_isSome`: a decimal that reads back and lies close enough is found on its grid.
* `Shortest.exists_search`: the search stops at the grid of such a decimal, or before it.
* `Shortest.ofPositive_cases`: what is found for a positive number is positive.
* `Shortest.decimalExponent_lt`, `Shortest.le_decimalExponent`: where the search begins.
* `Shortest.positional_of_nonneg`: an integer is written with its digits alone.
-/

namespace InverterLink

namespace Digits

theorem length_write_pos (n : Nat) : 0 < (write n).length :=
  List.length_pos_iff.mpr Nat.toDigits_ne_nil

theorem length_write_le_iff {n width : Nat} (hwidth : 0 < width) :
    (write n).length ≤ width ↔ n < 10 ^ width :=
  Nat.length_toDigits_le_iff (by decide) hwidth

/-- A number of two digits or more is written as its tens, and the last digit. -/
theorem write_of_le {n : Nat} (h : 10 ≤ n) : write n = write (n / 10) ++ write (n % 10) := by
  have happend := Nat.toDigits_append_toDigits (b := 10) (n := n / 10) (d := n % 10) (by decide)
    (by omega) (by omega)
  rw [write, write, write, happend, Nat.div_add_mod]

/-- Zeros at the end of a number are written behind its digits. -/
theorem write_mul_pow {n : Nat} (h : 0 < n) (count : Nat) :
    write (n * 10 ^ count) = write n ++ List.replicate count '0' := by
  induction count with
  | zero => rw [Nat.pow_zero, Nat.mul_one, List.replicate_zero, List.append_nil]
  | succ count ih =>
    have hpos : 0 < n * 10 ^ count := Nat.mul_pos h (Nat.pow_pos (by decide))
    have hsplit : n * 10 ^ (count + 1) = 10 * (n * 10 ^ count) := by
      rw [Nat.pow_succ, Nat.mul_comm (10 ^ count), Nat.mul_left_comm]
    rw [hsplit, write_of_le (by omega), Nat.mul_div_cancel_left _ (by decide), Nat.mul_mod_right,
      ih, List.replicate_succ', List.append_assoc]
    rfl

end Digits

namespace Decimal.Shortest

variable {r : Rat} {s : Shortest} {exponent : Int}

/-! ### One grid -/

/-- What is found on a grid lies there and reads back. -/
theorem of_onGrid? (h : onGrid? r exponent = some s) :
    Binary64.nearest s.value = r ∧ s.exponent = exponent := by
  simp only [onGrid?, Bool.and_eq_true, decide_eq_true_eq] at h
  split_ifs at h with hbelow habove
  · obtain rfl := Option.some.inj h
    exact ⟨hbelow.1, rfl⟩
  · obtain rfl := Option.some.inj h
    exact ⟨habove, rfl⟩

/-- **A decimal that reads back is found on its grid** if it is less than a unit of the grid
away. -/
theorem onGrid?_isSome {n : Nat} (hread : Binary64.nearest (value ⟨n, exponent⟩) = r) (hr : 0 ≤ r)
    (hclose : |value ⟨n, exponent⟩ - r| < (10 : Rat) ^ exponent) : (onGrid? r exponent).isSome := by
  have hunit : (0 : Rat) < 10 ^ exponent := by positivity
  obtain ⟨hlow, hhigh⟩ := abs_lt.mp hclose
  rw [value] at hlow hhigh
  dsimp only at hlow hhigh
  -- in units of the grid, the number lies less than one away from the integer
  have habove : r / 10 ^ exponent < (n : Rat) + 1 := by
    rw [div_lt_iff₀ hunit]
    linarith
  have hbelow : (n : Rat) - 1 < r / 10 ^ exponent := by
    rw [lt_div_iff₀ hunit]
    linarith
  have hfloor : (r / 10 ^ exponent).floor.toNat = n ∨ (r / 10 ^ exponent).floor.toNat + 1 = n := by
    have hless : (r / 10 ^ exponent).floor < n + 1 :=
      Rat.floor_lt_iff.mpr (by push_cast; exact habove)
    have hmore : (n : Int) - 1 ≤ (r / 10 ^ exponent).floor :=
      Rat.le_floor_iff.mpr (by push_cast; exact hbelow.le)
    have hnonneg : 0 ≤ (r / 10 ^ exponent).floor :=
      Rat.le_floor_iff.mpr (by push_cast; exact div_nonneg hr hunit.le)
    omega
  rw [onGrid?]
  dsimp only
  split_ifs with hfirst hsecond
  · rfl
  · rfl
  · -- neither neighbour is taken, so that neither reads back
    have hneither : Binary64.nearest (value ⟨(r / 10 ^ exponent).floor.toNat, exponent⟩) ≠ r ∧
        Binary64.nearest (value ⟨(r / 10 ^ exponent).floor.toNat + 1, exponent⟩) ≠ r := by
      simp only [Bool.and_eq_true, Bool.or_eq_true, Bool.not_eq_true', decide_eq_true_eq,
        decide_eq_false_iff_not] at hfirst hsecond
      exact ⟨fun hread => hfirst ⟨hread, .inl hsecond⟩, hsecond⟩
    obtain hlow | hlow := hfloor
    · exact absurd (hlow ▸ hread) hneither.1
    · exact absurd (hlow ▸ hread) hneither.2

/-! ### The grids in order -/

/-- **The search stops where a decimal reads back**, or before: what it gives was found on a grid
between its first one and that of the decimal. -/
theorem exists_search {start : Int} {count steps : Nat} (hsteps : steps ≤ count)
    (h : (onGrid? r (start - steps)).isSome) :
    ∃ j ≤ steps, onGrid? r (start - j) = some (search r start count) := by
  induction count generalizing start steps with
  | zero =>
    obtain rfl : steps = 0 := Nat.le_zero.mp hsteps
    obtain ⟨found, hfound⟩ := Option.isSome_iff_exists.mp h
    rw [Nat.cast_zero, Int.sub_zero] at hfound
    refine ⟨0, Nat.le_refl 0, ?_⟩
    rw [search, Nat.cast_zero, Int.sub_zero, hfound, Option.getD_some]
  | succ count ih =>
    rw [search]
    cases hfirst : onGrid? r start with
    | some found =>
      refine ⟨0, Nat.zero_le steps, ?_⟩
      rw [Nat.cast_zero, Int.sub_zero, hfirst, Option.getD_some]
    | none =>
      cases steps with
      | zero =>
        rw [Nat.cast_zero, Int.sub_zero, hfirst] at h
        cases h
      | succ steps =>
        have hshift (k : Nat) : start - (k + 1 : Nat) = start - 1 - k := by omega
        rw [hshift] at h
        obtain ⟨j, hj, hfound⟩ := ih (Nat.le_of_succ_le_succ hsteps) h
        refine ⟨j + 1, Nat.succ_le_succ hj, ?_⟩
        rw [hshift, hfound, Option.getD_none]

/-- What the search gives was found on a grid, unless it is zero. -/
theorem search_cases (r : Rat) (exponent : Int) (count : Nat) :
    (∃ e, onGrid? r e = some (search r exponent count)) ∨ search r exponent count = ⟨0, 0⟩ := by
  induction count generalizing exponent with
  | zero =>
    rw [search]
    cases h : onGrid? r exponent with
    | some found => exact .inl ⟨exponent, h⟩
    | none => exact .inr rfl
  | succ count ih =>
    rw [search]
    cases h : onGrid? r exponent with
    | some found => exact .inl ⟨exponent, h⟩
    | none => exact ih (exponent - 1)

/-- What is found for a positive number is positive, unless nothing is found. -/
theorem ofPositive_cases (hr : 0 < r) : 0 < (ofPositive r).significand ∨ ofPositive r = ⟨0, 0⟩ := by
  refine (search_cases r _ 18).imp (fun ⟨exponent, hfound⟩ => ?_) id
  obtain ⟨hread, -⟩ := of_onGrid? hfound
  refine Nat.pos_of_ne_zero fun hzero => hr.ne' ?_
  have hvalue : (ofPositive r).value = 0 := by rw [value, hzero, Nat.cast_zero, zero_mul]
  exact hread.symm.trans (if_pos hvalue)

/-! ### Where the search begins -/

/-- A number below a power of ten has an exponent below it. -/
theorem decimalExponent_lt {n : Nat} (hn : 0 < n) (h : r < 10 ^ n) : decimalExponent r < n := by
  rw [decimalExponent]
  split_ifs with hone
  · have hfloor : r.floor < (10 ^ n : Nat) := Rat.floor_lt_iff.mpr (by push_cast; exact h)
    have hpow : 0 < 10 ^ n := Nat.pow_pos (by decide)
    have hlength := (Digits.length_write_le_iff hn).mpr (show r.floor.toNat < 10 ^ n by omega)
    rw [Int.ofNat_eq_natCast]
    omega
  · rw [Int.ofNat_eq_natCast]
    omega

/-- A number from a power of ten on has an exponent from it on. -/
theorem le_decimalExponent {n : Nat} (hn : 0 < n) (h : 1 / 10 ^ n ≤ r) :
    -(n : Int) ≤ decimalExponent r := by
  have hpow : (0 : Rat) < 10 ^ n := by positivity
  have hr : 0 < r := lt_of_lt_of_le (by positivity) h
  rw [decimalExponent]
  split_ifs
  · rw [Int.ofNat_eq_natCast]
    omega
  · have hceil : (1 / r).ceil ≤ (10 ^ n : Nat) := by
      rw [Rat.ceil_le_iff, div_le_iff₀ hr]
      push_cast
      rwa [div_le_iff₀' hpow] at h
    have hpos : 0 < 10 ^ n := Nat.pow_pos (by decide)
    have hlength := (Digits.length_write_le_iff hn).mpr
      (show (1 / r).ceil.toNat - 1 < 10 ^ n by omega)
    rw [Int.ofNat_eq_natCast]
    omega

/-! ### Layout -/

/-- An integer is written with its digits alone. -/
theorem positional_of_nonneg (hpos : 0 < s.significand) (h : 0 ≤ s.exponent) :
    s.positional = Digits.write (s.significand * 10 ^ s.exponent.toNat) := by
  rw [positional, if_pos h, digits, Digits.write_mul_pow hpos]

/-- The point of an integer stands behind all of its digits. -/
theorem point_of_nonneg (hpos : 0 < s.significand) (h : 0 ≤ s.exponent) :
    s.point = (Digits.write (s.significand * 10 ^ s.exponent.toNat)).length := by
  rw [point, digits, Digits.write_mul_pow hpos, List.length_append, List.length_replicate,
    Int.ofNat_eq_natCast]
  omega

/-- A number of tenths is written with one digit behind the point. -/
theorem positional_of_tenths (n : Nat) :
    positional ⟨n, -1⟩ = Digits.write (n / 10) ++ '.' :: Digits.write (n % 10) := by
  rw [positional, if_neg (show ¬ (0 : Int) ≤ -1 by decide), point, digits]
  dsimp only
  obtain hsmall | hlarge := Nat.lt_or_ge n 10
  · have hlength := Digits.length_write_of_lt hsmall
    rw [hlength, if_neg (by decide), Nat.div_eq_of_lt hsmall, Nat.mod_eq_of_lt hsmall]
    rfl
  · have hlast := Digits.length_write_of_lt (Nat.mod_lt n (show 0 < 10 by decide))
    have hfront := Digits.length_write_pos (n / 10)
    have hpoint : Int.ofNat (Digits.write n).length + -1 = (Digits.write (n / 10)).length := by
      rw [Digits.write_of_le hlarge, List.length_append, hlast, Int.ofNat_eq_natCast]
      omega
    rw [hpoint, if_pos (by omega), Int.toNat_natCast, Digits.write_of_le hlarge, List.take_left,
      List.drop_left]

end Decimal.Shortest

end InverterLink
