import InverterLink.Format
import InverterLink.Proofs.Decimal.Shortest

/-!
# Tenths are written exactly

A reading in tenths is divided in binary64 before it is written, and the quotient is hardly ever a
number of tenths itself. But rounding moves it by far less than a tenth, so no other decimal with at
most one digit behind the point reads back as the quotient. The grids that the search tries down to
the tenths hold only such decimals, and on the grid of tenths, or on that of the integers if the
reading is one, the reading is found.

## Main statements

* `Decimal.value_eq_of_nearest_eq`: decimals of tenths are told apart by what they read back as.
* `Decimal.ofPositive_tenths`: what is found for a reading in tenths.
* `Value.tenths_written`: how a reading in tenths is written.
-/

namespace InverterLink

namespace Decimal

open Binary64

variable {v : Nat}

/-! ### Rounding a number of tenths -/

/-- Rounding a number of tenths moves it by less than a thousandth. -/
theorem abs_nearest_tenths_sub_lt (hv : v < 2 ^ 32) :
    |nearest ((v : Rat) / 10) - v / 10| < 1 / 1000 := by
  have hv' : (v : Rat) < 2 ^ 32 := by exact_mod_cast hv
  have hnonneg : (0 : Rat) ≤ (v : Rat) / 10 := by positivity
  have herror := abs_nearest_sub_le_add_one ((v : Rat) / 10)
  rw [abs_of_nonneg hnonneg] at herror
  calc |nearest ((v : Rat) / 10) - v / 10| ≤ ((v : Rat) / 10 + 1) / 2 ^ 53 := herror
    _ ≤ (2 ^ 32 / 10 + 1) / 2 ^ 53 := by gcongr
    _ < 1 / 1000 := by norm_num

/-- A decimal with at most one digit behind the point is a number of tenths. -/
theorem value_eq_div_ten {s : Shortest} (h : -1 ≤ s.exponent) :
    s.value = ((s.significand * 10 ^ (s.exponent + 1).toNat : Nat) : Rat) / 10 := by
  obtain ⟨count, hcount⟩ := Int.eq_ofNat_of_zero_le (show 0 ≤ s.exponent + 1 by omega)
  have hexponent : s.exponent = (count : Int) - 1 := by omega
  rw [Shortest.value, hcount, hexponent, zpow_sub₀ (by norm_num), zpow_one, zpow_natCast]
  push_cast
  rw [Int.toNat_natCast, mul_div_assoc]

/-- The significand of a number of tenths. -/
theorem significand_mul_pow {s : Shortest} (hs : -1 ≤ s.exponent) (h : s.value = (v : Rat) / 10) :
    s.significand * 10 ^ (s.exponent + 1).toNat = v := by
  rw [value_eq_div_ten hs, div_left_inj' (by norm_num)] at h
  exact_mod_cast h

/-- **Numbers of tenths are told apart by what they read back as.** -/
theorem value_eq_of_nearest_eq (hv : v < 2 ^ 32) {s : Shortest} (hs : -1 ≤ s.exponent)
    (h : nearest s.value = nearest ((v : Rat) / 10)) : s.value = (v : Rat) / 10 := by
  have hv' : (v : Rat) < 2 ^ 32 := by exact_mod_cast hv
  have hreading := abs_nearest_tenths_sub_lt hv
  have herror := abs_nearest_sub_le_add_one s.value
  have hsize := abs_le_of_abs_sub_le herror
  rw [h] at herror hsize
  have hnonneg : 0 ≤ nearest ((v : Rat) / 10) := nearest_nonneg (by positivity)
  rw [abs_of_nonneg hnonneg] at hsize
  have hclose : |nearest ((v : Rat) / 10) - s.value| < 1 / 1000 := by
    have hbound : nearest ((v : Rat) / 10) < 2 ^ 32 := by
      have := (abs_lt.mp hreading).2
      linarith
    calc |nearest ((v : Rat) / 10) - s.value| ≤ (|s.value| + 1) / 2 ^ 53 := herror
      _ ≤ (2 * 2 ^ 32 + 1 + 1) / 2 ^ 53 := by gcongr; linarith
      _ < 1 / 1000 := by norm_num
  -- both decimals are numbers of tenths, less than a tenth apart
  rw [value_eq_div_ten hs] at hclose ⊢
  generalize s.significand * 10 ^ (s.exponent + 1).toNat = n at hclose ⊢
  rw [abs_lt] at hreading hclose
  have hupper : n < v + 1 := by
    have : (n : Rat) < v + 1 := by linarith
    exact_mod_cast this
  have hlower : v < n + 1 := by
    have : (v : Rat) < n + 1 := by linarith
    exact_mod_cast this
  rw [show n = v by omega]

/-! ### The search -/

/-- A number of tenths is found on a grid on which it lies, from the tenths up. -/
theorem onGrid?_tenths (hv : v < 2 ^ 32) {s : Shortest} (hs : -1 ≤ s.exponent)
    (h : s.value = (v : Rat) / 10) :
    (Shortest.onGrid? (nearest ((v : Rat) / 10)) s.exponent).isSome := by
  refine Shortest.onGrid?_isSome (n := s.significand) (congrArg nearest h)
    (nearest_nonneg (by positivity)) ?_
  have hunit : (10 : Rat) ^ (-1 : Int) ≤ 10 ^ s.exponent :=
    zpow_le_zpow_right₀ (by norm_num) hs
  have hclose := abs_nearest_tenths_sub_lt hv
  rw [abs_sub_comm]
  calc |nearest ((v : Rat) / 10) - s.value| = |nearest ((v : Rat) / 10) - v / 10| := by rw [h]
    _ < 1 / 1000 := hclose
    _ ≤ (10 : Rat) ^ (-1 : Int) := by norm_num
    _ ≤ 10 ^ s.exponent := hunit

/-- The search begins above a decimal of tenths, and less than eighteen grids away from it. -/
theorem decimalExponent_tenths (hv : v < 2 ^ 32) {s : Shortest}
    (hs : s.exponent = -1 ∨ s.exponent = 0) (hpos : 0 < s.significand)
    (h : s.value = (v : Rat) / 10) :
    s.exponent - 1 ≤ Shortest.decimalExponent (nearest ((v : Rat) / 10)) ∧
      Shortest.decimalExponent (nearest ((v : Rat) / 10)) < (10 : Nat) := by
  have hv' : (v : Rat) < 2 ^ 32 := by exact_mod_cast hv
  have hone : (1 : Rat) ≤ s.significand := by exact_mod_cast hpos
  have hclose := abs_lt.mp (abs_nearest_tenths_sub_lt hv)
  rw [Shortest.value] at h
  constructor
  · obtain hexponent | hexponent := hs
    · rw [hexponent] at h ⊢
      norm_num at h
      exact Shortest.le_decimalExponent (n := 2) (by decide) (by norm_num; linarith)
    · rw [hexponent] at h ⊢
      norm_num at h
      exact Shortest.le_decimalExponent (n := 1) (by decide) (by norm_num; linarith)
  · exact Shortest.decimalExponent_lt (by decide) (by norm_num; linarith)

/-- **What is found for a number of tenths** has its value, and lies on a grid at least as coarse as
that of the tenths or of the integers on which it is known to lie. -/
theorem ofPositive_tenths (hv : v < 2 ^ 32) {s : Shortest} (hs : s.exponent = -1 ∨ s.exponent = 0)
    (hpos : 0 < s.significand) (h : s.value = (v : Rat) / 10) :
    (Shortest.ofPositive (nearest ((v : Rat) / 10))).value = (v : Rat) / 10 ∧
      s.exponent ≤ (Shortest.ofPositive (nearest ((v : Rat) / 10))).exponent := by
  obtain ⟨hlow, hhigh⟩ := decimalExponent_tenths hv hs hpos h
  have hfound := onGrid?_tenths hv (s := s) (by omega) h
  set r := nearest ((v : Rat) / 10)
  -- the search comes to the grid of the decimal unless it stops before it
  obtain ⟨steps, hsteps⟩ := Int.eq_ofNat_of_zero_le
    (show 0 ≤ Shortest.decimalExponent r + 1 - s.exponent by omega)
  have hgrid : Shortest.decimalExponent r + 1 - steps = s.exponent := by omega
  rw [← hgrid] at hfound
  obtain ⟨j, hj, hsearch⟩ : ∃ j ≤ steps, Shortest.onGrid? r (Shortest.decimalExponent r + 1 - j) =
      some (Shortest.ofPositive r) := Shortest.exists_search (by omega) hfound
  obtain ⟨hread, hexponent⟩ := Shortest.of_onGrid? hsearch
  have hle : s.exponent ≤ (Shortest.ofPositive r).exponent := by
    rw [hexponent]
    omega
  exact ⟨value_eq_of_nearest_eq hv (by omega) hread, hle⟩

/-- The decimal that is found for a number of tenths: an integer, or the reading on the grid of
tenths. -/
theorem ofPositive_tenths_cases (hpos : 0 < v) (hv : v < 2 ^ 32) {s : Shortest}
    (hs : Shortest.ofPositive (nearest ((v : Rat) / 10)) = s) :
    (v % 10 = 0 ∧ 0 ≤ s.exponent ∧ 0 < s.significand ∧
      s.significand * 10 ^ s.exponent.toNat = v / 10) ∨
      (v % 10 ≠ 0 ∧ s = ⟨v, -1⟩) := by
  by_cases hwhole : v % 10 = 0
  · obtain ⟨n, rfl⟩ := Nat.dvd_of_mod_eq_zero hwhole
    have hinteger : Shortest.value ⟨n, 0⟩ = ((10 * n : Nat) : Rat) / 10 := by
      rw [Shortest.value]
      push_cast
      ring
    obtain ⟨hvalue, hle⟩ := ofPositive_tenths hv (.inr rfl) (Nat.pos_of_mul_pos_left hpos) hinteger
    rw [hs] at hvalue hle
    dsimp only at hle
    have hproduct := significand_mul_pow (by omega) hvalue
    rw [Int.toNat_add hle (by decide), Int.toNat_one, Nat.pow_succ, ← Nat.mul_assoc,
      Nat.mul_comm 10 n] at hproduct
    have hsame := Nat.eq_of_mul_eq_mul_right (by decide) hproduct
    have hpositive : 0 < s.significand * 10 ^ s.exponent.toNat := by omega
    refine .inl ⟨hwhole, hle, Nat.pos_of_mul_pos_right hpositive, ?_⟩
    rw [hsame, Nat.mul_div_cancel_left _ (by decide)]
  · have htenths : Shortest.value ⟨v, -1⟩ = (v : Rat) / 10 := by
      rw [Shortest.value]
      norm_num
      ring
    obtain ⟨hvalue, hle⟩ := ofPositive_tenths hv (.inl rfl) hpos htenths
    rw [hs] at hvalue hle
    have hproduct := significand_mul_pow hle hvalue
    obtain ⟨significand, exponent⟩ := s
    dsimp only at hle hproduct
    -- on a coarser grid the reading would be an integer
    obtain rfl : exponent = -1 := by
      by_contra hne
      have hnat : (exponent + 1).toNat = exponent.toNat + 1 := by omega
      rw [hnat, Nat.pow_succ, ← Nat.mul_assoc] at hproduct
      omega
    rw [Int.add_left_neg, Int.toNat_zero, Nat.pow_zero, Nat.mul_one] at hproduct
    exact .inr ⟨hwhole, by rw [hproduct]⟩

/-! ### The written forms -/

theorem nearest_zero : nearest 0 = 0 :=
  if_pos rfl

theorem nearest_tenths_pos (hpos : 0 < v) (hv : v < 2 ^ 32) : 0 < nearest ((v : Rat) / 10) := by
  have hone : (1 : Rat) ≤ v := by exact_mod_cast hpos
  have hclose := abs_lt.mp (abs_nearest_tenths_sub_lt hv)
  linarith

/-- **A number of tenths is written in full**, without a point if it is an integer. -/
theorem plain_tenths (hv : v < 2 ^ 32) :
    plain (nearest ((v : Rat) / 10)) =
      Digits.write (v / 10) ++ if v % 10 = 0 then [] else '.' :: Digits.write (v % 10) := by
  obtain rfl | hpos := Nat.eq_zero_or_pos v
  · rw [Nat.cast_zero, zero_div, nearest_zero, plain, if_pos le_rfl]
    rfl
  rw [plain, if_neg (not_le.mpr (nearest_tenths_pos hpos hv))]
  obtain ⟨hwhole, hexponent, hsignificand, hproduct⟩ | ⟨htenths, hfound⟩ :=
    ofPositive_tenths_cases hpos hv rfl
  · rw [Shortest.positional_of_nonneg hsignificand hexponent, hproduct, if_pos hwhole,
      List.append_nil]
  · rw [hfound, Shortest.positional_of_tenths, if_neg htenths]

/-- Where an exponent could be used, a number of tenths is written in full as well, with one digit
behind the point. -/
theorem scientific_tenths (hv : v < 2 ^ 32) :
    scientific (nearest ((v : Rat) / 10)) =
      Digits.write (v / 10) ++ '.' :: Digits.write (v % 10) := by
  obtain rfl | hpos := Nat.eq_zero_or_pos v
  · rw [Nat.cast_zero, zero_div, nearest_zero, scientific, if_pos le_rfl]
    rfl
  have hwidth {n : Nat} (hn : n ≤ v) : (Digits.write n).length ≤ 10 :=
    (Digits.length_write_le_iff (by decide)).mpr (by omega)
  rw [scientific, if_neg (not_le.mpr (nearest_tenths_pos hpos hv))]
  dsimp only
  obtain ⟨hwhole, hexponent, hsignificand, hproduct⟩ | ⟨htenths, hfound⟩ :=
    ofPositive_tenths_cases hpos hv rfl
  · have hlength := hwidth (Nat.div_le_self v 10)
    have hpoint := Shortest.point_of_nonneg hsignificand hexponent
    rw [hproduct] at hpoint
    rw [if_neg (by omega), if_pos hexponent, Shortest.positional_of_nonneg hsignificand hexponent,
      hproduct, hwhole]
    rfl
  · have hlength := hwidth (Nat.le_refl v)
    have hpoint : Shortest.point ⟨v, -1⟩ = (Digits.write v).length - 1 := rfl
    rw [hfound, if_neg (by omega), if_neg (show ¬ (0 : Int) ≤ -1 by decide),
      Shortest.positional_of_tenths]

end Decimal

namespace Value

variable {reading : Nat}

theorem quotient_ten (reading : Nat) :
    quotient reading 10 = Binary64.nearest ((reading : Rat) / 10) := by
  rw [quotient]
  norm_num

theorem plain_tenths (h : reading < 2 ^ 32) :
    (tenths reading).plain = Digits.write (reading / 10) ++
      if reading % 10 = 0 then [] else '.' :: Digits.write (reading % 10) := by
  rw [tenths, plain, quotient_ten, Decimal.plain_tenths h]

theorem write_tenths (h : reading < 2 ^ 32) (simple : Bool) :
    ((tenths reading).toJson simple).write =
      Digits.write (reading / 10) ++ '.' :: Digits.write (reading % 10) := by
  rw [tenths, toJson, quotient_ten, Json.write, Decimal.scientific_tenths h]

/-- No digit stands behind the integer part. -/
theorem head?_tenths (reading : Nat) :
    ∀ c ∈ (if reading % 10 = 0 then [] else '.' :: Digits.write (reading % 10)).head?,
      c.isDigit = false := by
  split_ifs
  · exact nofun
  · rintro c hc
    obtain rfl := Option.mem_some.mp hc
    rfl

/-- **Readings in tenths are written exactly.** In a table, a reading is written as its integer part
and, if there are tenths, a point and their digit. In both JSON forms the point and the digit are
there in any case. So no two readings are written alike. -/
theorem tenths_written (reading : UInt32) :
    (tenths reading.toNat).plain = Digits.write (reading.toNat / 10) ++
        (if reading.toNat % 10 = 0 then [] else '.' :: Digits.write (reading.toNat % 10)) ∧
      (∀ simple, ((tenths reading.toNat).toJson simple).write =
        (tenths reading.toNat).plain ++ if reading.toNat % 10 = 0 then ['.', '0'] else []) ∧
      ∀ other : UInt32, other ≠ reading →
        (tenths other.toNat).plain ≠ (tenths reading.toNat).plain ∧
          ∀ simple, ((tenths other.toNat).toJson simple).write ≠
            ((tenths reading.toNat).toJson simple).write := by
  refine ⟨plain_tenths reading.toNat_lt, fun simple => ?_, fun other hne => ⟨fun heq => hne ?_,
    fun simple heq => hne ?_⟩⟩
  · rw [write_tenths reading.toNat_lt, plain_tenths reading.toNat_lt]
    split_ifs with hwhole
    · rw [hwhole, List.append_nil]
      rfl
    · rw [List.append_nil]
  · rw [plain_tenths other.toNat_lt, plain_tenths reading.toNat_lt] at heq
    obtain ⟨htens, hrest⟩ := Digits.eq_of_append_eq (head?_tenths _) (head?_tenths _) heq
    refine UInt32.toNat_inj.mp ?_
    split_ifs at hrest with hwhole hwhole'
    · omega
    · have := Digits.write_injective (List.cons.inj hrest).2
      omega
  · rw [write_tenths other.toNat_lt, write_tenths reading.toNat_lt] at heq
    obtain ⟨htens, hrest⟩ := Digits.eq_of_append_eq (by simp) (by simp) heq
    have hlast := Digits.write_injective (List.cons.inj hrest).2
    exact UInt32.toNat_inj.mp (by omega)

end Value

end InverterLink
