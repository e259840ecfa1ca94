import InverterLink.Proofs.Text.Utf8
import InverterLink.Text.Digits
import Mathlib.Algebra.Group.Nat.Defs

/-!
# Numerals are read as they were written

A padded numeral holds nothing but digits, it has the width that it was padded to if the number is
small enough for it, and it denotes the number that was written. Its digits are one byte each. What
is read as a number is a numeral, so that a sign in front of it makes a difference.
-/

namespace InverterLink

/-! ### Digits as bytes -/

/-- The code points of digits. -/
theorem Digits.toNat_of_isDigit {c : Char} (h : c.isDigit) : 0x30 ≤ c.toNat ∧ c.toNat ≤ 0x39 := by
  rw [Char.isDigit, Bool.and_eq_true, decide_eq_true_iff, decide_eq_true_iff] at h
  exact ⟨UInt32.le_iff_toNat_le.mp h.1, UInt32.le_iff_toNat_le.mp h.2⟩

/-- A digit is a byte that stands for itself. -/
theorem Utf8.encodeChar_of_isDigit {c : Char} (h : c.isDigit) :
    String.utf8EncodeChar c = [UInt8.ofNat c.toNat] ∧ c.toNat < 0x80 := by
  have hlow := (Digits.toNat_of_isDigit h).2
  constructor
  · rw [String.utf8EncodeChar]
    exact if_pos (Nat.le_trans hlow (by decide))
  · exact Nat.lt_of_le_of_lt hlow (by decide)

/-- Digits are as many bytes as characters, and can be read off them one by one. -/
theorem Utf8.encode_of_isDigit {cs : List Char} (h : ∀ c ∈ cs, c.isDigit) :
    (encode cs).map (fun byte => Char.ofNat byte.toNat) = cs := by
  induction cs with
  | nil => rfl
  | cons c cs ih =>
    obtain ⟨hencode, hlow⟩ := encodeChar_of_isDigit (h c List.mem_cons_self)
    rw [encode_cons, hencode, List.singleton_append, List.map_cons,
      ih fun d hd => h d (List.mem_cons_of_mem c hd),
      toNat_ofNat_of_lt (Nat.lt_trans hlow (by decide)), Char.ofNat_toNat]

theorem Utf8.byteLength_of_isDigit {cs : List Char} (h : ∀ c ∈ cs, c.isDigit) :
    byteLength cs = cs.length := by
  conv_rhs => rw [← encode_of_isDigit h, List.length_map, length_encode]

/-- A run of characters of one class ends where something else begins. -/
theorem eq_of_run_append_eq {IsPart : Char → Prop} {run run' rest rest' : List Char}
    (hrun : ∀ c ∈ run, IsPart c) (hrun' : ∀ c ∈ run', IsPart c)
    (hrest : ∀ c ∈ rest.head?, ¬ IsPart c) (hrest' : ∀ c ∈ rest'.head?, ¬ IsPart c)
    (h : run ++ rest = run' ++ rest') : run = run' ∧ rest = rest' := by
  induction run generalizing run' with
  | nil =>
    cases run' with
    | nil => exact ⟨rfl, h⟩
    | cons c run' =>
      obtain rfl : rest = c :: (run' ++ rest') := h
      exact absurd (hrun' c List.mem_cons_self) (hrest c rfl)
  | cons c run ih =>
    obtain ⟨hc, hrun⟩ := List.forall_mem_cons.mp hrun
    cases run' with
    | nil =>
      obtain rfl : c :: (run ++ rest) = rest' := h
      exact absurd hc (hrest' c rfl)
    | cons c' run' =>
      obtain ⟨rfl, hbehind⟩ := List.cons.inj h
      obtain ⟨rfl, hrests⟩ := ih hrun (List.forall_mem_cons.mp hrun').2 hbehind
      exact ⟨rfl, hrests⟩

namespace Digits

/-! ### Padded numerals -/

theorem isDigit_of_mem_writePadded {width n : Nat} {c : Char} (h : c ∈ writePadded width n) :
    c.isDigit := by
  rw [writePadded, List.leftpad, List.mem_append] at h
  obtain hzero | hdigit := h
  · rw [List.eq_of_mem_replicate hzero]
    rfl
  · exact Nat.isDigit_of_mem_toDigits (by decide) (by decide) hdigit

theorem writePadded_ne_nil (width n : Nat) : writePadded width n ≠ [] :=
  List.append_ne_nil_of_right_ne_nil _ Nat.toDigits_ne_nil

/-- No numeral holds a comma. -/
theorem comma_notMem_writePadded (width n : Nat) : ',' ∉ writePadded width n := fun h =>
  absurd (isDigit_of_mem_writePadded h) (by decide)

/-- A numeral has the width that it is padded to, if the number is small enough. -/
theorem length_writePadded {width n : Nat} (hwidth : 0 < width) (h : n < 10 ^ width) :
    (writePadded width n).length = width := by
  rw [writePadded, List.length_leftpad]
  exact Nat.max_eq_left ((Nat.length_toDigits_le_iff (by decide) hwidth).mpr h)

theorem byteLength_writePadded {width n : Nat} (hwidth : 0 < width) (h : n < 10 ^ width) :
    Utf8.byteLength (writePadded width n) = width := by
  rw [Utf8.byteLength_of_isDigit fun _ => isDigit_of_mem_writePadded, length_writePadded hwidth h]

/-- **A padded numeral denotes the number that was written.** -/
theorem read?_writePadded (width n : Nat) : read? (writePadded width n) = some n := by
  have hnumeral : isNumeral (writePadded width n) = true := by
    rw [isNumeral, Bool.and_eq_true]
    constructor
    · rw [Bool.not_eq_true', List.isEmpty_eq_false_iff]
      exact writePadded_ne_nil width n
    · exact List.all_eq_true.mpr fun _ => isDigit_of_mem_writePadded
  rw [read?, if_pos hnumeral, writePadded, List.leftpad, Nat.ofDigitChars_append,
    Nat.ofDigitChars_replicate_zero, Nat.mul_zero, write, Nat.ofDigitChars_ten_toDigits]

/-! ### Numerals that are read -/

theorem read?_eq_some_iff {cs : List Char} {n : Nat} :
    read? cs = some n ↔ isNumeral cs = true ∧ Nat.ofDigitChars 10 cs 0 = n := by
  rw [read?]
  split_ifs with h <;> simp [h]

theorem isNumeral_iff {cs : List Char} :
    isNumeral cs = true ↔ cs ≠ [] ∧ ∀ c ∈ cs, c.isDigit = true := by
  simp [isNumeral]

/-- A number is read as it was written. -/
theorem read?_write (n : Nat) : read? (write n) = some n := by
  have h := read?_writePadded 0 n
  rwa [writePadded, List.leftpad, Nat.zero_sub, List.replicate_zero, List.nil_append] at h

theorem isNumeral_write (n : Nat) : isNumeral (write n) = true :=
  (read?_eq_some_iff.mp (read?_write n)).1

/-- Some of the digits of a numeral are a numeral. -/
theorem isNumeral_of_subset {cs ds : List Char} (h : isNumeral cs = true) (hsubset : ds ⊆ cs)
    (hne : ds ≠ []) : isNumeral ds = true :=
  isNumeral_iff.mpr ⟨hne, fun c hc => (isNumeral_iff.mp h).2 c (hsubset hc)⟩

/-- A numeral has no sign, so that it is read in the same way where a sign may stand. -/
theorem readSignedBelow?_of_read? {bound n : Nat} {cs : List Char} (h : read? cs = some n)
    (hn : n < bound) : readSignedBelow? bound cs = some n := by
  have hdigits := (isNumeral_iff.mp (read?_eq_some_iff.mp h).1).2
  have hplain : readSignedBelow? bound cs = readBelow? bound cs := by
    rw [readSignedBelow?]
    rintro rest rfl
    exact absurd (hdigits '+' List.mem_cons_self) (by decide)
  rw [hplain, readBelow?, h]
  simp [hn]

/-! ### Numerals of one size -/

/-- The digits of a numeral bound its number. -/
theorem ofDigitChars_lt {cs : List Char} (h : ∀ c ∈ cs, c.isDigit = true) :
    Nat.ofDigitChars 10 cs 0 < 10 ^ cs.length := by
  induction cs with
  | nil => exact Nat.one_pos
  | cons c cs ih =>
    obtain ⟨hc, hcs⟩ := List.forall_mem_cons.mp h
    have hdigit := (toNat_of_isDigit hc).2
    have hrest := ih hcs
    rw [Nat.ofDigitChars_cons, Nat.ofDigitChars_eq_ofDigitChars_zero, Nat.mul_zero, Nat.zero_add,
      show '0'.toNat = 48 from rfl]
    calc 10 ^ cs.length * (c.toNat - 48) + Nat.ofDigitChars 10 cs 0
        < 10 ^ cs.length * (c.toNat - 48) + 10 ^ cs.length := Nat.add_lt_add_left hrest _
      _ = 10 ^ cs.length * (c.toNat - 48 + 1) := (Nat.mul_succ _ _).symm
      _ ≤ 10 ^ cs.length * 10 := Nat.mul_le_mul_left _ (by omega)
      _ = 10 ^ (c :: cs).length := (Nat.pow_succ ..).symm

/-- Numerals of one size are the same if their numbers are. -/
theorem eq_of_ofDigitChars_eq {cs ds : List Char} (hcs : ∀ c ∈ cs, c.isDigit = true)
    (hds : ∀ d ∈ ds, d.isDigit = true) (hlength : cs.length = ds.length)
    (h : Nat.ofDigitChars 10 cs 0 = Nat.ofDigitChars 10 ds 0) : cs = ds := by
  induction cs generalizing ds with
  | nil => exact (List.eq_nil_of_length_eq_zero hlength.symm).symm
  | cons c cs ih =>
    obtain ⟨d, ds, rfl⟩ := List.exists_cons_of_length_eq_add_one hlength.symm
    obtain ⟨hc, hcs⟩ := List.forall_mem_cons.mp hcs
    obtain ⟨hd, hds⟩ := List.forall_mem_cons.mp hds
    have hsize : cs.length = ds.length := Nat.succ.inj hlength
    have hcsLt := ofDigitChars_lt hcs
    have hdsLt := ofDigitChars_lt hds
    rw [Nat.ofDigitChars_cons, Nat.ofDigitChars_eq_ofDigitChars_zero, Nat.ofDigitChars_cons,
      Nat.ofDigitChars_eq_ofDigitChars_zero (l := ds), Nat.mul_zero, Nat.zero_add, Nat.zero_add,
      hsize] at h
    rw [hsize] at hcsLt
    -- the first digits are the quotients of both numbers by a power of ten, the others the
    -- remainders
    have hquotient := congrArg (· / 10 ^ ds.length) h
    have hremainder := congrArg (· % 10 ^ ds.length) h
    have hpos : 0 < 10 ^ ds.length := Nat.pow_pos (by decide)
    simp only [Nat.mul_add_div hpos, Nat.div_eq_of_lt hcsLt, Nat.div_eq_of_lt hdsLt,
      Nat.add_zero] at hquotient
    simp only [Nat.mul_add_mod, Nat.mod_eq_of_lt hcsLt, Nat.mod_eq_of_lt hdsLt] at hremainder
    have hfirst : c.toNat = d.toNat := by
      have hcLow := (toNat_of_isDigit hc).1
      have hdLow := (toNat_of_isDigit hd).1
      rw [show '0'.toNat = 48 from rfl] at hquotient
      omega
    rw [Char.toNat_inj.mp hfirst, ih hcs hds hsize hremainder]

/-- **A numeral is written as it was read**, if it is padded to its size. -/
theorem writePadded_of_read? {cs : List Char} {n : Nat} (h : read? cs = some n) :
    writePadded cs.length n = cs := by
  obtain ⟨hnumeral, rfl⟩ := read?_eq_some_iff.mp h
  obtain ⟨hne, hdigits⟩ := isNumeral_iff.mp hnumeral
  have hread := read?_eq_some_iff.mp (read?_writePadded cs.length (Nat.ofDigitChars 10 cs 0))
  refine eq_of_ofDigitChars_eq (fun _ => isDigit_of_mem_writePadded) hdigits ?_ hread.2
  exact length_writePadded (List.length_pos_iff.mpr hne) (ofDigitChars_lt hdigits)

theorem ofDigitChars_lt_of_length_le {cs : List Char} (h : isNumeral cs = true)
    (hlength : cs.length ≤ 1) : Nat.ofDigitChars 10 cs 0 < 10 := by
  obtain ⟨hne, hdigits⟩ := isNumeral_iff.mp h
  obtain ⟨c, rfl⟩ := List.length_eq_one_iff.mp
    (Nat.le_antisymm hlength (List.length_pos_iff.mpr hne))
  have hhigh := (toNat_of_isDigit (hdigits c List.mem_cons_self)).2
  rw [Nat.ofDigitChars_cons, Nat.ofDigitChars_nil, show '0'.toNat = 48 from rfl]
  omega

theorem length_write_of_lt {n : Nat} (h : n < 10) : (write n).length = 1 := by
  refine Nat.le_antisymm ?_ (List.length_pos_iff.mpr Nat.toDigits_ne_nil)
  exact (Nat.length_toDigits_le_iff (by decide) (by decide)).mpr h

/-! ### Digits in front of something else -/

/-- A number is determined by its digits. -/
theorem write_injective {m n : Nat} (h : write m = write n) : m = n := by
  have hread := congrArg read? h
  rw [read?_write, read?_write] at hread
  exact Option.some.inj hread

/-- A number ends where its digits do. -/
theorem eq_of_append_eq {m n : Nat} {rest rest' : List Char}
    (hrest : ∀ c ∈ rest.head?, c.isDigit = false) (hrest' : ∀ c ∈ rest'.head?, c.isDigit = false)
    (h : write m ++ rest = write n ++ rest') : m = n ∧ rest = rest' := by
  have hdigits (n : Nat) : ∀ c ∈ write n, c.isDigit = true := fun c =>
    Nat.isDigit_of_mem_toDigits (by decide) (by decide)
  obtain ⟨hwrite, hrests⟩ := eq_of_run_append_eq (hdigits m) (hdigits n)
    (fun c hc => Bool.eq_false_iff.mp (hrest c hc))
    (fun c hc => Bool.eq_false_iff.mp (hrest' c hc)) h
  exact ⟨write_injective hwrite, hrests⟩

end Digits

end InverterLink
