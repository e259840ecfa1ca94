import InverterLink.Text.Digits
import Mathlib.Algebra.Group.Nat.Defs

/-!
# Hexadecimal numerals are read as they were written

A hexadecimal numeral denotes the number that was written, however many zeros stand in front of it.
It has the width that it was padded to if the number is small enough for it.
-/

namespace InverterLink.Digits

/-- The value of a hexadecimal digit in lower case. -/
def hexValue? (c : Char) : Option Nat :=
  "0123456789abcdef".toList.idxOf? c

/-- The number that hexadecimal digits denote, if there are no other characters. -/
def readHex? (cs : List Char) : Option Nat :=
  cs.foldlM (fun n c => (hexValue? c).map (16 * n + ·)) 0

theorem hexValue?_digitChar {d : Nat} (h : d < 16) : hexValue? d.digitChar = some d := by
  have hall : ∀ d < 16, hexValue? d.digitChar = some d := by decide
  exact hall d h

/-- What is read as a number holds nothing but digits. -/
theorem hexValue?_ne_none_of_mem {cs : List Char} {n : Nat} (h : readHex? cs = some n) {c : Char}
    (hc : c ∈ cs) : hexValue? c ≠ none := by
  rw [readHex?] at h
  generalize 0 = start at h
  induction cs generalizing start with
  | nil => exact absurd hc List.not_mem_nil
  | cons d cs ih =>
    rw [List.foldlM_cons, Option.bind_eq_bind, Option.bind_eq_some_iff] at h
    obtain ⟨next, hd, hcs⟩ := h
    rcases List.mem_cons.mp hc with rfl | hmem
    · intro hnone
      rw [hnone] at hd
      cases hd
    · exact ih hmem next hcs

/-- One digit more. -/
theorem readHex?_concat (cs : List Char) (c : Char) :
    readHex? (cs ++ [c]) = (readHex? cs).bind fun n => (hexValue? c).map (16 * n + ·) := by
  rw [readHex?, List.foldlM_append]
  simp [readHex?]

theorem readHex?_toDigits (n : Nat) : readHex? (Nat.toDigits 16 n) = some n := by
  -- The induction is on what stands before the last digit.
  induction n using Nat.strongRecOn with
  | ind n ih =>
    rcases Nat.lt_or_ge n 16 with hlt | hge
    · rw [Nat.toDigits_of_lt_base hlt]
      simp [readHex?, hexValue?_digitChar hlt]
    · have hsmaller : n / 16 < n := Nat.div_lt_self (by omega) (by decide)
      rw [Nat.toDigits_of_base_le (by decide) hge, readHex?_concat, ih _ hsmaller, Option.bind_some,
        hexValue?_digitChar (Nat.mod_lt n (by decide)), Option.map_some, Nat.div_add_mod]

/-- **A padded hexadecimal numeral denotes the number that was written.** -/
theorem readHex?_writeHex (width n : Nat) : readHex? (writeHex width n) = some n := by
  rw [writeHex, List.leftpad]
  generalize width - (Nat.toDigits 16 n).length = count
  induction count with
  | zero => exact readHex?_toDigits n
  | succ count ih =>
    rw [List.replicate_succ, List.cons_append, readHex?, List.foldlM_cons]
    exact ih

theorem length_writeHex {width n : Nat} (hwidth : 0 < width) (h : n < 16 ^ width) :
    (writeHex width n).length = width := by
  rw [writeHex, List.length_leftpad]
  exact Nat.max_eq_left ((Nat.length_toDigits_le_iff (by decide) hwidth).mpr h)

/-- No other character stands in a hexadecimal numeral. -/
theorem notMem_writeHex {width n : Nat} {c : Char} (hc : hexValue? c = none) :
    c ∉ writeHex width n := fun h => hexValue?_ne_none_of_mem (readHex?_writeHex width n) h hc

end InverterLink.Digits
