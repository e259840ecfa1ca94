import InverterLink.Proofs.Checksum.Remainder
import Mathlib.Tactic.SplitIfs

/-!
# A flipped bit changes the checksum

Flipping one bit of the data changes the remainder by a power of `x`, whose exponent is the number
of bits from the flipped one on. The escape may still hide this: it leaves two bytes alike if one of
them is reserved and the other is the next one, and so it may hide a difference of the remainders
whose bytes are differences of such bytes. The powers of `x` from the sixteenth on meet none of
these before the exponent 2198, so that data of up to 272 bytes, more than fit into an answer, have
another checksum when a bit is flipped. With another byte, they need not.

## Main definitions

* `isHidden`: the differences of two remainders that the escape may hide.

## Main statements

* `remainder_xor_remainder`: how a flipped bit changes the remainder.
* `isHidden_of_escape_eq`: what the escape may hide.
* `compute_ne_of_existsUnique_bit`: data that differ in one bit have different checksums.
-/

namespace InverterLink.Checksum

variable {data data' : List UInt8}

/-! ### The difference of two remainders -/

/-- Bits that differ in one place are the same before it and behind it. -/
theorem exists_eq_append_of_existsUnique {bs bs' : List Bool} (hlength : bs.length = bs'.length)
    (h : ∃! i : Nat, bs[i]? ≠ bs'[i]?) :
    ∃ front bit behind, bs = front ++ bit :: behind ∧ bs' = front ++ (!bit) :: behind := by
  obtain ⟨i, hi, hunique⟩ := h
  have hsame {j : Nat} (hj : j ≠ i) : bs[j]? = bs'[j]? := by
    by_contra hne
    exact hj (hunique j hne)
  have hlt : i < bs.length := by
    by_contra hge
    rw [Nat.not_lt] at hge
    rw [List.getElem?_eq_none hge, List.getElem?_eq_none (hlength ▸ hge)] at hi
    exact hi rfl
  have hlt' : i < bs'.length := hlength ▸ hlt
  have hfront : bs.take i = bs'.take i := by
    refine List.ext_getElem? fun j => ?_
    rw [List.getElem?_take, List.getElem?_take]
    split_ifs with hj
    · exact hsame (Nat.ne_of_lt hj)
    · rfl
  have hbehind : bs.drop (i + 1) = bs'.drop (i + 1) := by
    refine List.ext_getElem? fun j => ?_
    rw [List.getElem?_drop, List.getElem?_drop]
    exact hsame (by omega)
  have hflipped : bs'[i] = !bs[i] := by
    rw [List.getElem?_eq_getElem hlt, List.getElem?_eq_getElem hlt', ne_eq, Option.some_inj] at hi
    exact Bool.eq_not.mpr (Ne.symm hi)
  refine ⟨bs.take i, bs[i], bs.drop (i + 1), ?_, ?_⟩
  · rw [← List.drop_eq_getElem_cons hlt, List.take_append_drop]
  · rw [hfront, hbehind, ← hflipped, ← List.drop_eq_getElem_cons hlt', List.take_append_drop]

/-- A flipped bit is a difference of the registers, which the rest of the bits carry along. -/
theorem foldl_takeBit_not (register : UInt16) (bit : Bool) (behind : List Bool) :
    (bit :: behind).foldl takeBit register ^^^ ((!bit) :: behind).foldl takeBit register =
      shift^[behind.length] polynomial := by
  have hstep : takeBit register bit ^^^ takeBit register (!bit) = polynomial := by
    rw [← takeBit_xor, UInt16.xor_self]
    cases bit <;> decide
  have hsplit : takeBit register bit = polynomial ^^^ takeBit register (!bit) := by
    rw [← hstep, UInt16.xor_assoc, UInt16.xor_self, UInt16.xor_zero]
  rw [List.foldl_cons, List.foldl_cons, hsplit, foldl_takeBit_xor, UInt16.xor_assoc,
    UInt16.xor_self, UInt16.xor_zero]

theorem length_bits (data : List UInt8) : (bits data).length = 8 * data.length := by
  have hbyte (byte : UInt8) : (byteBits byte).length = 8 := rfl
  rw [bits, List.length_flatMap, funext hbyte, List.map_const', List.sum_replicate_nat,
    Nat.mul_comm]

/-- **A flipped bit changes the remainder by a power of `x`.** -/
theorem remainder_xor_remainder (hlength : data.length = data'.length)
    (h : ∃! i : Nat, (bits data)[i]? ≠ (bits data')[i]?) :
    ∃ count < 8 * data.length, remainder data ^^^ remainder data' = shift^[count] polynomial := by
  have hbits : (bits data).length = (bits data').length := by
    rw [length_bits, length_bits, hlength]
  obtain ⟨front, bit, behind, hdata, hdata'⟩ := exists_eq_append_of_existsUnique hbits h
  refine ⟨behind.length, ?_, ?_⟩
  · rw [← length_bits, hdata, List.length_append, List.length_cons]
    omega
  · rw [remainder, remainder, hdata, hdata', List.foldl_append, List.foldl_append,
      foldl_takeBit_not]

/-! ### What the escape hides -/

/-- The differences of two bytes that are the same when they have been raised. -/
def isMerged (difference : UInt8) : Bool :=
  difference == 0 || difference == 1 || difference == 3

/-- The differences of two registers whose bytes may be the same when they have been raised. -/
def isHidden (difference : UInt16) : Bool :=
  isMerged (difference >>> 8).toUInt8 && isMerged difference.toUInt8

/-- **A raised byte is its own, or comes from the byte before it.** -/
theorem isMerged_of_raise_eq {byte byte' : UInt8} (h : raise byte = raise byte') :
    isMerged (byte ^^^ byte') = true := by
  have hself (byte : UInt8) : isMerged (byte ^^^ byte) = true := by
    rw [UInt8.xor_self]
    rfl
  have hnext {byte : UInt8} (hreserved : isReserved byte) :
      isMerged (byte ^^^ (byte + 1)) = true ∧ isMerged ((byte + 1) ^^^ byte) = true := by
    obtain rfl | rfl | rfl := isReserved_iff.mp hreserved <;> decide
  rw [raise, raise] at h
  split_ifs at h with hreserved hreserved' hreserved'
  · rw [(UInt8.add_left_inj 1).mp h]
    exact hself byte'
  · rw [← h]
    exact (hnext hreserved).1
  · rw [h]
    exact (hnext hreserved').2
  · rw [h]
    exact hself byte'

/-- **The escape hides nothing else**: registers that are the same behind it have such a
difference. -/
theorem isHidden_of_escape_eq {register register' : UInt16}
    (h : escape register = escape register') :
    isHidden (register ^^^ register') = true := by
  have hbytes : (toBytes register).map raise = (toBytes register').map raise := by
    rw [← toBytes_escape, ← toBytes_escape, h]
  simp only [toBytes, List.map_cons, List.map_nil, List.cons.injEq, and_true] at hbytes
  rw [isHidden, UInt16.shiftRight_xor, UInt16.toUInt8_xor, UInt16.toUInt8_xor, Bool.and_eq_true]
  exact ⟨isMerged_of_raise_eq hbytes.1, isMerged_of_raise_eq hbytes.2⟩

/-! ### The powers of the variable -/

/-- Whether none of the first `count` multiples of a difference by powers of `x` is hidden. -/
def staysSeen : Nat → UInt16 → Bool
  | 0, _ => true
  | count + 1, difference => !isHidden difference && staysSeen count (shift difference)

theorem isHidden_of_staysSeen {count k : Nat} {difference : UInt16}
    (h : staysSeen count difference = true) (hk : k < count) :
    isHidden (shift^[k] difference) = false := by
  induction count generalizing k difference with
  | zero => exact absurd hk (Nat.not_lt_zero k)
  | succ count ih =>
    rw [staysSeen, Bool.and_eq_true, Bool.not_eq_true'] at h
    cases k with
    | zero => exact h.1
    | succ k => exact ih (k := k) h.2 (Nat.lt_of_succ_lt_succ hk)

/-- The bound is exact: the next multiple is `x⁹ + x⁸ + 1`, which is hidden. -/
theorem staysSeen_polynomial : staysSeen 2182 polynomial = true := by
  decide +kernel

/-- **A flipped bit changes the checksum** of data with at most 272 bytes, and of any payload of an
answer with it, which has at most 253 of them. -/
theorem compute_ne_of_existsUnique_bit (hlength : data.length = data'.length)
    (hsize : data.length ≤ 272) (h : ∃! i : Nat, (bits data)[i]? ≠ (bits data')[i]?) :
    compute data ≠ compute data' := by
  intro hcompute
  obtain ⟨count, hcount, hpower⟩ := remainder_xor_remainder hlength h
  have hhidden := isHidden_of_escape_eq hcompute
  rw [raw_eq_remainder, raw_eq_remainder, hpower,
    isHidden_of_staysSeen staysSeen_polynomial (by omega)] at hhidden
  exact Bool.false_ne_true hhidden

/-- The acceptance and the refusal of a setting differ in one bit. -/
theorem compute_ne_of_existsUnique_bit_acknowledgement :
    (∃! i : Nat, (bits [0x5E, 0x31])[i]? ≠ (bits [0x5E, 0x30])[i]?) ∧
      compute [0x5E, 0x31] ≠ compute [0x5E, 0x30] := by
  have hbit : ∃! i : Nat, (bits [0x5E, 0x31])[i]? ≠ (bits [0x5E, 0x30])[i]? := by
    refine ⟨15, by decide, fun i hi => ?_⟩
    have hlt : i < 16 := by
      by_contra hge
      rw [Nat.not_lt] at hge
      exact hi (by rw [List.getElem?_eq_none hge, List.getElem?_eq_none hge])
    have hall : ∀ i < 16, (bits [0x5E, 0x31])[i]? ≠ (bits [0x5E, 0x30])[i]? → i = 15 := by decide
    exact hall i hlt hi
  exact ⟨hbit, compute_ne_of_existsUnique_bit rfl (by decide) hbit⟩

/-- Of 273 bytes, the second bit may be flipped without a trace: the escape raises both bytes of one
checksum, and none of the other. -/
example :
    compute (0x00 :: (List.replicate 270 0x00 ++ [0x80, 0xBB])) =
      compute (0x40 :: (List.replicate 270 0x00 ++ [0x80, 0xBB])) := by
  decide +kernel

end InverterLink.Checksum
