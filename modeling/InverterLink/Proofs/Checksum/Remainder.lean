import InverterLink.Proofs.Checksum
import Mathlib.Algebra.Group.Nat.Defs
import Mathlib.Logic.Function.Iterate

/-!
# The checksum as a remainder

The data are divided by a polynomial over the field of two elements, bit by bit: a register of
sixteen bits is shifted to the left, and the polynomial is subtracted whenever the bit that falls
out differs from the next bit of the data. Such a step is linear, and so are any number of them.
What four steps do to a register therefore splits into what they do to its four upper bits, which
the table of half bytes lists, and what they do to the others, which are only shifted. This makes
the steps by half bytes those of the division.

## Main definitions

* `bits`: the bits of a byte string, as they are taken up.
* `takeBit`: a step of the division.
* `remainder`: the remainder of a byte string.

## Main statements

* `foldl_takeBit_xor`: the division is linear.
* `takeNibble_eq_foldl`: a step by a half byte is four steps by bits.
* `compute_eq_remainder`: the checksum is the remainder with its reserved bytes raised.
-/

namespace InverterLink.Checksum

/-! ### The division -/

/-- The polynomial `x¹⁶ + x¹² + x⁵ + 1`, without its leading term. -/
def polynomial : UInt16 := 0x1021

/-- The bit of a register that is the next to fall out. -/
def topBit (register : UInt16) : Bool :=
  register.toNat.testBit 15

/-- Takes up the next bit of the data: the register is shifted, and the polynomial is subtracted if
the bit that falls out differs from that of the data. -/
def takeBit (register : UInt16) (bit : Bool) : UInt16 :=
  if topBit register = bit then register <<< 1 else (register <<< 1) ^^^ polynomial

/-- The bits of a number below sixteen, the most significant one first. -/
def nibbleBits (nibble : UInt16) : List Bool :=
  [3, 2, 1, 0].map nibble.toNat.testBit

/-- The bits of a byte, the most significant one first. -/
def byteBits (byte : UInt8) : List Bool :=
  [7, 6, 5, 4, 3, 2, 1, 0].map byte.toNat.testBit

/-- The bits of a byte string, from its first byte on. -/
def bits (data : List UInt8) : List Bool :=
  data.flatMap byteBits

/-- The remainder of a byte string, from an empty register on. -/
def remainder (data : List UInt8) : UInt16 :=
  (bits data).foldl takeBit 0

/-! ### The division is linear -/

theorem topBit_xor (register register' : UInt16) :
    topBit (register ^^^ register') = (topBit register ^^ topBit register') := by
  rw [topBit, UInt16.toNat_xor, Nat.testBit_xor, topBit, topBit]

/-- **A step is linear** in the register and the bit. -/
theorem takeBit_xor (register register' : UInt16) (bit bit' : Bool) :
    takeBit (register ^^^ register') (bit ^^ bit') =
      takeBit register bit ^^^ takeBit register' bit' := by
  have hcancel (a b : UInt16) : (a ^^^ polynomial) ^^^ (b ^^^ polynomial) = a ^^^ b := by
    rw [UInt16.xor_comm b, UInt16.xor_assoc, ← UInt16.xor_assoc polynomial, UInt16.xor_self,
      UInt16.zero_xor]
  simp only [takeBit, topBit_xor, UInt16.shiftLeft_xor]
  -- whether the polynomial is subtracted: on both sides, on one of them, or on none
  cases topBit register <;> cases topBit register' <;> cases bit <;> cases bit' <;>
    simp [hcancel, UInt16.xor_assoc, UInt16.xor_comm polynomial]

/-- A step without data. -/
def shift (register : UInt16) : UInt16 :=
  takeBit register false

/-- **The division is linear**: what stands in a register is carried along, whatever the data
are. -/
theorem foldl_takeBit_xor (bits : List Bool) (register register' : UInt16) :
    bits.foldl takeBit (register ^^^ register') =
      shift^[bits.length] register ^^^ bits.foldl takeBit register' := by
  induction bits generalizing register register' with
  | nil => rfl
  | cons bit bits ih =>
    have hstep :
        takeBit (register ^^^ register') bit = shift register ^^^ takeBit register' bit := by
      have := takeBit_xor register register' false bit
      rwa [Bool.false_xor] at this
    rw [List.foldl_cons, hstep, ih, List.length_cons, Function.iterate_succ_apply, List.foldl_cons]

theorem foldl_takeBit_eq (bits : List Bool) (register : UInt16) :
    bits.foldl takeBit register = shift^[bits.length] register ^^^ bits.foldl takeBit 0 := by
  rw [← foldl_takeBit_xor, UInt16.xor_zero]

theorem shift_xor (register register' : UInt16) :
    shift (register ^^^ register') = shift register ^^^ shift register' :=
  takeBit_xor register register' false false

theorem iterate_shift_xor (count : Nat) (register register' : UInt16) :
    shift^[count] (register ^^^ register') =
      shift^[count] register ^^^ shift^[count] register' := by
  induction count generalizing register register' with
  | zero => rfl
  | succ count ih => rw [Function.iterate_succ_apply, shift_xor, ih]; rfl

/-! ### Steps by half bytes -/

/-- The entry of the table for a half byte. -/
def tableEntry (nibble : UInt16) : UInt16 :=
  nibbleTable.getD nibble.toNat 0

/-- What holds for all sixteen half bytes. -/
theorem forall_nibble {P : UInt16 → Prop} (h : ∀ k : Fin 16, P (UInt16.ofNat k)) {nibble : UInt16}
    (hnibble : nibble.toNat < 16) : P nibble := by
  have := h ⟨nibble.toNat, hnibble⟩
  rwa [UInt16.ofNat_toNat] at this

/-- The table holds the remainders of the half bytes. -/
theorem foldl_nibbleBits {nibble : UInt16} (h : nibble.toNat < 16) :
    (nibbleBits nibble).foldl takeBit 0 = tableEntry nibble :=
  forall_nibble (P := fun n => (nibbleBits n).foldl takeBit 0 = tableEntry n) (by decide) h

/-- The table also holds what becomes of the four upper bits of a register. -/
theorem iterate_shift_upper {nibble : UInt16} (h : nibble.toNat < 16) :
    shift^[4] (nibble <<< 12) = tableEntry nibble :=
  forall_nibble (P := fun n => shift^[4] (n <<< 12) = tableEntry n) (by decide) h

theorem tableEntry_xor {nibble nibble' : UInt16} (h : nibble.toNat < 16) (h' : nibble'.toNat < 16) :
    tableEntry (nibble ^^^ nibble') = tableEntry nibble ^^^ tableEntry nibble' := by
  have hlt : (nibble ^^^ nibble').toNat < 16 := by
    rw [UInt16.toNat_xor]
    exact Nat.xor_lt_two_pow (n := 4) h h'
  rw [← iterate_shift_upper hlt, UInt16.shiftLeft_xor, iterate_shift_xor, iterate_shift_upper h,
    iterate_shift_upper h']

/-- Bits that do not reach the end of a register are only shifted. -/
theorem toNat_iterate_shift {count : Nat} {register : UInt16}
    (h : 2 ^ count * register.toNat < 2 ^ 16) :
    (shift^[count] register).toNat = 2 ^ count * register.toNat := by
  induction count generalizing register with
  | zero => rw [Function.iterate_zero_apply, Nat.pow_zero, Nat.one_mul]
  | succ count ih =>
    rw [Nat.pow_succ, Nat.mul_assoc] at h ⊢
    have hsmall : 2 * register.toNat < 2 ^ 16 :=
      Nat.lt_of_le_of_lt (Nat.le_mul_of_pos_left _ (Nat.two_pow_pos count)) h
    have htop : topBit register = false := Nat.testBit_lt_two_pow (by omega)
    have hshift : (shift register).toNat = 2 * register.toNat := by
      rw [shift, takeBit, if_pos htop, UInt16.toNat_shiftLeft]
      simp only [UInt16.reduceToNat, Nat.reduceMod, Nat.shiftLeft_eq]
      omega
    rw [Function.iterate_succ_apply, ih (by rwa [hshift]), hshift]

theorem iterate_shift_lower (register : UInt16) :
    shift^[4] (register &&& 0x0FFF) = register <<< 4 := by
  have hmask : (register &&& 0x0FFF).toNat = register.toNat % 2 ^ 12 := by
    rw [UInt16.toNat_and]
    exact Nat.and_two_pow_sub_one_eq_mod register.toNat 12
  rw [← UInt16.toNat_inj, toNat_iterate_shift (by rw [hmask]; omega), hmask, UInt16.toNat_shiftLeft]
  simp only [UInt16.reduceToNat, Nat.reduceMod, Nat.shiftLeft_eq]
  omega

/-- The four upper bits of a register and the others. -/
theorem upper_xor_lower (register : UInt16) :
    ((register >>> 12) <<< 12) ^^^ (register &&& 0x0FFF) = register := by
  have hlower (i : Nat) : (register.toNat &&& 4095).testBit i =
      (decide (i < 12) && register.toNat.testBit i) := by
    rw [Nat.and_two_pow_sub_one_eq_mod _ 12, Nat.testBit_mod_two_pow]
  rw [← UInt16.toNat_inj, UInt16.toNat_xor, UInt16.toNat_shiftLeft, UInt16.toNat_shiftRight,
    UInt16.toNat_and]
  simp only [UInt16.reduceToNat, Nat.reduceMod]
  refine Nat.eq_of_testBit_eq fun i => ?_
  rw [Nat.testBit_xor, Nat.testBit_mod_two_pow, hlower, Nat.testBit_shiftLeft,
    Nat.testBit_shiftRight]
  obtain hi | hi := Nat.lt_or_ge i 12
  · simp [hi, Nat.not_le_of_lt hi]
  obtain hin | hout := Nat.lt_or_ge i 16
  · simp [hi, hin, Nat.not_lt_of_le hi]
  · have hnone : register.toNat.testBit i = false := Nat.testBit_lt_two_pow
      (Nat.lt_of_lt_of_le register.toNat_lt (Nat.pow_le_pow_right (by decide) hout))
    simp [hi, hnone]

theorem toNat_upper_lt (register : UInt16) : (register >>> 12).toNat < 16 := by
  have hlt := register.toNat_lt
  rw [UInt16.toNat_shiftRight]
  simp only [UInt16.reduceToNat, Nat.reduceMod, Nat.shiftRight_eq_div_pow]
  omega

/-- **Four steps without data** look the upper bits up and shift the others. -/
theorem iterate_shift_four (register : UInt16) :
    shift^[4] register = tableEntry (register >>> 12) ^^^ (register <<< 4) := by
  conv_lhs => rw [← upper_xor_lower register]
  rw [iterate_shift_xor, iterate_shift_upper (toNat_upper_lt register), iterate_shift_lower]

/-- **A step by a half byte is four steps by bits.** -/
theorem takeNibble_eq_foldl (register : UInt16) {nibble : UInt16} (h : nibble.toNat < 16) :
    takeNibble register nibble = (nibbleBits nibble).foldl takeBit register := by
  have htable : takeNibble register nibble =
      tableEntry ((register >>> 12) ^^^ nibble) ^^^ (register <<< 4) := rfl
  have hlength : (nibbleBits nibble).length = 4 := rfl
  rw [foldl_takeBit_eq, hlength, iterate_shift_four, foldl_nibbleBits h, htable,
    tableEntry_xor (toNat_upper_lt register) h, UInt16.xor_assoc,
    UInt16.xor_comm (tableEntry nibble), ← UInt16.xor_assoc]

/-! ### The whole division -/

/-- The bits of a byte are those of its halves. -/
theorem byteBits_eq (byte : UInt8) :
    byteBits byte = nibbleBits (byte.toUInt16 >>> 4) ++ nibbleBits (byte.toUInt16 &&& 0x0F) := by
  have hhigh (i : Nat) : (byte.toUInt16 >>> 4).toNat.testBit i = byte.toNat.testBit (4 + i) := by
    rw [UInt16.toNat_shiftRight, UInt8.toNat_toUInt16]
    exact Nat.testBit_shiftRight byte.toNat
  have hlow {i : Nat} (hi : i < 4) :
      (byte.toUInt16 &&& 0x0F).toNat.testBit i = byte.toNat.testBit i := by
    have hmod := Nat.and_two_pow_sub_one_eq_mod byte.toNat 4
    rw [UInt16.toNat_and, UInt8.toNat_toUInt16, show UInt16.toNat 0x0F = 2 ^ 4 - 1 from rfl, hmod,
      Nat.testBit_mod_two_pow, decide_eq_true hi, Bool.true_and]
  simp only [byteBits, nibbleBits, List.map_cons, List.map_nil, hhigh, hlow, Nat.reduceLT,
    Nat.reduceAdd, List.cons_append, List.nil_append]

theorem takeByte_eq_foldl (register : UInt16) (byte : UInt8) :
    takeByte register byte = (byteBits byte).foldl takeBit register := by
  have hhigh : (byte.toUInt16 >>> 4).toNat < 16 := by
    have hlt := byte.toNat_lt
    rw [UInt16.toNat_shiftRight, UInt8.toNat_toUInt16]
    simp only [UInt16.reduceToNat, Nat.reduceMod, Nat.shiftRight_eq_div_pow]
    omega
  have hlow : (byte.toUInt16 &&& 0x0F).toNat < 16 := by
    rw [UInt16.toNat_and]
    exact Nat.lt_of_le_of_lt Nat.and_le_right (by decide)
  rw [takeByte, takeNibble_eq_foldl _ hhigh, takeNibble_eq_foldl _ hlow, byteBits_eq,
    List.foldl_append]

/-- **Before the escape, the checksum is the remainder.** -/
theorem raw_eq_remainder (data : List UInt8) : raw data = remainder data := by
  have hstep : takeByte = fun register byte => (byteBits byte).foldl takeBit register :=
    funext fun register => funext fun byte => takeByte_eq_foldl register byte
  rw [raw, remainder, bits, List.foldl_flatMap, hstep]

/-- **The checksum is the remainder with its reserved bytes raised**, for any byte string. The low
byte is raised first, and this leaves the high byte as it is. -/
theorem compute_eq_remainder (data : List UInt8) :
    compute data =
        ofBytes (raise (remainder data >>> 8).toUInt8) (raise (remainder data).toUInt8) ∧
      (isReserved (remainder data).toUInt8 = true →
        toBytes (remainder data + 1) =
          [(remainder data >>> 8).toUInt8, (remainder data).toUInt8 + 1]) := by
  refine ⟨?_, toBytes_add_one⟩
  symm
  rw [ofBytes_eq_iff, compute, toBytes_escape, raw_eq_remainder]
  rfl

/-- The digits from one to nine. -/
example : remainder [0x31, 0x32, 0x33, 0x34, 0x35, 0x36, 0x37, 0x38, 0x39] = 0x31C3 := by
  decide +kernel

end InverterLink.Checksum
