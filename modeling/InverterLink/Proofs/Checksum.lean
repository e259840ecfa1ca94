import InverterLink.Frame
import Mathlib.Data.List.Basic

/-!
# Checksums on the line

The escape of a checksum works on its two bytes one by one: raising the low byte never carries into
the high one. A raised byte is not reserved any more, so no checksum holds a terminator, and what
ends in a checksum can be cut into the payload and a checksum that is right.
-/

namespace InverterLink

namespace Checksum

/-! ### The two bytes of a checksum -/

theorem toNat_low (register : UInt16) : register.toUInt8.toNat = register.toNat % 256 :=
  UInt16.toNat_toUInt8 register

theorem toNat_high (register : UInt16) : (register >>> 8).toUInt8.toNat = register.toNat / 256 := by
  have hlt := register.toNat_lt
  rw [UInt16.toNat_toUInt8, UInt16.toNat_shiftRight]
  simp only [UInt16.reduceToNat, Nat.reduceMod, Nat.shiftRight_eq_div_pow, Nat.reducePow]
  omega

/-- The bytes of a checksum determine it. -/
theorem ofBytes_toBytes (checksum : UInt16) :
    ofBytes (checksum >>> 8).toUInt8 checksum.toUInt8 = checksum := by
  have hlt := checksum.toNat_lt
  have hhigh := toNat_high checksum
  have hlow := toNat_low checksum
  rw [ofBytes, ← UInt16.toNat_inj, UInt16.toNat_or, UInt16.toNat_shiftLeft, UInt8.toNat_toUInt16,
    UInt8.toNat_toUInt16, hhigh, hlow]
  simp only [UInt16.reduceToNat, Nat.reduceMod, Nat.reducePow]
  rw [Nat.shiftLeft_eq, Nat.mod_eq_of_lt (by omega), Nat.mul_comm,
    ← Nat.two_pow_add_eq_or_of_lt (i := 8) (by omega)]
  omega

/-- Any two bytes are those of a checksum. -/
theorem toBytes_ofBytes (high low : UInt8) : toBytes (ofBytes high low) = [high, low] := by
  have hhigh := high.toNat_lt
  have hlow := low.toNat_lt
  have hvalue : (ofBytes high low).toNat = 256 * high.toNat + low.toNat := by
    rw [ofBytes, UInt16.toNat_or, UInt16.toNat_shiftLeft, UInt8.toNat_toUInt16,
      UInt8.toNat_toUInt16]
    simp only [UInt16.reduceToNat, Nat.reduceMod, Nat.reducePow]
    rw [Nat.shiftLeft_eq, Nat.mod_eq_of_lt (by omega), Nat.mul_comm,
      ← Nat.two_pow_add_eq_or_of_lt (i := 8) (by omega)]
  rw [toBytes, List.cons_eq_cons, List.cons_eq_cons]
  refine ⟨?_, ?_, rfl⟩
  · rw [← UInt8.toNat_inj, toNat_high, hvalue]
    omega
  · rw [← UInt8.toNat_inj, toNat_low, hvalue]
    omega

/-- Two bytes are read as a checksum exactly if they are its bytes. -/
theorem ofBytes_eq_iff {high low : UInt8} {checksum : UInt16} :
    ofBytes high low = checksum ↔ [high, low] = toBytes checksum := by
  constructor
  · rintro rfl
    exact (toBytes_ofBytes high low).symm
  · intro h
    rw [toBytes, List.cons_eq_cons, List.cons_eq_cons] at h
    obtain ⟨rfl, rfl, -⟩ := h
    exact ofBytes_toBytes checksum

@[simp]
theorem length_toBytes (checksum : UInt16) : (toBytes checksum).length = size := rfl

/-! ### The escape -/

/-- A byte as the escape leaves it. -/
def raise (byte : UInt8) : UInt8 :=
  if isReserved byte then byte + 1 else byte

theorem isReserved_iff {byte : UInt8} :
    isReserved byte ↔ byte = 0x28 ∨ byte = 0x0D ∨ byte = 0x0A := by
  simp [isReserved, or_assoc]

theorem isReserved_raise (byte : UInt8) : isReserved (raise byte) = false := by
  rw [raise]
  split_ifs with h
  · obtain rfl | rfl | rfl := isReserved_iff.mp h <;> rfl
  · exact Bool.eq_false_iff.mpr h

/-- A reserved byte leaves room for one more, so raising it does not carry. -/
private theorem toNat_lt_of_isReserved {byte : UInt8} (h : isReserved byte) : byte.toNat < 255 := by
  obtain rfl | rfl | rfl := isReserved_iff.mp h <;> decide

/-- Raising a low byte that is reserved leaves the high byte as it is. -/
theorem toBytes_add_one {register : UInt16} (h : isReserved register.toUInt8) :
    toBytes (register + 1) = [(register >>> 8).toUInt8, register.toUInt8 + 1] := by
  have hlow := toNat_lt_of_isReserved h
  have hlt := register.toNat_lt
  rw [toNat_low] at hlow
  have hsum : (register + 1).toNat = register.toNat + 1 := by
    rw [UInt16.toNat_add]
    simp only [UInt16.reduceToNat]
    omega
  rw [toBytes, List.cons_eq_cons, List.cons_eq_cons]
  refine ⟨?_, ?_, rfl⟩
  · rw [← UInt8.toNat_inj, toNat_high, toNat_high, hsum]
    omega
  · rw [← UInt8.toNat_inj, toNat_low, UInt8.toNat_add, toNat_low, hsum]
    simp only [UInt8.reduceToNat]
    omega

private theorem toBytes_add_256 {register : UInt16} (h : isReserved (register >>> 8).toUInt8) :
    toBytes (register + 0x100) = [(register >>> 8).toUInt8 + 1, register.toUInt8] := by
  have hhigh := toNat_lt_of_isReserved h
  have hlt := register.toNat_lt
  rw [toNat_high] at hhigh
  have hsum : (register + 0x100).toNat = register.toNat + 256 := by
    rw [UInt16.toNat_add]
    simp only [UInt16.reduceToNat]
    omega
  rw [toBytes, List.cons_eq_cons, List.cons_eq_cons]
  refine ⟨?_, ?_, rfl⟩
  · rw [← UInt8.toNat_inj, toNat_high, UInt8.toNat_add, toNat_high, hsum]
    simp only [UInt8.reduceToNat]
    omega
  · rw [← UInt8.toNat_inj, toNat_low, toNat_low, hsum]
    omega

/-- **The escape works bytewise**: each byte of the register is raised on its own. -/
theorem toBytes_escape (register : UInt16) :
    toBytes (escape register) = (toBytes register).map raise := by
  have hhigh : ∀ low : UInt16, (low >>> 8).toUInt8 = (register >>> 8).toUInt8 →
      toBytes (if isReserved (low >>> 8).toUInt8 then low + 0x100 else low) =
        [raise (register >>> 8).toUInt8, low.toUInt8] := by
    intro low hlow
    rw [raise, ← hlow]
    split_ifs with h
    · exact toBytes_add_256 h
    · rfl
  rw [escape]
  by_cases h : isReserved register.toUInt8
  · have hbytes := toBytes_add_one h
    rw [toBytes, List.cons_eq_cons, List.cons_eq_cons] at hbytes
    rw [if_pos h, hhigh _ hbytes.1, hbytes.2.1, toBytes, List.map_cons, List.map_singleton,
      raise.eq_def register.toUInt8, if_pos h]
  · rw [if_neg h, hhigh _ rfl, toBytes, List.map_cons, List.map_singleton,
      raise.eq_def register.toUInt8, if_neg h]

/-- No byte of a checksum is reserved. -/
theorem isReserved_of_mem_compute {data : List UInt8} {byte : UInt8}
    (h : byte ∈ toBytes (compute data)) : isReserved byte = false := by
  rw [compute, toBytes_escape, List.mem_map] at h
  obtain ⟨before, -, rfl⟩ := h
  exact isReserved_raise before

/-- No checksum holds a terminator. -/
theorem terminator_notMem_compute (data : List UInt8) :
    Frame.terminator ∉ toBytes (compute data) := fun h => by
  have := isReserved_of_mem_compute h
  exact absurd this (by decide)

end Checksum

namespace Frame

/-- What stands on the line before the terminator. -/
def body (withChecksum : Bool) (bytes : List UInt8) : List UInt8 :=
  bytes ++ if withChecksum then Checksum.toBytes (Checksum.compute bytes) else []

theorem onWire_eq_body (withChecksum : Bool) (bytes : List UInt8) :
    onWire withChecksum bytes = body withChecksum bytes ++ [terminator] := rfl

/-- **A frame holds its terminator only at its end** if its payload holds none. -/
theorem terminator_notMem_body {bytes : List UInt8} (withChecksum : Bool)
    (h : terminator ∉ bytes) : terminator ∉ body withChecksum bytes := by
  rw [body, List.mem_append, not_or]
  refine ⟨h, ?_⟩
  split_ifs
  · exact Checksum.terminator_notMem_compute bytes
  · exact List.not_mem_nil

theorem length_body (withChecksum : Bool) (bytes : List UInt8) :
    (body withChecksum bytes).length =
      bytes.length + if withChecksum then Checksum.size else 0 := by
  rw [body, List.length_append]
  split_ifs <;> rfl

end Frame

end InverterLink
