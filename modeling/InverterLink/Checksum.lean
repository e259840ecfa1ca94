/-!
# The frame checksum

A 16-bit cyclic checksum (polynomial 0x1021, initial value 0, most significant bit first), computed
four bits at a time from a table, with an escape on top: a checksum byte must never look like a
delimiter of the line, so a byte equal to `(`, carriage return or line feed is raised by one.

## Main definitions

* `raw`: the checksum of a byte string before the escape.
* `escape`: raises the reserved bytes.
* `compute`: the checksum as it travels.
* `toBytes`, `ofBytes`: its two bytes, the high one first.
-/

namespace InverterLink.Checksum

/-- The number of bytes of a checksum. -/
def size : Nat := 2

/-- The remainder of each half byte, shifted past the end of the register. -/
def nibbleTable : Array UInt16 := #[
  0x0000, 0x1021, 0x2042, 0x3063, 0x4084, 0x50A5, 0x60C6, 0x70E7,
  0x8108, 0x9129, 0xA14A, 0xB16B, 0xC18C, 0xD1AD, 0xE1CE, 0xF1EF]

/-- Takes up the next four bits of the data. -/
def takeNibble (register nibble : UInt16) : UInt16 :=
  nibbleTable.getD ((register >>> 12) ^^^ nibble).toNat 0 ^^^ (register <<< 4)

/-- Takes up the next byte of the data, its high half first. -/
def takeByte (register : UInt16) (byte : UInt8) : UInt16 :=
  takeNibble (takeNibble register (byte.toUInt16 >>> 4)) (byte.toUInt16 &&& 0x0F)

/-- The checksum before the escape. -/
def raw (data : List UInt8) : UInt16 :=
  data.foldl takeByte 0

/-- The bytes that delimit something on the line: `(`, carriage return and line feed. -/
def isReserved (byte : UInt8) : Bool :=
  byte == 0x28 || byte == 0x0D || byte == 0x0A

/-- Raises the low byte, and then the high byte, by one if it is reserved. -/
def escape (register : UInt16) : UInt16 :=
  let low := if isReserved register.toUInt8 then register + 1 else register
  if isReserved (low >>> 8).toUInt8 then low + 0x100 else low

/-- The checksum of a byte string as it travels. -/
def compute (data : List UInt8) : UInt16 :=
  escape (raw data)

/-- The two bytes of a checksum, the high one first. -/
def toBytes (checksum : UInt16) : List UInt8 :=
  [(checksum >>> 8).toUInt8, checksum.toUInt8]

/-- The checksum with the given bytes. -/
def ofBytes (high low : UInt8) : UInt16 :=
  (high.toUInt16 <<< 8) ||| low.toUInt16

end InverterLink.Checksum
