import InverterLink.Text.Digits

/-!
# Hex dumps

A byte string laid out for reading: rows of sixteen bytes, each with its offset, the bytes in
hexadecimal and the same bytes as characters, where everything but visible ASCII is a dot.
-/

namespace InverterLink.HexDump

/-- The number of bytes of a full row. -/
def rowSize : Nat := 16

/-- A byte as two hexadecimal digits. -/
def hexByte (byte : UInt8) : List Char :=
  Digits.writeHex 2 byte.toNat

/-- The hexadecimal column: the bytes of the row with blanks between them. -/
def hexColumn (row : List UInt8) : List Char :=
  [' '].intercalate (row.map hexByte)

/-- The width that the hexadecimal column of a full row takes. -/
def hexColumnWidth : Nat := 47

/-- A byte as the character column shows it. -/
def visible (byte : UInt8) : Char :=
  if 0x20 ≤ byte.toNat && byte.toNat ≤ 0x7E then Char.ofNat byte.toNat else '.'

/-- One row of the dump. -/
def row (offset : Nat) (bytes : List UInt8) : List Char :=
  Digits.writeHex 8 offset ++ [' ', ' '] ++ List.rightpad hexColumnWidth ' ' (hexColumn bytes) ++
    [' ', ' ', '|'] ++ bytes.map visible ++ ['|']

/-- The rows of the dump of bytes that begin at the given offset. -/
def rowsFrom (offset : Nat) (data : List UInt8) : List (List Char) :=
  if _h : data = [] then
    []
  else
    row offset (data.take rowSize) :: rowsFrom (offset + rowSize) (data.drop rowSize)
termination_by data.length
decreasing_by
  have := List.length_pos_iff.mpr _h
  simp only [List.length_drop, rowSize]
  omega

/-- The rows of the dump of a byte string. -/
def rows (data : List UInt8) : List (List Char) :=
  rowsFrom 0 data

/-- The dump of a byte string. -/
def write (data : List UInt8) : List Char :=
  ['\n'].intercalate (rows data)

end InverterLink.HexDump
