import InverterLink.Checksum
import InverterLink.Text.Digits
import InverterLink.Text.Utf8

/-!
# Frames

What travels on the line is a frame: a marker, three digits that declare a size, and a payload,
followed by the checksum and the terminator. The declared size counts the payload, the checksum and
the terminator.
-/

namespace InverterLink.Frame

/-- The byte that ends every frame. -/
def terminator : UInt8 := 0x0D

/-- The number of bytes that follow a payload: the checksum and the terminator. -/
def trailerSize : Nat := Checksum.size + 1

/-- A frame with the given marker around a payload, up to its checksum. -/
def build (marker : Char) (payload : List Char) : List Char :=
  ['^', marker] ++ Digits.writePadded 3 (Utf8.byteLength payload + trailerSize) ++ payload

/-- The frame in which a device returns a payload, up to its checksum. -/
def ofPayload (payload : List Char) : List Char :=
  build 'D' payload

/-- A byte string with its checksum, if it is to have one, and the terminator. -/
def onWire (withChecksum : Bool) (bytes : List UInt8) : List UInt8 :=
  bytes ++ (if withChecksum then Checksum.toBytes (Checksum.compute bytes) else []) ++ [terminator]

end InverterLink.Frame
