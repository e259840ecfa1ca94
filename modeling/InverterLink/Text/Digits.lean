/-!
# Decimal and hexadecimal numerals

Natural numbers as texts: written plainly, padded with zeros to a least width, or in hexadecimal,
and read back from texts that hold nothing but digits.
-/

namespace InverterLink.Digits

/-- The decimal digits of `n`, at least one. -/
def write (n : Nat) : List Char :=
  Nat.toDigits 10 n

/-- The decimal digits of `n`, padded on the left with zeros to at least `width` characters. -/
def writePadded (width n : Nat) : List Char :=
  List.leftpad width '0' (write n)

/-- The hexadecimal digits of `n` in lower case, padded with zeros to at least `width`
characters. -/
def writeHex (width n : Nat) : List Char :=
  List.leftpad width '0' (Nat.toDigits 16 n)

/-- A text of at least one character, all of them ASCII digits. -/
def isNumeral (cs : List Char) : Bool :=
  !cs.isEmpty && cs.all Char.isDigit

/-- The number that a numeral denotes, or `none` if the text is no numeral. -/
def read? (cs : List Char) : Option Nat :=
  if isNumeral cs then some (Nat.ofDigitChars 10 cs 0) else none

/-- The number that a numeral denotes if it is below `bound`. -/
def readBelow? (bound : Nat) (cs : List Char) : Option Nat :=
  (read? cs).filter (· < bound)

/-- Reads a numeral below `bound`, with or without a plus sign in front. -/
def readSignedBelow? (bound : Nat) : List Char → Option Nat
  | '+' :: cs => readBelow? bound cs
  | cs => readBelow? bound cs

end InverterLink.Digits
