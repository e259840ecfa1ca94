import InverterLink.Decimal.Binary64
import InverterLink.Text.Digits

/-!
# Decimal literals

A decimal literal is an optional sign, digits with an optional point among them or at either end,
and an optional exponent. It denotes a rational number, and `read?` rounds that number to binary64.
-/

namespace InverterLink.Decimal

/-- A decimal literal taken apart: the number `digits`, as an integer, times ten to the power
`scale`, negated if `negative` holds. -/
structure Literal where
  negative : Bool
  digits : List Char
  scale : Int
deriving DecidableEq

namespace Literal

/-- Splits an optional sign off a text. The flag tells whether the sign is a minus. -/
def takeSign : List Char → Bool × List Char
  | '-' :: cs => (true, cs)
  | '+' :: cs => (false, cs)
  | cs => (false, cs)

/-- The exponent that a text denotes after the mark `e` or `E`. -/
def readExponent? (cs : List Char) : Option Int :=
  let (negative, digits) := takeSign cs
  (Digits.read? digits).map fun n => if negative then -Int.ofNat n else Int.ofNat n

/-- The exponent at the end of a literal: none at all counts as zero. -/
def readTail? : List Char → Option Int
  | [] => some 0
  | c :: cs => if c = 'e' ∨ c = 'E' then readExponent? cs else none

/-- Splits a point and the digits behind it off a text. -/
def takeFraction : List Char → List Char × List Char
  | '.' :: cs => (cs.takeWhile Char.isDigit, cs.dropWhile Char.isDigit)
  | cs => ([], cs)

/-- Takes a decimal literal apart. At least one digit must stand in front of the exponent. -/
def ofText? (cs : List Char) : Option Literal := do
  let (negative, unsigned) := takeSign cs
  let whole := unsigned.takeWhile Char.isDigit
  let (fraction, rest) := takeFraction (unsigned.dropWhile Char.isDigit)
  let exponent ← readTail? rest
  if whole.isEmpty && fraction.isEmpty then none
  else some ⟨negative, whole ++ fraction, exponent - Int.ofNat fraction.length⟩

/-- The integer that the digits form. -/
def significand (l : Literal) : Nat :=
  Nat.ofDigitChars 10 l.digits 0

/-- The number that a literal denotes. -/
def value (l : Literal) : Rat :=
  let size := (l.significand : Rat) * (10 : Rat) ^ l.scale
  if l.negative then -size else size

/-- An upper bound of the exponent of ten of the value, which decides about values far outside the
range of binary64 without computing them. -/
def reach (l : Literal) : Int :=
  Int.ofNat (Digits.write l.significand).length + l.scale

/-- The finite binary64 number nearest to the value, if the value is not too large for one. -/
def nearest? (l : Literal) : Option Rat :=
  if l.significand = 0 ∨ l.reach < -400 then some 0
  else if 400 < l.reach then none
  else
    let rounded := Binary64.nearest l.value
    if Binary64.isFinite rounded then some rounded else none

end Literal

/-- The finite binary64 number nearest to what a decimal literal denotes. -/
def read? (cs : List Char) : Option Rat :=
  (Literal.ofText? cs).bind Literal.nearest?

/-- Ten times a number, rounded first as a product and then to an integer, a half going away from
zero. -/
def tenths (v : Rat) : Int :=
  Binary64.roundAway (Binary64.nearest (v * 10))

end InverterLink.Decimal
