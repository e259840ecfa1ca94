import InverterLink.Decimal.Binary64
import InverterLink.Text.Digits

/-!
# The shortest decimal that reads back

A binary64 number is shown by the decimal with the fewest significant digits that rounds to it, and
by the nearest such decimal where there are several. `Shortest.ofPositive` finds the digits, and two
layouts write them: `plain` never uses an exponent and drops a zero fraction, `scientific` always
shows a fraction and switches to an exponent for very small and very large numbers.
-/

namespace InverterLink.Decimal

/-- The decimal `significand * 10 ^ exponent`. -/
structure Shortest where
  significand : Nat
  exponent : Int
deriving DecidableEq

namespace Shortest

/-- The number that a decimal denotes. -/
def value (s : Shortest) : Rat :=
  (s.significand : Rat) * (10 : Rat) ^ s.exponent

/-- The greatest `k` for which `10 ^ k` does not exceed the positive number `r`. -/
def decimalExponent (r : Rat) : Int :=
  if 1 ≤ r then
    Int.ofNat (Digits.write r.floor.toNat).length - 1
  else
    -Int.ofNat (Digits.write ((1 / r).ceil.toNat - 1)).length

/-- The decimal on the grid of multiples of `10 ^ exponent` that reads back as `r`, if one of the
two neighbours of `r` on that grid does: the nearer one if both do. -/
def onGrid? (r : Rat) (exponent : Int) : Option Shortest :=
  let low := (r / (10 : Rat) ^ exponent).floor.toNat
  let below : Shortest := ⟨low, exponent⟩
  let above : Shortest := ⟨low + 1, exponent⟩
  let readsBack (s : Shortest) : Bool := Binary64.nearest s.value = r
  if readsBack below && (!readsBack above || r - below.value ≤ above.value - r) then some below
  else if readsBack above then some above
  else none

/-- Tries finer and finer grids, beginning with the multiples of `10 ^ exponent`. -/
def search (r : Rat) (exponent : Int) : Nat → Shortest
  | 0 => (onGrid? r exponent).getD ⟨0, 0⟩
  | n + 1 => (onGrid? r exponent).getD (search r (exponent - 1) n)

/-- The shortest decimal that reads back as the positive binary64 number `r`. The search begins
above the first digit, where a number just below a power of ten may have that power as its decimal,
and seventeen significant digits are always enough. -/
def ofPositive (r : Rat) : Shortest :=
  search r (decimalExponent r + 1) 18

/-- The digits of the significand. -/
def digits (s : Shortest) : List Char :=
  Digits.write s.significand

/-- The position of the point, counted in digits from the first one. -/
def point (s : Shortest) : Int :=
  Int.ofNat s.digits.length + s.exponent

/-- The digits with a point among, in front of or behind them. An integer has no point. -/
def positional (s : Shortest) : List Char :=
  if 0 ≤ s.exponent then
    s.digits ++ List.replicate s.exponent.toNat '0'
  else if 0 < s.point then
    s.digits.take s.point.toNat ++ '.' :: s.digits.drop s.point.toNat
  else
    '0' :: '.' :: List.replicate (-s.point).toNat '0' ++ s.digits

/-- The digits with a point behind the first one, and the exponent of ten that belongs to it. -/
def exponential (s : Shortest) : List Char :=
  let fraction := s.digits.drop 1
  let exponent := s.point - 1
  s.digits.take 1 ++ (if fraction.isEmpty then [] else '.' :: fraction) ++ ['e'] ++
    (if exponent < 0 then ['-'] else []) ++ Digits.write exponent.natAbs

end Shortest

/-- A binary64 number that is not negative, without an exponent and without a zero fraction. -/
def plain (r : Rat) : List Char :=
  if r ≤ 0 then ['0'] else (Shortest.ofPositive r).positional

/-- A binary64 number that is not negative, with a fraction even if it is zero, or with an exponent
where the first digit stands more than five places behind the point or more than sixteen in front
of it. -/
def scientific (r : Rat) : List Char :=
  if r ≤ 0 then
    ['0', '.', '0']
  else
    let s := Shortest.ofPositive r
    if s.point ≤ -5 ∨ 16 < s.point then s.exponential
    else if 0 ≤ s.exponent then s.positional ++ ['.', '0']
    else s.positional

end InverterLink.Decimal
