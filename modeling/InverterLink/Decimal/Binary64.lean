/-!
# Rounding to binary64

A binary64 number is treated as the rational number that it denotes. `nearest` rounds a rational
number to 53 significant binary digits, or to a multiple of `2 ^ (-1074)` where the number is too
small for that many, a tie going to the even neighbour. `isFinite` says which results still lie
below the greatest exponent.

## Main definitions

* `spacing`: the distance between neighbouring binary64 numbers around a rational number.
* `nearest`: the binary64 number nearest to a rational number, for an unbounded exponent.
* `roundEven`, `roundAway`: rounding to an integer, a half going to the even neighbour or away
  from zero.
-/

namespace InverterLink.Binary64

/-- The power of two with the given exponent. -/
def powTwo (k : Int) : Rat :=
  (2 : Rat) ^ k

/-- The absolute value. -/
def magnitude (r : Rat) : Rat :=
  if r < 0 then -r else r

/-- The greatest `k` for which `2 ^ k` does not exceed the magnitude of a number other than zero. -/
def exponent (r : Rat) : Int :=
  let k : Int := Int.ofNat (Nat.log2 r.num.natAbs) - Int.ofNat (Nat.log2 r.den)
  if powTwo k ≤ magnitude r then k else k - 1

/-- The distance between neighbouring binary64 numbers around `r`. -/
def spacing (r : Rat) : Rat :=
  powTwo (max (exponent r - 52) (-1074))

/-- The nearest integer, a half going to the even neighbour. -/
def roundEven (r : Rat) : Int :=
  let low := r.floor
  let excess := r - (low : Rat)
  if excess < 1 / 2 then low
  else if 1 / 2 < excess then low + 1
  else if low % 2 = 0 then low
  else low + 1

/-- The nearest integer, a half going away from zero. -/
def roundAway (r : Rat) : Int :=
  if r < 0 then -(-r + 1 / 2).floor else (r + 1 / 2).floor

/-- The binary64 number nearest to a rational number, were there no greatest exponent. -/
def nearest (r : Rat) : Rat :=
  if r = 0 then 0 else (roundEven (r / spacing r) : Rat) * spacing r

/-- Whether a rounded number lies within the range of finite binary64 numbers. -/
def isFinite (r : Rat) : Bool :=
  magnitude r < powTwo 1024

end InverterLink.Binary64
