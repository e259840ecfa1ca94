/-!
# The registry of connections

The daemon remembers which connections are open, each under a number of its own, so that it can wait
for all of them to close. Several connections may come from the same address.
-/

namespace InverterLink

/-- The connections that are open. -/
structure Registry where
  /-- The number of the next connection. -/
  nextNumber : Nat := 0
  /-- The number and the address of each open connection. -/
  entries : List (Nat × String) := []
deriving DecidableEq

namespace Registry

/-- How many numbers there are. They begin again behind the last one. -/
def numberBound : Nat := 18446744073709551616

/-- Removes the connection of the given number, if it is there. -/
def remove (r : Registry) (number : Nat) : Registry :=
  { r with entries := r.entries.filter (·.1 != number) }

/-- Enters a connection from an address, and tells its number. It takes the place of a connection of
the same number. -/
def register (r : Registry) (address : String) : Nat × Registry :=
  (r.nextNumber,
    { nextNumber := (r.nextNumber + 1) % numberBound
      entries := (r.nextNumber, address) :: (r.remove r.nextNumber).entries })

/-- The number of open connections. -/
def size (r : Registry) : Nat :=
  r.entries.length

/-- Whether every connection has closed. -/
def isEmpty (r : Registry) : Bool :=
  r.size = 0

/-- Waits until every connection has closed, while those of the given numbers close one after the
other: how many of them have closed by then, or `none` if the waiting goes on behind the last
one. -/
def drained? (r : Registry) : List Nat → Option Nat
  | [] => if r.isEmpty then some 0 else none
  | number :: numbers =>
    if r.isEmpty then some 0 else ((r.remove number).drained? numbers).map (· + 1)

end Registry

end InverterLink
