import InverterLink.Decimal.Literal

/-!
# The values that settings take

The switches of the device with their letters, the words that stand for the ordinals of a choice,
and the voltages that are accepted where only certain ones are.
-/

namespace InverterLink

/-- A switch of the device that can be turned on and off. -/
structure Switch where
  /-- The name that a user types. -/
  name : String
  /-- The letter that stands for it in a frame. -/
  letter : Char
  description : String
deriving DecidableEq

namespace Switch

/-- Every switch. -/
def all : List Switch := [
  ⟨"BUZZ", 'A', "Silence buzzer or open buzzer"⟩,
  ⟨"OLBP", 'B', "Overload bypass function"⟩,
  ⟨"LCDE", 'C', "LCD display escape to default page after 1min timeout"⟩,
  ⟨"OLRS", 'D', "Overload restart"⟩,
  ⟨"OTRS", 'E', "Overload temperature restart"⟩,
  ⟨"BLON", 'F', "Backlight on"⟩,
  ⟨"ALRM", 'G', "Alarm on primary source interrupt"⟩,
  ⟨"FTCR", 'H', "Fault code record"⟩,
  ⟨"MTYP", 'I', "Machine type (1=Grid-Tie, 0=Off-Grid-Tie)"⟩]

/-- The switch with the given name. -/
def find? (name : String) : Option Switch :=
  all.find? (·.name == name)

end Switch

namespace Values

/-- The words for the order of output sources, by ordinal. -/
def outputSources : List String := ["SUB", "SBU"]

/-- The words for the order of charge sources, by ordinal. -/
def chargeSources : List String := ["SF", "SU", "S"]

/-- The words for the use of solar power, by ordinal. -/
def solarPriorities : List String := ["BLU", "LBU"]

/-- The words for the range of input voltages, by ordinal. -/
def inputRanges : List String := ["APPLIANCE", "UPS"]

/-- The words for the kind of battery, by ordinal. -/
def batteryTypes : List String := ["AGM", "FLOODED", "USER"]

/-- The words for the wiring of the output, by ordinal. -/
def outputModes : List String := ["S", "P", "1", "2", "3"]

/-- The output voltages, in volts. -/
def outputVoltages : List Nat := [202, 208, 220, 230, 240]

/-- The voltages at which charging resumes, in tenths of a volt, by nominal battery voltage. -/
def rechargeVoltages : List (List Nat) := [
  [110, 113, 115, 118, 120, 123, 125, 128],
  [220, 225, 230, 235, 240, 245, 250, 255],
  [440, 450, 460, 470, 480, 490, 500, 510]]

/-- The voltages at which discharging resumes, in tenths of a volt, by nominal battery voltage. Zero
stands for a full battery. -/
def redischargeVoltages : List (List Nat) := [
  [0, 120, 123, 125, 128, 130, 133, 135, 138, 140, 143, 145],
  [0, 240, 245, 250, 255, 260, 265, 270, 275, 280, 285, 290],
  [0, 480, 490, 500, 510, 520, 530, 540, 550, 560, 570, 580]]

/-- The greatest number of a device that works in parallel with others. -/
def greatestParallelId : Nat := 6

/-- Whether a number belongs to a device that works in parallel with others. -/
def isParallelId (id : Nat) : Bool := id ≤ greatestParallelId

/-- The number of tenths nearest to `v`, if `v` is not farther from it than a millionth, up to
rounding. -/
def wholeTenths? (v : Rat) : Option Nat :=
  let tenths := Decimal.tenths v
  let offset := Binary64.nearest (Binary64.nearest ((tenths : Rat) / 10) - v)
  if Binary64.nearest (1 / 1000000) < Binary64.magnitude offset ∨ tenths < 0 then none
  else some tenths.toNat

/-- Whether `v` is one of the voltages of the tables, which are in tenths of a volt. -/
def isListed (tables : List (List Nat)) (v : Rat) : Bool :=
  (wholeTenths? v).any fun tenths => tables.any (·.contains tenths)

/-- Whether `v` lies between two voltages, which are in tenths of a volt, both included. -/
def isBetween (low high : Nat) (v : Rat) : Bool :=
  Binary64.nearest ((low : Rat) / 10) ≤ v && v ≤ Binary64.nearest ((high : Rat) / 10)

end Values

end InverterLink
