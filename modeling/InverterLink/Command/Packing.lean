import InverterLink.Command.Basic
import InverterLink.Command.Values
import InverterLink.Error
import InverterLink.Frame

/-!
# Laying out arguments

A frame carries the mnemonic of its command and then the arguments, each in a slot of its own form,
without anything between them but the separators of the layout. `Command.layout` lists the slots of
every command, `Command.pack` fills them, and `Command.frame` builds the whole request. Arguments
are taken in the form in which `Command.ofRequest` returns them; any others are refused, or laid out
as they are where a slot takes any text.
-/

namespace InverterLink.Command

/-- A place in the layout of arguments. -/
inductive Slot where
  /-- The argument as it is. -/
  | text (index : Nat)
  /-- A natural number with at least so many digits. -/
  | number (index width : Nat)
  /-- Ten times a natural number, with at least so many digits. -/
  | tenfold (index width : Nat)
  /-- A decimal in tenths, with at least so many digits. -/
  | tenths (index width : Nat)
  /-- `E` if the argument is `1`, and `D` otherwise. -/
  | state (index : Nat)
  /-- A text behind two digits that tell its size in bytes, padded with zeros to twenty
  characters. -/
  | sized (index : Nat)
  /-- The years of this century, with at least two digits. -/
  | year (index : Nat)
  /-- A comma between two arguments. -/
  | comma
deriving DecidableEq

/-- The slots of each command, in order. -/
def layout : Command → List Slot
  | getYearGenerated | setOutputSourcePriority | setSolarPowerPriority | setAcInputVoltageRange
  | setBatteryType | setAcSupply => [.text 0]
  | getMonthGenerated => [.text 0, .number 1 2]
  | getDayGenerated => [.text 0, .number 1 2, .number 2 2]
  | getParallelGeneralStatus | getParallelRatedInformation => [.number 0 1]
  | setFlag => [.state 1, .text 0]
  | setBatteryMaxChargeCurrent | setBatteryMaxAcChargeCurrent => [.text 0, .comma, .number 1 3]
  | setAcOutputFreq => [.number 0 2]
  | setBatteryMaxChargeVoltage | setBatteryChargeThresholds =>
    [.tenths 0 3, .comma, .tenths 1 3]
  | setAcOutputVoltage => [.tenfold 0 4]
  | setChargeSourcePriority | setOutputMode => [.text 0, .comma, .text 1]
  | setBatteryCutOffVoltage => [.tenths 0 3]
  | setSolarConfig => [.sized 0]
  | setDateTime => [.year 0, .number 1 2, .number 2 2, .number 3 2, .number 4 2, .number 5 2]
  | setAcChargeTimeBucket | setAcSupplyTimeBucket =>
    [.number 0 2, .number 1 2, .comma, .number 2 2, .number 3 2]
  | _ => []

/-- The number of values of the registers that hold the numbers of a layout. -/
def registerBound : Nat := 4294967296

/-- A number cut to the greatest value of a register. -/
def saturate (n : Nat) : Nat :=
  min n (registerBound - 1)

/-- The argument at a position. -/
def argument (c : Command) (args : List String) (index : Nat) : Except Error String :=
  match args[index]? with
  | some arg => .ok arg
  | none => .error (.pack c.label (.missing index))

/-- The natural number that the argument at a position denotes. -/
def integer (c : Command) (args : List String) (index : Nat) : Except Error Nat := do
  let arg ← c.argument args index
  match Digits.readSignedBelow? registerBound arg.toList with
  | some n => return n
  | none => .error (.pack c.label (.notInteger index arg))

/-- The number of tenths nearest to the decimal that the argument at a position denotes. -/
def decimalTenths (c : Command) (args : List String) (index : Nat) : Except Error Nat := do
  let arg ← c.argument args index
  match (Decimal.read? arg.toList).filter (0 ≤ ·) with
  | some v => return saturate (Decimal.tenths v).toNat
  | none => .error (.pack c.label (.notDecimal index arg))

/-- The text that fills a slot. -/
def fill (c : Command) (args : List String) : Slot → Except Error (List Char)
  | .text index => do
    return (← c.argument args index).toList
  | .number index width => do
    return Digits.writePadded width (← c.integer args index)
  | .tenfold index width => do
    return Digits.writePadded width (saturate (10 * (← c.integer args index)))
  | .tenths index width => do
    return Digits.writePadded width (← c.decimalTenths args index)
  | .state index => do
    return if (← c.argument args index) = "1" then ['E'] else ['D']
  | .sized index => do
    let text := (← c.argument args index).toList
    return Digits.writePadded 2 (Utf8.byteLength text) ++ List.rightpad 20 '0' text
  | .year index => do
    let year ← c.integer args index
    if year < 2000 then .error (.pack c.label .yearBefore2000)
    else return Digits.writePadded 2 (year - 2000)
  | .comma => return [',']

/-- The texts that fill a list of slots, one behind the other. The first slot that cannot be filled
decides the error. -/
def fillAll (c : Command) (args : List String) : List Slot → Except Error (List Char)
  | [] => .ok []
  | slot :: slots => do
    let text ← c.fill args slot
    return text ++ (← c.fillAll args slots)

/-- The arguments as they stand in the frame of the command. -/
def pack (c : Command) (args : List String) : Except Error (List Char) :=
  c.fillAll args c.layout

/-- The marker of the command's frames: `S` for a setting and `P` for a question. -/
def marker (c : Command) : Char :=
  if c.isSetter then 'S' else 'P'

/-- The frame of a request, up to its checksum. -/
def frame (c : Command) (args : List String) : Except Error (List Char) := do
  return Frame.build c.marker (c.mnemonic ++ (← c.pack args))

end InverterLink.Command
