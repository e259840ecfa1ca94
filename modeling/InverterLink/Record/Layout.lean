import InverterLink.Record.Items

/-!
# Records and their layouts

A record is what a device returns to a question. There are fifteen kinds, and each lays its fields
out in its own way: at fixed offsets, as a text behind its size, as items between commas, as two
times of day, or as any number of numbers. A record holds its fields in the order in which the
device sends them.
-/

namespace InverterLink

/-- The kinds of records. -/
inductive RecordKind where
  | protocolId
  | currentTime
  | generated
  | serialNumber
  | cpuVersion
  | ratedInformation
  | generalStatus
  | workingMode
  | faultsAndWarnings
  | flagsAndStatuses
  | ratedDefaults
  | allowedCurrents
  | parallelRatedInformation
  | parallelGeneralStatus
  | timeBucket
deriving DecidableEq

/-- The name of a kind in messages. -/
def RecordKind.label : RecordKind → String
  | protocolId => "ProtocolId"
  | currentTime => "CurrentTime"
  | generated => "Generated"
  | serialNumber => "SerialNumber"
  | cpuVersion => "CpuVersion"
  | ratedInformation => "RatedInformation"
  | generalStatus => "GeneralStatus"
  | workingMode => "WorkingMode"
  | faultsAndWarnings => "FaultsAndWarnings"
  | flagsAndStatuses => "FlagsAndStatuses"
  | ratedDefaults => "RatedDefaults"
  | allowedCurrents => "AllowedCurrents"
  | parallelRatedInformation => "ParallelRatedInformation"
  | parallelGeneralStatus => "ParallelGeneralStatus"
  | timeBucket => "TimeBucket"

/-- What a field of a record holds. -/
inductive Cell where
  | number (n : Nat)
  | flag (b : Bool)
  | text (cs : List Char)
  /-- A member of an enumeration, by its ordinal. -/
  | choice (e : Enumeration) (ordinal : Nat)
deriving DecidableEq

/-- A record, with its fields in the order of the payload. A field that the device may leave out
stands at the end and is missing if it did. -/
structure Record where
  kind : RecordKind
  cells : List Cell
deriving DecidableEq

/-- What an item between commas holds. -/
inductive ItemForm where
  | number
  | flag
  | text
  | choice (e : Enumeration)
  /-- A text of which only as many characters count as the item at the position `sizeAt` says. -/
  | clipped (sizeAt : Nat)
deriving DecidableEq

/-- An item of the table of a record. -/
structure Column where
  width : Width
  form : ItemForm
deriving DecidableEq

/-- The table of a record whose items stand between commas. -/
structure Table where
  columns : List Column
  /-- How many items there must be. -/
  required : Nat := columns.length
  /-- The item that is read before the others, if it is there. -/
  readFirst? : Option Nat := none
deriving DecidableEq

/-- How the fields of a record are laid out in a payload. -/
inductive Layout where
  /-- Numbers of fixed sizes, one behind the other. -/
  | fixed (sizes : List Nat)
  /-- The number of a mode, in two digits. -/
  | mode
  /-- A text behind two digits that tell its size. -/
  | sizedText
  /-- Items with commas between them. -/
  | separated (table : Table)
  /-- Two times of day with a comma between them, each an hour and a minute of two digits. -/
  | clocks
  /-- Any number of numbers with commas between them. -/
  | numbers
deriving DecidableEq

namespace Column

/-- A number of fixed size. -/
def digits (n : Nat) : Column := ⟨.exactly n, .number⟩

/-- A number that may have one of several sizes. -/
def digitsBetween (least greatest : Nat) : Column := ⟨⟨least, greatest⟩, .number⟩

/-- A flag, in one digit. -/
def flag : Column := ⟨.exactly 1, .flag⟩

/-- A text of fixed size. -/
def text (n : Nat) : Column := ⟨.exactly n, .text⟩

/-- The ordinal of an enumeration, in one digit. -/
def choice (e : Enumeration) : Column := ⟨.exactly 1, .choice e⟩

end Column

namespace Table

/-- The widths of the items. -/
def widths (t : Table) : List Width :=
  t.columns.map (·.width)

/-- The versions of the three processors. -/
def cpuVersion : Table where
  columns := [.text 5, .text 5, .text 5]

/-- The rated values and the settings of the device. -/
def ratedInformation : Table where
  columns := [
    .digits 4, .digits 3, .digits 4, .digits 3, .digits 3, .digits 4, .digits 4, .digits 3,
    .digits 3, .digits 3, .digits 3, .digits 3, .digits 3, .choice .batteryType,
    .digitsBetween 2 3, .digits 3, .choice .inputVoltageRange, .choice .outputSourcePriority,
    .choice .chargeSourcePriority, .digits 1, .choice .machineType, .choice .topology,
    .choice .outputMode, .choice .solarPowerPriority, .text 1]

/-- The present readings of the device. -/
def generalStatus : Table where
  columns := [
    .digits 4, .digits 3, .digits 4, .digits 3, .digits 4, .digits 4, .digits 3, .digits 3,
    .digits 3, .digits 3, .digits 3, .digits 3, .digits 3, .digits 3, .digits 3, .digits 3,
    .digits 4, .digits 4, .digits 4, .digits 4, .choice .configurationStatus,
    .choice .mpptChargerStatus, .choice .mpptChargerStatus, .choice .loadConnectionStatus,
    .choice .batteryPowerDirection, .choice .dcAcPowerDirection, .choice .linePowerDirection,
    .digits 1]

/-- The present fault and the warnings. -/
def faultsAndWarnings : Table where
  columns := .digits 2 :: List.replicate 16 .flag

/-- The switches of the device, and a reserved item. -/
def flagsAndStatuses : Table where
  columns := List.replicate 8 .flag ++ [.text 1]

/-- The settings that the device has after a reset. -/
def ratedDefaults : Table where
  columns := [
    .digits 4, .digits 3, .choice .inputVoltageRange, .digits 3, .digits 3, .digits 3, .digits 3,
    .digits 3, .digits 3, .digits 2, .choice .batteryType, .choice .outputSourcePriority,
    .choice .chargeSourcePriority, .choice .solarPowerPriority, .choice .machineType,
    .choice .outputMode] ++ List.replicate 8 .flag

/-- The settings of a device that works in parallel with others. Some devices send the last current
in three digits instead of two. -/
def parallelRatedInformation : Table where
  columns := [
    .choice .parallelConnectionStatus, .digits 2, ⟨.exactly 20, .clipped 1⟩,
    .choice .chargeSourcePriority, .digits 3, .digitsBetween 2 3, .choice .outputMode]
  readFirst? := some 1

/-- The present readings of a device that works in parallel with others. Some devices leave the last
item out. -/
def parallelGeneralStatus : Table where
  columns := [
    .choice .parallelConnectionStatus, .choice .workingMode, .digits 2, .digits 4, .digits 3,
    .digits 4, .digits 3, .digits 4, .digits 4, .digits 5, .digits 5, .digits 3, .digits 3,
    .digits 3, .digits 3, .digits 3, .digits 3, .digits 3, .digits 4, .digits 4, .digits 4,
    .digits 4, .choice .mpptChargerStatus, .choice .mpptChargerStatus,
    .choice .loadConnectionStatus, .choice .batteryPowerDirection, .choice .dcAcPowerDirection,
    .choice .linePowerDirection, .digits 3]
  required := 28
  readFirst? := some 28

end Table

/-- The layout of each kind of record. -/
def RecordKind.layout : RecordKind → Layout
  | protocolId => .fixed [2]
  | currentTime => .fixed [4, 2, 2, 2, 2, 2]
  | generated => .fixed [8]
  | serialNumber => .sizedText
  | cpuVersion => .separated .cpuVersion
  | ratedInformation => .separated .ratedInformation
  | generalStatus => .separated .generalStatus
  | workingMode => .mode
  | faultsAndWarnings => .separated .faultsAndWarnings
  | flagsAndStatuses => .separated .flagsAndStatuses
  | ratedDefaults => .separated .ratedDefaults
  | allowedCurrents => .numbers
  | parallelRatedInformation => .separated .parallelRatedInformation
  | parallelGeneralStatus => .separated .parallelGeneralStatus
  | timeBucket => .clocks

end InverterLink
