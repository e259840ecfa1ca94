/-!
# Enumerations and fault codes

The fields of a record that stand for one of a few states carry an ordinal, which has a label. The
labels of an enumeration are listed by ordinal, so that a number is a member exactly when the list
is longer.
-/

namespace InverterLink

/-- The enumerations that fields of records belong to. -/
inductive Enumeration where
  | batteryType
  | inputVoltageRange
  | outputSourcePriority
  | chargeSourcePriority
  | machineType
  | topology
  | outputMode
  | solarPowerPriority
  | mpptChargerStatus
  | batteryPowerDirection
  | dcAcPowerDirection
  | linePowerDirection
  | workingMode
  | parallelConnectionStatus
  | loadConnectionStatus
  | configurationStatus
deriving DecidableEq

namespace Enumeration

/-- The labels of an enumeration, by ordinal. -/
def labels : Enumeration → List String
  | batteryType => ["AGM", "Flooded", "User"]
  | inputVoltageRange => ["Appliance", "USP"]
  | outputSourcePriority => ["Solar-Utility-Battery", "Solar-Battery-Utility"]
  | chargeSourcePriority => ["Solar-First", "Solar-and-Utility", "Solar-only"]
  | machineType => ["Off-Grid-Tie", "Grid-Tie"]
  | topology => ["Transformer-less", "Transformer"]
  | outputMode =>
    ["Single output", "Parallel output", "Phase 1 of 3-phase output", "Phase 2 of 3-phase output",
      "Phase 3 of 3-phase"]
  | solarPowerPriority => ["Battery-Load-Utility", "Load-Battery-Utility"]
  | mpptChargerStatus => ["Abnormal", "Not charging", "Charging"]
  | batteryPowerDirection => ["Do nothing", "Charge", "Discharge"]
  | dcAcPowerDirection => ["Do nothing", "AC/DC", "DC/AC"]
  | linePowerDirection => ["Do nothing", "Input", "Output"]
  | workingMode =>
    ["Power on mode", "Standby mode", "Bypass mode", "Battery mode", "Fault mode", "Hybrid mode"]
  | parallelConnectionStatus => ["Non-existent", "Existent"]
  | loadConnectionStatus => ["Disconnected", "Connected"]
  | configurationStatus => ["Default", "Changed"]

/-- The label of an ordinal, if the enumeration has it. -/
def label? (e : Enumeration) (ordinal : Nat) : Option String :=
  e.labels[ordinal]?

/-- Whether the enumeration has the ordinal. -/
def has (e : Enumeration) (ordinal : Nat) : Bool :=
  ordinal < e.labels.length

end Enumeration

/-- What a fault code means, if it is known. -/
def faultDescription? (code : Nat) : Option String :=
  match code with
  | 1 => some "Fan is locked"
  | 2 => some "Over temperature"
  | 3 => some "Battery voltage is too high"
  | 4 => some "Battery voltage is too low"
  | 5 => some "Output short circuited or Over temperature"
  | 6 => some "Output voltage is too high"
  | 7 => some "Over load time out"
  | 8 => some "Bus voltage is too high"
  | 9 => some "Bus soft start failed"
  | 11 => some "Main relay failed"
  | 51 => some "Over current inverter"
  | 52 => some "Bus soft start failed"
  | 53 => some "Inverter soft start failed"
  | 54 => some "Self-test failed"
  | 55 => some "Over DC voltage on output of inverter"
  | 56 => some "Battery connection is open"
  | 57 => some "Current sensor failed"
  | 58 => some "Output voltage is too low"
  | 60 => some "Inverter negative power"
  | 71 => some "Parallel version different"
  | 72 => some "Output circuit failed"
  | 80 => some "CAN communication failed"
  | 81 => some "Parallel host line lost"
  | 82 => some "Parallel synchronized signal lost"
  | 83 => some "Parallel battery voltage detect different"
  | 84 => some "Parallel LINE voltage or frequency detect different"
  | 85 => some "Parallel LINE input current unbalanced"
  | 86 => some "Parallel output setting different"
  | _ => none

end InverterLink
