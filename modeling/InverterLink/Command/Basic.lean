/-!
# Commands

The operations of the protocol. Each is known by a number, by a label for logs and messages, by the
mnemonic that stands in its frame, and by the name that a user types with a fixed number of
arguments. Commands numbered from 100 change a setting; the others ask for a record.
-/

namespace InverterLink

/-- An operation of the protocol. -/
inductive Command where
  | getProtocolId
  | getCurrentTime
  | getTotalGenerated
  | getYearGenerated
  | getMonthGenerated
  | getDayGenerated
  | getSerialNumber
  | getCpuVersion
  | getRatedInformation
  | getGeneralStatus
  | getWorkingMode
  | getFaultsAndWarnings
  | getFlagsAndStatuses
  | getRatedDefaults
  | getAllowedChargeCurrents
  | getAllowedAcChargeCurrents
  | getParallelRatedInformation
  | getParallelGeneralStatus
  | getAcChargeTimeBucket
  | getAcSupplyTimeBucket
  | setAcSupply
  | setFlag
  | setDefaults
  | setBatteryMaxChargeCurrent
  | setBatteryMaxAcChargeCurrent
  | setAcOutputFreq
  | setBatteryMaxChargeVoltage
  | setAcOutputVoltage
  | setOutputSourcePriority
  | setBatteryChargeThresholds
  | setChargeSourcePriority
  | setSolarPowerPriority
  | setAcInputVoltageRange
  | setBatteryType
  | setOutputMode
  | setBatteryCutOffVoltage
  | setSolarConfig
  | clearGenerated
  | setDateTime
  | setAcChargeTimeBucket
  | setAcSupplyTimeBucket
deriving DecidableEq

namespace Command

/-- What a command is known by. -/
structure Profile where
  /-- The number of the command. -/
  id : Nat
  /-- The name in logs and messages. -/
  label : String
  /-- The letters that identify the command in its frame. -/
  mnemonic : String
  /-- The name that a user types. -/
  name : String
  /-- The number of arguments that a user gives. -/
  arity : Nat
deriving DecidableEq

/-- The profile of each command. -/
def profile : Command → Profile
  | getProtocolId => ⟨0, "GetProtocolId", "PI", "get-protocol-id", 0⟩
  | getCurrentTime => ⟨1, "GetCurrentTime", "T", "get-date-time", 0⟩
  | getTotalGenerated => ⟨2, "GetTotalGenerated", "ET", "get-total-generated", 0⟩
  | getYearGenerated => ⟨3, "GetYearGenerated", "EY", "get-year-generated", 1⟩
  | getMonthGenerated => ⟨4, "GetMonthGenerated", "EM", "get-month-generated", 2⟩
  | getDayGenerated => ⟨5, "GetDayGenerated", "ED", "get-day-generated", 3⟩
  | getSerialNumber => ⟨6, "GetSerialNumber", "ID", "get-serial-number", 0⟩
  | getCpuVersion => ⟨7, "GetCpuVersion", "VFW", "get-cpu-version", 0⟩
  | getRatedInformation => ⟨8, "GetRatedInformation", "PIRI", "get-rated", 0⟩
  | getGeneralStatus => ⟨9, "GetGeneralStatus", "GS", "get-status", 0⟩
  | getWorkingMode => ⟨10, "GetWorkingMode", "MOD", "get-mode", 0⟩
  | getFaultsAndWarnings => ⟨11, "GetFaultsAndWarnings", "FWS", "get-errors", 0⟩
  | getFlagsAndStatuses => ⟨12, "GetFlagsAndStatuses", "FLAG", "get-flags", 0⟩
  | getRatedDefaults => ⟨13, "GetRatedDefaults", "DI", "get-rated-defaults", 0⟩
  | getAllowedChargeCurrents =>
    ⟨14, "GetAllowedChargeCurrents", "MCHGCR", "get-allowed-charge-currents", 0⟩
  | getAllowedAcChargeCurrents =>
    ⟨15, "GetAllowedAcChargeCurrents", "MUCHGCR", "get-allowed-ac-charge-currents", 0⟩
  | getParallelRatedInformation => ⟨16, "GetParallelRatedInformation", "PRI", "get-p-rated", 1⟩
  | getParallelGeneralStatus => ⟨17, "GetParallelGeneralStatus", "PGS", "get-p-status", 1⟩
  | getAcChargeTimeBucket => ⟨18, "GetAcChargeTimeBucket", "ACCT", "get-ac-charge-time", 0⟩
  | getAcSupplyTimeBucket => ⟨19, "GetAcSupplyTimeBucket", "ACLT", "get-ac-supply-time", 0⟩
  | setAcSupply => ⟨100, "SetAcSupply", "LON", "set-ac-supply", 1⟩
  | setFlag => ⟨101, "SetFlag", "P", "set-flag", 2⟩
  | setDefaults => ⟨102, "SetDefaults", "PF", "set-rated-defaults", 0⟩
  | setBatteryMaxChargeCurrent =>
    ⟨103, "SetBatteryMaxChargeCurrent", "MCHGC", "set-max-charge-current", 2⟩
  | setBatteryMaxAcChargeCurrent =>
    ⟨104, "SetBatteryMaxAcChargeCurrent", "MUCHGC", "set-max-ac-charge-current", 2⟩
  | setAcOutputFreq => ⟨105, "SetAcOutputFreq", "F", "set-ac-output-freq", 1⟩
  | setBatteryMaxChargeVoltage =>
    ⟨106, "SetBatteryMaxChargeVoltage", "MCHGV", "set-max-charge-voltage", 2⟩
  | setAcOutputVoltage => ⟨107, "SetAcOutputVoltage", "V", "set-ac-output-voltage", 1⟩
  | setOutputSourcePriority =>
    ⟨108, "SetOutputSourcePriority", "POP", "set-output-source-priority", 1⟩
  | setBatteryChargeThresholds =>
    ⟨109, "SetBatteryChargeThresholds", "BUCD", "set-charge-thresholds", 2⟩
  | setChargeSourcePriority =>
    ⟨110, "SetChargeSourcePriority", "PCP", "set-charge-source-priority", 2⟩
  | setSolarPowerPriority => ⟨111, "SetSolarPowerPriority", "PSP", "set-solar-power-priority", 1⟩
  | setAcInputVoltageRange =>
    ⟨112, "SetAcInputVoltageRange", "PGR", "set-ac-input-voltage-range", 1⟩
  | setBatteryType => ⟨113, "SetBatteryType", "PBT", "set-battery-type", 1⟩
  | setOutputMode => ⟨114, "SetOutputMode", "POPM", "set-output-mode", 2⟩
  | setBatteryCutOffVoltage =>
    ⟨115, "SetBatteryCutOffVoltage", "PSDV", "set-battery-cutoff-voltage", 1⟩
  | setSolarConfig => ⟨116, "SetSolarConfig", "ID", "set-solar-configuration", 1⟩
  | clearGenerated => ⟨117, "ClearGenerated", "CLE", "clear-generated-data", 0⟩
  | setDateTime => ⟨118, "SetDateTime", "DAT", "set-date-time", 6⟩
  | setAcChargeTimeBucket => ⟨119, "SetAcChargeTimeBucket", "ACCT", "set-ac-charge-time", 2⟩
  | setAcSupplyTimeBucket => ⟨120, "SetAcSupplyTimeBucket", "ACLT", "set-ac-supply-time", 2⟩

/-- The number of the command. -/
def id (c : Command) : Nat := c.profile.id

/-- The name in logs and messages. -/
def label (c : Command) : String := c.profile.label

/-- The letters that identify the command in its frame. -/
def mnemonic (c : Command) : List Char := c.profile.mnemonic.toList

/-- The name that a user types. -/
def name (c : Command) : String := c.profile.name

/-- The number of arguments that a user gives. -/
def arity (c : Command) : Nat := c.profile.arity

/-- Whether the command changes a setting. -/
def isSetter (c : Command) : Bool := 100 ≤ c.id

/-- Every command, in the order of their numbers. -/
def all : List Command := [
  getProtocolId, getCurrentTime, getTotalGenerated, getYearGenerated, getMonthGenerated,
  getDayGenerated, getSerialNumber, getCpuVersion, getRatedInformation, getGeneralStatus,
  getWorkingMode, getFaultsAndWarnings, getFlagsAndStatuses, getRatedDefaults,
  getAllowedChargeCurrents, getAllowedAcChargeCurrents, getParallelRatedInformation,
  getParallelGeneralStatus, getAcChargeTimeBucket, getAcSupplyTimeBucket, setAcSupply, setFlag,
  setDefaults, setBatteryMaxChargeCurrent, setBatteryMaxAcChargeCurrent, setAcOutputFreq,
  setBatteryMaxChargeVoltage, setAcOutputVoltage, setOutputSourcePriority,
  setBatteryChargeThresholds, setChargeSourcePriority, setSolarPowerPriority,
  setAcInputVoltageRange, setBatteryType, setOutputMode, setBatteryCutOffVoltage, setSolarConfig,
  clearGenerated, setDateTime, setAcChargeTimeBucket, setAcSupplyTimeBucket]

theorem mem_all (c : Command) : c ∈ all := by
  cases c <;> decide

/-- The command with the given number. -/
def ofId? (id : Nat) : Option Command :=
  all.find? (·.id == id)

/-- The command that a user names. -/
def ofName? (name : String) : Option Command :=
  all.find? (·.name == name)

/-- The command with the given label. -/
def ofLabel? (label : String) : Option Command :=
  all.find? (·.label == label)

end Command

end InverterLink
