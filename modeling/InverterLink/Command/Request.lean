import InverterLink.Calendar
import InverterLink.Command.Basic
import InverterLink.Command.Values
import InverterLink.Error

/-!
# Checking requests

A request names a command and gives its arguments as texts. `Command.ofRequest` finds the command
and checks the arguments without touching the device. What it returns are the arguments as they are
laid out in a frame: a word has become its ordinal, the name of a switch its letter, and a time of
day two numbers.
-/

namespace InverterLink.Command

/-- Refuses a request because of the subject named. -/
def refuse {α : Type} (subject : String) : Except Error α :=
  .error (.argument (.invalid subject))

/-- The value, or the refusal of the subject named if there is none. -/
def require {α : Type} (subject : String) : Option α → Except Error α
  | some a => .ok a
  | none => refuse subject

/-- Refuses the subject named unless the condition holds. -/
def ensure (subject : String) (condition : Bool) : Except Error Unit :=
  if condition then .ok () else refuse subject

/-- A natural number as an argument. -/
def numeral (n : Nat) : String :=
  String.ofList (Digits.write n)

/-! ### Dates and times -/

/-- The year that four digits denote, if it belongs to this century. -/
def readYear? (cs : List Char) : Option Nat :=
  if cs.length = 4 then (Digits.read? cs).filter fun y => 2000 ≤ y && y ≤ 2099 else none

/-- The number that one or two digits denote, if it lies between the bounds. -/
def readPart? (low high : Nat) (cs : List Char) : Option Nat :=
  if cs.length ≤ 2 then (Digits.read? cs).filter fun n => low ≤ n && n ≤ high else none

/-- Checks a year. -/
def checkYear (year : String) : Except Error Nat :=
  require "year" (readYear? year.toList)

/-- Checks a month. -/
def checkMonth (month : String) : Except Error Nat :=
  require "month" (readPart? 1 12 month.toList)

/-- Checks a date, part by part and then as a whole. -/
def checkDate (year month day : String) : Except Error Unit := do
  let y ← checkYear year
  let m ← checkMonth month
  let d ← require "day" (readPart? 1 31 day.toList)
  ensure "date" (Calendar.isDate y m d)

/-- Checks one part of a time of day. -/
def checkClockPart (subject : String) (greatest : Nat) (part : String) : Except Error Unit := do
  let _ ← require subject (readPart? 0 greatest part.toList)

/-- The hour and the minute of a time of day, which a colon separates. -/
def readClock? (cs : List Char) : Option (Nat × Nat) :=
  match cs.splitOn ':' with
  | [hour, minute] => do
    let h ← (Digits.read? hour).filter (· ≤ 23)
    let m ← (Digits.read? minute).filter (· ≤ 59)
    return (h, m)
  | _ => none

/-! ### Numbers and words -/

/-- The ordinal of a word among the choices. -/
def choose (choices : List String) (subject word : String) : Except Error String :=
  require subject ((choices.idxOf? word).map numeral)

/-- Checks the number of a device that works in parallel with others. -/
def checkParallelId (id : String) : Except Error String := do
  let n ← require "id" ((Digits.read? id.toList).filter Values.isParallelId)
  return numeral n

/-- Checks that the argument is `0` or `1`. -/
def checkBit (subject bit : String) : Except Error Unit :=
  if bit = "0" ∨ bit = "1" then .ok () else .error (.argument (.onlyAllowed subject 0 1))

/-- The finite decimal that an argument denotes. -/
def readVoltage (subject voltage : String) : Except Error Rat :=
  require subject (Decimal.read? voltage.toList)

/-! ### Requests -/

/-- Checks the arguments of a command, in a list of the right length, and brings them into the form
in which they are laid out. -/
def normalise : Command → List String → Except Error (List String)
  | getYearGenerated, [year] => do
    let _ ← checkYear year
    return [year]
  | getMonthGenerated, [year, month] => do
    let _ ← checkYear year
    let _ ← checkMonth month
    return [year, month]
  | getDayGenerated, [year, month, day] => do
    checkDate year month day
    return [year, month, day]
  | getParallelRatedInformation, [id] | getParallelGeneralStatus, [id] => do
    ensure "argument" (id.toList.length ≤ 1 && Digits.isNumeral id.toList)
    return [id]
  | setAcSupply, [bit] => do
    checkBit "argument" bit
    return [bit]
  | setFlag, [name, bit] => do
    let switch ← require "flag" (Switch.find? name)
    checkBit "flag state" bit
    return [String.singleton switch.letter, bit]
  | setBatteryMaxChargeCurrent, [id, amps] | setBatteryMaxAcChargeCurrent, [id, amps] => do
    let id ← checkParallelId id
    let n ← require "amps" ((Digits.read? amps.toList).filter (· ≤ 999))
    return [id, numeral n]
  | setAcOutputFreq, [freq] =>
    if freq = "50" ∨ freq = "60" then .ok [freq]
    else .error (.argument (.onlyAllowed "frequency" 50 60))
  | setBatteryMaxChargeVoltage, [constant, floating] => do
    let cv ← readVoltage "CV" constant
    let fv ← readVoltage "FV" floating
    ensure "CV" (Values.isBetween 480 584 cv)
    ensure "FV" (Values.isBetween 480 584 fv)
    return [constant, floating]
  | setAcOutputVoltage, [voltage] => do
    let v ← require "voltage" ((Digits.read? voltage.toList).filter Values.outputVoltages.contains)
    return [numeral v]
  | setOutputSourcePriority, [word] => do
    return [← choose Values.outputSources "argument" word]
  | setBatteryChargeThresholds, [recharge, redischarge] => do
    let cv ← readVoltage "CV" recharge
    let dv ← readVoltage "DV" redischarge
    ensure "CV" (Values.isListed Values.rechargeVoltages cv)
    ensure "DV" (Values.isListed Values.redischargeVoltages dv)
    return [recharge, redischarge]
  | setChargeSourcePriority, [id, word] => do
    let id ← checkParallelId id
    return [id, ← choose Values.chargeSources "argument" word]
  | setSolarPowerPriority, [word] => do
    return [← choose Values.solarPriorities "priority" word]
  | setAcInputVoltageRange, [word] => do
    return [← choose Values.inputRanges "argument" word]
  | setBatteryType, [word] => do
    return [← choose Values.batteryTypes "type" word]
  | setOutputMode, [id, word] => do
    let id ← checkParallelId id
    return [id, ← choose Values.outputModes "model" word]
  | setBatteryCutOffVoltage, [voltage] => do
    let v ← readVoltage "voltage" voltage
    ensure "voltage" (Values.isBetween 400 480 v)
    return [voltage]
  | setSolarConfig, [serial] => do
    ensure "argument" (Digits.isNumeral serial.toList && serial.toList.length ≤ 20)
    return [serial]
  | setDateTime, [year, month, day, hour, minute, second] => do
    checkDate year month day
    checkClockPart "hour" 23 hour
    checkClockPart "minute" 59 minute
    checkClockPart "second" 59 second
    return [year, month, day, hour, minute, second]
  | setAcChargeTimeBucket, [start, stop] | setAcSupplyTimeBucket, [start, stop] => do
    let (startHour, startMinute) ← require "start time" (readClock? start.toList)
    let (stopHour, stopMinute) ← require "end time" (readClock? stop.toList)
    return [startHour, startMinute, stopHour, stopMinute].map numeral
  | _, args => .ok args

/-- The command that a request names, and its arguments as they are laid out. -/
def ofRequest (name : String) (args : List String) : Except Error (Command × List String) := do
  let command ← require "command" (ofName? name)
  if args.length = command.arity then
    return (command, ← command.normalise args)
  else
    .error (.argument (.wrongCount command.arity))

end InverterLink.Command
