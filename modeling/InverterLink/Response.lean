import InverterLink.Command.Basic
import InverterLink.Frame
import InverterLink.Log
import InverterLink.Record.Decoding
import InverterLink.Record.Display

/-!
# Responses

What comes back for a command: the record that was asked for, the acknowledgement of a setting, or,
in place of either, the message of an error. `Response.decode` reads the frame that a device returns
for a command, without its checksum and terminator.
-/

namespace InverterLink

/-- What comes back for a command. -/
inductive Response where
  | record (r : Record)
  /-- The device accepted or refused a setting. -/
  | acknowledgement (accepted : Bool)
  /-- The message of an error stands in for an answer. -/
  | failure (message : List Char)
deriving DecidableEq

/-- The kind of record that a question is answered with. -/
def Command.recordKind? : Command → Option RecordKind
  | getProtocolId => some .protocolId
  | getCurrentTime => some .currentTime
  | getTotalGenerated | getYearGenerated | getMonthGenerated | getDayGenerated => some .generated
  | getSerialNumber => some .serialNumber
  | getCpuVersion => some .cpuVersion
  | getRatedInformation => some .ratedInformation
  | getGeneralStatus => some .generalStatus
  | getWorkingMode => some .workingMode
  | getFaultsAndWarnings => some .faultsAndWarnings
  | getFlagsAndStatuses => some .flagsAndStatuses
  | getRatedDefaults => some .ratedDefaults
  | getAllowedChargeCurrents | getAllowedAcChargeCurrents => some .allowedCurrents
  | getParallelRatedInformation => some .parallelRatedInformation
  | getParallelGeneralStatus => some .parallelGeneralStatus
  | getAcChargeTimeBucket | getAcSupplyTimeBucket => some .timeBucket
  | _ => none

namespace Response

/-- The three bytes that declare the size of a frame, read as a number. -/
def declaredSize? (digits : List UInt8) : Option Nat :=
  Digits.read? (digits.map fun b => Char.ofNat b.toNat)

/-- The payload of a frame with the marker `^D`. The declared size may be smaller than the size of
the frame, but not greater. -/
def payload (frame : List UInt8) : Except ResponseError (List Char) :=
  match frame with
  | m₀ :: m₁ :: d₀ :: d₁ :: d₂ :: bytes =>
    if m₀ = 0x5E ∧ m₁ = 0x44 then
      match declaredSize? [d₀, d₁, d₂] with
      | none => .error .lengthNotNumeral
      | some declared =>
        if bytes.length + Frame.trailerSize < declared then
          .error (.lengthExceeded declared (bytes.length + Frame.trailerSize))
        else
          match Utf8.decode? bytes with
          | some text => .ok text
          | none => .error .notText
    else
      .error .noMarker
  | _ => .error (.tooShort frame.length)

/-- The acknowledgement that a frame begins with. -/
def acknowledgement? : List UInt8 → Option Bool
  | 0x5E :: 0x31 :: _ => some true
  | 0x5E :: 0x30 :: _ => some false
  | _ => none

/-- The response to a command that a frame holds. -/
def decode (command : Command) (frame : List UInt8) : Except Error Response :=
  match command.recordKind? with
  | none =>
    match acknowledgement? frame with
    | some accepted => .ok (acknowledgement accepted)
    | none => .error (.response .notAcknowledgement)
  | some kind =>
    match payload frame with
    | .error cause => .error (.response cause)
    | .ok text => (Record.ofPayload kind text).map record

/-- The warnings about a frame: one if it holds more items than are known. -/
def warnings (command : Command) (frame : List UInt8) : List LogEntry :=
  match command.recordKind?, payload frame with
  | some kind, .ok text => Record.warnings kind text
  | _, _ => []

/-- The name of a response: that of its kind of record, `Set`, or `Error`. -/
def label : Response → String
  | record r => r.kind.label
  | acknowledgement _ => "Set"
  | failure _ => "Error"

/-- What a response shows. -/
def content : Response → Content
  | record r => r.content
  | acknowledgement accepted => .status accepted []
  | failure message => .status false message

/-- A response in a format. -/
def render (format : Format) (response : Response) : List Char :=
  response.content.render format

/-- The response that stands for an error. -/
def ofError (e : Error) : Response :=
  failure e.message.toList

end Response

end InverterLink
