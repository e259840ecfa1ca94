import InverterLink.Text.Quoted

/-!
# Errors

Every failure of the library is an `Error`: a cause, with the data that its message shows. The
wording stands in `Error.message` alone, and `Error.layer` says which layer a cause belongs to. The
daemon and the command-line tool show errors of the link and of the answer as errors of the running
program, which `Error.collapse` turns them into.
-/

namespace InverterLink

/-- The layers that an error can belong to. -/
inductive Layer where
  | device
  | timeout
  | invalidData
  | invalidResponse
  | parse
  | invalidArgument
  | internal
  | runtime
deriving DecidableEq

/-- Why a port could not be opened. -/
inductive PortError where
  | usbUnsupported
  | invalidBaudRate (rate : Nat)
  | invalidDataBits (bits : Nat)
  | oneAndHalfStopBits
  | unsupportedParity (parity : String)
  | openFailed (path reason : String)
deriving DecidableEq

/-- The part of an exchange during which its time ran out. -/
inductive Phase where
  | sending
  | writing
  | reading
deriving DecidableEq

/-- Why the bytes that came back are no frame. -/
inductive FrameError where
  | bufferFull
  | tooSmall
  | checksum (expected actual : UInt16)
deriving DecidableEq

/-- Why a frame is no response of the right form. -/
inductive ResponseError where
  | tooShort (size : Nat)
  | noMarker
  | lengthNotNumeral
  | lengthExceeded (declared actual : Nat)
  | notText
  | notAcknowledgement
deriving DecidableEq

/-- The sizes that a field may have. Both bounds belong to the range. -/
structure Width where
  least : Nat
  greatest : Nat
deriving DecidableEq

/-- Why the payload of a response is no record. -/
inductive ParseError where
  | tooFewItems (expected actual : Nat)
  | wrongWidth (index : Nat) (expected : Width) (actual : Nat)
  | missingItem (index : Nat)
  | unknownValue (index value : Nat)
  | unknownMode (value : Nat)
  | notNumeral (text : List Char)
  | outOfRange (numeral : List Char)
  | tooFewCharacters (expected actual : Nat)
deriving DecidableEq

/-- Why a request was refused before it reached the device. -/
inductive ArgumentError where
  | invalid (subject : String)
  | onlyAllowed (subject : String) (first second : Nat)
  | wrongCount (required : Nat)
  | wrongTokenCount (expected actual : Nat)
  | unknownToken (token : String)
  | oversized (limit : Nat)
deriving DecidableEq

/-- Why arguments could not be laid out in a frame. -/
inductive PackError where
  | missing (index : Nat)
  | notInteger (index : Nat) (text : String)
  | notDecimal (index : Nat) (text : String)
  | yearBefore2000
deriving DecidableEq

/-- A failure, by its cause. -/
inductive Error where
  /-- The port could not be opened. -/
  | port (cause : PortError)
  /-- The time for an exchange ran out after so many milliseconds. -/
  | timeout (phase : Phase) (elapsed : Nat)
  /-- What came back is no frame. -/
  | frame (cause : FrameError)
  /-- What came back is no response. -/
  | response (cause : ResponseError)
  /-- The payload is not the record of that name. -/
  | parse (record : String) (cause : ParseError)
  /-- The request is not acceptable. -/
  | argument (cause : ArgumentError)
  /-- The arguments of the command of that name do not fit its layout. -/
  | pack (command : String) (cause : PackError)
  /-- The request is of a kind that the daemon does not serve. -/
  | unimplemented
  /-- A failure of the link or of the answer, as the running program reports it. -/
  | collapsed (cause : Error)
  /-- A failure known only by its layer and its message. -/
  | stated (layer : Layer) (message : String)
deriving DecidableEq

/-! ### Wording -/

/-- What the message of a collapsed error starts with, for the layers that are collapsed. -/
def Layer.collapsedLabel? : Layer → Option String
  | .device => some "device error: "
  | .timeout => some "timeout: "
  | .invalidData => some "data is invalid: "
  | .invalidResponse => some "response is invalid: "
  | .parse => some "response is invalid: "
  | .invalidArgument => none
  | .internal => none
  | .runtime => none

/-- The wording of a cause that concerns a port. -/
def PortError.message : PortError → String
  | usbUnsupported => "usb support not compiled in"
  | invalidBaudRate rate => s!"invalid baud rate {rate}"
  | invalidDataBits bits => s!"invalid data bits {bits}"
  | oneAndHalfStopBits => "1.5 stop bits are not supported by the serial driver"
  | unsupportedParity parity => s!"{parity} parity is not supported by the serial driver"
  | openFailed path reason => s!"failed to open {path}: {reason}"

/-- What took too long. -/
def Phase.description : Phase → String
  | sending => "sending"
  | writing => "data writing"
  | reading => "data reading"

/-- A checksum as `0x` and four hexadecimal digits. -/
def checksumText (value : UInt16) : String :=
  "0x" ++ String.ofList (Digits.writeHex 4 value.toNat)

/-- The wording of a cause that concerns a frame. -/
def FrameError.message : FrameError → String
  | bufferFull => "input buffer is not large enough"
  | tooSmall => "response is too small"
  | checksum expected actual =>
    s!"crc is invalid: expected {checksumText expected}, got {checksumText actual}"

/-- The wording of a cause that concerns the form of a response. -/
def ResponseError.message : ResponseError → String
  | tooShort size => s!"response is too short ({size} bytes)"
  | noMarker => "response does not start with ^D"
  | lengthNotNumeral => "response length is not a number"
  | lengthExceeded declared actual => s!"response declares {declared} bytes, got {actual}"
  | notText => "response is not ASCII"
  | notAcknowledgement => "set response must be ^0 or ^1"

/-- A width as one number if the bounds agree, and as a bracketed pair otherwise. -/
def Width.text (width : Width) : String :=
  if width.least = width.greatest then s!"{width.least}"
  else s!"[{width.least}, {width.greatest}]"

/-- A text between quotation marks. -/
def quoted (cs : List Char) : String :=
  String.ofList (Quoted.quote cs)

/-- The wording of a cause that concerns the items of a record. -/
def ParseError.message : ParseError → String
  | tooFewItems expected actual =>
    s!"list is expected to be {expected} items long, got only {actual} items"
  | wrongWidth index expected actual =>
    s!"item {index} is expected to be {expected.text} characters long, got {actual} characters"
  | missingItem index => s!"item {index} is missing"
  | unknownValue index value => s!"item {index} has unknown value {value}"
  | unknownMode value => s!"unknown mode {value}"
  | notNumeral text => s!"{quoted text} is not a number"
  | outOfRange numeral => s!"{String.ofList numeral} is out of range"
  | tooFewCharacters expected actual =>
    s!"expected at least {expected} characters, got {actual}"

/-- The wording of a cause that concerns a request. -/
def ArgumentError.message : ArgumentError → String
  | invalid subject => s!"invalid {subject}"
  | onlyAllowed subject first second => s!"invalid {subject}, only {first} or {second} allowed"
  | wrongCount required =>
    let ending := if required = 1 then "" else "s"
    s!"this command requires {required} argument{ending}"
  | wrongTokenCount expected actual =>
    s!"invalid arguments count: expected {expected}, got {actual}"
  | unknownToken token => s!"invalid token: {token}"
  | oversized limit => s!"request exceeds {limit} bytes"

/-- The wording of a cause that concerns the layout of arguments. -/
def PackError.message : PackError → String
  | missing index => s!"argument {index} is missing"
  | notInteger index text => s!"argument {index} is not an integer: {quoted text.toList}"
  | notDecimal index text => s!"argument {index} is not a decimal: {quoted text.toList}"
  | yearBefore2000 => "year before 2000"

namespace Error

/-- The layer that the error belongs to. -/
def layer : Error → Layer
  | port _ => .device
  | timeout _ _ => .timeout
  | frame _ => .invalidData
  | response _ => .invalidResponse
  | parse _ _ => .parse
  | argument _ => .invalidArgument
  | pack _ _ => .internal
  | unimplemented => .runtime
  | collapsed _ => .runtime
  | stated layer _ => layer

/-- The text that is shown for the error. -/
def message : Error → String
  | port cause => cause.message
  | timeout phase elapsed => s!"{phase.description} already took {elapsed} ms"
  | frame cause => cause.message
  | response cause => cause.message
  | parse record cause => s!"while parsing {record}: {cause.message}"
  | argument cause => cause.message
  | pack command cause => s!"{command}: {cause.message}"
  | unimplemented => "not implemented"
  | collapsed cause => (cause.layer.collapsedLabel?.getD "") ++ cause.message
  | stated _ message => message

/-! ### Classes of errors -/

/-- The device answered with something that could not be made sense of. -/
def isInvalidResponse (e : Error) : Bool :=
  e.layer = .invalidResponse || e.layer = .parse

/-- The failure points at the device or at the line, rather than at the request. -/
def isDeviceLevel (e : Error) : Bool :=
  e.layer = .device || e.layer = .timeout || e.layer = .invalidData

/-- There are three layers whose failures point there. -/
theorem isDeviceLevel_iff {e : Error} :
    e.isDeviceLevel = true ↔ e.layer ∈ [Layer.device, .timeout, .invalidData] := by
  simp [isDeviceLevel, or_assoc]

/-- Failures of the link and of the answer become failures of the running program, worded with the
layer in front; every other error stays as it is. -/
def collapse (e : Error) : Error :=
  if e.layer.collapsedLabel?.isSome then collapsed e else e

end Error

end InverterLink
