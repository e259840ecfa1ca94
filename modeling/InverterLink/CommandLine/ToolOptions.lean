import InverterLink.CommandLine.Parsing
import InverterLink.Format
import InverterLink.Settings.Reading

/-!
# The options of the tool

The tool takes the settings of the device from its arguments alone. Its first operand names a
command and the others are the arguments of the command; a text to be sent as it is may take the
place of the command, but it has no format.
-/

namespace InverterLink

/-- What the tool is told by its arguments. -/
structure ToolOptions where
  device : DeviceSettings := {}
  isVerbose : Bool := false
  /-- The format that was asked for. -/
  format? : Option Format := none
  /-- The text to be sent as it is. -/
  raw? : Option String := none
  command? : Option String := none
  args : List String := []
deriving DecidableEq

namespace ToolOptions

/-- The format of what the tool shows. -/
def format (o : ToolOptions) : Format :=
  o.format?.getD .table

/-- Changes the settings of the bus. -/
def setUsb (o : ToolOptions) (set : UsbSettings → UsbSettings) : ToolOptions :=
  { o with device := { o.device with usb := set o.device.usb } }

/-- Changes the settings of the serial line. -/
def setSerial (o : ToolOptions) (set : SerialSettings → SerialSettings) : ToolOptions :=
  { o with device := { o.device with serial := set o.device.serial } }

/-! ### Values -/

/-- The number that four hexadecimal digits denote. -/
def readHexId? (text : String) : Option Nat :=
  if text.length = 4 then Yaml.readHex? text.toList else none

/-- The number below `bound` that a numeral denotes, with or without a plus sign. -/
def readUnsigned? (bound : Nat) (text : String) : Option Nat :=
  Digits.readSignedBelow? bound text.toList

/-- The same, where zero may also have a minus sign. -/
def readInteger? (bound : Nat) (text : String) : Option Nat :=
  match text.toList with
  | '-' :: cs => (Digits.read? cs).filter (· = 0)
  | cs => Digits.readSignedBelow? bound cs

/-- The greatest number of bytes of a text to be sent as it is. -/
def rawLimit : Nat := 128

/-- A text that is short enough to be sent as it is. -/
def readRaw? (text : String) : Option String :=
  if text.utf8ByteSize ≤ rawLimit then some text else none

/-! ### Arguments -/

/-- The options that concern the device. -/
def deviceFlags : List (Flag ToolOptions) := [
  ⟨none, "device", .choice DeviceKind.all DeviceKind.name fun kind o =>
    { o with device := { o.device with kind } }⟩,
  ⟨none, "timeout", .form (readUnsigned? wideBound) fun timeout o =>
    { o with device := { o.device with timeout } }⟩,
  ⟨none, "usb-vendor-id", .form readHexId? fun vendorId o => o.setUsb ({ · with vendorId })⟩,
  ⟨none, "usb-device-id", .form readHexId? fun productId o => o.setUsb ({ · with productId })⟩,
  ⟨none, "usb-path", .text fun path o => o.setUsb ({ · with path? := some path })⟩,
  ⟨none, "serial-name", .text fun path o => o.setSerial ({ · with path })⟩,
  ⟨none, "serial-baud-rate", .form (readInteger? longBound) fun baudRate o =>
    o.setSerial ({ · with baudRate })⟩,
  ⟨none, "serial-data-bits", .form (readInteger? byteBound) fun dataBits o =>
    o.setSerial ({ · with dataBits })⟩,
  ⟨none, "serial-stop-bits", .choice StopBits.all StopBits.name fun stopBits o =>
    o.setSerial ({ · with stopBits })⟩,
  ⟨none, "serial-parity", .choice Parity.all Parity.name fun parity o =>
    o.setSerial ({ · with parity })⟩]

/-- The options that the tool knows. -/
def flags : List (Flag ToolOptions) := deviceFlags ++ [
  ⟨some 'v', "verbose", .switch fun o => { o with isVerbose := true }⟩,
  ⟨none, "format",
    .choice Format.all Format.name fun format o => { o with format? := some format }⟩,
  ⟨none, "raw", .form readRaw? fun raw o => { o with raw? := some raw }⟩]

/-- The options that arguments stand for. -/
def ofArguments (args : List String) : Except UsageError ToolOptions := do
  let (o, operands) ← parseArguments flags true {} args
  if o.raw?.isSome && o.format?.isSome then .error .conflict
  else if o.raw?.isNone && operands.isEmpty then .error .missingArgument
  else return { o with command? := operands.head?, args := operands.tail }

end ToolOptions

end InverterLink
