import InverterLink.Error
import InverterLink.Log
import InverterLink.Service.Session

/-!
# Settings

What the daemon and the command-line tool can be told about the device, about serving, and about the
log, with the values that hold when nothing is said.

## Main definitions

* `Settings`: all settings.
* `Settings.check`: the rules that settings must obey.
* `Settings.summary`: the settings as the daemon reports them.
-/

namespace InverterLink

/-- How a device is attached. -/
inductive DeviceKind where
  | usb
  | serial
  /-- Not at all: a loopback device answers. -/
  | pseudo
deriving DecidableEq

/-- The name of a kind of device. -/
def DeviceKind.name : DeviceKind → String
  | usb => "usb"
  | serial => "serial"
  | pseudo => "pseudo"

/-- Every kind of device. -/
def DeviceKind.all : List DeviceKind := [usb, serial, pseudo]

/-- The stop bits of a serial line. -/
inductive StopBits where
  | one
  | oneAndHalf
  | two
deriving DecidableEq

/-- The name of a number of stop bits. -/
def StopBits.name : StopBits → String
  | one => "1"
  | oneAndHalf => "1.5"
  | two => "2"

/-- Every number of stop bits. -/
def StopBits.all : List StopBits := [one, oneAndHalf, two]

/-- The parity of a serial line. -/
inductive Parity where
  | none
  | odd
  | even
  | mark
  | space
deriving DecidableEq

/-- The name of a parity. -/
def Parity.name : Parity → String
  | none => "none"
  | odd => "odd"
  | even => "even"
  | mark => "mark"
  | space => "space"

/-- Every parity. -/
def Parity.all : List Parity := [none, odd, even, mark, space]

/-- Which device on the bus is meant: the one at a path, or else the one with two numbers. -/
structure UsbSettings where
  vendorId : Nat := 0x0665
  productId : Nat := 0x5161
  path? : Option String := none
deriving DecidableEq

/-- Which serial line is meant, and how it is set up. -/
structure SerialSettings where
  path : String := "/dev/ttyUSB0"
  baudRate : Nat := 2400
  dataBits : Nat := 8
  stopBits : StopBits := .one
  parity : Parity := .none
deriving DecidableEq

/-- The settings of the device. -/
structure DeviceSettings where
  kind : DeviceKind := .usb
  /-- The budget for an exchange in milliseconds, or zero for no limit. -/
  timeout : Nat := 1000
  usb : UsbSettings := {}
  serial : SerialSettings := {}
deriving DecidableEq

/-- The settings of the daemon. -/
structure ServerSettings where
  host : String := "127.0.0.1"
  port : Nat := 8305
  policy : SessionPolicy := {}
deriving DecidableEq

/-- All settings. -/
structure Settings where
  device : DeviceSettings := {}
  server : ServerSettings := {}
  logLevel : String := "info"
deriving DecidableEq

/-- Why settings are not acceptable. -/
inductive SettingsError where
  /-- The text that should hold the settings does not. -/
  | malformed
  | baudRate (rate : Nat)
  | dataBits (bits : Nat)
  | noUsbIds
  | noPort
deriving DecidableEq

/-- The speeds that a serial line can have. -/
def baudRates : List Nat := [110, 300, 1200, 2400, 4800, 9600, 19200, 38400, 57600, 115200]

/-- Whether a serial line can have the speed. -/
def isBaudRate (rate : Nat) : Bool :=
  baudRates.contains rate

/-- The wording of a fault of settings. -/
def SettingsError.message : SettingsError → String
  | malformed => "the settings are malformed"
  | baudRate rate =>
    let rates := ", ".intercalate (baudRates.map fun rate => s!"{rate}")
    s!"serial.baud_rate {rate} is not one of [{rates}]"
  | dataBits bits => s!"serial.data_bits must be between 5 and 8, got {bits}"
  | noUsbIds => "usb.vendor_id and usb.product_id must be non-zero"
  | noPort => "server.port must be non-zero"

namespace ServerSettings

/-- The address on which the daemon listens. -/
def address (s : ServerSettings) : String :=
  s!"{s.host}:{s.port}"

end ServerSettings

namespace Settings

/-- Checks settings. Every part is checked, also one that the kind of device makes no use of. -/
def check (s : Settings) : Except SettingsError Unit :=
  let serial := s.device.serial
  let usb := s.device.usb
  if !isBaudRate serial.baudRate then .error (.baudRate serial.baudRate)
  else if serial.dataBits < 5 || 8 < serial.dataBits then .error (.dataBits serial.dataBits)
  else if usb.path?.isNone && (usb.vendorId = 0 || usb.productId = 0) then .error .noUsbIds
  else if s.server.port = 0 then .error .noPort
  else .ok ()

/-- A number as four hexadecimal digits. -/
def hexId (n : Nat) : String :=
  String.ofList (Digits.writeHex 4 n)

/-- The device settings as the daemon reports them, by the kind of device. -/
def deviceSummary (s : DeviceSettings) : List String :=
  match s.kind with
  | .usb =>
    match s.usb.path? with
    | some path => [s!"    Path: {path}"]
    | none => [s!"    Vendor/Product: {hexId s.usb.vendorId}:{hexId s.usb.productId}"]
  | .serial => [
    s!"    Path: {s.serial.path}",
    s!"    Line: {s.serial.baudRate} {s.serial.dataBits}{s.serial.parity.name}" ++
      s.serial.stopBits.name]
  | .pseudo => []

/-- The settings as the daemon reports them. -/
def summary (s : Settings) : List String :=
  ["Configuration loaded successfully:",
    s!"  Device: {s.device.kind.name}",
    s!"    Timeout: {s.device.timeout}ms"] ++
  deviceSummary s.device ++
  [s!"  Server: {s.server.address}",
    s!"    Cache Timeout: {s.server.policy.cacheTimeout}ms",
    s!"    Delay: {s.server.policy.delay}ms",
    s!"    Device Error Limit: {s.server.policy.errorLimit}",
    s!"  Log Level: {s.logLevel}"]

end Settings

end InverterLink
