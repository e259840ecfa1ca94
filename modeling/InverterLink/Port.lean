import InverterLink.Loopback
import InverterLink.Settings.Basic

/-!
# Opening a port

A port leads to the device that the settings name. Support for the bus is not built in, and a serial
line has to be set up in a way that its driver knows before the system is asked for it. The loopback
device is always there.

What the system allows is a `Host`: it says why a serial line cannot be opened, and whether the
daemon may listen for connections.
-/

namespace InverterLink

/-- What the surrounding system answers. -/
structure Host where
  /-- Why the serial line at a path cannot be opened. -/
  lineFailure : String → String := fun _ => "No such file or directory"
  /-- Why the daemon cannot listen at an address, if it cannot. -/
  listenFailure? : String → Option String := fun _ => none

namespace Port

/-- Checks that the driver can set up a serial line in this way. -/
def checkLine (s : SerialSettings) : Except PortError Unit :=
  if !isBaudRate s.baudRate then .error (.invalidBaudRate s.baudRate)
  else if s.dataBits < 5 || 8 < s.dataBits then .error (.invalidDataBits s.dataBits)
  else if s.stopBits = .oneAndHalf then .error .oneAndHalfStopBits
  else if s.parity = .mark || s.parity = .space then .error (.unsupportedParity s.parity.name)
  else .ok ()

/-- The report that a serial line is about to be opened. -/
def lineReport (s : SerialSettings) : LogEntry :=
  ⟨.debug, s!"opening {s.path} at {s.baudRate} baud, {s.dataBits} data bits, " ++
    s!"{s.stopBits.name} stop bits, {s.parity.name} parity"⟩

/-- Opens the port to the device that the settings name, and reports what was done. -/
def connect (host : Host) (s : DeviceSettings) : Except Error Loopback × List LogEntry :=
  match s.kind with
  | .usb => (.error (.port .usbUnsupported), [])
  | .serial =>
    match checkLine s.serial with
    | .error cause => (.error (.port cause), [])
    | .ok () =>
      (.error (.port (.openFailed s.serial.path (host.lineFailure s.serial.path))),
        [lineReport s.serial])
  | .pseudo => (.ok {}, [⟨.info, s!"opened {s.kind.name} device"⟩])

end Port

end InverterLink
