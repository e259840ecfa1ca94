import InverterLink.Settings.Basic
import InverterLink.Yaml.Content

/-!
# Reading settings

Settings are written in YAML, with a mapping for each part. A field that is left out has its
default, and so has every field of a part that is left empty. Fields that are not known are passed
over.
-/

namespace InverterLink

open Yaml (Document Node field?)

/-- The number of values of eight bits. -/
def byteBound : Nat := 256

/-- The number of values of 16 bits. -/
def shortBound : Nat := 65536

/-- The number of values of 32 bits. -/
def longBound : Nat := 4294967296

/-- The number of values of 64 bits. -/
def wideBound : Nat := 18446744073709551616

/-- The settings of the bus that a node holds. -/
def UsbSettings.ofNode? (d : Document) (node : Node) : Option UsbSettings := do
  let fields ← d.fields? node
  let defaults : UsbSettings := {}
  return {
    vendorId := ← field? fields "vendor_id" defaults.vendorId (d.number? shortBound)
    productId := ← field? fields "product_id" defaults.productId (d.number? shortBound)
    path? := ← field? fields "path" defaults.path? d.optionalText? }

/-- The settings of a serial line that a node holds. -/
def SerialSettings.ofNode? (d : Document) (node : Node) : Option SerialSettings := do
  let fields ← d.fields? node
  let defaults : SerialSettings := {}
  return {
    path := ← field? fields "path" defaults.path d.text?
    baudRate := ← field? fields "baud_rate" defaults.baudRate (d.number? longBound)
    dataBits := ← field? fields "data_bits" defaults.dataBits (d.number? byteBound)
    stopBits := ← field? fields "stop_bits" defaults.stopBits (d.word? StopBits.all StopBits.name)
    parity := ← field? fields "parity" defaults.parity (d.word? Parity.all Parity.name) }

/-- The settings of the device that a node holds. -/
def DeviceSettings.ofNode? (d : Document) (node : Node) : Option DeviceSettings := do
  let fields ← d.fields? node
  let defaults : DeviceSettings := {}
  return {
    kind := ← field? fields "kind" defaults.kind (d.word? DeviceKind.all DeviceKind.name)
    timeout := ← field? fields "timeout" defaults.timeout (d.number? wideBound)
    usb := ← field? fields "usb" defaults.usb (UsbSettings.ofNode? d)
    serial := ← field? fields "serial" defaults.serial (SerialSettings.ofNode? d) }

/-- The settings of the daemon that a node holds. -/
def ServerSettings.ofNode? (d : Document) (node : Node) : Option ServerSettings := do
  let fields ← d.fields? node
  let defaults : ServerSettings := {}
  return {
    host := ← field? fields "host" defaults.host d.text?
    port := ← field? fields "port" defaults.port (d.number? shortBound)
    policy := {
      cacheTimeout := ←
        field? fields "cache_timeout" defaults.policy.cacheTimeout (d.number? wideBound)
      delay := ← field? fields "delay" defaults.policy.delay (d.number? wideBound)
      errorLimit := ←
        field? fields "device_error_limit" defaults.policy.errorLimit fun node =>
          (d.number? longBound node).map UInt32.ofNat } }

namespace Settings

/-- The settings that a document holds. -/
def ofDocument? (d : Document) : Option Settings := do
  let fields ← d.fields? d.root
  let defaults : Settings := {}
  return {
    device := ← field? fields "device" defaults.device (DeviceSettings.ofNode? d)
    server := ← field? fields "server" defaults.server (ServerSettings.ofNode? d)
    logLevel := ← field? fields "loglevel" defaults.logLevel d.text? }

/-- The settings that a text holds, if they are acceptable. -/
def ofText (text : String) : Except SettingsError Settings :=
  match (Document.ofText? text.toList).bind ofDocument? with
  | some s => s.check.map fun _ => s
  | none => .error .malformed

end Settings

end InverterLink
