import InverterLink.CommandLine.Parsing
import InverterLink.Settings.Basic

/-!
# The options of the daemon

The daemon takes the path of its settings, and may be told to log more or to use another kind of
device than the settings say. It takes no operands.
-/

namespace InverterLink

/-- What the daemon is told by its arguments. -/
structure DaemonOptions where
  /-- The path of the settings. -/
  settingsPath : String := "config.yaml"
  /-- Log everything up to the level of debugging. -/
  isVerbose : Bool := false
  /-- The kind of device to use instead of that of the settings. -/
  kind? : Option DeviceKind := none
deriving DecidableEq

namespace DaemonOptions

/-- The options that the daemon knows. -/
def flags : List (Flag DaemonOptions) := [
  ⟨some 'c', "config", .text fun path o => { o with settingsPath := path }⟩,
  ⟨some 'v', "verbose", .switch fun o => { o with isVerbose := true }⟩,
  ⟨none, "device",
    .choice DeviceKind.all DeviceKind.name fun kind o => { o with kind? := some kind }⟩]

/-- The options that arguments stand for. -/
def ofArguments (args : List String) : Except UsageError DaemonOptions := do
  return (← parseArguments flags false {} args).1

/-- The settings with the kind of device that the arguments ask for. -/
def apply (o : DaemonOptions) (s : Settings) : Settings :=
  match o.kind? with
  | some kind => { s with device := { s.device with kind } }
  | none => s

end DaemonOptions

end InverterLink
