import InverterLink.CommandLine.DaemonOptions
import InverterLink.CommandLine.ToolOptions
import InverterLink.Service.Daemon

/-!
# The two programs

The daemon reads its settings and serves, and the tool executes a single command and shows the
answer. Each is a function of its arguments and of what the system answers.

## Main definitions

* `Daemon.launch`: what the daemon does up to the point where it serves.
* `Tool.run`: a whole run of the tool.
-/

namespace InverterLink

/-- What a program leaves behind. -/
structure Outcome where
  /-- What it has written. -/
  output : String := ""
  /-- What it has logged. -/
  log : List LogEntry := []
  exitCode : Nat := 0
deriving DecidableEq

/-- The line that tells the version. -/
def versionLine : String := s!"p18-bridge {programVersion}\n"

/-- How the options of a program are given. -/
def helpText {σ : Type} (flags : List (Flag σ)) : String :=
  "Options:\n" ++ String.join ((flags ++ commonFlags σ).map Flag.usage)

/-- What a program with the given options leaves behind that its arguments do not start. -/
def Outcome.ofUsage {σ : Type} (flags : List (Flag σ)) (e : UsageError) : Outcome where
  output :=
    match e with
    | .help => helpText flags
    | .version => versionLine
    | _ => ""
  log := e.message?.toList.map fun message => ⟨.error, message⟩
  exitCode := e.exitCode

namespace Daemon

/-- What the daemon does with its arguments: it ends, or it serves, has logged something, and goes
on to log what a filter shows. -/
inductive Launch where
  | ended (outcome : Outcome)
  | serving (server : Server) (filter : String) (log : List LogEntry)

/-- The exit code of a daemon whose settings cannot be used. -/
def settingsExitCode : Nat := 255

/-- What a daemon leaves behind whose settings cannot be used. -/
def refusal (reason : String) : Outcome where
  log := [⟨.error, s!"Failed to load config: {reason}"⟩]
  exitCode := settingsExitCode

/-- What the log shows. -/
def filter (o : DaemonOptions) (s : Settings) : String :=
  if o.isVerbose then "debug" else s.logLevel

/-- Starts the daemon with the settings that a text holds. -/
def launchWith (host : Host) (o : DaemonOptions) (text : String) : Launch :=
  match Settings.ofText text with
  | .error e => .ended (refusal e.message)
  | .ok settings =>
    let shown := filter o settings
    match start host (o.apply settings) with
    | (.error _, log) => .ended { log := shownEntries shown log, exitCode := 1 }
    | (.ok server, log) => .serving server shown (shownEntries shown log)

/-- Starts the daemon. The text of the file at a path is known if it can be read. -/
def launch (host : Host) (readFile? : String → Option String) (args : List String) : Launch :=
  match DaemonOptions.ofArguments args with
  | .error e => .ended (Outcome.ofUsage DaemonOptions.flags e)
  | .ok o =>
    match readFile? o.settingsPath with
    | some text => launchWith host o text
    | none => .ended (refusal s!"error reading {o.settingsPath}")

end Daemon

namespace Tool

/-- A line of output. -/
def line (cs : List Char) : String :=
  String.ofList (cs ++ ['\n'])

/-- The answer to a text that was sent as it is, with a dump if more is wanted. -/
def showRaw (isVerbose : Bool) (answer : List UInt8) : String :=
  line (Utf8.decodeLossy answer) ++ if isVerbose then line (HexDump.write answer) else ""

/-- What the tool shows on the link to its device, and the link after it. The result is `none` if
the device keeps the tool waiting forever. -/
def query (o : ToolOptions) (link : Link) : Option (Except Error String × Link) :=
  match o.raw? with
  | some raw =>
    (link.query raw.toList).map fun (result, link) => (result.map (showRaw o.isVerbose), link)
  | none =>
    match Command.ofRequest (o.command?.getD "") o.args with
    | .error e => some (.error e, link)
    | .ok (command, args) =>
      (link.execute command args).map fun (result, link) =>
        (result.map fun response => line (response.render o.format), link)

/-- What the log shows. -/
def filter (o : ToolOptions) : String :=
  if o.isVerbose then "debug" else "warn"

/-- What the tool leaves behind when it has reported something and then shown a result or failed. -/
def finish (o : ToolOptions) (log : List LogEntry) (result : Except Error String) : Outcome :=
  let log := shownEntries (filter o) log
  match result with
  | .ok output => { output, log }
  | .error e =>
    { output := line ((Response.ofError e.collapse).render o.format), log, exitCode := 1 }

/-- Executes what the options ask for on a device, when something has been reported. -/
def runOver (o : ToolOptions) (device : Loopback) (log : List LogEntry) : Option Outcome :=
  (query o { device, flags := .readOnly, timeout := o.device.timeout, log }).map
    fun (result, link) => finish o link.log result

/-- Executes what the options ask for. -/
def runWith (host : Host) (o : ToolOptions) : Option Outcome :=
  match Port.connect host o.device with
  | (.error e, log) => some (finish o log (.error e))
  | (.ok device, log) => runOver o device log

/-- Runs the tool. -/
def run (host : Host) (args : List String) : Option Outcome :=
  match ToolOptions.ofArguments args with
  | .error e => some (Outcome.ofUsage ToolOptions.flags e)
  | .ok o => runWith host o

end Tool

end InverterLink
