import InverterLink.Port
import InverterLink.Service.Server

/-!
# The daemon

The daemon opens the device of its settings, gives it to a session, and listens for connections.
Everything that it does on the way is reported.
-/

namespace InverterLink

/-- The version of the daemon and of the tool. -/
def programVersion : String := "0.3.0-dev"

/-- Why the daemon did not start. -/
inductive DaemonError where
  | device (kind : DeviceKind) (cause : Error)
  | listen (address reason : String)
deriving DecidableEq

/-- The wording of a failure of the daemon. -/
def DaemonError.message : DaemonError → String
  | device kind cause => s!"failed to open {kind.name} device: {cause.message}"
  | listen address reason => s!"bind {address}: {reason}"

namespace Daemon

/-- Opens the device of the settings for a session, and reports what was done. -/
def openSession (host : Host) (s : Settings) : Except DaemonError Session × List LogEntry :=
  match Port.connect host s.device with
  | (.ok device, log) =>
    (.ok { link := { device, timeout := s.device.timeout }, policy := s.server.policy }, log)
  | (.error cause, log) => (.error (.device s.device.kind cause), log)

/-- Reports about the settings and about the start. -/
def announcement (s : Settings) : List LogEntry :=
  (s.summary ++ [s!"inverterd {programVersion} starting"]).map fun message => ⟨.info, message⟩

/-- Starts a server, unless the device cannot be opened or the daemon cannot listen. A failure is
the last report. -/
def start (host : Host) (s : Settings) : Except DaemonError Server × List LogEntry :=
  match openSession host s with
  | (.error e, log) => (.error e, announcement s ++ log ++ [⟨.error, e.message⟩])
  | (.ok session, log) =>
    let address := s.server.address
    match host.listenFailure? address with
    | some reason =>
      let e := DaemonError.listen address reason
      (.error e, announcement s ++ log ++ [⟨.error, e.message⟩])
    | none =>
      (.ok { session }, announcement s ++ log ++ [⟨.info, s!"listening on {address}"⟩])

end Daemon

end InverterLink
