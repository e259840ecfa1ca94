import InverterLink.CommandLine.Programs

/-!
# The command line

The first argument names the program to run: `inverterd`, the daemon, or `inverterctl`, the tool.
The other arguments are those of the program. The daemon serves the connection that its standard
input and output make up, and it takes up what has arrived as one chunk. Logs go to the standard
error.
-/

namespace InverterLink

/-- The largest chunk that is taken up at once. -/
def chunkSize : USize := 2048

/-- The text of a file, if it can be read. -/
def readText? (path : String) : IO (Option String) := do
  try
    return some (← IO.FS.readFile path)
  catch _ =>
    return none

/-- Writes log entries to the standard error. -/
def showLog (entries : List LogEntry) : IO Unit := do
  for entry in entries do
    IO.eprintln s!"[{entry.level.name}] {entry.message}"

/-- Writes what a program leaves behind. -/
def showOutcome (outcome : Outcome) : IO UInt32 := do
  showLog outcome.log
  IO.print outcome.output
  return UInt32.ofNat outcome.exitCode

/-- Sends replies. -/
def send (output : IO.FS.Stream) (replies : List Reply) : IO Unit := do
  for reply in replies do
    output.write ⟨(Utf8.encode reply.text).toArray⟩
  output.flush

/-- Brings a session and the clock together, which began to count at `start`: time that has passed
since the session was last looked at passes for it too, and time that the session has let pass is
slept. -/
def synchronise (session : Session) (start : Nat) : IO Session := do
  let now := ((← IO.monoMsNow) - start) * millisecond
  IO.sleep (UInt32.ofNat ((session.now - now) / millisecond))
  return session.wait (now - session.now)

/-- What serves a connection: the two streams of it, the time at which the session began to count,
and what is shown of the log. -/
structure Station where
  input : IO.FS.Stream
  output : IO.FS.Stream
  start : Nat
  filter : String

/-- Serves a connection until it ends, the daemon is to stop, or the device keeps it waiting
forever. -/
partial def Station.serve (station : Station) (connection : Connection) (session : Session)
    (buffer : LineBuffer) : IO Session := do
  if session.isShuttingDown then return session
  let chunk ← station.input.read chunkSize
  let session ← synchronise session station.start
  let (lines, buffer) := if chunk.isEmpty then buffer.finish else buffer.feed chunk.toList
  match connection.answer session lines with
  | none => return session
  | some answered =>
    let (log, session) := (← synchronise answered.session station.start).takeLog
    showLog (shownEntries station.filter log)
    send station.output answered.replies
    if chunk.isEmpty || answered.isEnded then return session
    else station.serve answered.connection session buffer

/-- Runs the daemon. -/
def runDaemon (args : List String) : IO UInt32 := do
  let text? ← match DaemonOptions.ofArguments args with
    | .ok o => readText? o.settingsPath
    | .error _ => pure none
  match Daemon.launch {} (fun _ => text?) args with
  | .ended outcome => showOutcome outcome
  | .serving server filter log =>
    showLog log
    let station : Station :=
      { input := ← IO.getStdin, output := ← IO.getStdout, start := ← IO.monoMsNow, filter }
    let session ← station.serve {} server.session {}
    match { server with session }.outcome with
    | .ok () => return 0
    | .error e =>
      showLog (shownEntries filter [⟨.error, e.message⟩])
      return 1

/-- Runs the tool. -/
def runTool (args : List String) : IO UInt32 := do
  match Tool.run {} args with
  | some outcome => showOutcome outcome
  | none => return 1

end InverterLink

/-- Runs the program that the first argument names. -/
def main (args : List String) : IO UInt32 := do
  match args with
  | "inverterd" :: args => InverterLink.runDaemon args
  | "inverterctl" :: args => InverterLink.runTool args
  | _ =>
    IO.eprintln "usage: inverterd|inverterctl ARGUMENTS"
    return 2
