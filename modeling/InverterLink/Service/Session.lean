import InverterLink.Link
import InverterLink.Service.Cache

/-!
# Sessions

A session owns the link to the one device of the daemon, and every connection goes through it. It
answers a command from the cache when it can, keeps a pause between two exchanges with the device,
and counts the device errors since the last success: when there are too many of them, the device has
failed and the daemon is to shut down. Calls of a session follow each other, so a state and the next
one describe it.

## Main definitions

* `Session.cached?`: the answer that makes an exchange unnecessary.
* `Session.pace`: the pause before an exchange.
* `Session.settle`: what the outcome of an exchange changes.
* `Session.executeVia`, `Session.execute`: one call, over any way to a device and over the link.
-/

namespace InverterLink

/-- The settings of a session. -/
structure SessionPolicy where
  /-- For how many milliseconds an answer is fresh. -/
  cacheTimeout : Nat := 1000
  /-- How many milliseconds must pass between two exchanges. -/
  delay : Nat := 0
  /-- How many device errors in a row are too many, or zero if there is no such number. -/
  errorLimit : UInt32 := 10
deriving DecidableEq

/-- The state of a session. -/
structure Session where
  link : Link
  policy : SessionPolicy := {}
  cache : Cache := {}
  /-- When the last exchange was over, if there was one. -/
  lastFinished? : Option Nat := none
  /-- The number of device errors since the last success. It begins again at zero when there are
  more of them than 32 bits can count. -/
  deviceErrors : UInt32 := 0
  /-- There have been too many device errors in a row. -/
  deviceFailed : Bool := false
  /-- The daemon is to stop. -/
  isShuttingDown : Bool := false

namespace Session

/-- The time now. -/
def now (s : Session) : Nat :=
  s.link.now

/-- Reports a message. -/
def note (s : Session) (level : Level) (message : String) : Session :=
  { s with link := s.link.note level message }

/-- The reports since the log was last taken, and the session without them. -/
def takeLog (s : Session) : List LogEntry × Session :=
  (s.link.log, { s with link := { s.link with log := [] } })

/-- Lets time pass. -/
def wait (s : Session) (time : Nat) : Session :=
  { s with link := s.link.wait time }

/-- The fresh answer to a command with the given arguments, if there is one. -/
def cached? (s : Session) (command : Command) (args : List String) : Option Response :=
  match s.cache.get? command with
  | some cached =>
    if cached.isFresh s.now (s.policy.cacheTimeout * millisecond) args then some cached.response
    else none
  | none => none

/-- Forgets the answer to a command. -/
def evict (s : Session) (command : Command) : Session :=
  { s with cache := s.cache.erase command }

/-! ### The pause between exchanges -/

/-- How long the next exchange has to wait. -/
def pause (s : Session) : Nat :=
  match s.lastFinished? with
  | some finished => s.policy.delay * millisecond - (s.now - finished)
  | none => 0

/-- Waits until the next exchange may start. -/
def pace (s : Session) (command : Command) : Session :=
  if s.pause = 0 then s
  else
    (s.note .debug s!"{command.label}: pacing, sleeping {s.pause / millisecond} ms").wait s.pause

/-! ### Exchanges -/

/-- Counts a device error, and gives the device up if there are too many. -/
def countError (s : Session) : Session :=
  let errors := s.deviceErrors + 1
  let counted := { s with deviceErrors := errors }
  if s.policy.errorLimit = 0 || errors < s.policy.errorLimit then counted
  else
    { counted.note .error s!"{errors} consecutive device errors, shutting down" with
      deviceFailed := true
      isShuttingDown := true }

/-- The state after an exchange with the given outcome. -/
def settle (s : Session) (command : Command) (args : List String)
    (outcome : Except Error Response) : Session :=
  let finished := { s with lastFinished? := some s.now }
  match outcome with
  | .ok response =>
    { finished with
      deviceErrors := 0
      cache := s.cache.insert command ⟨s.now, args, response⟩ }
  | .error e => if e.isDeviceLevel then finished.countError else finished

/-- Executes a command on the device, without a look at the cache. What the device makes of a
command, and what else happens there, is for `carry` to say. -/
def exchangeVia {m : Type → Type} [Applicative m]
    (carry : Link → Command → List String → m (Except Error Response × Link))
    (s : Session) (command : Command) (args : List String) : m (Except Error Response × Session) :=
  (fun (outcome, link) =>
    (outcome.mapError Error.collapse, { s with link }.settle command args outcome)) <$>
    carry s.link command args

/-- Executes a command, or answers it from the cache. -/
def executeVia {m : Type → Type} [Applicative m]
    (carry : Link → Command → List String → m (Except Error Response × Link))
    (s : Session) (command : Command) (args : List String) : m (Except Error Response × Session) :=
  match s.cached? command args with
  | some response =>
    pure (.ok response, s.note .debug s!"{command.label}: answering from cache")
  | none => ((s.evict command).pace command).exchangeVia carry command args

/-- Executes a command over the link of the session, or answers it from the cache. -/
def execute (s : Session) (command : Command) (args : List String) :
    Option (Except Error Response × Session) :=
  s.executeVia Link.execute command args

end Session

end InverterLink
