import InverterLink.Command.Packing
import InverterLink.HexDump
import InverterLink.Loopback
import InverterLink.Response

/-!
# The link to a device

A link adds checksums and terminators to what it sends, collects what comes back up to the
terminator, and watches the time. Time is a count of microseconds that passes only where the link
waits: a read while nothing is pending takes ten milliseconds, or what is left of the budget if that
is less. A budget of zero stands for no limit; a link without a limit that waits for a silent device
never returns, which the result `none` says.

## Main definitions

* `Link.send`, `Link.receive`, `Link.run`: one half of an exchange, the other half, and both.
* `Reading.step`: one read, with what is done about its result.
* `Flags.payload`: what a frame carries, if its checksum is right.
* `Link.execute`: an exchange that carries a command.
-/

namespace InverterLink

/-- The number of ticks of the clock in a millisecond. -/
def millisecond : Nat := 1000

/-- What a link does about checksums. -/
structure Flags where
  /-- Frames are sent with a checksum. -/
  writeChecksum : Bool := true
  /-- What comes back ends in a checksum. -/
  readChecksum : Bool := true
  /-- The checksum of what comes back must be right. -/
  verifyChecksum : Bool := true
deriving DecidableEq

/-- Frames are sent without a checksum, and checked when they come back. -/
def Flags.readOnly : Flags where
  writeChecksum := false

/-- A link to a device. -/
structure Link where
  device : Loopback := {}
  flags : Flags := {}
  /-- The budget for an exchange in milliseconds, or zero for no limit. -/
  timeout : Nat := 1000
  /-- The time now. -/
  now : Nat := 0
  /-- The time from which the budget counts. -/
  started : Nat := 0
  /-- What the link has reported. -/
  log : List LogEntry := []

namespace Link

/-! ### Time -/

/-- The time since the budget started to count. -/
def elapsed (link : Link) : Nat :=
  link.now - link.started

/-- The same in whole milliseconds. -/
def elapsedMilliseconds (link : Link) : Nat :=
  link.elapsed / millisecond

/-- What is left of the budget, if there is a limit. -/
def timeLeft? (link : Link) : Option Nat :=
  if link.timeout = 0 then none else some (link.timeout * millisecond - link.elapsed)

/-- Whether the budget is spent. -/
def isExpired (link : Link) : Bool :=
  link.timeLeft? = some 0

/-- Lets the budget count from now. -/
def restart (link : Link) : Link :=
  { link with started := link.now }

/-- Lets time pass. -/
def wait (link : Link) (time : Nat) : Link :=
  { link with now := link.now + time }

/-- How long a read takes while nothing is pending. -/
def idleTime (link : Link) : Nat :=
  match link.timeLeft? with
  | some left => min left (10 * millisecond)
  | none => 10 * millisecond

/-! ### Reports -/

/-- Reports a message. -/
def note (link : Link) (level : Level) (message : String) : Link :=
  { link with log := link.log ++ [⟨level, message⟩] }

/-- A number of bytes and their dump. -/
def dumpText (verb : String) (bytes : List UInt8) : String :=
  let ending := if 1 < bytes.length then "s" else ""
  s!"{verb} {bytes.length} byte{ending}\n" ++ String.ofList (HexDump.write bytes)

/-- Reports the frames that have arrived at the device since `count` of them had. -/
def noteFrames (link : Link) (count : Nat) : Link :=
  { link with
    log := link.log ++ (link.device.frames.drop count).map fun frame =>
      ⟨.debug, s!"pseudo device got frame {quoted (Utf8.decodeLossy frame)}"⟩ }

/-! ### Sending -/

/-- Hands the device as many of the bytes as it takes. -/
def write (link : Link) (data : List UInt8) : Link :=
  noteFrames { link with device := link.device.write data } link.device.frames.length

/-- Writes until the device has taken all bytes, or until the budget is spent. -/
def writeAll (link : Link) (data : List UInt8) : Except Error Unit × Link :=
  if _h : data.length ≤ link.device.accepted data.length then
    (.ok (), link.write data)
  else if (link.write data).isExpired then
    (.error (.timeout .writing (link.write data).elapsedMilliseconds), link.write data)
  else
    (link.write data).writeAll (data.drop (link.device.accepted data.length))
termination_by data.length
decreasing_by
  have := link.device.accepted_pos (show 0 < data.length by omega)
  simp only [List.length_drop]
  omega

/-- Sends a payload as a frame. -/
def send (link : Link) (payload : List UInt8) : Except Error Unit × Link :=
  let bytes := Frame.onWire link.flags.writeChecksum payload
  (link.note .debug (dumpText "writing" bytes)).writeAll bytes

/-! ### Receiving -/

/-- Takes bytes of the answer from the device. If there are none, time passes. -/
def fetch (link : Link) (size : Nat) : List UInt8 × Link :=
  if link.device.pending = [] then
    ([], link.wait link.idleTime)
  else
    let (bytes, device) := link.device.read size
    (bytes, { link with device })

end Link

/-- An answer that is being collected. -/
structure Reading where
  /-- What has been collected, without a terminator so far. -/
  collected : List UInt8
  link : Link

namespace Reading

/-- What a step of a reading leads to. -/
inductive Progress where
  /-- The reading goes on. -/
  | pending (next : Reading)
  /-- The reading is over, with the bytes before the terminator or with an error. -/
  | finished (result : Except Error (List UInt8)) (link : Link)

/-- One read of at most as many bytes as there is room for. What was read behind a terminator is
lost. The budget is looked at after the read alone. -/
def step (capacity : Nat) (r : Reading) : Progress :=
  if capacity ≤ r.collected.length then
    .finished (.error (.frame .bufferFull)) r.link
  else
    let (bytes, link) := r.link.fetch (capacity - r.collected.length)
    if Frame.terminator ∈ bytes then
      .finished (.ok (r.collected ++ bytes.takeWhile (· != Frame.terminator))) link
    else if link.isExpired then
      .finished (.error (.timeout .reading link.elapsedMilliseconds)) link
    else
      .pending ⟨r.collected ++ bytes, link⟩

/-- At most so many steps, or `none` if they do not finish the reading. -/
def advance (capacity : Nat) : Nat → Reading → Option (Except Error (List UInt8) × Link)
  | 0, _ => none
  | count + 1, r =>
    match r.step capacity with
    | .finished result link => some (result, link)
    | .pending next => advance capacity count next

/-- A number of steps after which a reading is over if it ever is: each takes a byte of the answer
or a moment of the budget, and one more finds that nothing is left. -/
def bound (r : Reading) : Nat :=
  r.link.device.pending.length + r.link.timeLeft?.getD 0 + 2

end Reading

namespace Link

/-- Collects the bytes before the next terminator. -/
def collect (link : Link) (capacity : Nat) : Option (Except Error (List UInt8) × Link) :=
  let reading : Reading := ⟨[], link⟩
  reading.advance capacity reading.bound

end Link

/-- The payload of the bytes before a terminator: all of them, or all but the checksum. -/
def Flags.payload (flags : Flags) (body : List UInt8) : Except FrameError (List UInt8) :=
  if flags.readChecksum then
    let payload := body.take (body.length - Checksum.size)
    match body.drop (body.length - Checksum.size) with
    | [high, low] =>
      if flags.verifyChecksum && Checksum.ofBytes high low != Checksum.compute payload then
        .error (.checksum (Checksum.compute payload) (Checksum.ofBytes high low))
      else
        .ok payload
    | _ => .error .tooSmall
  else
    .ok body

namespace Link

/-- Receives a payload of a frame that takes at most `capacity` bytes. -/
def receive (link : Link) (capacity : Nat) : Option (Except Error (List UInt8) × Link) :=
  (link.collect capacity).map fun (result, link) =>
    match result with
    | .error e => (.error e, link)
    | .ok body =>
      ((link.flags.payload body).mapError .frame,
        link.note .debug (dumpText "got" (body ++ [Frame.terminator])))

/-! ### Exchanges -/

/-- Sends a payload and receives the payload of the answer. The budget counts anew. -/
def run (link : Link) (payload : List UInt8) (capacity : Nat) :
    Option (Except Error (List UInt8) × Link) :=
  match link.restart.send payload with
  | (.error e, link) => some (.error e, link)
  | (.ok (), link) =>
    if link.isExpired then
      some (.error (.timeout .sending link.elapsedMilliseconds), link)
    else
      link.receive capacity

/-- The room for the answer to a command, with its checksum and terminator. -/
def answerCapacity : Nat := 256

/-- The response that an answer holds, with the warnings about it. -/
def accept (link : Link) (command : Command) (answer : List UInt8) :
    Except Error Response × Link :=
  (Response.decode command answer,
    { link with log := link.log ++ Response.warnings command answer })

/-- Sends the frame of a command and reads the response. -/
def execute (link : Link) (command : Command) (args : List String) :
    Option (Except Error Response × Link) :=
  match command.frame args with
  | .error e => some (.error e, link)
  | .ok frame =>
    let text := String.ofList frame
    (run (link.note .debug s!"executing {command.label} as {text}") (Utf8.encode frame)
        answerCapacity).map fun (result, link) =>
      match result with
      | .error e => (.error e, link)
      | .ok answer => link.accept command answer

/-- Sends a text as it is and returns the payload of the answer. -/
def query (link : Link) (text : List Char) : Option (Except Error (List UInt8) × Link) :=
  link.run (Utf8.encode text) answerCapacity

end Link

end InverterLink
