import InverterLink.Frame

/-!
# The loopback device

A device without hardware: it collects bytes until a terminator arrives, records the frame and
answers it, with the next queued answer if there is one and from fixtures otherwise. It takes bytes
without delay, all of them or at most so many at a time.

## Main definitions

* `fixtureFor`: the answer to a frame when nothing is queued.
* `write`: takes up bytes, answering every frame that they complete.
* `read`: hands out bytes of the answer.
-/

namespace InverterLink

/-- A device that answers from a queue and from fixtures. -/
structure Loopback where
  /-- Whether answers that are not queued as raw bytes carry a checksum. -/
  appendChecksum : Bool := true
  /-- The greatest number of bytes that a write takes, where there is a limit. -/
  writeLimit? : Option Nat := none
  /-- The answers to the next frames, as they go out. -/
  queue : List (List UInt8) := []
  /-- The bytes of a frame that has not been terminated yet. -/
  incoming : List UInt8 := []
  /-- The bytes of the last answer that have not been read yet. -/
  pending : List UInt8 := []
  /-- The frames that have arrived, without their terminators. -/
  frames : List (List UInt8) := []
deriving DecidableEq

namespace Loopback

/-- The payload that answers a question, by its mnemonic. -/
def fixtures : List (String × String) := [
  ("PI", "18"),
  ("T", "20241019123045"),
  ("ET", "00238800"),
  ("EY", "00120000"),
  ("EM", "00009800"),
  ("ED", "00000420"),
  ("ID", "1496332110100452"),
  ("VFW", "00072,00030,00000"),
  ("PIRI", "2300,217,2300,500,217,5000,5000,480,500,570,420,576,540,2,30,060,0,1,1,6,0,0,0,1,2,00"),
  ("GS",
    "0000,000,2300,500,0115,0018,002,500,000,000,000,000,078,019,000,000,0000,0000,0000,0000,0," ++
    "0,0,1,2,2,0,0"),
  ("MOD", "05"),
  ("FWS", "00,0,0,0,0,0,0,0,0,0,0,0,0,0,0,0,0"),
  ("FLAG", "1,0,1,0,1,1,1,1,0"),
  ("DI", "2300,500,0,408,540,564,460,540,060,30,0,0,1,0,0,0,1,0,0,1,1,0,1,1"),
  ("MCHGCR", "010,020,030,040,050,060,070,080,090,100,110,120"),
  ("MUCHGCR", "002,010,020,030,040,050,060,070,080,090,100"),
  ("PRI", "0,14,96332110100452000000,1,060,030,0"),
  ("PGS",
    "1,5,00,2300,500,2300,500,0115,0018,00230,00036,002,004,500,000,012,024,078,0230,0000,1801," ++
    "0000,2,1,1,1,2,0,038"),
  ("ACCT", "2300,0600"),
  ("ACLT", "0000,0000")]

/-- The fixture with the longest mnemonic that the body begins with. -/
def longestFixture? (body : List UInt8) : Option (String × String) :=
  (fixtures.filter fun f => (Utf8.encode f.1.toList).isPrefixOf body).foldl
    (fun best? f =>
      match best? with
      | some best => if best.1.length ≤ f.1.length then some f else some best
      | none => some f)
    none

/-- The answer to a frame when nothing is queued: settings are accepted, questions are answered from
the fixtures, and anything else is refused. -/
def fixtureFor (frame : List UInt8) : List UInt8 :=
  if ([0x5E, 0x53] : List UInt8).isPrefixOf frame then
    [0x5E, 0x31]
  else
    match longestFixture? (frame.drop 5) with
    | some (_, payload) => Utf8.encode (Frame.ofPayload payload.toList)
    | none => [0x5E, 0x30]

/-- Queues an answer, to which the device adds the checksum, if it is to carry one, and the
terminator. -/
def pushResponse (d : Loopback) (answer : List UInt8) : Loopback :=
  { d with queue := d.queue ++ [Frame.onWire d.appendChecksum answer] }

/-- Queues bytes that go out as they are. -/
def pushRaw (d : Loopback) (bytes : List UInt8) : Loopback :=
  { d with queue := d.queue ++ [bytes] }

/-- Records the frame that has been terminated and answers it. What was left of the last answer is
lost. -/
def respond (d : Loopback) : Loopback :=
  match d.queue with
  | answer :: queue =>
    { d with queue, incoming := [], pending := answer, frames := d.frames ++ [d.incoming] }
  | [] =>
    { d with
      incoming := []
      pending := Frame.onWire d.appendChecksum (fixtureFor d.incoming)
      frames := d.frames ++ [d.incoming] }

/-- Takes up one byte. -/
def receive (d : Loopback) (byte : UInt8) : Loopback :=
  if byte = Frame.terminator then d.respond else { d with incoming := d.incoming ++ [byte] }

/-- How many of so many bytes a write takes. -/
def accepted (d : Loopback) (size : Nat) : Nat :=
  match d.writeLimit? with
  | some limit => min size (max limit 1)
  | none => size

/-- Takes up the bytes that a write of the data takes. -/
def write (d : Loopback) (data : List UInt8) : Loopback :=
  (data.take (d.accepted data.length)).foldl receive d

/-- Hands out at most `size` bytes of the answer. -/
def read (d : Loopback) (size : Nat) : List UInt8 × Loopback :=
  (d.pending.take size, { d with pending := d.pending.drop size })

theorem accepted_pos (d : Loopback) {size : Nat} (h : 0 < size) : 0 < d.accepted size := by
  simp only [accepted]
  split <;> omega

end Loopback

end InverterLink
