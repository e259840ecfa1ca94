import InverterLink.Proofs.Command.Frames
import InverterLink.Proofs.Link.Answering
import InverterLink.Proofs.Link.Traffic

/-!
# Answers from fixtures

A device without a queue answers each frame by itself: what it has been asked before makes no
difference, nor does what was left of the last answer, which the next one replaces. It answers at
once, so that the budget makes no difference either. What a command ends in is then a function of
the command, its arguments and what both sides do about checksums. The device looks for the longest
mnemonic that the frame begins with, and a checksum that stands right behind one might be taken for
the rest of a longer one; but this does not happen.

## Main definitions

* `Command.fixtureOutcome`: what a command ends in at a device without a queue.
* `Command.traffic`: what a command puts on the device.

## Main statements

* `Link.exists_execute_of_isIdle`: a command has this outcome.
* `Command.outcomeAt_of_writeChecksum`: it is the same for frames with a checksum and without one.
-/

namespace InverterLink

/-! ### Devices without a queue -/

/-- The device waits for a frame from its start, and will answer it from the fixtures. -/
structure Loopback.IsIdle (d : Loopback) : Prop where
  queue_eq : d.queue = []
  incoming_eq : d.incoming = []

theorem Loopback.IsIdle.isPrompt {d : Loopback} (h : d.IsIdle) : d.IsPrompt where
  incoming_eq := h.incoming_eq
  ended_or_long := by
    rw [h.queue_eq]
    exact nofun

/-- What a payload ends in at a device without a queue. -/
def Flags.fixtureAnswer (flags : Flags) (appendChecksum : Bool) (payload : List UInt8) :
    Except Error (List UInt8) :=
  flags.read Link.answerCapacity (Frame.onWire appendChecksum
    (Loopback.fixtureFor (Frame.body flags.writeChecksum payload)))

namespace Command

variable (flags : Flags) (appendChecksum : Bool) (command : Command) (args : List String)

/-- What a command ends in at a device without a queue. -/
def fixtureOutcome : Except Error Response := do
  let frame ← command.frame args
  let answer ← flags.fixtureAnswer appendChecksum (Utf8.encode frame)
  Response.decode command answer

/-- What a command puts on the device: its frame, unless it cannot be laid out. -/
def traffic : List (List UInt8) :=
  match command.frame args with
  | .ok frame => [Frame.body flags.writeChecksum (Utf8.encode frame)]
  | .error _ => []

variable {flags appendChecksum command args}

/-- At a device without a queue, it is the fixtures that decide what a command ends in. -/
theorem outcomeAt_of_queue_eq {d : Loopback} (hqueue : d.queue = []) :
    command.outcomeAt flags d args = command.fixtureOutcome flags d.appendChecksum args := by
  simp only [outcomeAt, Loopback.answerTo, hqueue, List.head?_nil, Option.getD_none]
  rfl

end Command

namespace Link

variable {command : Command} {args : List String}

/-- **A command has the outcome that the fixtures have for it.** -/
theorem exists_execute_of_isIdle (link : Link) (hidle : link.device.IsIdle)
    (hplain : ∀ frame, command.frame args = .ok frame → IsPlain frame) :
    ∃ after, link.execute command args =
      some (command.fixtureOutcome link.flags link.device.appendChecksum args, after) := by
  rw [← Command.outcomeAt_of_queue_eq hidle.queue_eq]
  exact exists_execute_of_isPrompt link hidle.isPrompt hplain

end Link

/-! ### Frames with and without checksums -/

/-- The bytes of a frame: five of a header, which tells whether it is that of a setting, and those
of the payload. -/
theorem Command.exists_encode_build {c : Command} {payload : List Char}
    (hsize : Utf8.byteLength payload + Frame.trailerSize < 10 ^ 3) :
    ∃ header : List UInt8,
      Utf8.encode (Frame.build c.marker payload) = header ++ Utf8.encode payload ∧
      header.length = 5 ∧ ([0x5E, 0x53] <+: header ↔ c.isSetter = true) := by
  refine ⟨_, Utf8.encode_append _ _, ?_, ?_⟩
  · rw [Utf8.encode_append, List.length_append, Utf8.length_encode, Utf8.length_encode,
      Digits.byteLength_writePadded (by decide) hsize, Command.marker]
    split_ifs <;> decide
  · rw [Utf8.encode_append, List.isPrefix_append_of_length, Command.marker]
    · cases c.isSetter <;> decide
    · rw [Command.marker]
      split_ifs <;> decide

namespace Loopback

/-- What stands behind the mnemonic of a question makes no difference to its fixture, unless there
is a fixture whose mnemonic goes on. -/
theorem longestFixture?_append {mnemonic : List UInt8}
    (h : ∀ f ∈ fixtures, mnemonic <+: Utf8.encode f.1.toList →
      (Utf8.encode f.1.toList).length ≤ mnemonic.length) (behind : List UInt8) :
    longestFixture? (mnemonic ++ behind) = longestFixture? mnemonic := by
  have hfilter :
      fixtures.filter (fun f => (Utf8.encode f.1.toList).isPrefixOf (mnemonic ++ behind)) =
      fixtures.filter fun f => (Utf8.encode f.1.toList).isPrefixOf mnemonic := by
    refine List.filter_congr fun f hf => ?_
    rw [Bool.eq_iff_iff, List.isPrefixOf_iff_prefix, List.isPrefixOf_iff_prefix]
    obtain hlonger | hle := Nat.lt_or_ge mnemonic.length (Utf8.encode f.1.toList).length
    · have hleads : mnemonic <+: mnemonic ++ behind := List.prefix_append _ _
      refine ⟨fun hfront => ?_, fun hfront => absurd hfront.length_le (Nat.not_le_of_lt hlonger)⟩
      have hgoesOn := List.prefix_of_prefix_length_le hleads hfront hlonger.le
      exact absurd (h f hf hgoesOn) (Nat.not_le_of_lt hlonger)
    · exact List.isPrefix_append_of_length hle
  rw [longestFixture?, longestFixture?, hfilter]

/-- There is one question whose mnemonic goes on as that of a fixture. -/
theorem length_le_of_mnemonic_prefix {c : Command} (hgetter : c.isSetter = false)
    (hc : c ≠ .getProtocolId) :
    ∀ f ∈ fixtures, Utf8.encode c.mnemonic <+: Utf8.encode f.1.toList →
      (Utf8.encode f.1.toList).length ≤ (Utf8.encode c.mnemonic).length := by
  have hall : ∀ c ∈ Command.all, c.isSetter = false → c ≠ .getProtocolId → ∀ f ∈ fixtures,
      Utf8.encode c.mnemonic <+: Utf8.encode f.1.toList →
        (Utf8.encode f.1.toList).length ≤ (Utf8.encode c.mnemonic).length := by decide +kernel
  exact hall c (Command.mem_all c) hgetter hc

/-- **The checksum of a request makes no difference to its fixture.** -/
theorem fixtureFor_body {name : String} {args normalised : List String} {c : Command}
    {frame : List Char} (h : Command.ofRequest name args = .ok (c, normalised))
    (hframe : c.frame normalised = .ok frame) (withChecksum : Bool) :
    fixtureFor (Frame.body withChecksum (Utf8.encode frame)) = fixtureFor (Utf8.encode frame) := by
  obtain ⟨packed, hpack, rfl⟩ := Command.frame_eq_ok.mp hframe
  -- the mnemonic that a fixture could go on with: here the checksum is what keeps them apart
  by_cases hprotocol : c = .getProtocolId
  · subst hprotocol
    cases hpack
    revert withChecksum
    decide +kernel
  obtain ⟨header, hencode, hlength, hsetting⟩ :=
    Command.exists_encode_build (Command.shape_of_body h hpack).1
  rw [Frame.body, hencode, Utf8.encode_append, List.append_assoc, List.append_assoc, fixtureFor,
    fixtureFor, List.drop_left' hlength, List.drop_left' hlength]
  cases hkind : c.isSetter with
  | true =>
    have hfront (behind : List UInt8) :
        List.isPrefixOf [0x5E, 0x53] (header ++ behind) = true :=
      List.isPrefixOf_iff_prefix.mpr ((hsetting.mpr hkind).trans (List.prefix_append _ _))
    rw [if_pos (hfront _), if_pos (hfront _)]
  | false =>
    have hmnemonic := length_le_of_mnemonic_prefix hkind hprotocol
    have hfront (behind : List UInt8) :
        List.isPrefixOf [0x5E, 0x53] (header ++ behind) = List.isPrefixOf [0x5E, 0x53] header := by
      rw [Bool.eq_iff_iff, List.isPrefixOf_iff_prefix, List.isPrefixOf_iff_prefix]
      exact List.isPrefix_append_of_length (by rw [hlength]; decide)
    rw [hfront, hfront, longestFixture?_append hmnemonic, longestFixture?_append hmnemonic]

end Loopback

/-- **The checksum of a request makes no difference to the outcome.** -/
theorem Command.outcomeAt_of_writeChecksum {name : String} {args normalised : List String}
    {c : Command} (h : ofRequest name args = .ok (c, normalised)) (flags : Flags) (d : Loopback)
    (withChecksum : Bool) :
    c.outcomeAt { flags with writeChecksum := withChecksum } d normalised =
      c.outcomeAt flags d normalised := by
  rw [outcomeAt, outcomeAt]
  cases hframe : c.frame normalised with
  | error e => rw [error_bind, error_bind]
  | ok frame =>
    have hfixture (withChecksum : Bool) := Loopback.fixtureFor_body h hframe withChecksum
    have hanswer : d.answerTo (Frame.body withChecksum (Utf8.encode frame)) =
        d.answerTo (Frame.body flags.writeChecksum (Utf8.encode frame)) := by
      rw [Loopback.answerTo, Loopback.answerTo, hfixture, hfixture]
    have hread : Flags.read { flags with writeChecksum := withChecksum } = flags.read := rfl
    rw [ok_bind, ok_bind, hanswer, hread]

end InverterLink
