import InverterLink.Proofs.Link.Answering
import InverterLink.Proofs.Link.Delimiting

/-!
# Frames are recorded whole

A device that waits for a frame from its start records what a link sends as one frame: the payload
and its checksum. The limit on what it takes at a time decides how many writes this takes, and
nothing else. Writing takes no time, so the budget can only get in the way if it is spent before the
first write: then a frame goes out if one write is enough for it, and otherwise the link gives up
and leaves a part of it behind.

## Main definitions

* `Link.CanWrite`: a link that does not give up before the device has taken so many bytes.

## Main statements

* `Link.exists_send_of_canWrite`, `Link.exists_send_of_not_canWrite`: what sending a payload does to
  a link.
* `Link.recorded_iff_canWrite`: a frame is recorded, whatever the limit, if and only if it can be
  written.
-/

namespace InverterLink

namespace Loopback

/-- The same device with another limit on what it takes at a time. -/
def withWriteLimit (d : Loopback) (limit? : Option Nat) : Loopback :=
  { d with writeLimit? := limit? }

/-- The device once it has recorded a frame and answered it. -/
def recording (d : Loopback) (frame : List UInt8) : Loopback :=
  { d with
    queue := d.queue.tail
    incoming := []
    pending := d.answerTo frame
    frames := d.frames ++ [frame] }

/-- A terminator makes a record of what has arrived. -/
theorem respond_eq_recording (d : Loopback) : d.respond = d.recording d.incoming := by
  obtain ⟨pending, hrespond⟩ := exists_respond_eq d
  have hpending : pending = d.answerTo d.incoming := by rw [← pending_respond, hrespond]
  rw [hrespond, hpending, recording]

end Loopback

namespace Link

variable {payload : List UInt8}

/-- Whether a link goes on until the device has taken so many bytes: something of the budget is
left, or the device takes them all at once. -/
def CanWrite (link : Link) (size : Nat) : Prop :=
  link.isExpired = false ∨ size ≤ link.device.accepted size

/-- Bytes that can be written are written as a whole, whether in one write or in many. -/
theorem exists_writeAll_of_canWrite {bytes : List UInt8} (hbytes : Frame.terminator ∉ bytes)
    (link : Link) (hwrite : link.CanWrite (bytes ++ [Frame.terminator]).length) :
    ∃ log, link.writeAll (bytes ++ [Frame.terminator]) = (.ok (), { link with
      device := Loopback.respond { link.device with incoming := link.device.incoming ++ bytes }
      log }) := by
  rcases hwrite with hlive | hall
  · exact writeAll_frame hbytes link hlive
  · obtain ⟨log, hlog⟩ := exists_write link (bytes ++ [Frame.terminator])
    refine ⟨log, ?_⟩
    rw [writeAll, dif_pos hall, hlog, Loopback.write_of_le_accepted hall,
      Loopback.foldl_receive_frame hbytes]

/-- A link whose budget is spent gives up behind the first write, unless that was enough. -/
theorem exists_writeAll_of_not_canWrite {bytes : List UInt8} (link : Link)
    (hwrite : ¬ link.CanWrite bytes.length) :
    ∃ log, link.writeAll bytes = (.error (.timeout .writing link.elapsedMilliseconds),
      { link with device := link.device.write bytes, log }) := by
  rw [CanWrite, not_or] at hwrite
  obtain ⟨hspent, hpart⟩ := hwrite
  obtain ⟨log, hlog⟩ := exists_write link bytes
  refine ⟨log, ?_⟩
  have hexpired : (link.write bytes).isExpired = true := by
    rw [hlog, isExpired_of_device]
    exact Bool.not_eq_false _ ▸ hspent
  rw [writeAll, dif_neg hpart, if_pos hexpired, hlog]
  rfl

/-- A frame that can be written is recorded. -/
theorem exists_send_of_canWrite (hpayload : Frame.terminator ∉ payload) (link : Link)
    (hincoming : link.device.incoming = [])
    (hwrite : link.CanWrite (Frame.onWire link.flags.writeChecksum payload).length) :
    ∃ log, link.send payload = (.ok (), { link with
      device := link.device.recording (Frame.body link.flags.writeChecksum payload), log }) := by
  obtain ⟨log, h⟩ := exists_writeAll_of_canWrite
    (Frame.terminator_notMem_body link.flags.writeChecksum hpayload)
    (link.note .debug (dumpText "writing" (Frame.onWire link.flags.writeChecksum payload))) hwrite
  refine ⟨log, h.trans ?_⟩
  rw [Loopback.respond_eq_recording]
  simp only [note, hincoming, List.nil_append]
  rfl

/-- Of a frame that cannot be written, the device has a part, which does not end it. -/
theorem exists_send_of_not_canWrite (hpayload : Frame.terminator ∉ payload) (link : Link)
    (hincoming : link.device.incoming = [])
    (hwrite : ¬ link.CanWrite (Frame.onWire link.flags.writeChecksum payload).length) :
    ∃ log, link.send payload = (.error (.timeout .writing link.elapsedMilliseconds), { link with
      device := { link.device with
        incoming := (Frame.onWire link.flags.writeChecksum payload).take
          (link.device.accepted (Frame.onWire link.flags.writeChecksum payload).length) }
      log }) := by
  set bytes := Frame.onWire link.flags.writeChecksum payload with hbytes
  obtain ⟨log, h⟩ :=
    exists_writeAll_of_not_canWrite (link.note .debug (dumpText "writing" bytes)) hwrite
  refine ⟨log, h.trans ?_⟩
  have hrest : bytes.drop (link.device.accepted bytes.length) ≠ [] := fun hnil =>
    hwrite (.inr (List.drop_eq_nil_iff.mp hnil))
  have hpart : Frame.terminator ∉ bytes.take (link.device.accepted bytes.length) :=
    Frame.terminator_notMem_of_cut hpayload (List.take_append_drop _ _) hrest
  simp only [note, Loopback.write_of_notMem hpart, hincoming, List.nil_append]
  rfl

/-- **A frame is recorded whole, whatever the limit on a write.** A link sends a payload without a
terminator to a device that waits for a frame from its start, and takes no time for it. If the frame
can be written, then the device has recorded exactly one more frame, the payload with its checksum
if there is to be one; it waits for the next one from its start; and under any other limit it would
be in the same state. If it cannot be written, because the budget was spent before and the device
does not take the frame at once, then no frame is recorded. -/
theorem recorded_iff_canWrite (hpayload : Frame.terminator ∉ payload) (link : Link)
    (hincoming : link.device.incoming = []) :
    ∃ frame result after, frame = payload ++
        (if link.flags.writeChecksum then Checksum.toBytes (Checksum.compute payload) else []) ∧
      link.send payload = (result, after) ∧ after.now = link.now ∧
      (result = .ok () ↔ link.CanWrite (frame.length + 1)) ∧
      (result = .ok () →
        after.device.frames = link.device.frames ++ [frame] ∧ after.device.incoming = [] ∧
        ∀ limit?, CanWrite { link with device := link.device.withWriteLimit limit? }
            (frame.length + 1) →
          (send { link with device := link.device.withWriteLimit limit? } payload).2.device =
            after.device.withWriteLimit limit?) ∧
      (result ≠ .ok () → result = .error (.timeout .writing link.elapsedMilliseconds) ∧
        after.device.frames = link.device.frames) := by
  have hlength : (Frame.onWire link.flags.writeChecksum payload).length =
      (Frame.body link.flags.writeChecksum payload).length + 1 := by
    rw [Frame.onWire_eq_body, List.length_append, List.length_singleton]
  by_cases hwrite : link.CanWrite (Frame.onWire link.flags.writeChecksum payload).length
  · obtain ⟨log, hsend⟩ := exists_send_of_canWrite hpayload link hincoming hwrite
    refine ⟨Frame.body link.flags.writeChecksum payload, _, _, rfl, hsend, rfl,
      iff_of_true rfl (hlength ▸ hwrite), fun _ => ⟨rfl, rfl, fun limit? hother => ?_⟩,
      fun hnot => absurd rfl hnot⟩
    rw [← hlength] at hother
    obtain ⟨log', hsend'⟩ := exists_send_of_canWrite hpayload
      { link with device := link.device.withWriteLimit limit? } hincoming hother
    rw [hsend']
    rfl
  · obtain ⟨log, hsend⟩ := exists_send_of_not_canWrite hpayload link hincoming hwrite
    have hfailed : (Except.error (.timeout .writing link.elapsedMilliseconds) : Except Error Unit) ≠
        .ok () := fun hok => by cases hok
    exact ⟨Frame.body link.flags.writeChecksum payload, _, _, rfl, hsend, rfl,
      iff_of_false hfailed (hlength ▸ hwrite), fun hok => absurd hok hfailed, fun _ => ⟨rfl, rfl⟩⟩

/-- A request that goes out in threes, so that the terminator goes out alone. -/
theorem recorded_iff_canWrite_in_threes :
    Frame.terminator ∉ ([0x5E, 0x50, 0x30, 0x30, 0x35, 0x50, 0x49] : List UInt8) ∧
      ∃ after,
        send { device := { writeLimit? := some 3 } } [0x5E, 0x50, 0x30, 0x30, 0x35, 0x50, 0x49] =
          (.ok (), after) ∧
        after.device.frames = [[0x5E, 0x50, 0x30, 0x30, 0x35, 0x50, 0x49, 0x71, 0x8B]] ∧
        after.device.incoming = [] := by
  have hpayload : Frame.terminator ∉ ([0x5E, 0x50, 0x30, 0x30, 0x35, 0x50, 0x49] : List UInt8) := by
    decide
  obtain ⟨frame, result, after, hframe, hsend, -, hwhole, hrecorded, -⟩ :=
    recorded_iff_canWrite hpayload { device := { writeLimit? := some 3 } } rfl
  obtain rfl : result = .ok () := hwhole.mpr (.inl rfl)
  obtain ⟨hframes, hincoming, -⟩ := hrecorded rfl
  refine ⟨hpayload, after, hsend, hframes.trans ?_, hincoming⟩
  rw [hframe]
  decide +kernel

/-! ### Budgets that are spent before -/

/-- A link whose budget is spent, to a device that takes two bytes at a time. -/
def spent : Link where
  device := { writeLimit? := some 2 }
  timeout := 50
  now := 50 * millisecond

/-- This is where a reading ends if the device is silent. -/
example : receive { spent with now := 0 } 256 = some (.error (.timeout .reading 50), spent) := rfl

/-- It is not so that a frame is always recorded: a link whose budget is spent gives up behind the
first write. -/
theorem not_forall_recorded : ¬ ∀ (link : Link) (payload : List UInt8), Frame.terminator ∉ payload →
    link.device.incoming = [] →
    (link.send payload).2.device.frames = link.device.frames ++ [payload ++
      (if link.flags.writeChecksum then Checksum.toBytes (Checksum.compute payload) else [])] := by
  intro hall
  have hpayload : Frame.terminator ∉ ([0x5E, 0x50, 0x30, 0x30, 0x35, 0x50, 0x49] : List UInt8) := by
    decide
  have hcannot : ¬ spent.CanWrite (Frame.onWire true
      [0x5E, 0x50, 0x30, 0x30, 0x35, 0x50, 0x49]).length := by
    rintro (hlive | honce)
    · exact absurd hlive (by decide)
    · exact absurd honce (by decide)
  obtain ⟨log, hsend⟩ := exists_send_of_not_canWrite hpayload spent rfl hcannot
  have hframes := hall spent _ hpayload rfl
  rw [hsend] at hframes
  simpa using congrArg List.length hframes

end Link

end InverterLink
