import InverterLink.Link
import InverterLink.Proofs.Checksum
import Mathlib.Data.List.TakeWhile

/-!
# Receiving a frame

A link collects at most as many bytes as it has room for. If there is a terminator among so many of
the pending bytes, one read finds it, and what stands before it is the result; if there is none and
the room runs out, the answer is refused. What was checked and cut off before is the checksum alone.
-/

namespace InverterLink

/-! ### Bytes up to a terminator -/

private theorem ne_terminator_iff {byte : UInt8} :
    (byte != Frame.terminator) = true ↔ byte ≠ Frame.terminator := bne_iff_ne

/-- Where a terminator comes within the first bytes, what stands before it does not depend on the
rest. -/
theorem takeWhile_take_of_mem {bytes : List UInt8} {size : Nat}
    (h : Frame.terminator ∈ bytes.take size) :
    (bytes.take size).takeWhile (· != Frame.terminator) =
      bytes.takeWhile (· != Frame.terminator) := by
  have hshort : ((bytes.take size).takeWhile (· != Frame.terminator)).length ≠
      (bytes.take size).length := by
    intro hlength
    have hall := (List.takeWhile_sublist _).eq_of_length hlength
    rw [List.takeWhile_eq_self_iff] at hall
    exact ne_terminator_iff.mp (hall _ h) rfl
  conv_rhs => rw [← List.take_append_drop size bytes, List.takeWhile_append, if_neg hshort]

/-- What stands before the only terminator of a frame. -/
theorem takeWhile_frame {bytes : List UInt8} (h : Frame.terminator ∉ bytes) :
    (bytes ++ [Frame.terminator]).takeWhile (· != Frame.terminator) = bytes := by
  have hall : ∀ byte ∈ bytes, (byte != Frame.terminator) = true := fun byte hbyte =>
    ne_terminator_iff.mpr fun heq => h (heq ▸ hbyte)
  rw [List.takeWhile_append_of_pos hall]
  exact List.append_nil bytes

/-- A frame shows its terminator within the first `size` bytes exactly if it is no longer. -/
theorem terminator_mem_take_iff {bytes : List UInt8} (h : Frame.terminator ∉ bytes) (size : Nat) :
    Frame.terminator ∈ (bytes ++ [Frame.terminator]).take size ↔ bytes.length + 1 ≤ size := by
  constructor
  · intro hmem
    by_contra hsize
    rw [List.take_append_of_le_length (by omega)] at hmem
    exact h (List.mem_of_mem_take hmem)
  · intro hsize
    rw [List.take_of_length_le (by rwa [List.length_append, List.length_singleton])]
    exact List.mem_append_right _ (List.mem_singleton_self _)

/-! ### Reads -/

namespace Link

/-- The link when at most `size` of the pending bytes have been taken from the device. -/
def afterRead (link : Link) (size : Nat) : Link :=
  { link with device := { link.device with pending := link.device.pending.drop size } }

theorem isExpired_afterRead (link : Link) (size : Nat) :
    (link.afterRead size).isExpired = link.isExpired := rfl

/-- A read while bytes are pending takes no time. -/
theorem fetch_of_pending {link : Link} (h : link.device.pending ≠ []) (size : Nat) :
    link.fetch size = (link.device.pending.take size, link.afterRead size) := by
  rw [fetch, if_neg h]
  rfl

end Link

namespace Reading

theorem advance_of_finished {capacity count : Nat} {r : Reading}
    {result : Except Error (List UInt8)} {link : Link}
    (h : r.step capacity = .finished result link) :
    r.advance capacity (count + 1) = some (result, link) := by
  rw [advance, h]

theorem advance_of_pending {capacity count : Nat} {r next : Reading}
    (h : r.step capacity = .pending next) :
    r.advance capacity (count + 1) = next.advance capacity count := by
  rw [advance, h]

/-- A read that meets a terminator is the last one. -/
theorem step_of_mem {capacity : Nat} {r : Reading}
    (h : Frame.terminator ∈ r.link.device.pending.take (capacity - r.collected.length)) :
    r.step capacity = .finished
      (.ok (r.collected ++ r.link.device.pending.takeWhile (· != Frame.terminator)))
      (r.link.afterRead (capacity - r.collected.length)) := by
  -- without room nothing is read, and the terminator would not be found
  have hroom : ¬ capacity ≤ r.collected.length := fun hle => by
    rw [Nat.sub_eq_zero_of_le hle, List.take_zero] at h
    exact List.not_mem_nil h
  have hpending : r.link.device.pending ≠ [] := List.ne_nil_of_mem (List.mem_of_mem_take h)
  rw [step, if_neg hroom, Link.fetch_of_pending hpending]
  simp only [if_pos h, takeWhile_take_of_mem h]

/-- A read that meets no terminator goes on, as long as there is time. -/
theorem step_of_notMem {capacity : Nat} {r : Reading} (hroom : r.collected.length < capacity)
    (hpending : r.link.device.pending ≠ []) (hlive : r.link.isExpired = false)
    (h : Frame.terminator ∉ r.link.device.pending.take (capacity - r.collected.length)) :
    r.step capacity = .pending
      ⟨r.collected ++ r.link.device.pending.take (capacity - r.collected.length),
        r.link.afterRead (capacity - r.collected.length)⟩ := by
  rw [step, if_neg (Nat.not_le_of_lt hroom), Link.fetch_of_pending hpending]
  simp only [if_neg h, Link.isExpired_afterRead, hlive, Bool.false_eq_true, if_false]

/-- Without room for another byte, the answer is refused. -/
theorem step_of_full {capacity : Nat} {r : Reading} (h : capacity ≤ r.collected.length) :
    r.step capacity = .finished (.error (.frame .bufferFull)) r.link := by
  rw [step, if_pos h]

end Reading

namespace Link

/-- **A terminator within the room is found**, and what stands before it is collected. -/
theorem collect_of_mem {link : Link} {capacity : Nat}
    (h : Frame.terminator ∈ link.device.pending.take capacity) :
    link.collect capacity =
      some (.ok (link.device.pending.takeWhile (· != Frame.terminator)),
        link.afterRead capacity) :=
  Reading.advance_of_finished (Reading.step_of_mem (r := ⟨[], link⟩) h)

/-- **Without a terminator within the room, the answer is refused**, once the room has run out. -/
theorem collect_of_notMem {link : Link} {capacity : Nat} (hlive : link.isExpired = false)
    (hfull : capacity ≤ link.device.pending.length)
    (h : Frame.terminator ∉ link.device.pending.take capacity) :
    link.collect capacity = some (.error (.frame .bufferFull), link.afterRead capacity) := by
  -- one read fills the room, and the next one finds that there is none
  rw [collect, Reading.bound]
  obtain rfl | hcapacity := Nat.eq_zero_or_pos capacity
  · exact Reading.advance_of_finished (Reading.step_of_full (Nat.zero_le _))
  · have hpending : link.device.pending ≠ [] := fun hnil => by
      rw [hnil, List.length_nil] at hfull
      omega
    have hstep := Reading.step_of_notMem (r := ⟨[], link⟩) hcapacity hpending hlive h
    rw [Reading.advance_of_pending hstep]
    refine Reading.advance_of_finished (Reading.step_of_full ?_)
    rw [List.nil_append, List.length_take, List.length_nil, Nat.sub_zero, Nat.min_eq_left hfull]

end Link

/-! ### The payload of a frame -/

/-- A frame that the sender closed with a checksum carries its payload. -/
theorem Flags.payload_body (flags : Flags) (bytes : List UInt8) :
    flags.payload (Frame.body flags.readChecksum bytes) = .ok bytes := by
  rw [payload, Frame.body]
  split_ifs with hread
  · have hlength : (bytes ++ Checksum.toBytes (Checksum.compute bytes)).length - Checksum.size =
        bytes.length := by
      rw [List.length_append, Checksum.length_toBytes, Nat.add_sub_cancel]
    simp only [hlength, List.take_left, List.drop_left]
    rw [Checksum.toBytes]
    simp only [Checksum.ofBytes_toBytes, bne_self_eq_false, Bool.and_false, Bool.false_eq_true,
      if_false]
  · rw [List.append_nil]

namespace Link

theorem receive_of_collect_ok {link after : Link} {capacity : Nat} {bytes : List UInt8}
    (h : link.collect capacity = some (.ok bytes, after)) :
    ∃ log, link.receive capacity =
      some ((after.flags.payload bytes).mapError .frame, { after with log }) := by
  rw [receive, h]
  exact ⟨_, rfl⟩

theorem receive_of_collect_error {link after : Link} {capacity : Nat} {e : Error}
    (h : link.collect capacity = some (.error e, after)) :
    link.receive capacity = some (.error e, after) := by
  rw [receive, h]
  rfl

end Link

end InverterLink
