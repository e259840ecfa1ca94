import InverterLink.Loopback
import InverterLink.Proofs.Checksum

/-!
# What the loopback device makes of bytes

Bytes without a terminator pile up, and the terminator behind them makes a frame of all that has
piled up. Cutting the bytes into writes changes nothing about this, so what a device has taken up is
a left fold over everything that was ever written.
-/

namespace InverterLink.Loopback

/-! ### Taking up bytes -/

/-- Bytes without a terminator pile up behind the others. -/
theorem foldl_receive_of_notMem {bytes : List UInt8} (h : Frame.terminator ∉ bytes) (d : Loopback) :
    bytes.foldl receive d = { d with incoming := d.incoming ++ bytes } := by
  induction bytes generalizing d with
  | nil => rw [List.foldl_nil, List.append_nil]
  | cons byte bytes ih =>
    rw [List.mem_cons, not_or] at h
    rw [List.foldl_cons, receive, if_neg (Ne.symm h.1), ih h.2]
    simp only [List.append_assoc, List.singleton_append]

/-- A terminator behind bytes without one makes a frame of everything that has piled up. -/
theorem foldl_receive_frame {bytes : List UInt8} (h : Frame.terminator ∉ bytes) (d : Loopback) :
    (bytes ++ [Frame.terminator]).foldl receive d =
      respond { d with incoming := d.incoming ++ bytes } := by
  rw [List.foldl_append, foldl_receive_of_notMem h, List.foldl_cons, List.foldl_nil, receive,
    if_pos rfl]

/-- A write that takes everything. -/
theorem write_of_le_accepted {data : List UInt8} {d : Loopback}
    (h : data.length ≤ d.accepted data.length) : d.write data = data.foldl receive d := by
  rw [write, List.take_of_length_le h]

/-- A write that takes a part of bytes without a terminator. -/
theorem write_of_notMem {data : List UInt8} {d : Loopback}
    (h : Frame.terminator ∉ data.take (d.accepted data.length)) :
    d.write data =
      { d with incoming := d.incoming ++ data.take (d.accepted data.length) } := by
  rw [write, foldl_receive_of_notMem h]

/-! ### Answering -/

theorem respond_of_queue {d : Loopback} {answer : List UInt8} {later : List (List UInt8)}
    (h : d.queue = answer :: later) :
    d.respond = { d with
      queue := later
      incoming := []
      pending := answer
      frames := d.frames ++ [d.incoming] } := by
  rw [respond, h]

/-- A device that answers has recorded one more frame, and waits for the next one from its start. -/
theorem exists_respond_eq (d : Loopback) :
    ∃ pending, d.respond = { d with
      queue := d.queue.tail
      incoming := []
      pending
      frames := d.frames ++ [d.incoming] } := by
  rw [respond]
  cases d.queue with
  | nil => exact ⟨_, rfl⟩
  | cons answer later => exact ⟨_, rfl⟩

/-- Answers that are queued later stand behind those that are there already. -/
theorem foldl_pushRaw (d : Loopback) (later : List (List UInt8)) :
    later.foldl pushRaw d = { d with queue := d.queue ++ later } := by
  induction later generalizing d with
  | nil => rw [List.foldl_nil, List.append_nil]
  | cons bytes later ih =>
    rw [List.foldl_cons, ih, pushRaw]
    simp only [List.append_assoc, List.singleton_append]

end InverterLink.Loopback
