import InverterLink.Link
import InverterLink.Proofs.Loopback

/-!
# Sending a frame

However few bytes the device takes at a time, a link hands it every byte of a frame once and in
order: when the sending is over, the device is where one write of the whole frame would have taken
it. Writing takes no time, so a budget that is not spent at the start is not spent at the end.
-/

namespace InverterLink.Link

/-- The budget depends on the clock and on the limit alone. -/
@[simp]
theorem isExpired_of_device (link : Link) (device : Loopback) (log : List LogEntry) :
    isExpired { link with device, log } = link.isExpired := rfl

/-- A budget that counts from now is not spent. -/
theorem isExpired_restart (link : Link) : link.restart.isExpired = false := by
  simp only [isExpired, timeLeft?, restart, elapsed, Nat.sub_self, Nat.sub_zero]
  split_ifs with h
  · rfl
  · rw [decide_eq_false_iff_not, Option.some_inj, Nat.mul_eq_zero, not_or]
    exact ⟨h, by decide⟩

/-- A write moves the device and leaves a report. -/
theorem exists_write (link : Link) (data : List UInt8) :
    ∃ log, link.write data = { link with device := link.device.write data, log } :=
  ⟨_, rfl⟩

/-- **Sending loses, repeats and reorders nothing.** Bytes that end in their only terminator reach
the device as if they had been written at once. -/
theorem writeAll_frame {bytes : List UInt8} (hbytes : Frame.terminator ∉ bytes) (link : Link)
    (hlive : link.isExpired = false) :
    ∃ log, link.writeAll (bytes ++ [Frame.terminator]) = (.ok (), { link with
      device := Loopback.respond
        { link.device with incoming := link.device.incoming ++ bytes }
      log }) := by
  -- The induction is on what has not been sent yet; the device keeps the part that has.
  induction hlength : bytes.length using Nat.strongRecOn generalizing link bytes with
  | _ length ih =>
    subst hlength
    obtain ⟨log, hwrite⟩ := exists_write link (bytes ++ [Frame.terminator])
    rw [writeAll, hwrite]
    split_ifs with hall hspent
    · exact ⟨log, by rw [Loopback.write_of_le_accepted hall, Loopback.foldl_receive_frame hbytes]⟩
    · rw [isExpired_of_device, hlive] at hspent
      exact absurd hspent Bool.false_ne_true
    · set count := link.device.accepted (bytes ++ [Frame.terminator]).length with hcount
      have hpositive : 0 < count := link.device.accepted_pos (by simp)
      have hle : count ≤ bytes.length := by
        rw [List.length_append, List.length_singleton] at hall
        omega
      have htake : (bytes ++ [Frame.terminator]).take count = bytes.take count :=
        List.take_append_of_le_length hle
      have hdrop : (bytes ++ [Frame.terminator]).drop count =
          bytes.drop count ++ [Frame.terminator] := List.drop_append_of_le_length hle
      -- the terminator is not among what was taken, so it ends what is left
      have hpart : Frame.terminator ∉ bytes.take count := fun h =>
        hbytes (List.mem_of_mem_take h)
      have hrest : Frame.terminator ∉ bytes.drop count := fun h =>
        hbytes (List.mem_of_mem_drop h)
      have hdevice : link.device.write (bytes ++ [Frame.terminator]) =
          { link.device with incoming := link.device.incoming ++ bytes.take count } := by
        rw [← htake] at hpart ⊢
        exact Loopback.write_of_notMem hpart
      obtain ⟨log', hih⟩ := ih _ (by rw [List.length_drop]; omega) hrest
        { link with device := link.device.write (bytes ++ [Frame.terminator]), log } hlive rfl
      refine ⟨log', ?_⟩
      rw [hdrop, hih, hdevice]
      simp only [List.append_assoc, List.take_append_drop]

/-- The device once a payload has been sent: it has recorded one more frame, and answers it. -/
theorem send_frame {payload : List UInt8} (hpayload : Frame.terminator ∉ payload) (link : Link)
    (hlive : link.isExpired = false) :
    ∃ log, link.send payload = (.ok (), { link with
      device := Loopback.respond { link.device with
        incoming := link.device.incoming ++ Frame.body link.flags.writeChecksum payload }
      log }) := by
  obtain ⟨log, h⟩ := writeAll_frame
    (Frame.terminator_notMem_body link.flags.writeChecksum hpayload)
    (link.note .debug (dumpText "writing" (Frame.onWire link.flags.writeChecksum payload))) hlive
  exact ⟨log, h⟩

end InverterLink.Link
