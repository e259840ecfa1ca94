import InverterLink.Proofs.Link.Sending

/-!
# Frames are delimited

A device cuts what it takes up at the terminators, so all bytes that it has ever taken up can be
read off its frames and the part of the next one. A link that sends a payload adds bytes of the
frame to them, from its first byte on: all of them unless the budget is spent while the device takes
only a part. The escape of the checksum keeps every byte but the last one from being a terminator.

## Main definitions

* `Loopback.received`: all bytes that a device has taken up.

## Main statements

* `Link.exists_received_writeAll`: a link adds a prefix of what it writes.
* `Frame.terminator_notMem_of_cut`: a frame that is cut short has no terminator.
* `Link.delimited_of_send`: what is sent holds one terminator, at its end.
-/

namespace InverterLink

namespace Loopback

/-- All bytes that the device has taken up: the frames, each with its terminator, and the part of
the next one that has arrived. -/
def received (d : Loopback) : List UInt8 :=
  d.frames.flatMap (· ++ [Frame.terminator]) ++ d.incoming

/-- A device that answers has taken up a terminator. -/
theorem received_respond (d : Loopback) :
    d.respond.received = d.received ++ [Frame.terminator] := by
  obtain ⟨pending, h⟩ := exists_respond_eq d
  rw [h, received, received, List.flatMap_append, List.flatMap_singleton, List.append_nil,
    List.append_assoc]

/-- A byte that is taken up stands behind the others. -/
theorem received_receive (d : Loopback) (byte : UInt8) :
    (d.receive byte).received = d.received ++ [byte] := by
  rw [receive]
  split_ifs with h
  · rw [received_respond, h]
  · rw [received, received, List.append_assoc]

theorem received_foldl_receive (bytes : List UInt8) (d : Loopback) :
    (bytes.foldl receive d).received = d.received ++ bytes := by
  induction bytes generalizing d with
  | nil => rw [List.foldl_nil, List.append_nil]
  | cons byte bytes ih =>
    rw [List.foldl_cons, ih, received_receive, List.append_assoc, List.singleton_append]

/-- A write adds the bytes that it takes. -/
theorem received_write (d : Loopback) (data : List UInt8) :
    (d.write data).received = d.received ++ data.take (d.accepted data.length) :=
  received_foldl_receive _ d

end Loopback

/-- A frame of which something is missing has lost its terminator. -/
theorem Frame.terminator_notMem_of_cut {withChecksum : Bool} {bytes sent unsent : List UInt8}
    (hbytes : terminator ∉ bytes) (h : sent ++ unsent = onWire withChecksum bytes)
    (hunsent : unsent ≠ []) : terminator ∉ sent := by
  obtain ⟨cut, last, rfl⟩ := (List.eq_nil_or_concat' unsent).resolve_left hunsent
  rw [onWire_eq_body, ← List.append_assoc] at h
  have hbody : sent ++ cut = body withChecksum bytes := (List.append_inj' h rfl).1
  intro hmem
  exact terminator_notMem_body withChecksum hbytes (hbody ▸ List.mem_append_left cut hmem)

namespace Link

/-- **A link adds a prefix of what it writes**, and all of it exactly if it succeeds. -/
theorem exists_received_writeAll (link : Link) (data : List UInt8) :
    ∃ sent unsent, sent ++ unsent = data ∧
      (link.writeAll data).2.device.received = link.device.received ++ sent ∧
      ((link.writeAll data).1 = .ok () ↔ unsent = []) := by
  -- The induction is on what has not been written yet.
  induction hlength : data.length using Nat.strongRecOn generalizing link data with
  | _ length ih =>
    subst hlength
    obtain ⟨log, hwrite⟩ := exists_write link data
    have hreceived := link.device.received_write data
    rw [writeAll]
    split_ifs with hall hspent
    · refine ⟨data, [], List.append_nil data, ?_, iff_of_true rfl rfl⟩
      rw [hwrite, hreceived, List.take_of_length_le hall]
    · refine ⟨data.take (link.device.accepted data.length),
        data.drop (link.device.accepted data.length), List.take_append_drop _ _, ?_, ?_⟩
      · rw [hwrite, hreceived]
      · refine iff_of_false (fun hok => ?_) fun h => hall (List.drop_eq_nil_iff.mp h)
        cases hok
    · have hpositive : 0 < link.device.accepted data.length :=
        link.device.accepted_pos (by omega)
      obtain ⟨sent, unsent, happend, hrest, hok⟩ :=
        ih (data.drop (link.device.accepted data.length)).length (by rw [List.length_drop]; omega)
          (link.write data) _ rfl
      refine ⟨data.take (link.device.accepted data.length) ++ sent, unsent, ?_, ?_, hok⟩
      · rw [List.append_assoc, happend, List.take_append_drop]
      · rw [hrest, hwrite, hreceived, List.append_assoc]

/-- **What is sent is delimited.** No byte of a checksum is one of those that delimit something on
the line. So what a link adds to the bytes that a device has taken up, when it sends a payload
without a terminator, is the frame with a single terminator at its end, whatever it does about
checksums and however few bytes the device takes at a time. Only a budget that is spent from the
start can keep it from being sent as a whole, and then no terminator is sent. -/
theorem delimited_of_send :
    (∀ data : List UInt8, ∀ byte ∈ Checksum.toBytes (Checksum.compute data),
      byte ≠ 0x28 ∧ byte ≠ 0x0D ∧ byte ≠ 0x0A) ∧
    ∀ (link : Link) (payload : List UInt8), Frame.terminator ∉ payload →
      ∃ sent, (link.send payload).2.device.received = link.device.received ++ sent ∧
        ((link.send payload).1 = .ok () →
          sent = Frame.onWire link.flags.writeChecksum payload ∧
            sent.count Frame.terminator = 1 ∧ sent.getLast? = some Frame.terminator) ∧
        ((link.send payload).1 ≠ .ok () → Frame.terminator ∉ sent) ∧
        (link.isExpired = false → (link.send payload).1 = .ok ()) := by
  constructor
  · intro data byte hbyte
    have hfree := Checksum.isReserved_of_mem_compute hbyte
    rw [Bool.eq_false_iff, ne_eq, Checksum.isReserved_iff, not_or, not_or] at hfree
    exact hfree
  · intro link payload hpayload
    have hclean := Frame.terminator_notMem_body link.flags.writeChecksum hpayload
    obtain ⟨sent, unsent, happend, hreceived, hok⟩ := exists_received_writeAll
      (link.note .debug (dumpText "writing" (Frame.onWire link.flags.writeChecksum payload)))
      (Frame.onWire link.flags.writeChecksum payload)
    refine ⟨sent, hreceived, fun hsent => ?_, fun hcut => ?_, fun hlive => ?_⟩
    · rw [hok.mp hsent, List.append_nil] at happend
      refine ⟨happend, ?_, ?_⟩
      · rw [happend, Frame.onWire_eq_body, List.count_append, List.count_eq_zero_of_not_mem hclean]
        rfl
      · rw [happend, Frame.onWire_eq_body, List.getLast?_concat]
    · exact Frame.terminator_notMem_of_cut hpayload happend fun hnil => hcut (hok.mpr hnil)
    · obtain ⟨log, hsend⟩ := send_frame hpayload link hlive
      rw [hsend]

/-- A frame whose checksum is escaped in both bytes, to a device that takes one byte at a time. -/
theorem delimited_of_send_escaped :
    Checksum.toBytes (Checksum.raw [0x49, 0x7E]) = [0x28, 0x0D] ∧
      Frame.terminator ∉ ([0x49, 0x7E] : List UInt8) ∧
      ∃ sent, (send { device := { writeLimit? := some 1 } } [0x49, 0x7E]).2.device.received = sent ∧
        sent = [0x49, 0x7E, 0x29, 0x0E, 0x0D] ∧
        sent.count Frame.terminator = 1 ∧ sent.getLast? = some Frame.terminator := by
  have hpayload : Frame.terminator ∉ ([0x49, 0x7E] : List UInt8) := by decide
  obtain ⟨sent, hreceived, hwhole, -, hlive⟩ :=
    delimited_of_send.2 { device := { writeLimit? := some 1 } } _ hpayload
  obtain ⟨hframe, hcount, hlast⟩ := hwhole (hlive rfl)
  exact ⟨by decide, hpayload, sent, hreceived, hframe.trans (by decide), hcount, hlast⟩

end Link

end InverterLink
