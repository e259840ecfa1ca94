import InverterLink.Proofs.Link.Answering
import InverterLink.Proofs.Link.Returning

/-!
# Which frames a link accepts

What a link makes of the bytes that are pending is told by the place of the first terminator. If it
lies within the room for the answer, then what stands before it is the payload, with or without a
checksum of two bytes behind it; these must be there, and must be right if they are looked at. If
the room runs out first, the answer is refused, and if the bytes run out first, the link waits until
its time is over. So nothing is ever accepted but the bytes before a checksum and a terminator.

## Main definitions

* `Link.Receives`: what a link receives.
* `Reading.IsShort`: a reading that has room for everything that is pending, and no end in it.

## Main statements

* `Flags.payload_append`: the payload of bytes that end in two others.
* `Reading.eq_timeout_of_advance`: a reading that is short can only run out of time.
* `Link.receives_of_position`: what a link receives, by the position of the first terminator.
-/

namespace InverterLink

/-! ### The first terminator -/

/-- The first terminator divides bytes into those before it and those behind it. -/
theorem exists_eq_append_of_idxOf? {bytes : List UInt8} {p : Nat}
    (h : bytes.idxOf? Frame.terminator = some p) :
    ∃ before behind, bytes = before ++ Frame.terminator :: behind ∧
      Frame.terminator ∉ before ∧ before.length = p := by
  obtain ⟨hp, hterminator, hfirst⟩ := List.idxOf?_eq_some_iff.mp h
  refine ⟨bytes.take p, bytes.drop (p + 1), ?_, fun hmem => ?_, List.length_take_of_le hp.le⟩
  · rw [← hterminator, ← List.drop_eq_getElem_cons hp, List.take_append_drop]
  · obtain ⟨i, hi, hbyte⟩ := List.mem_take_iff_getElem.mp hmem
    exact hfirst i (Nat.lt_min.mp hi).1 hbyte

/-- There is a terminator within the first bytes exactly if the first one comes so early. -/
theorem terminator_mem_take_iff_idxOf? {bytes : List UInt8} {size : Nat} :
    Frame.terminator ∈ bytes.take size ↔
      ∃ p < size, bytes.idxOf? Frame.terminator = some p := by
  constructor
  · intro hmem
    cases hfirst : bytes.idxOf? Frame.terminator with
    | none => exact absurd (List.mem_of_mem_take hmem) (List.idxOf?_eq_none_iff.mp hfirst)
    | some p =>
      obtain ⟨before, behind, rfl, hnone, rfl⟩ := exists_eq_append_of_idxOf? hfirst
      refine ⟨_, ?_, rfl⟩
      by_contra hlate
      rw [List.take_append_of_le_length (Nat.le_of_not_lt hlate)] at hmem
      exact hnone (List.mem_of_mem_take hmem)
  · rintro ⟨p, hp, hfirst⟩
    obtain ⟨hlength, hterminator, -⟩ := List.idxOf?_eq_some_iff.mp hfirst
    exact List.mem_take_iff_getElem.mpr ⟨p, Nat.lt_min.mpr ⟨hp, hlength⟩, hterminator⟩

/-! ### Payloads -/

namespace Flags

variable {flags : Flags}

theorem payload_of_unread (h : flags.readChecksum = false) (body : List UInt8) :
    flags.payload body = .ok body := by
  rw [payload, h]
  rfl

/-- There is no payload without room for a checksum. -/
theorem payload_of_short (h : flags.readChecksum = true) {body : List UInt8}
    (hshort : body.length < Checksum.size) : flags.payload body = .error .tooSmall := by
  have hsize : Checksum.size = 2 := rfl
  rw [payload, if_pos h]
  obtain _ | ⟨byte, _ | ⟨next, rest⟩⟩ := body
  · rfl
  · rfl
  · rw [List.length_cons, List.length_cons] at hshort
    omega

/-- The payload stands before two bytes, which must be its checksum if they are looked at. -/
theorem payload_append (h : flags.readChecksum = true) (bytes : List UInt8) (high low : UInt8) :
    flags.payload (bytes ++ [high, low]) =
      if flags.verifyChecksum = true ∧ [high, low] ≠ Checksum.toBytes (Checksum.compute bytes) then
        .error (.checksum (Checksum.compute bytes) (Checksum.ofBytes high low))
      else .ok bytes := by
  have hlength : (bytes ++ [high, low]).length - Checksum.size = bytes.length := by
    rw [List.length_append]
    rfl
  rw [payload, if_pos h]
  simp only [hlength, List.take_left, List.drop_left, Bool.and_eq_true, bne_iff_ne, ne_eq,
    Checksum.ofBytes_eq_iff]

end Flags

/-! ### Answers that do not end -/

namespace Reading

variable {capacity : Nat} {r : Reading}

/-- A reading that has room for everything that is pending, and more, and whose end is not there. -/
structure IsShort (capacity : Nat) (r : Reading) : Prop where
  room : r.collected.length + r.link.device.pending.length < capacity
  unended : Frame.terminator ∉ r.link.device.pending

/-- What a read does then: it finds that the time is over, or leaves as much room as there was. -/
theorem IsShort.step (h : r.IsShort capacity) :
    (∃ elapsed link, r.step capacity = .finished (.error (.timeout .reading elapsed)) link) ∨
      ∃ next, r.step capacity = .pending next ∧ next.IsShort capacity := by
  have hroom : ¬ capacity ≤ r.collected.length := by
    have := h.room
    omega
  obtain ⟨bytes, link, hfetch, hbytes, hpending⟩ : ∃ bytes link,
      r.link.fetch (capacity - r.collected.length) = (bytes, link) ∧
        bytes = r.link.device.pending ∧ link.device.pending = [] := by
    by_cases hnil : r.link.device.pending = []
    · refine ⟨[], r.link.wait r.link.idleTime, ?_, hnil.symm, hnil⟩
      rw [Link.fetch, if_pos hnil]
    · have hall : r.link.device.pending.length ≤ capacity - r.collected.length := by
        have := h.room
        omega
      exact ⟨_, _, Link.fetch_of_pending hnil _, List.take_of_length_le hall,
        List.drop_eq_nil_of_le hall⟩
  subst hbytes
  rw [Reading.step, if_neg hroom, hfetch]
  simp only [if_neg h.unended]
  split_ifs with hspent
  · exact .inl ⟨_, _, rfl⟩
  · refine .inr ⟨_, rfl, ?_, ?_⟩
    · rw [hpending, List.length_append]
      exact h.room
    · rw [hpending]
      exact List.not_mem_nil

/-- **A reading that is short can only run out of time.** -/
theorem eq_timeout_of_advance (h : r.IsShort capacity) {count : Nat}
    {result : Except Error (List UInt8)} {after : Link}
    (hadvance : r.advance capacity count = some (result, after)) :
    ∃ elapsed, result = .error (.timeout .reading elapsed) := by
  induction count generalizing r with
  | zero => cases hadvance
  | succ count ih =>
    obtain ⟨elapsed, link, hstep⟩ | ⟨next, hstep, hnext⟩ := h.step
    · rw [advance_of_finished hstep] at hadvance
      cases hadvance
      exact ⟨elapsed, rfl⟩
    · rw [advance_of_pending hstep] at hadvance
      exact ih hnext hadvance

end Reading

/-! ### What a link receives -/

namespace Link

variable {link : Link} {capacity p : Nat}

/-- A link with the given room receives this. -/
def Receives (link : Link) (capacity : Nat) (result : Except Error (List UInt8)) : Prop :=
  ∃ after, link.receive capacity = some (result, after)

/-- A link receives one thing only. -/
theorem Receives.eq {result result' : Except Error (List UInt8)} (h : link.Receives capacity result)
    (h' : link.Receives capacity result') : result = result' := by
  obtain ⟨after, hreceive⟩ := h
  obtain ⟨after', hreceive'⟩ := h'
  exact congrArg Prod.fst (Option.some.inj (hreceive.symm.trans hreceive'))

/-- A terminator within the room ends the answer. -/
theorem receives_of_idxOf? (hlive : link.isExpired = false)
    (hfirst : link.device.pending.idxOf? Frame.terminator = some p) (hp : p < capacity) :
    link.Receives capacity ((link.flags.payload (link.device.pending.take p)).mapError .frame) := by
  have hmem : Frame.terminator ∈ link.device.pending.take capacity :=
    terminator_mem_take_iff_idxOf?.mpr ⟨p, hp, hfirst⟩
  obtain ⟨after, hreceive⟩ :=
    exists_receive_of_pending link hlive (.inl (List.mem_of_mem_take hmem) : _ ∨ capacity ≤ _)
  obtain ⟨before, behind, hpending, hnone, rfl⟩ := exists_eq_append_of_idxOf? hfirst
  have hbefore : link.device.pending.takeWhile (· != Frame.terminator) =
      link.device.pending.take before.length := by
    have hall : ∀ byte ∈ before, (byte != Frame.terminator) = true := fun byte hbyte =>
      bne_iff_ne.mpr fun heq => hnone (heq ▸ hbyte)
    rw [hpending, List.take_left, List.takeWhile_append_of_pos hall,
      List.takeWhile_cons_of_neg (by simp), List.append_nil]
  rw [Flags.read, if_pos hmem, hbefore] at hreceive
  exact ⟨after, hreceive⟩

/-- Without a terminator within the room, the answer is refused when the room has run out. -/
theorem receives_of_full (hlive : link.isExpired = false)
    (hnone : Frame.terminator ∉ link.device.pending.take capacity)
    (hfull : capacity ≤ link.device.pending.length) :
    link.Receives capacity (.error (.frame .bufferFull)) := by
  obtain ⟨after, hreceive⟩ := exists_receive_of_pending link hlive (.inr hfull)
  rw [Flags.read, if_neg hnone] at hreceive
  exact ⟨after, hreceive⟩

/-- If the bytes run out before that, whatever is received is a timeout. -/
theorem eq_timeout_of_short (hnone : Frame.terminator ∉ link.device.pending.take capacity)
    (hshort : link.device.pending.length < capacity) {result : Except Error (List UInt8)}
    (h : link.Receives capacity result) :
    ∃ elapsed, result = .error (.timeout .reading elapsed) := by
  obtain ⟨after, hreceive⟩ := h
  rw [receive, Option.map_eq_some_iff] at hreceive
  obtain ⟨⟨collected, stopped⟩, hcollect, hreceive⟩ := hreceive
  rw [List.take_of_length_le hshort.le] at hnone
  have hstart : Reading.IsShort capacity ⟨[], link⟩ := ⟨by simpa using hshort, hnone⟩
  obtain ⟨elapsed, rfl⟩ := Reading.eq_timeout_of_advance hstart hcollect
  cases hreceive
  exact ⟨elapsed, rfl⟩

/-- An answer without room for the checksum that is to be read is too small. -/
theorem receives_of_small (hlive : link.isExpired = false)
    (hfirst : link.device.pending.idxOf? Frame.terminator = some p) (hp : p < capacity)
    (hread : link.flags.readChecksum = true) (hsmall : p < 2) :
    link.Receives capacity (.error (.frame .tooSmall)) := by
  have hbody : (link.device.pending.take p).length < Checksum.size :=
    Nat.lt_of_le_of_lt (List.length_take_le p _) hsmall
  have hreceives := receives_of_idxOf? hlive hfirst hp
  rw [Flags.payload_of_short hread hbody] at hreceives
  exact hreceives

/-- When a checksum is to be read, the two bytes before the terminator are taken for it, and it must
be right if it is looked at. -/
theorem receives_of_checksum (hlive : link.isExpired = false)
    (hfirst : link.device.pending.idxOf? Frame.terminator = some p) (hp : p < capacity)
    (hread : link.flags.readChecksum = true) (hsize : 2 ≤ p) :
    ∃ high low, (link.device.pending.drop (p - 2)).take 2 = [high, low] ∧
      link.Receives capacity
        (if link.flags.verifyChecksum = true ∧
            [high, low] ≠
              Checksum.toBytes (Checksum.compute (link.device.pending.take (p - 2))) then
          .error (.frame (.checksum (Checksum.compute (link.device.pending.take (p - 2)))
            (Checksum.ofBytes high low)))
        else .ok (link.device.pending.take (p - 2))) := by
  obtain ⟨hlength, -, -⟩ := List.idxOf?_eq_some_iff.mp hfirst
  obtain ⟨high, low, htwo⟩ : ∃ high low,
      (link.device.pending.drop (p - 2)).take 2 = [high, low] := by
    refine List.length_eq_two.mp ?_
    rw [List.length_take, List.length_drop]
    omega
  have hsplit : link.device.pending.take p = link.device.pending.take (p - 2) ++ [high, low] := by
    rw [← htwo, ← List.take_add, Nat.sub_add_cancel hsize]
  have hreceives := receives_of_idxOf? hlive hfirst hp
  rw [hsplit, Flags.payload_append hread] at hreceives
  refine ⟨high, low, htwo, ?_⟩
  split_ifs at hreceives ⊢
  · exact hreceives
  · exact hreceives

/-- When no checksum is to be read, everything before the terminator is the payload. -/
theorem receives_of_unread (hlive : link.isExpired = false)
    (hfirst : link.device.pending.idxOf? Frame.terminator = some p) (hp : p < capacity)
    (hread : link.flags.readChecksum = false) :
    link.Receives capacity (.ok (link.device.pending.take p)) := by
  have hreceives := receives_of_idxOf? hlive hfirst hp
  rw [Flags.payload_of_unread hread] at hreceives
  exact hreceives

/-- Nothing is received but the bytes before the first terminator, or before the checksum that
stands there. -/
theorem eq_take_of_receives (hlive : link.isExpired = false) {payload : List UInt8}
    (h : link.Receives capacity (.ok payload)) :
    ∃ p < capacity, link.device.pending.idxOf? Frame.terminator = some p ∧
      payload = link.device.pending.take (if link.flags.readChecksum then p - 2 else p) := by
  by_cases hmem : Frame.terminator ∈ link.device.pending.take capacity
  · obtain ⟨p, hp, hfirst⟩ := terminator_mem_take_iff_idxOf?.mp hmem
    refine ⟨p, hp, hfirst, ?_⟩
    cases hread : link.flags.readChecksum with
    | false => exact Except.ok.inj (h.eq (receives_of_unread hlive hfirst hp hread))
    | true =>
      obtain hsmall | hsize := Nat.lt_or_ge p 2
      · cases h.eq (receives_of_small hlive hfirst hp hread hsmall)
      · obtain ⟨high, low, -, hreceives⟩ := receives_of_checksum hlive hfirst hp hread hsize
        split_ifs at hreceives
        · cases h.eq hreceives
        · exact Except.ok.inj (h.eq hreceives)
  · obtain hshort | hfull := Nat.lt_or_ge link.device.pending.length capacity
    · obtain ⟨elapsed, htimeout⟩ := eq_timeout_of_short hmem hshort h
      cases htimeout
    · cases h.eq (receives_of_full hlive hmem hfull)

/-- There is no terminator among the bytes before the first one. -/
theorem terminator_notMem_take (hfirst : link.device.pending.idxOf? Frame.terminator = some p)
    {size : Nat} (hsize : size ≤ p) : Frame.terminator ∉ link.device.pending.take size := by
  intro hmem
  obtain ⟨q, hq, hfirst'⟩ := terminator_mem_take_iff_idxOf?.mp hmem
  obtain rfl := Option.some.inj (hfirst.symm.trans hfirst')
  exact Nat.not_lt_of_le hsize hq

/-- **What a link receives is told by the position of the first terminator**, for any bytes that are
pending, any room and any flags, while there is time left. If the first terminator is within the
room, the answer is refused as too small when there is no room for the checksum that is to be read;
otherwise the payload is received that stands before the checksum, unless this is looked at and is
not the one of the payload, or all that stands before the terminator when no checksum is to be read.
If there is none within the room, the answer is refused when the room has run out; when the bytes
have, a link with a limit, whose budget has not begun to count in the future, waits until its time
is over. A payload never holds the checksum, the terminator or what follows. -/
theorem receives_of_position (link : Link) (capacity : Nat) (hlive : link.isExpired = false) :
    (∀ p < capacity, link.device.pending.idxOf? Frame.terminator = some p →
      (link.flags.readChecksum = true → p < 2 → ∃ e, link.Receives capacity (.error e) ∧
        e.layer = .invalidData ∧ e.message = "response is too small") ∧
      (link.flags.readChecksum = true → 2 ≤ p → link.flags.verifyChecksum = true →
        ((link.device.pending.drop (p - 2)).take 2 =
            Checksum.toBytes (Checksum.compute (link.device.pending.take (p - 2))) →
          link.Receives capacity (.ok (link.device.pending.take (p - 2)))) ∧
        ((link.device.pending.drop (p - 2)).take 2 ≠
            Checksum.toBytes (Checksum.compute (link.device.pending.take (p - 2))) →
          ∃ e actual, link.Receives capacity (.error e) ∧ e.layer = .invalidData ∧
            Checksum.toBytes actual = (link.device.pending.drop (p - 2)).take 2 ∧
            e = .frame (.checksum (Checksum.compute (link.device.pending.take (p - 2))) actual))) ∧
      (link.flags.readChecksum = true → 2 ≤ p → link.flags.verifyChecksum = false →
        link.Receives capacity (.ok (link.device.pending.take (p - 2)))) ∧
      (link.flags.readChecksum = false →
        link.Receives capacity (.ok (link.device.pending.take p)))) ∧
    (Frame.terminator ∉ link.device.pending.take capacity →
      (capacity ≤ link.device.pending.length → ∃ e, link.Receives capacity (.error e) ∧
        e.layer = .invalidData ∧ e.message = "input buffer is not large enough") ∧
      (link.device.pending.length < capacity → link.timeout ≠ 0 → link.started ≤ link.now →
        ∃ e, link.Receives capacity (.error e) ∧ e.layer = .timeout)) ∧
    ∀ payload, link.Receives capacity (.ok payload) → Frame.terminator ∉ payload ∧
      ∃ p < capacity, link.device.pending.idxOf? Frame.terminator = some p ∧
        payload = link.device.pending.take (if link.flags.readChecksum then p - 2 else p) := by
  refine ⟨fun p hp hfirst => ?_, fun hnone => ⟨fun hfull => ?_, fun hshort hlimit horder => ?_⟩,
    fun payload hpayload => ?_⟩
  · refine ⟨fun hread hsmall => ?_, fun hread hsize hverify => ?_, fun hread hsize hverify => ?_,
      fun hread => receives_of_unread hlive hfirst hp hread⟩
    · exact ⟨_, receives_of_small hlive hfirst hp hread hsmall, rfl, rfl⟩
    · obtain ⟨high, low, htwo, hreceives⟩ := receives_of_checksum hlive hfirst hp hread hsize
      rw [htwo]
      constructor
      · intro hright
        rwa [if_neg (fun hwrong => hwrong.2 hright)] at hreceives
      · intro hwrong
        rw [if_pos ⟨hverify, hwrong⟩] at hreceives
        exact ⟨_, _, hreceives, rfl, Checksum.toBytes_ofBytes high low, rfl⟩
    · obtain ⟨high, low, -, hreceives⟩ := receives_of_checksum hlive hfirst hp hread hsize
      rwa [if_neg (fun hwrong => Bool.false_ne_true (hverify.symm.trans hwrong.1))] at hreceives
  · exact ⟨_, receives_of_full hlive hnone hfull, rfl, rfl⟩
  · obtain ⟨result, after, hreceive⟩ := link.exists_receive hlimit horder capacity
    obtain ⟨elapsed, rfl⟩ := eq_timeout_of_short hnone hshort ⟨after, hreceive⟩
    exact ⟨_, ⟨after, hreceive⟩, rfl⟩
  · obtain ⟨p, hp, hfirst, htake⟩ := eq_take_of_receives hlive hpayload
    refine ⟨?_, p, hp, hfirst, htake⟩
    rw [htake]
    split_ifs
    · exact terminator_notMem_take hfirst (Nat.sub_le p 2)
    · exact terminator_notMem_take hfirst (Nat.le_refl p)

/-- An acknowledgement with a byte behind it is received with room for its five bytes, and refused
with room for four of them. Where its checksum has been cut off, it is too small, and where its
terminator has, the link waits. -/
theorem receives_of_position_acknowledgement :
    let pending : List UInt8 := Frame.onWire true [0x5E, 0x31] ++ [0x58]
    Receives { device := { pending } } 5 (.ok [0x5E, 0x31]) ∧
      (∃ e, Receives { device := { pending } } 4 (.error e) ∧ e.layer = .invalidData) ∧
      (∃ e, Receives { device := { pending := [0x31, 0x0D] } } 5 (.error e) ∧
        e.message = "response is too small") ∧
      ∃ e, Receives { device := { pending := [0x5E, 0x31] } } 5 (.error e) ∧
        e.layer = .timeout := by
  intro pending
  have hfirst : pending.idxOf? Frame.terminator = some 4 := by decide
  have hnone : Frame.terminator ∉ pending.take 4 := by decide
  obtain ⟨hreceived, -, -⟩ := receives_of_position { device := { pending } } 5 rfl
  obtain ⟨-, hrefused, -⟩ := receives_of_position { device := { pending } } 4 rfl
  obtain ⟨hsmall, -, -⟩ := receives_of_position { device := { pending := [0x31, 0x0D] } } 5 rfl
  obtain ⟨-, hlate, -⟩ := receives_of_position { device := { pending := [0x5E, 0x31] } } 5 rfl
  refine ⟨?_, ?_, ?_, ?_⟩
  · obtain ⟨-, hchecked, -⟩ := hreceived 4 (by decide) hfirst
    exact (hchecked rfl (by decide) rfl).1 (by decide)
  · obtain ⟨e, hreceives, hlayer, -⟩ := (hrefused hnone).1 (by decide)
    exact ⟨e, hreceives, hlayer⟩
  · obtain ⟨e, hreceives, -, hmessage⟩ := (hsmall 1 (by decide) (by decide)).1 rfl (by decide)
    exact ⟨e, hreceives, hmessage⟩
  · exact (hlate (by decide)).2 (by decide) (by decide) (by decide)

end Link

end InverterLink
