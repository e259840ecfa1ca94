import InverterLink.Service.Line
import Mathlib.Data.List.Basic
import Mathlib.Tactic.SplitIfs

/-!
# Line ends in unfinished bytes

More bytes behind a line end do not move it, and bytes without one can only gain one at their very
end, where a carriage return is its first half. A buffer that has been drained holds such bytes, so
looking again for a line gives nothing and changes nothing.
-/

namespace InverterLink

/-! ### The first line end -/

/-- What follows does not change the first byte. -/
theorem head?_append_of_some {byte : UInt8} {bytes : List UInt8} (h : bytes.head? = some byte)
    (rest : List UInt8) : (bytes ++ rest).head? = some byte := by
  rw [List.head?_append, h, Option.some_or]

theorem ne_nil_of_cutLine? {bytes line behind : List UInt8}
    (h : cutLine? bytes = some (line, behind)) : bytes ≠ [] := by
  rintro rfl
  cases h

/-- A line end behind bytes without a carriage return is the first one. -/
theorem cutLine?_of_notMem {line : List UInt8} (h : 0x0D ∉ line) (behind : List UInt8) :
    cutLine? (line ++ 0x0D :: 0x0A :: behind) = some (line, behind) := by
  induction line with
  | nil => rfl
  | cons byte line ih =>
    rw [List.mem_cons, not_or] at h
    rw [List.cons_append, cutLine?, if_neg fun hend => h.1 hend.1.symm, ih h.2, Option.map_some]

/-- What follows does not move the first line end. -/
theorem cutLine?_append_of_some {bytes line behind : List UInt8}
    (h : cutLine? bytes = some (line, behind)) (rest : List UInt8) :
    cutLine? (bytes ++ rest) = some (line, behind ++ rest) := by
  induction bytes generalizing line with
  | nil => cases h
  | cons byte bytes ih =>
    rw [cutLine?] at h
    rw [List.cons_append, cutLine?]
    split_ifs at h with hend
    · obtain ⟨hbyte, hhead⟩ := hend
      obtain ⟨bytes, rfl⟩ := List.head?_eq_some_iff.mp hhead
      cases h
      rw [List.cons_append, List.head?_cons, List.tail_cons, if_pos ⟨hbyte, rfl⟩, List.tail_cons]
    · obtain ⟨⟨first, behind'⟩, hcut, h⟩ := Option.map_eq_some_iff.mp h
      cases h
      rw [List.head?_append_of_ne_nil _ (ne_nil_of_cutLine? hcut), if_neg hend, ih hcut,
        Option.map_some]

/-- A line end that more bytes bring lies behind all the others, or across the seam. -/
theorem length_le_of_cutLine?_append {bytes rest line behind : List UInt8}
    (h : cutLine? bytes = none) (hcut : cutLine? (bytes ++ rest) = some (line, behind)) :
    bytes.length ≤ line.length + 1 := by
  induction bytes generalizing line with
  | nil => exact Nat.zero_le _
  | cons byte bytes ih =>
    rw [cutLine?] at h
    rw [List.cons_append, cutLine?] at hcut
    split_ifs at h with hend
    split_ifs at hcut with hseam
    · obtain ⟨hbyte, hhead⟩ := hseam
      cases bytes with
      | nil => exact Nat.le_add_left _ _
      | cons second bytes => exact absurd ⟨hbyte, hhead⟩ hend
    · obtain ⟨⟨first, behind'⟩, hcut, hsome⟩ := Option.map_eq_some_iff.mp hcut
      cases hsome
      rw [List.length_cons, List.length_cons]
      exact Nat.succ_le_succ (ih (Option.map_eq_none_iff.mp h) hcut)

/-! ### The carriage return that is kept -/

theorem lastReturn_cons (byte : UInt8) {bytes : List UInt8} (h : bytes ≠ []) :
    lastReturn (byte :: bytes) = lastReturn bytes := by
  rw [lastReturn, lastReturn, List.getLast?_cons_of_ne_nil h]

theorem lastReturn_lastReturn (bytes : List UInt8) :
    lastReturn (lastReturn bytes) = lastReturn bytes := by
  rw [lastReturn.eq_def bytes]
  split_ifs
  · rfl
  · rfl

theorem cutLine?_lastReturn (bytes : List UInt8) : cutLine? (lastReturn bytes) = none := by
  rw [lastReturn]
  split_ifs
  · rfl
  · rfl

/-- **Dropped bytes hide no line end.** For what stands behind the first line end, the last carriage
return of bytes without one is as good as all of them. -/
theorem cutLine?_lastReturn_append {bytes : List UInt8} (h : cutLine? bytes = none)
    (rest : List UInt8) :
    (cutLine? (lastReturn bytes ++ rest)).map Prod.snd =
      (cutLine? (bytes ++ rest)).map Prod.snd := by
  induction bytes with
  | nil => rfl
  | cons byte bytes ih =>
    rw [cutLine?] at h
    split_ifs at h with hend
    have hbytes := Option.map_eq_none_iff.mp h
    cases bytes with
    | nil =>
      -- the last byte: kept if it may be the first half of a line end
      by_cases hbyte : byte = 0x0D
      · rw [hbyte]
        rfl
      · have hlast : lastReturn [byte] = [] := if_neg fun hsome => hbyte (Option.some.inj hsome)
        rw [hlast, List.singleton_append, List.nil_append, cutLine?,
          if_neg fun hseam => hbyte hseam.1, Option.map_map]
        rfl
    | cons second bytes =>
      have hseam : ¬ (byte = 0x0D ∧ ((second :: bytes) ++ rest).head? = some 0x0A) := hend
      rw [lastReturn_cons byte (List.cons_ne_nil _ _), ih hbytes, List.cons_append (a := byte),
        cutLine?,
        if_neg hseam, Option.map_map]
      rfl

namespace LineBuffer

/-! ### Draining -/

theorem drain_of_none {b b' : LineBuffer} (h : b.next? = (none, b')) : b.drain = ([], b') := by
  rw [drain]
  split
  · next heq => rw [h] at heq; cases heq
  · next heq => rw [h] at heq; cases heq; rfl

theorem drain_of_some {b b' : LineBuffer} {line : Line} (h : b.next? = (some line, b')) :
    b.drain = (line :: b'.drain.1, b'.drain.2) := by
  rw [drain]
  split
  · next heq => rw [h] at heq; cases heq; rfl
  · next heq => rw [h] at heq; cases heq

/-- The first line of bytes that begin with the end of the connection. -/
theorem next?_of_ended {bytes : List UInt8} (h : bytes.head? = some Line.endOfTransmission) :
    next? ⟨bytes, false⟩ = (some .ended, ⟨[], false⟩) :=
  if_pos h

/-- The first line of bytes that begin with a whole segment. -/
theorem next?_of_some {bytes segment behind : List UInt8}
    (hopen : bytes.head? ≠ some Line.endOfTransmission)
    (h : cutLine? bytes = some (segment, behind)) :
    next? ⟨bytes, false⟩ =
      (some (if Line.limit ≤ segment.length then .oversized
        else .request (Utf8.decodeLossy segment)), ⟨behind, false⟩) := by
  rw [next?, if_neg Bool.false_ne_true, nextOf, if_neg hopen, h]
  dsimp only
  split_ifs
  · rfl
  · rfl

/-- A segment that outgrows the buffer is reported before it ends. -/
theorem next?_of_long {bytes : List UInt8} (hopen : bytes.head? ≠ some Line.endOfTransmission)
    (h : cutLine? bytes = none) (hlong : Line.limit ≤ bytes.length) :
    next? ⟨bytes, false⟩ = (some .oversized, ⟨lastReturn bytes, true⟩) := by
  rw [next?, if_neg Bool.false_ne_true, nextOf, if_neg hopen, h]
  exact if_pos hlong

/-- Nothing is known yet about a segment that fits into the buffer so far. -/
theorem next?_of_short {bytes : List UInt8} (hopen : bytes.head? ≠ some Line.endOfTransmission)
    (h : cutLine? bytes = none) (hshort : ¬ Line.limit ≤ bytes.length) :
    next? ⟨bytes, false⟩ = (none, ⟨bytes, false⟩) := by
  rw [next?, if_neg Bool.false_ne_true, nextOf, if_neg hopen, h]
  exact if_neg hshort

/-- Bytes without a line are the beginning of a segment that fits. -/
theorem of_next?_eq_none {bytes : List UInt8} {b : LineBuffer}
    (h : next? ⟨bytes, false⟩ = (none, b)) :
    bytes.head? ≠ some Line.endOfTransmission ∧ cutLine? bytes = none ∧
      bytes.length < Line.limit ∧ b = ⟨bytes, false⟩ := by
  by_cases hopen : bytes.head? = some Line.endOfTransmission
  · rw [next?_of_ended hopen] at h
    cases h
  cases hcut : cutLine? bytes with
  | some found =>
    rw [next?_of_some hopen hcut] at h
    cases h
  | none =>
    by_cases hlong : Line.limit ≤ bytes.length
    · rw [next?_of_long hopen hcut hlong] at h
      cases h
    · rw [next?_of_short hopen hcut hlong] at h
      cases h
      exact ⟨hopen, rfl, Nat.lt_of_not_le hlong, rfl⟩

/-- Dropping ends behind the first line end. -/
theorem next?_of_discarding {bytes behind segment : List UInt8}
    (h : cutLine? bytes = some (segment, behind)) :
    next? ⟨bytes, true⟩ = next? ⟨behind, false⟩ := by
  simp only [next?, h, if_true, Bool.false_eq_true, if_false]

theorem next?_of_discarding_none {bytes : List UInt8} (h : cutLine? bytes = none) :
    next? ⟨bytes, true⟩ = (none, ⟨lastReturn bytes, true⟩) := by
  simp only [next?, h, if_true]

/-! ### Quiet buffers -/

/-- A buffer in which there is no line to find, and nothing to drop. -/
def IsQuiet (b : LineBuffer) : Prop :=
  b.next? = (none, b)

theorem isQuiet_empty : IsQuiet {} :=
  rfl

/-- What a buffer is quiet about: bytes that are dropped, but for a carriage return, or the
beginning of a segment that fits. -/
theorem IsQuiet.cases {b : LineBuffer} (h : b.IsQuiet) :
    (b.isDiscarding = true ∧ cutLine? b.buffered = none ∧ lastReturn b.buffered = b.buffered) ∨
    (b.isDiscarding = false ∧ b.buffered.head? ≠ some Line.endOfTransmission ∧
      cutLine? b.buffered = none ∧ b.buffered.length < Line.limit) := by
  obtain ⟨bytes, isDiscarding⟩ := b
  cases isDiscarding with
  | true =>
    cases hcut : cutLine? bytes with
    | none =>
      rw [IsQuiet, next?_of_discarding_none hcut] at h
      exact .inl ⟨rfl, rfl, congrArg buffered (Prod.ext_iff.mp h).2⟩
    | some found =>
      rw [IsQuiet, next?_of_discarding hcut] at h
      obtain ⟨-, -, -, hstate⟩ := of_next?_eq_none h
      cases hstate
  | false =>
    obtain ⟨hopen, hcut, hshort, -⟩ := of_next?_eq_none h
    exact .inr ⟨rfl, hopen, hcut, hshort⟩

/-- A quiet buffer holds less than a request may. -/
theorem IsQuiet.length_lt {b : LineBuffer} (h : b.IsQuiet) : b.buffered.length < Line.limit := by
  obtain ⟨-, -, hlast⟩ | ⟨-, -, -, hshort⟩ := h.cases
  · rw [← hlast]
    exact Nat.lt_of_le_of_lt (length_lastReturn_le _) (by decide)
  · exact hshort

/-- What is kept of dropped bytes is quiet. -/
theorem isQuiet_lastReturn (bytes : List UInt8) : IsQuiet ⟨lastReturn bytes, true⟩ := by
  rw [IsQuiet, next?_of_discarding_none (cutLine?_lastReturn bytes), lastReturn_lastReturn]

/-- What a quiet buffer gives when nothing follows. -/
theorem finish_of_isQuiet {b : LineBuffer} (h : b.IsQuiet) :
    b.finish.1 =
      if b.isDiscarding then []
      else if b.buffered = [] then []
      else [.request (Utf8.decodeLossy b.buffered)] := by
  rw [finish, drain_of_none h]
  dsimp only
  cases b.isDiscarding with
  | true => rfl
  | false =>
    cases b.buffered with
    | nil => rfl
    | cons byte bytes => rfl

end LineBuffer

end InverterLink
