import InverterLink.Proofs.Service.Requests

/-!
# One line for each piece

What a client sends falls into pieces in one way: segments, each with a line end behind it, and a
tail behind the last line end. Each piece is read as one line, and nothing about it depends on the
pieces around it, however long they are. The first piece that begins with the end of the connection
is the last one that is looked at; the byte means nothing elsewhere.

## Main definitions

* `IsCut`: a byte string is put together from segments and a tail.
* `Piece`, `Piece.ReadAs`, `Piece.AllReadAs`: the pieces, and the lines that they may be read as.

## Main statements

* `exists_isCut`, `IsCut.unique`: there is one way to cut a byte string.
* `LineBuffer.lines_of_pieces`: the lines that are found in chunks are the readings of the pieces.
-/

namespace InverterLink

/-! ### Segments and tails -/

/-- A byte string is cut into segments and a tail: a line end stands behind each segment, and
nowhere else. -/
structure IsCut (bytes : List UInt8) (segments : List (List UInt8)) (tail : List UInt8) : Prop where
  eq_append : bytes = segments.flatMap (· ++ [0x0D, 0x0A]) ++ tail
  segments_unbroken : ∀ segment ∈ segments, ¬ [0x0D, 0x0A] <:+: segment
  tail_unbroken : ¬ [0x0D, 0x0A] <:+: tail

section

variable {bytes segment behind tail : List UInt8} {segments : List (List UInt8)}

/-- The line end behind bytes without one is the first. -/
theorem cutLine?_of_unbroken (h : ¬ [0x0D, 0x0A] <:+: segment) (behind : List UInt8) :
    cutLine? (segment ++ 0x0D :: 0x0A :: behind) = some (segment, behind) := by
  induction segment with
  | nil => rfl
  | cons byte segment ih =>
    have hopen : ¬ (byte = 0x0D ∧ (segment ++ 0x0D :: 0x0A :: behind).head? = some 0x0A) := by
      rintro ⟨rfl, hfeed⟩
      cases segment with
      | nil => exact absurd (Option.some.inj hfeed) (by decide)
      | cons second segment =>
        obtain rfl : second = 0x0A := Option.some.inj hfeed
        exact h (List.prefix_append [0x0D, 0x0A] segment).isInfix
    have hsegment : ¬ [0x0D, 0x0A] <:+: segment := fun hend =>
      h (hend.trans (List.suffix_cons byte segment).isInfix)
    rw [List.cons_append, cutLine?, if_neg hopen, ih hsegment, Option.map_some]

/-- Bytes without a line end hold no segment. -/
theorem cutLine?_eq_none_of_unbroken (h : ¬ [0x0D, 0x0A] <:+: bytes) : cutLine? bytes = none := by
  by_contra hsome
  obtain ⟨⟨segment, behind⟩, hcut⟩ := Option.ne_none_iff_exists'.mp hsome
  exact h ⟨segment, behind, by rw [append_of_cutLine? hcut]; simp⟩

namespace IsCut

/-- A tail alone is a byte string without line ends. -/
theorem nil_iff : IsCut bytes [] tail ↔ bytes = tail ∧ ¬ [0x0D, 0x0A] <:+: tail :=
  ⟨fun h => ⟨h.eq_append, h.tail_unbroken⟩,
    fun h => ⟨h.1, fun _ hmem => absurd hmem List.not_mem_nil, h.2⟩⟩

/-- The first segment stands before the first line end, and the others behind it. -/
theorem cons_iff : IsCut bytes (segment :: segments) tail ↔
    ∃ behind, cutLine? bytes = some (segment, behind) ∧ IsCut behind segments tail := by
  constructor
  · rintro ⟨rfl, hsegments, htail⟩
    obtain ⟨hsegment, hsegments⟩ := List.forall_mem_cons.mp hsegments
    refine ⟨_, ?_, rfl, hsegments, htail⟩
    rw [List.flatMap_cons, List.append_assoc, List.append_assoc]
    exact cutLine?_of_unbroken hsegment _
  · rintro ⟨behind, hcut, rfl, hsegments, htail⟩
    refine ⟨?_, List.forall_mem_cons.mpr ⟨not_infix_of_cutLine? hcut, hsegments⟩, htail⟩
    rw [append_of_cutLine? hcut, List.flatMap_cons, List.append_assoc, List.append_assoc]
    rfl

/-- **There is one way to cut a byte string.** -/
theorem unique {segments' : List (List UInt8)} {tail' : List UInt8} (h : IsCut bytes segments tail)
    (h' : IsCut bytes segments' tail') : segments = segments' ∧ tail = tail' := by
  induction segments generalizing bytes segments' with
  | nil =>
    obtain ⟨rfl, hunbroken⟩ := nil_iff.mp h
    cases segments' with
    | nil => exact ⟨rfl, (nil_iff.mp h').1⟩
    | cons segment' segments' =>
      obtain ⟨behind, hcut, -⟩ := cons_iff.mp h'
      rw [cutLine?_eq_none_of_unbroken hunbroken] at hcut
      cases hcut
  | cons segment segments ih =>
    obtain ⟨behind, hcut, hbehind⟩ := cons_iff.mp h
    cases segments' with
    | nil =>
      obtain ⟨rfl, hunbroken⟩ := nil_iff.mp h'
      rw [cutLine?_eq_none_of_unbroken hunbroken] at hcut
      cases hcut
    | cons segment' segments' =>
      obtain ⟨behind', hcut', hbehind'⟩ := cons_iff.mp h'
      rw [hcut] at hcut'
      cases hcut'
      obtain ⟨rfl, rfl⟩ := ih hbehind hbehind'
      exact ⟨rfl, rfl⟩

end IsCut

/-- **Every byte string can be cut.** -/
theorem exists_isCut (bytes : List UInt8) : ∃ segments tail, IsCut bytes segments tail := by
  induction hlength : bytes.length using Nat.strongRecOn generalizing bytes with
  | _ length ih =>
    subst hlength
    obtain hcut | ⟨⟨segment, behind⟩, hcut⟩ := Option.eq_none_or_eq_some (cutLine? bytes)
    · exact ⟨[], bytes, IsCut.nil_iff.mpr ⟨rfl, not_infix_of_cutLine?_eq_none hcut⟩⟩
    · have hshorter := LineBuffer.length_of_cutLine? hcut
      obtain ⟨segments, tail, hbehind⟩ := ih behind.length (by omega) behind rfl
      exact ⟨segment :: segments, tail, IsCut.cons_iff.mpr ⟨behind, hcut, hbehind⟩⟩

end

/-! ### Pieces and their readings -/

/-- A piece of what a client sends. -/
inductive Piece where
  /-- Bytes with a line end behind them. -/
  | segment (bytes : List UInt8)
  /-- Bytes that no line end follows. -/
  | tail (bytes : List UInt8)

namespace Piece

/-- The bytes of a piece, without the line end. -/
def bytes : Piece → List UInt8
  | segment bytes => bytes
  | tail bytes => bytes

/-- The piece begins with the end of the connection. -/
def isLast (p : Piece) : Bool :=
  p.bytes.head? = some Line.endOfTransmission

/-- The pieces of a byte string that is cut into segments and a tail. An empty tail is none. -/
def ofCut (segments : List (List UInt8)) (last : List UInt8) : List Piece :=
  segments.map segment ++ if last = [] then [] else [tail last]

/-- What a piece may be read as. A segment that is below the limit is a request, and one that
reaches it is oversized. The carriage return behind a segment may count as well, so one that is a
byte below the limit may be either. -/
inductive ReadAs : Piece → Line → Prop where
  | request {bytes : List UInt8} (h : bytes.length < Line.limit) :
    ReadAs (segment bytes) (.request (Utf8.decodeLossy bytes))
  | oversized {bytes : List UInt8} (h : Line.limit ≤ bytes.length + 1) :
    ReadAs (segment bytes) .oversized
  | lastRequest {bytes : List UInt8} (h : bytes.length < Line.limit) :
    ReadAs (tail bytes) (.request (Utf8.decodeLossy bytes))
  | lastOversized {bytes : List UInt8} (h : Line.limit ≤ bytes.length) :
    ReadAs (tail bytes) .oversized

theorem readAs_ofSegment (isCut : Bool) (bytes : List UInt8) :
    ReadAs (segment bytes) (Line.ofSegment isCut bytes) := by
  have hbit := isCut.toNat_le
  rw [Line.ofSegment]
  split_ifs with hlong
  · exact .oversized (Nat.le_trans hlong (Nat.add_le_add_left hbit _))
  · exact .request (by omega)

/-- Each piece is read as one line, up to the first one that begins with the end of the connection.
That one ends the lines, if there is one. -/
def AllReadAs (pieces : List Piece) (lines : List Line) : Prop :=
  ∃ before, lines = before ++ (if pieces.any isLast then [.ended] else []) ∧
    List.Forall₂ ReadAs (pieces.takeWhile (!·.isLast)) before

section

variable {piece : Piece} {pieces : List Piece} {line : Line} {lines : List Line}

theorem allReadAs_nil : AllReadAs [] [] :=
  ⟨[], rfl, .nil⟩

theorem allReadAs_of_isLast (h : piece.isLast = true) (pieces : List Piece) :
    AllReadAs (piece :: pieces) [.ended] := by
  refine ⟨[], ?_, ?_⟩
  · rw [List.any_cons, h, Bool.true_or, if_pos rfl, List.nil_append]
  · rw [List.takeWhile_cons_of_neg (by rw [h]; decide)]
    exact .nil

theorem AllReadAs.cons (hopen : piece.isLast = false) (hline : ReadAs piece line)
    (h : AllReadAs pieces lines) : AllReadAs (piece :: pieces) (line :: lines) := by
  obtain ⟨before, rfl, hbefore⟩ := h
  refine ⟨line :: before, ?_, ?_⟩
  · rw [List.any_cons, hopen, Bool.false_or, List.cons_append]
  · rw [List.takeWhile_cons_of_pos (by rw [hopen]; rfl)]
    exact .cons hline hbefore

end

/-- A segment is the last piece if the bytes begin with the end of the connection. -/
theorem isLast_segment {bytes segment behind : List UInt8}
    (h : cutLine? bytes = some (segment, behind)) :
    (Piece.segment segment).isLast = decide (bytes.head? = some Line.endOfTransmission) := by
  rw [isLast, Piece.bytes, append_of_cutLine? h]
  cases segment with
  | nil => rfl
  | cons byte segment => rfl

/-- **A tail is read as one line**, unless it is empty. -/
theorem allReadAs_tail {last : List UInt8} (h : cutLine? last = none) (isCut : Nat → Bool) :
    AllReadAs (ofCut [] last) (Line.ofBytes isCut last) := by
  rw [ofCut, List.map_nil, List.nil_append]
  by_cases hlast : last.head? = some Line.endOfTransmission
  · rw [Line.ofBytes_of_ended hlast, if_neg (by rintro rfl; cases hlast)]
    have hend : (tail last).isLast = true := decide_eq_true hlast
    exact allReadAs_of_isLast hend []
  · have hopen : (tail last).isLast = false := decide_eq_false hlast
    rw [Line.ofBytes_of_none hlast h, Line.ofTail]
    split_ifs with hempty hlong
    · exact allReadAs_nil
    · exact allReadAs_nil.cons hopen (.lastOversized hlong)
    · exact allReadAs_nil.cons hopen (.lastRequest (Nat.lt_of_not_le hlong))

/-- **Each piece is read as one line.** -/
theorem allReadAs_ofCut {bytes last : List UInt8} {segments : List (List UInt8)}
    (h : IsCut bytes segments last) (isCut : Nat → Bool) :
    AllReadAs (ofCut segments last) (Line.ofBytes isCut bytes) := by
  induction segments generalizing bytes isCut with
  | nil =>
    obtain ⟨rfl, hunbroken⟩ := IsCut.nil_iff.mp h
    exact allReadAs_tail (cutLine?_eq_none_of_unbroken hunbroken) isCut
  | cons segment segments ih =>
    obtain ⟨behind, hcut, hbehind⟩ := IsCut.cons_iff.mp h
    by_cases hlast : bytes.head? = some Line.endOfTransmission
    · rw [Line.ofBytes_of_ended hlast]
      exact allReadAs_of_isLast (by rw [isLast_segment hcut, hlast]; rfl) _
    · rw [Line.ofBytes_of_some hlast hcut]
      have hopen : (Piece.segment segment).isLast = false := by
        rw [isLast_segment hcut, decide_eq_false hlast]
      exact (ih hbehind _).cons hopen (readAs_ofSegment _ segment)

end Piece

/-- **The lines that are found in chunks are the readings of the pieces** that the bytes fall into.
There is one way to cut the bytes, and the chunks have no part in it. -/
theorem LineBuffer.lines_of_pieces (chunks : List (List UInt8)) :
    ∃ segments last, IsCut chunks.flatten segments last ∧
      (∀ segments' last', IsCut chunks.flatten segments' last' →
        segments' = segments ∧ last' = last) ∧
      Piece.AllReadAs (Piece.ofCut segments last) (Line.untilEnded (decode {} chunks)) := by
  obtain ⟨segments, last, hcut⟩ := exists_isCut chunks.flatten
  refine ⟨segments, last, hcut, fun _ _ hother => hother.unique hcut, ?_⟩
  rw [untilEnded_decode_empty]
  exact Piece.allReadAs_ofCut hcut _

end InverterLink
