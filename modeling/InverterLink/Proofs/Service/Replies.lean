import InverterLink.Proofs.Text.LineEnds
import InverterLink.Service.Connection

/-!
# Cutting replies apart

A reply ends in an empty line, which is four bytes: the end of the last line that is not empty, and
the line end of the empty one. If there is no line end in the body, these four bytes stand nowhere
else in the reply. A client that reads byte by byte and takes a reply for complete as soon as it
ends in them is therefore never mistaken, however many replies follow each other.

## Main definitions

* `IsSealed`: bytes that end in an empty line and have no other.
* `ReplyReader`: a client that cuts what it receives into replies.

## Main statements

* `Reply.isSealed_bytes`: a reply whose body has no line end is sealed.
* `ReplyReader.read_flatten`: sealed bytes that follow each other are cut where they follow each
  other.
-/

namespace InverterLink

/-! ### Bytes with an empty line at their end -/

/-- An empty line, and the end of the line before it. -/
def blankLine : List UInt8 := [0x0D, 0x0A, 0x0D, 0x0A]

/-- Bytes that end in an empty line, which is the only one in them. -/
def IsSealed (bytes : List UInt8) : Prop :=
  blankLine <:+ bytes ∧ ∀ before behind, bytes = before ++ blankLine ++ behind → behind = []

section

variable {bytes front : List UInt8}

theorem isSealed_blankLine : IsSealed blankLine := by
  refine ⟨List.suffix_rfl, fun before behind h => ?_⟩
  have hlength := congrArg List.length h
  simp only [List.length_append] at hlength
  exact List.length_eq_zero_iff.mp (by omega)

/-- A byte that no empty line begins with may come in front. -/
theorem IsSealed.cons {byte : UInt8} (h : IsSealed bytes) (hfront : ¬ blankLine <+: byte :: bytes) :
    IsSealed (byte :: bytes) := by
  refine ⟨h.1.trans (List.suffix_cons _ _), fun before behind heq => ?_⟩
  cases before with
  | nil => exact absurd ⟨behind, heq.symm⟩ hfront
  | cons first before =>
    rw [List.cons_append, List.cons_append, List.cons.injEq] at heq
    exact h.2 before behind heq.2

/-- An empty line begins with a carriage return. -/
theorem IsSealed.append_of_forall_ne (h : IsSealed bytes) (hfront : ∀ byte ∈ front, byte ≠ 0x0D) :
    IsSealed (front ++ bytes) := by
  induction front with
  | nil => exact h
  | cons byte front ih =>
    obtain ⟨hbyte, hfront⟩ := List.forall_mem_cons.mp hfront
    refine (ih hfront).cons fun hprefix => ?_
    exact hbyte (List.cons_prefix_cons.mp hprefix).1.symm

/-- A line end at the beginning of bytes and an empty line is one of the bytes, if there are any. -/
theorem lineEnd_prefix_of_append (hne : bytes ≠ []) (h : [0x0D, 0x0A] <+: bytes ++ blankLine) :
    [0x0D, 0x0A] <+: bytes := by
  match bytes with
  | [] => exact absurd rfl hne
  | [byte] =>
    -- the line feed would be the first byte of the empty line
    have hsecond := (List.cons_prefix_cons.mp (List.cons_prefix_cons.mp h).2).1
    exact absurd hsecond (by decide)
  | byte :: second :: bytes =>
    obtain ⟨hbyte, hrest⟩ := List.cons_prefix_cons.mp h
    obtain ⟨hsecond, -⟩ := List.cons_prefix_cons.mp hrest
    rw [← hbyte, ← hsecond]
    exact List.prefix_append [0x0D, 0x0A] bytes

/-- **An empty line behind bytes without a line end** seals them. -/
theorem isSealed_append_blankLine (h : ¬ [0x0D, 0x0A] <:+: bytes) :
    IsSealed (bytes ++ blankLine) := by
  induction bytes with
  | nil => exact isSealed_blankLine
  | cons byte bytes ih =>
    have hbytes : ¬ [0x0D, 0x0A] <:+: bytes := fun hend =>
      h (hend.trans (List.suffix_cons byte bytes).isInfix)
    refine (ih hbytes).cons fun hprefix => h ?_
    have hend : [0x0D, 0x0A] <+: (byte :: bytes) ++ blankLine :=
      (List.prefix_append [0x0D, 0x0A] [0x0D, 0x0A]).trans hprefix
    exact (lineEnd_prefix_of_append (List.cons_ne_nil byte bytes) hend).isInfix

/-- One line end in front of such bytes does not make an empty line. -/
theorem isSealed_lineEnd_append (hne : bytes ≠ []) (h : ¬ [0x0D, 0x0A] <:+: bytes) :
    IsSealed ([0x0D, 0x0A] ++ bytes ++ blankLine) := by
  have hfeed : IsSealed (0x0A :: (bytes ++ blankLine)) := by
    refine (isSealed_append_blankLine h).cons fun hprefix => ?_
    exact absurd (List.cons_prefix_cons.mp hprefix).1 (by decide)
  refine hfeed.cons fun hprefix => h ?_
  have hbehind := (List.cons_prefix_cons.mp (List.cons_prefix_cons.mp hprefix).2).2
  exact (lineEnd_prefix_of_append hne hbehind).isInfix

end

namespace Reply

/-- A reply in bytes. -/
def bytes (r : Reply) : List UInt8 :=
  Utf8.encode r.text

/-- **A reply without a line end in its body is sealed.** -/
theorem isSealed_bytes {r : Reply} (h : ¬ HasLineEnd r.body) : IsSealed r.bytes := by
  obtain ⟨ok, body⟩ := r
  have houtcome : IsPlain (outcome ok) := by cases ok <;> decide
  have hlineEnd : Utf8.encode lineEnd = [0x0D, 0x0A] := by decide
  -- the word in front does not matter, so what remains begins with a line end
  rw [bytes, text, List.append_assoc, List.append_assoc, Utf8.encode_append]
  refine IsSealed.append_of_forall_ne ?_ (Utf8.forall_ne_of_isPlain houtcome)
  simp only [Utf8.encode_append, hlineEnd]
  cases body with
  | nil => exact isSealed_blankLine
  | cons c body =>
    have hne : Utf8.encode (c :: body) ≠ [] := by
      rw [Utf8.encode_cons]
      exact List.append_ne_nil_of_left_ne_nil (by simp) _
    have hsealed := isSealed_lineEnd_append hne fun hend => h (Utf8.hasLineEnd_of_encode hend)
    rwa [List.isEmpty_cons, if_neg Bool.false_ne_true, Utf8.encode_append, hlineEnd]

end Reply

/-! ### Reading replies -/

/-- A client that cuts what it receives at the end of each empty line. -/
structure ReplyReader where
  /-- What has come up to the last empty line, a piece for each of them. -/
  pieces : List (List UInt8) := []
  /-- What has come behind it. -/
  pending : List UInt8 := []
deriving DecidableEq

namespace ReplyReader

/-- Takes a byte up. -/
def receive (r : ReplyReader) (byte : UInt8) : ReplyReader :=
  let pending := r.pending ++ [byte]
  if blankLine <:+ pending then ⟨r.pieces ++ [pending], []⟩ else { r with pending }

/-- What a client makes of some bytes. -/
def read (bytes : List UInt8) : ReplyReader :=
  bytes.foldl receive {}

/-- The rest of sealed bytes completes a piece. -/
theorem foldl_receive_of_isSealed (pieces : List (List UInt8)) (front : List UInt8)
    {behind : List UInt8} (hne : behind ≠ []) (h : IsSealed (front ++ behind)) :
    behind.foldl receive ⟨pieces, front⟩ = ⟨pieces ++ [front ++ behind], []⟩ := by
  induction behind generalizing front with
  | nil => exact absurd rfl hne
  | cons byte behind ih =>
    rw [List.append_cons] at h
    rw [List.foldl_cons, receive]
    dsimp only
    cases behind with
    | nil =>
      rw [List.append_nil] at h
      rw [if_pos h.1, List.foldl_nil]
    | cons second behind =>
      -- an empty line before the last byte would be another one
      have hopen : ¬ blankLine <:+ front ++ [byte] := by
        rintro ⟨before, hbefore⟩
        exact absurd (h.2 before (second :: behind) (by rw [hbefore])) (List.cons_ne_nil _ _)
      rw [if_neg hopen, ih _ (List.cons_ne_nil _ _) h,
        List.append_cons front byte (second :: behind)]

/-- **Sealed bytes that follow each other** are cut where they follow each other. -/
theorem read_flatten {parts : List (List UInt8)} (h : ∀ part ∈ parts, IsSealed part) :
    read parts.flatten = ⟨parts, []⟩ := by
  -- what has been cut off before stays as it is
  suffices hfold : ∀ pieces, parts.flatten.foldl receive ⟨pieces, []⟩ = ⟨pieces ++ parts, []⟩ from
    hfold []
  induction parts with
  | nil =>
    intro pieces
    rw [List.flatten_nil, List.foldl_nil, List.append_nil]
  | cons part parts ih =>
    intro pieces
    obtain ⟨hpart, hparts⟩ := List.forall_mem_cons.mp h
    have hne : part ≠ [] :=
      List.ne_nil_of_length_pos (Nat.lt_of_lt_of_le (by decide) hpart.1.length_le)
    rw [List.flatten_cons, List.foldl_append, foldl_receive_of_isSealed pieces [] hne hpart,
      ih hparts, List.nil_append, ← List.append_cons]

end ReplyReader

end InverterLink
