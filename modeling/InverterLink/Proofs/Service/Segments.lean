import InverterLink.Proofs.Service.Line

/-!
# The segments of what a client sends

Line ends cut the bytes of a client into segments and a tail, and each of them is one line: a
request, or a report that it is oversized. `Line.ofBytes` says which, for all bytes at once.

One case looks at how the bytes arrived: a buffer that holds a segment up to its carriage return
counts that byte too, so what a segment of one byte less than the limit is read as depends on
whether a chunk ended behind its carriage return. Nothing else does.

## Main definitions

* `Line.ofBytes`: the lines of a byte string.
* `HasSegment`: where the segments of a byte string are.
-/

namespace InverterLink

namespace Line

/-! ### The lines of a byte string -/

/-- The line that a segment is read as, where `isCut` says that a chunk ended between the carriage
return and the line feed behind it. -/
def ofSegment (isCut : Bool) (segment : List UInt8) : Line :=
  if limit ≤ segment.length + isCut.toNat then .oversized
  else .request (Utf8.decodeLossy segment)

/-- The line that bytes without a line end are read as when nothing follows, if there are any. -/
def ofTail (tail : List UInt8) : List Line :=
  if tail = [] then []
  else if limit ≤ tail.length then [.oversized]
  else [.request (Utf8.decodeLossy tail)]

/-- The lines of a byte string up to the end of the connection, where `isCut` says behind how many
bytes chunks ended. -/
def ofBytes (isCut : Nat → Bool) (bytes : List UInt8) : List Line :=
  if bytes.head? = some endOfTransmission then [.ended]
  else
    match _h : cutLine? bytes with
    | some (segment, behind) =>
      ofSegment (isCut (segment.length + 1)) segment ::
        ofBytes (fun count => isCut (segment.length + 2 + count)) behind
    | none => ofTail bytes
termination_by bytes.length
decreasing_by
  have := LineBuffer.length_of_cutLine? _h
  omega

/-- The lines up to the first one that ends the connection. -/
def untilEnded : List Line → List Line
  | [] => []
  | .ended :: _ => [.ended]
  | line :: lines => line :: untilEnded lines

theorem untilEnded_cons {line : Line} (h : line ≠ .ended) (lines : List Line) :
    untilEnded (line :: lines) = line :: untilEnded lines := by
  cases line with
  | ended => exact absurd rfl h
  | request text => rfl
  | oversized => rfl

theorem ofSegment_ne_ended (isCut : Bool) (segment : List UInt8) :
    ofSegment isCut segment ≠ .ended := by
  rw [ofSegment]
  split_ifs
  · exact nofun
  · exact nofun

theorem ofBytes_of_ended {bytes : List UInt8} (h : bytes.head? = some endOfTransmission)
    (isCut : Nat → Bool) : ofBytes isCut bytes = [.ended] := by
  rw [ofBytes, if_pos h]

theorem ofBytes_of_some {bytes segment behind : List UInt8}
    (hopen : bytes.head? ≠ some endOfTransmission) (h : cutLine? bytes = some (segment, behind))
    (isCut : Nat → Bool) :
    ofBytes isCut bytes = ofSegment (isCut (segment.length + 1)) segment ::
      ofBytes (fun count => isCut (segment.length + 2 + count)) behind := by
  rw [ofBytes, if_neg hopen]
  split
  · next heq => rw [h] at heq; cases heq; rfl
  · next heq => rw [h] at heq; cases heq

theorem ofBytes_of_none {bytes : List UInt8} (hopen : bytes.head? ≠ some endOfTransmission)
    (h : cutLine? bytes = none) (isCut : Nat → Bool) : ofBytes isCut bytes = ofTail bytes := by
  rw [ofBytes, if_neg hopen]
  split
  · next heq => rw [h] at heq; cases heq
  · rfl

/-- A cut behind its carriage return matters to a segment only if it is one byte shorter than the
limit. -/
theorem ofSegment_eq_iff {isCut isCut' : Bool} {segment : List UInt8} :
    ofSegment isCut segment = ofSegment isCut' segment ↔
      (segment.length + 1 = limit → isCut = isCut') := by
  obtain hshort | hnear | hlong := Nat.lt_trichotomy (segment.length + 1) limit
  · have hfits (b : Bool) : ¬ limit ≤ segment.length + b.toNat := fun hle =>
      absurd (Nat.le_trans hle (Nat.add_le_add_left b.toNat_le _)) (Nat.not_le_of_lt hshort)
    rw [ofSegment, ofSegment, if_neg (hfits _), if_neg (hfits _)]
    exact ⟨fun _ heq => absurd heq (Nat.ne_of_lt hshort), fun _ => rfl⟩
  · have hopen : ofSegment false segment = .request (Utf8.decodeLossy segment) :=
      if_neg (Nat.not_le_of_lt (hnear ▸ Nat.lt_succ_self _))
    have hcut : ofSegment true segment = .oversized := if_pos (Nat.le_of_eq hnear.symm)
    -- the one length at which the two verdicts differ
    cases isCut <;> cases isCut' <;> simp [hopen, hcut, hnear]
  · have hfull (b : Bool) : limit ≤ segment.length + b.toNat :=
      Nat.le_add_right_of_le (Nat.le_of_lt_succ hlong)
    rw [ofSegment, ofSegment, if_pos (hfull _), if_pos (hfull _)]
    exact ⟨fun _ heq => absurd heq (Nat.ne_of_gt hlong), fun _ => rfl⟩

end Line

/-! ### Where the segments are -/

/-- A whole segment of a byte string, and the number of bytes before it. Behind the end of the
connection there are none. -/
inductive HasSegment : List UInt8 → Nat → List UInt8 → Prop where
  | first {bytes segment behind : List UInt8}
    (hopen : bytes.head? ≠ some Line.endOfTransmission)
    (hcut : cutLine? bytes = some (segment, behind)) : HasSegment bytes 0 segment
  | later {bytes segment behind later : List UInt8} {position : Nat}
    (hopen : bytes.head? ≠ some Line.endOfTransmission)
    (hcut : cutLine? bytes = some (segment, behind)) (hlater : HasSegment behind position later) :
    HasSegment bytes (segment.length + 2 + position) later

/-- A segment of a byte string is the first one or one of those behind it. -/
theorem hasSegment_iff {bytes segment behind : List UInt8}
    (hopen : bytes.head? ≠ some Line.endOfTransmission)
    (hcut : cutLine? bytes = some (segment, behind)) {position : Nat} {other : List UInt8} :
    HasSegment bytes position other ↔
      (position = 0 ∧ other = segment) ∨
      ∃ offset, position = segment.length + 2 + offset ∧ HasSegment behind offset other := by
  constructor
  · intro h
    rcases h with ⟨-, hfirst⟩ | ⟨-, hfirst, hlater⟩
    · rw [hcut] at hfirst
      cases hfirst
      exact .inl ⟨rfl, rfl⟩
    · rw [hcut] at hfirst
      cases hfirst
      exact .inr ⟨_, rfl, hlater⟩
  · rintro (⟨rfl, rfl⟩ | ⟨offset, rfl, hlater⟩)
    · exact .first hopen hcut
    · exact .later hopen hcut hlater

namespace HasSegment

variable {bytes segment : List UInt8} {position : Nat}

/-- Bytes that begin with the end of the connection have no segments. -/
theorem head?_ne (h : HasSegment bytes position segment) :
    bytes.head? ≠ some Line.endOfTransmission := by
  rcases h with ⟨hopen, -⟩ | ⟨hopen, -⟩
  · exact hopen
  · exact hopen

/-- Bytes without a line end have no segments. -/
theorem cutLine?_ne_none (h : HasSegment bytes position segment) : cutLine? bytes ≠ none := by
  rcases h with ⟨-, hcut⟩ | ⟨-, hcut⟩
  · exact Option.ne_none_iff_exists'.mpr ⟨_, hcut⟩
  · exact Option.ne_none_iff_exists'.mpr ⟨_, hcut⟩

/-- A segment and its line end lie within the bytes. -/
theorem add_le (h : HasSegment bytes position segment) :
    position + segment.length + 2 ≤ bytes.length := by
  induction h with
  | first hopen hcut =>
    have := LineBuffer.length_of_cutLine? hcut
    omega
  | later hopen hcut hlater ih =>
    have := LineBuffer.length_of_cutLine? hcut
    omega

end HasSegment

namespace Line

/-- **Where chunks end matters** only behind the carriage return of segments of one length. -/
theorem ofBytes_eq_iff {isCut isCut' : Nat → Bool} {bytes : List UInt8} :
    ofBytes isCut bytes = ofBytes isCut' bytes ↔
      ∀ position segment, HasSegment bytes position segment → segment.length + 1 = limit →
        isCut (position + limit) = isCut' (position + limit) := by
  induction hlength : bytes.length using Nat.strongRecOn generalizing bytes isCut isCut' with
  | _ length ih =>
    subst hlength
    by_cases hopen : bytes.head? = some endOfTransmission
    · rw [ofBytes_of_ended hopen, ofBytes_of_ended hopen]
      exact ⟨fun _ position segment h => absurd hopen h.head?_ne, fun _ => rfl⟩
    obtain hcut | ⟨⟨segment, behind⟩, hcut⟩ := Option.eq_none_or_eq_some (cutLine? bytes)
    · rw [ofBytes_of_none hopen hcut, ofBytes_of_none hopen hcut]
      exact ⟨fun _ position segment h => absurd hcut h.cutLine?_ne_none, fun _ => rfl⟩
    · have hshorter := LineBuffer.length_of_cutLine? hcut
      have hbehind := @ih behind.length (by omega)
        (fun count => isCut (segment.length + 2 + count))
        (fun count => isCut' (segment.length + 2 + count)) behind rfl
      rw [ofBytes_of_some hopen hcut, ofBytes_of_some hopen hcut, List.cons.injEq,
        ofSegment_eq_iff, hbehind]
      -- positions behind the first segment are counted from there
      constructor
      · rintro ⟨hfirst, hlater⟩ position other h hnear
        obtain ⟨rfl, rfl⟩ | ⟨offset, rfl, hother⟩ := (hasSegment_iff hopen hcut).mp h
        · rw [Nat.zero_add, ← hnear]
          exact hfirst hnear
        · rw [Nat.add_assoc]
          exact hlater offset other hother hnear
      · intro hall
        constructor
        · intro hnear
          have hfirst := hall 0 segment (.first hopen hcut) hnear
          rwa [Nat.zero_add, ← hnear] at hfirst
        · intro offset other hother hnear
          have hlater := hall _ other (.later hopen hcut hother) hnear
          rwa [Nat.add_assoc] at hlater

/-- Chunks that end within the first bytes, where no segment can be oversized, do not matter. -/
theorem ofBytes_congr {isCut isCut' : Nat → Bool}
    (h : ∀ count, limit ≤ count → isCut count = isCut' count) (bytes : List UInt8) :
    ofBytes isCut bytes = ofBytes isCut' bytes :=
  ofBytes_eq_iff.mpr fun position _ _ _ => h (position + limit) (Nat.le_add_left _ _)

end Line

end InverterLink
