import InverterLink.Proofs.Service.Segments

/-!
# Lines out of chunks

A buffer that is fed with chunks gives the lines of all the bytes at once, up to the end of the
connection. What it holds between two chunks, with the bytes to come, always stands for the lines
that are still missing: this is the invariant, and it survives both a line that is taken out of the
buffer and a chunk that is put into it.

Two ways to cut the same bytes therefore give the same lines unless they differ about the one place
that a buffer looks at. That is behind the carriage return of a segment that is one byte shorter
than the limit: the carriage return counts as long as the line feed is missing, and the request is
refused that would be accepted in one piece.

## Main definitions

* `endsAt`: where chunks end.
* `LineBuffer.decode`: the lines that a buffer finds in chunks.
* `LineBuffer.expected`: the lines that a buffer and the bytes to come stand for.
-/

namespace InverterLink

/-! ### Chunks -/

/-- Whether a chunk ends behind the first `count` bytes of the chunks, or all of them begin
there. -/
def endsAt : List (List UInt8) → Nat → Bool
  | [], count => count = 0
  | chunk :: chunks, count =>
    count = 0 || (chunk.length ≤ count && endsAt chunks (count - chunk.length))

theorem endsAt_zero (chunks : List (List UInt8)) : endsAt chunks 0 = true := by
  cases chunks with
  | nil => rfl
  | cons chunk chunks => rfl

/-- Chunks end behind as many bytes as the first of them hold. -/
theorem endsAt_iff {chunks : List (List UInt8)} {count : Nat} :
    endsAt chunks count = true ↔
      ∃ first last, chunks = first ++ last ∧ first.flatten.length = count := by
  induction chunks generalizing count with
  | nil =>
    rw [endsAt, decide_eq_true_iff]
    constructor
    · rintro rfl
      exact ⟨[], [], rfl, rfl⟩
    · rintro ⟨first, last, happend, rfl⟩
      rw [(List.append_eq_nil_iff.mp happend.symm).1]
      rfl
  | cons chunk chunks ih =>
    rw [endsAt, Bool.or_eq_true, decide_eq_true_iff, Bool.and_eq_true, decide_eq_true_iff, ih]
    constructor
    · rintro (rfl | ⟨hle, first, last, rfl, hlength⟩)
      · exact ⟨[], chunk :: chunks, rfl, rfl⟩
      · refine ⟨chunk :: first, last, rfl, ?_⟩
        rw [List.flatten_cons, List.length_append]
        omega
    · rintro ⟨first, last, happend, rfl⟩
      obtain ⟨rfl, -⟩ | ⟨first', rfl, rfl⟩ := List.cons_eq_append_iff.mp happend
      · exact .inl rfl
      · refine .inr ⟨?_, first', last, rfl, ?_⟩ <;>
        · rw [List.flatten_cons, List.length_append]
          omega

/-- Where chunks end that begin behind the first `size` bytes. -/
def endsBehind (size : Nat) (chunks : List (List UInt8)) (count : Nat) : Bool :=
  size ≤ count && endsAt chunks (count - size)

theorem endsBehind_zero (chunks : List (List UInt8)) : endsBehind 0 chunks = endsAt chunks := by
  funext count
  rw [endsBehind, decide_eq_true (Nat.zero_le count), Bool.true_and, Nat.sub_zero]

/-- Bytes that are out of the way do not matter for where chunks end behind others. -/
theorem endsBehind_add (skipped size : Nat) (chunks : List (List UInt8)) (count : Nat) :
    endsBehind (skipped + size) chunks (skipped + count) = endsBehind size chunks count := by
  rw [endsBehind, endsBehind, Nat.add_sub_add_left]
  congr 1
  rw [decide_eq_decide]
  exact Nat.add_le_add_iff_left

/-- A further chunk ends where the others begin. -/
theorem endsBehind_cons {size count : Nat} (h : size < count) (chunk : List UInt8)
    (chunks : List (List UInt8)) :
    endsBehind size (chunk :: chunks) count = endsBehind (size + chunk.length) chunks count := by
  have hne : count - size ≠ 0 := by omega
  rw [endsBehind, endsBehind, endsAt, decide_eq_false hne, Bool.false_or,
    decide_eq_true (Nat.le_of_lt h), Bool.true_and, Nat.sub_sub]
  congr 1
  rw [decide_eq_decide]
  omega

namespace LineBuffer

/-! ### The lines of chunks -/

/-- The lines that a buffer finds in chunks that follow each other, the last ones when nothing
follows. -/
def decode (b : LineBuffer) : List (List UInt8) → List Line
  | [] => b.finish.1
  | chunk :: chunks => (b.feed chunk).1 ++ (b.feed chunk).2.decode chunks

/-- The lines that a buffer still holds, and those of the chunks that follow. -/
def resume (b : LineBuffer) (chunks : List (List UInt8)) : List Line :=
  b.drain.1 ++ b.drain.2.decode chunks

theorem decode_cons (b : LineBuffer) (chunk : List UInt8) (chunks : List (List UInt8)) :
    b.decode (chunk :: chunks) = (b.append chunk).resume chunks :=
  rfl

theorem resume_of_none {b b' : LineBuffer} (h : b.next? = (none, b'))
    (chunks : List (List UInt8)) : b.resume chunks = b'.decode chunks := by
  rw [resume, drain_of_none h, List.nil_append]

theorem resume_of_some {b b' : LineBuffer} {line : Line} (h : b.next? = (some line, b'))
    (chunks : List (List UInt8)) : b.resume chunks = line :: b'.resume chunks := by
  rw [resume, drain_of_some h, List.cons_append, resume]

/-- A buffer goes on as another one in which the same line comes next. -/
theorem resume_congr {b b' : LineBuffer} (h : b.next? = b'.next?) (chunks : List (List UInt8)) :
    b.resume chunks = b'.resume chunks := by
  cases hnext : b'.next? with
  | mk line? rest =>
    cases line? with
    | none => rw [resume_of_none hnext, resume_of_none (h.trans hnext)]
    | some line => rw [resume_of_some hnext, resume_of_some (h.trans hnext)]

/-- The lines that a buffer and the bytes that follow should give. -/
def expected (b : LineBuffer) (isCut : Nat → Bool) (rest : List UInt8) : List Line :=
  if b.isDiscarding then
    match cutLine? (b.buffered ++ rest) with
    | some (segment, behind) =>
      Line.ofBytes (fun count => isCut (segment.length + 2 + count)) behind
    | none => []
  else
    Line.ofBytes isCut (b.buffered ++ rest)

theorem expected_congr {isCut isCut' : Nat → Bool}
    (h : ∀ count, Line.limit ≤ count → isCut count = isCut' count) (b : LineBuffer)
    (rest : List UInt8) : b.expected isCut rest = b.expected isCut' rest := by
  rw [expected, expected]
  split_ifs
  · cases cutLine? (b.buffered ++ rest) with
    | none => rfl
    | some found =>
      exact Line.ofBytes_congr (fun count hcount => h _ (Nat.le_add_left_of_le hcount)) _
  · exact Line.ofBytes_congr h _

/-- Chunks behind bytes end behind their first segment where they end behind what follows it. -/
theorem endsBehind_behind {bytes segment behind : List UInt8}
    (h : cutLine? bytes = some (segment, behind)) (chunks : List (List UInt8)) :
    (fun count => endsBehind bytes.length chunks (segment.length + 2 + count)) =
      endsBehind behind.length chunks := by
  funext count
  have hlength : bytes.length = segment.length + 2 + behind.length := by
    have := length_of_cutLine? h
    omega
  rw [hlength, endsBehind_add]

/-- A buffer that drops a segment goes on behind its end. -/
theorem expected_of_discarding {bytes segment behind : List UInt8}
    (h : cutLine? bytes = some (segment, behind)) (chunks : List (List UInt8)) (rest : List UInt8) :
    expected ⟨bytes, true⟩ (endsBehind bytes.length chunks) rest =
      expected ⟨behind, false⟩ (endsBehind behind.length chunks) rest := by
  rw [expected, if_pos rfl, cutLine?_append_of_some h]
  dsimp only
  rw [endsBehind_behind h]
  rfl

/-- The bytes that a buffer drops do not change what it should give. -/
theorem expected_lastReturn {bytes : List UInt8} (h : cutLine? bytes = none)
    (chunks : List (List UInt8)) (rest : List UInt8) :
    expected ⟨lastReturn bytes, true⟩ (endsBehind (lastReturn bytes).length chunks) rest =
      expected ⟨bytes, true⟩ (endsBehind bytes.length chunks) rest := by
  have hsame := cutLine?_lastReturn_append h rest
  rw [expected, expected, if_pos rfl, if_pos rfl]
  cases hcut : cutLine? (bytes ++ rest) with
  | none =>
    rw [hcut, Option.map_none, Option.map_eq_none_iff] at hsame
    rw [hsame]
  | some found =>
    obtain ⟨segment, behind⟩ := found
    rw [hcut, Option.map_some] at hsame
    obtain ⟨⟨segment', behind'⟩, hcut', rfl⟩ := Option.map_eq_some_iff.mp hsame
    rw [hcut']
    dsimp only
    congr 1
    funext count
    -- Both segments end so many bytes behind what has been dropped.
    obtain ⟨gap, hgap⟩ := Nat.exists_eq_add_of_le (length_le_of_cutLine?_append h hcut)
    have hlength := length_of_cutLine? hcut
    have hlength' := length_of_cutLine? hcut'
    rw [List.length_append] at hlength hlength'
    dsimp only at hlength
    rw [show segment'.length + 2 + count = (lastReturn bytes).length + (gap + 1 + count) by omega,
      show segment.length + 2 + count = bytes.length + (gap + 1 + count) by omega]
    exact (endsBehind_add _ 0 _ _).trans (endsBehind_add _ 0 _ _).symm

/-- A buffer that begins with a whole segment gives its line and goes on behind it. -/
theorem expected_of_some {bytes segment behind : List UInt8}
    (hopen : bytes.head? ≠ some Line.endOfTransmission)
    (h : cutLine? bytes = some (segment, behind)) (chunks : List (List UInt8))
    (rest : List UInt8) :
    expected ⟨bytes, false⟩ (endsBehind bytes.length chunks) rest =
      Line.ofSegment false segment ::
        expected ⟨behind, false⟩ (endsBehind behind.length chunks) rest := by
  have hopen' : (bytes ++ rest).head? ≠ some Line.endOfTransmission := by
    rwa [List.head?_append_of_ne_nil _ (ne_nil_of_cutLine? h)]
  have hwhole : ¬ bytes.length ≤ segment.length + 1 := by
    have := length_of_cutLine? h
    omega
  rw [expected, expected, if_neg Bool.false_ne_true, if_neg Bool.false_ne_true,
    Line.ofBytes_of_some hopen' (cutLine?_append_of_some h rest)]
  dsimp only
  rw [endsBehind_behind h, endsBehind, decide_eq_false hwhole, Bool.false_and]

/-- **A segment that outgrows the buffer is oversized**, however it goes on: what has arrived of it
may be a byte more than it holds, but then a chunk ended behind its carriage return. -/
theorem expected_of_long {bytes : List UInt8} (hopen : bytes.head? ≠ some Line.endOfTransmission)
    (h : cutLine? bytes = none) (hlong : Line.limit ≤ bytes.length) (chunks : List (List UInt8))
    (rest : List UInt8) :
    expected ⟨bytes, false⟩ (endsBehind bytes.length chunks) rest =
      .oversized :: expected ⟨bytes, true⟩ (endsBehind bytes.length chunks) rest := by
  have hne : bytes ≠ [] := fun hnil => by
    rw [hnil] at hlong
    exact absurd hlong (by decide)
  have hopen' : (bytes ++ rest).head? ≠ some Line.endOfTransmission := by
    rwa [List.head?_append_of_ne_nil _ hne]
  rw [expected, expected, if_neg Bool.false_ne_true, if_pos rfl]
  cases hcut : cutLine? (bytes ++ rest) with
  | none =>
    have hlong' : Line.limit ≤ (bytes ++ rest).length := by
      rw [List.length_append]
      exact Nat.le_add_right_of_le hlong
    rw [Line.ofBytes_of_none hopen' hcut, Line.ofTail,
      if_neg (List.append_ne_nil_of_left_ne_nil hne _), if_pos hlong']
  | some found =>
    obtain ⟨segment, behind⟩ := found
    rw [Line.ofBytes_of_some hopen' hcut]
    have hle := length_le_of_cutLine?_append h hcut
    -- if only the carriage return takes the bytes to the limit, they end in it
    have hverdict : Line.limit ≤
        segment.length + (endsBehind bytes.length chunks (segment.length + 1)).toNat := by
      obtain heq | hlt := Nat.eq_or_lt_of_le hle
      · rw [← heq, endsBehind, Nat.sub_self, endsAt_zero, decide_eq_true (Nat.le_refl _)]
        exact heq ▸ hlong
      · exact Nat.le_add_right_of_le (Nat.le_trans hlong (Nat.le_of_lt_succ hlt))
    rw [Line.ofSegment, if_pos hverdict]

/-- **What a buffer goes on to give**, if what it gives once it is quiet is right. -/
theorem untilEnded_resume {chunks : List (List UInt8)}
    (hquiet : ∀ b : LineBuffer, b.IsQuiet → Line.untilEnded (b.decode chunks) =
      b.expected (endsBehind b.buffered.length chunks) chunks.flatten) (b : LineBuffer) :
    Line.untilEnded (b.resume chunks) =
      b.expected (endsBehind b.buffered.length chunks) chunks.flatten := by
  -- The induction is on what the buffer holds; each line takes some of it away.
  induction hlength : b.buffered.length using Nat.strongRecOn generalizing b with
  | _ length ih =>
    subst hlength
    obtain ⟨bytes, isDiscarding⟩ := b
    cases isDiscarding with
    | true =>
      cases hcut : cutLine? bytes with
      | some found =>
        obtain ⟨segment, behind⟩ := found
        have hshorter := length_of_cutLine? hcut
        have hbehind := ih behind.length (by dsimp only; omega) ⟨behind, false⟩ rfl
        rw [resume_congr (next?_of_discarding hcut), hbehind]
        exact (expected_of_discarding hcut chunks chunks.flatten).symm
      | none =>
        rw [resume_of_none (next?_of_discarding_none hcut), hquiet _ (isQuiet_lastReturn bytes)]
        exact expected_lastReturn hcut chunks chunks.flatten
    | false =>
      by_cases hopen : bytes.head? = some Line.endOfTransmission
      · rw [resume_of_some (next?_of_ended hopen), Line.untilEnded]
        exact (Line.ofBytes_of_ended (head?_append_of_some hopen chunks.flatten) _).symm
      cases hcut : cutLine? bytes with
      | some found =>
        obtain ⟨segment, behind⟩ := found
        have hshorter := length_of_cutLine? hcut
        have hbehind := ih behind.length (by dsimp only; omega) ⟨behind, false⟩ rfl
        rw [resume_of_some (next?_of_some hopen hcut), expected_of_some hopen hcut, ← hbehind]
        exact Line.untilEnded_cons (Line.ofSegment_ne_ended false segment) _
      | none =>
        by_cases hlong : Line.limit ≤ bytes.length
        · have hdropped := hquiet _ (isQuiet_lastReturn bytes)
          rw [resume_of_some (next?_of_long hopen hcut hlong),
            resume_of_none (isQuiet_lastReturn bytes),
            Line.untilEnded_cons (show Line.oversized ≠ .ended from nofun), hdropped]
          dsimp only
          rw [expected_lastReturn hcut, expected_of_long hopen hcut hlong]
        · have hshort := next?_of_short hopen hcut hlong
          rw [resume_of_none hshort]
          exact hquiet _ hshort

/-- **Chunks give the lines of their bytes**, to a quiet buffer. -/
theorem untilEnded_decode (chunks : List (List UInt8)) {b : LineBuffer} (hb : b.IsQuiet) :
    Line.untilEnded (b.decode chunks) =
      b.expected (endsBehind b.buffered.length chunks) chunks.flatten := by
  induction chunks generalizing b with
  | nil =>
    rw [decode, finish_of_isQuiet hb, List.flatten_nil, expected]
    obtain ⟨hdiscarding, hcut, -⟩ | ⟨hdiscarding, hopen, hcut, hshort⟩ := hb.cases
    · rw [if_pos hdiscarding, if_pos hdiscarding, List.append_nil, hcut]
      rfl
    · have hfits : ¬ Line.limit ≤ b.buffered.length := Nat.not_le_of_lt hshort
      rw [if_neg (ne_true_of_eq_false hdiscarding), if_neg (ne_true_of_eq_false hdiscarding),
        List.append_nil, Line.ofBytes_of_none hopen hcut, Line.ofTail, if_neg hfits]
      split_ifs
      · rfl
      · rfl
  | cons chunk chunks ih =>
    -- the chunk also begins somewhere, but too early to matter
    have hcuts : ∀ count, Line.limit ≤ count →
        endsBehind (b.buffered ++ chunk).length chunks count =
          endsBehind b.buffered.length (chunk :: chunks) count := by
      intro count hcount
      rw [List.length_append]
      exact (endsBehind_cons (Nat.lt_of_lt_of_le hb.length_lt hcount) chunk chunks).symm
    rw [decode_cons, untilEnded_resume fun b hb => ih hb, ← expected_congr hcuts b,
      List.flatten_cons, append, expected, expected, List.append_assoc]

/-- **Chunks give the lines of their bytes.** -/
theorem untilEnded_decode_empty (chunks : List (List UInt8)) :
    Line.untilEnded (decode {} chunks) = Line.ofBytes (endsAt chunks) chunks.flatten := by
  rw [untilEnded_decode chunks isQuiet_empty]
  exact congrArg (Line.ofBytes · chunks.flatten) (endsBehind_zero chunks)

/-! ### Other chunks -/

/-- **Chunks matter in one case only.** The same bytes in other chunks are the same lines, up to the
end of the connection, exactly if the chunks agree on whether one of them ends between the carriage
return and the line feed of each segment that is one byte shorter than the limit. -/
theorem decode_eq_iff {chunks chunks' : List (List UInt8)} (h : chunks.flatten = chunks'.flatten) :
    Line.untilEnded (decode {} chunks) = Line.untilEnded (decode {} chunks') ↔
      ∀ position segment, HasSegment chunks.flatten position segment →
        segment.length + 1 = Line.limit →
        endsAt chunks (position + Line.limit) = endsAt chunks' (position + Line.limit) := by
  rw [untilEnded_decode_empty, untilEnded_decode_empty, ← h]
  exact Line.ofBytes_eq_iff

/-- A short request that arrives in two chunks, cut inside its line end. -/
theorem decode_eq_iff_short :
    Line.untilEnded (decode {} [[0x76, 0x0D], [0x0A]]) =
      Line.untilEnded (decode {} [[0x76, 0x0D, 0x0A]]) := by
  have hflatten : [[(0x76 : UInt8), 0x0D], [0x0A]].flatten = [[0x76, 0x0D, 0x0A]].flatten := rfl
  refine (decode_eq_iff hflatten).mpr fun position segment h hnear => ?_
  have hle := h.add_le
  rw [show Line.limit = 2048 from rfl] at hnear
  simp only [List.flatten_cons, List.flatten_nil, List.length_append, List.length_cons,
    List.length_nil] at hle
  omega

/-- The same bytes in other chunks are not always the same lines: a request of one byte less than
the limit is refused if a chunk ends inside its line end. -/
theorem exists_decode_ne : ¬ ∀ chunks chunks' : List (List UInt8),
    chunks.flatten = chunks'.flatten →
      Line.untilEnded (decode {} chunks) = Line.untilEnded (decode {} chunks') := by
  intro hall
  obtain ⟨segment, hlength, hreturn⟩ : ∃ segment : List UInt8,
      segment.length = 2047 ∧ ∀ byte ∈ segment, byte = 0x61 :=
    ⟨List.replicate 2047 0x61, List.length_replicate, fun _ h => List.eq_of_mem_replicate h⟩
  have hcut := cutLine?_of_notMem (fun hmem => absurd (hreturn _ hmem) (by decide)) []
  have hopen : (segment ++ [0x0D, 0x0A]).head? ≠ some Line.endOfTransmission := by
    intro hhead
    obtain hmem | hmem := List.mem_append.mp (List.mem_of_head? hhead)
    · exact absurd (hreturn _ hmem) (by decide)
    · exact absurd hmem (by decide)
  have hlines := hall [segment ++ [0x0D], [0x0A]] [segment ++ [0x0D, 0x0A]] (by simp)
  have hcuts : endsAt [segment ++ [0x0D], [0x0A]] (segment.length + 1) = true := by
    simp [endsAt]
  have hwhole : endsAt [segment ++ [0x0D, 0x0A]] (segment.length + 1) = false := by
    simp [endsAt]
  rw [untilEnded_decode_empty, untilEnded_decode_empty,
    show [segment ++ [0x0D], [0x0A]].flatten = segment ++ [0x0D, 0x0A] by simp,
    show [segment ++ [0x0D, 0x0A]].flatten = segment ++ [0x0D, 0x0A] by simp,
    Line.ofBytes_of_some hopen hcut, Line.ofBytes_of_some hopen hcut, hcuts, hwhole,
    List.cons.injEq, Line.ofSegment_eq_iff] at hlines
  exact absurd (hlines.1 (by rw [hlength]; rfl)) (by decide)

end LineBuffer

end InverterLink
