import InverterLink.Proofs.Service.Requests

/-!
# A drained buffer is at rest

A connection asks its buffer for lines behind every chunk until there is none, and asks for what
remains when nothing follows. Every line takes bytes out of the buffer, so the asking comes to an
end. It leaves a buffer that is quiet: what it holds is bounded, nothing in it can still become a
line by itself, and asking again changes nothing. All that such a buffer can give when nothing
follows is a single request.

## Main definitions

* `LineBuffer.last?`: the next line of a buffer when nothing follows.
* `LineBuffer.Calls`: calls that give lines, up to the first one that gives none.
* `LineBuffer.Takes`: chunks, with the calls behind each of them.

## Main statements

* `LineBuffer.calls_drain`, `LineBuffer.calls_finish`: `drain` and `finish` are such calls.
* `LineBuffer.isQuiet_of_takes`: chunks leave a quiet buffer quiet.
* `LineBuffer.quiescent_of_chunks`: what is known of a buffer behind any chunks.
-/

namespace InverterLink.LineBuffer

variable {b b' rest : LineBuffer} {line : Line} {lines : List Line}

/-! ### Calls -/

/-- The next line of a buffer when nothing follows: the next one that has ended, or what remains as
a request of its own, unless it is empty or belongs to an oversized request. -/
def last? (b : LineBuffer) : Option Line × LineBuffer :=
  match b.next? with
  | (some line, b') => (some line, b')
  | (none, b') =>
    if b'.isDiscarding || b'.buffered.isEmpty then (none, { b' with buffered := [] })
    else (some (.request (Utf8.decodeLossy b'.buffered)), { b' with buffered := [] })

/-- Calls of a function that takes lines out of a buffer, up to the first one that gives none: the
lines in order, and the buffer behind the last call. -/
inductive Calls (call : LineBuffer → Option Line × LineBuffer) :
    LineBuffer → List Line → LineBuffer → Prop
  | done {b b' : LineBuffer} (h : call b = (none, b')) : Calls call b [] b'
  | more {b b' rest : LineBuffer} {line : Line} {lines : List Line}
      (h : call b = (some line, b')) (hcalls : Calls call b' lines rest) :
      Calls call b (line :: lines) rest

/-- Calls give one result. -/
theorem Calls.unique {call : LineBuffer → Option Line × LineBuffer} {lines' : List Line}
    {rest' : LineBuffer} (h : Calls call b lines rest) (h' : Calls call b lines' rest') :
    lines' = lines ∧ rest' = rest := by
  induction h generalizing lines' with
  | done hnone =>
    cases h' with
    | done hnone' =>
      rw [hnone] at hnone'
      exact ⟨rfl, (Prod.mk.inj hnone').2.symm⟩
    | more hsome' => rw [hnone] at hsome'; cases hsome'
  | more hsome _ ih =>
    cases h' with
    | done hnone' => rw [hsome] at hnone'; cases hnone'
    | more hsome' hcalls' =>
      rw [hsome] at hsome'
      obtain ⟨hline, rfl⟩ := Prod.mk.inj hsome'
      obtain ⟨rfl, rfl⟩ := ih hcalls'
      exact ⟨congrArg (· :: _) (Option.some.inj hline).symm, rfl⟩

/-- **Draining comes to an end**, and gives the lines of the calls that it consists of. -/
theorem calls_drain (b : LineBuffer) : Calls next? b b.drain.1 b.drain.2 := by
  -- The induction is on what the buffer holds; each line takes some of it away.
  induction hlength : b.buffered.length using Nat.strongRecOn generalizing b with
  | _ length ih =>
    cases hnext : b.next? with
    | mk line? b' =>
      cases line? with
      | none =>
        rw [drain_of_none hnext]
        exact .done hnext
      | some line =>
        rw [drain_of_some hnext]
        have hshorter := length_next?_lt hnext
        exact .more hnext (ih b'.buffered.length (hlength ▸ hshorter) b' rfl)

theorem last?_of_some (h : b.next? = (some line, b')) : b.last? = (some line, b') := by
  simp only [last?, h]

/-- A buffer without a next line gives what remains. -/
theorem last?_of_none (h : b.next? = (none, b')) :
    b.last? = if b'.isDiscarding || b'.buffered.isEmpty then (none, { b' with buffered := [] })
      else (some (.request (Utf8.decodeLossy b'.buffered)), { b' with buffered := [] }) := by
  simp only [last?, h]

/-- A buffer from which everything has been taken gives no more lines. -/
theorem last?_of_nil (isDiscarding : Bool) :
    last? ⟨[], isDiscarding⟩ = (none, ⟨[], isDiscarding⟩) := by
  cases isDiscarding <;> rfl

/-- Calls behind which nothing follows give the lines that have ended, and what remains at last. -/
theorem Calls.last? (h : Calls next? b lines rest) :
    Calls LineBuffer.last? b
      (if rest.isDiscarding || rest.buffered.isEmpty then lines
        else lines ++ [.request (Utf8.decodeLossy rest.buffered)])
        { rest with buffered := [] } := by
  induction h with
  | done hnone =>
    split_ifs with hover
    · exact .done (by rw [last?_of_none hnone, if_pos hover])
    · refine .more (by rw [last?_of_none hnone, if_neg hover]) (.done ?_)
      exact last?_of_nil _
  | more hsome _ ih =>
    refine cast ?_ (Calls.more (last?_of_some hsome) ih)
    split_ifs
    · rfl
    · rfl

/-- **Finishing comes to an end**, and gives the lines of the calls that it consists of. -/
theorem calls_finish (b : LineBuffer) : Calls last? b b.finish.1 b.finish.2 := by
  have hcalls := (calls_drain b).last?
  rw [finish]
  dsimp only
  split_ifs at hcalls ⊢
  · exact hcalls
  · exact hcalls

/-! ### What a drained buffer holds -/

/-- A buffer in which no line is found is left quiet. -/
theorem isQuiet_of_next? (h : b.next? = (none, b')) : b'.IsQuiet := by
  obtain ⟨bytes, isDiscarding⟩ := b
  cases isDiscarding with
  | false =>
    obtain ⟨-, -, -, rfl⟩ := of_next?_eq_none h
    exact h
  | true =>
    cases hcut : cutLine? bytes with
    | none =>
      rw [next?_of_discarding_none hcut] at h
      obtain ⟨-, rfl⟩ := Prod.mk.inj h
      exact isQuiet_lastReturn bytes
    | some found =>
      rw [next?_of_discarding hcut] at h
      obtain ⟨-, -, -, rfl⟩ := of_next?_eq_none h
      exact h

theorem Calls.isQuiet (h : Calls next? b lines rest) : rest.IsQuiet := by
  induction h with
  | done hnone => exact isQuiet_of_next? hnone
  | more _ _ ih => exact ih

/-- Chunks that arrive one after the other, and the calls behind each of them: the lines that each
completes, and the buffer behind the last call. -/
inductive Takes : LineBuffer → List (List UInt8) → List (List Line) → LineBuffer → Prop
  | nil (b : LineBuffer) : Takes b [] [] b
  | cons {b b' rest : LineBuffer} {chunk : List UInt8} {chunks : List (List UInt8)}
      {lines : List Line} {later : List (List Line)} (h : Calls next? (b.append chunk) lines b')
      (htakes : Takes b' chunks later rest) : Takes b (chunk :: chunks) (lines :: later) rest

variable {chunks : List (List UInt8)} {later : List (List Line)}

/-- Chunks are taken in one way. -/
theorem Takes.unique {later' : List (List Line)} {rest' : LineBuffer}
    (h : Takes b chunks later rest) (h' : Takes b chunks later' rest') :
    later' = later ∧ rest' = rest := by
  induction h generalizing later' with
  | nil => cases h'; exact ⟨rfl, rfl⟩
  | cons hcalls _ ih =>
    cases h' with
    | cons hcalls' htakes' =>
      obtain ⟨rfl, rfl⟩ := hcalls.unique hcalls'
      obtain ⟨rfl, rfl⟩ := ih htakes'
      exact ⟨rfl, rfl⟩

/-- Every sequence of chunks is taken. -/
theorem exists_takes (b : LineBuffer) (chunks : List (List UInt8)) :
    ∃ later rest, Takes b chunks later rest := by
  induction chunks generalizing b with
  | nil => exact ⟨[], b, .nil b⟩
  | cons chunk chunks ih =>
    obtain ⟨later, rest, htakes⟩ := ih (b.append chunk).drain.2
    exact ⟨_, rest, .cons (calls_drain (b.append chunk)) htakes⟩

/-- **Chunks leave a quiet buffer quiet.** -/
theorem isQuiet_of_takes (h : Takes b chunks later rest) (hb : b.IsQuiet) : rest.IsQuiet := by
  induction h with
  | nil => exact hb
  | cons hcalls _ ih => exact ih hcalls.isQuiet

/-- Bytes that are dropped leave nothing, or a carriage return. -/
theorem lastReturn_cases (bytes : List UInt8) :
    lastReturn bytes = [] ∨ lastReturn bytes = [0x0D] := by
  rw [lastReturn]
  split_ifs
  · exact .inr rfl
  · exact .inl rfl

/-- **A drained buffer is at rest.** Behind any chunks, the calls for lines come to an end, in one
way. They leave less than the limit of a request in the buffer: at most a carriage return while a
request is dropped, and otherwise bytes without a line end that do not begin with the end of the
connection. Asking again gives nothing and changes nothing, and when nothing follows, at most one
more line is given, a request. -/
theorem quiescent_of_chunks (chunks : List (List UInt8)) :
    ∃ later rest, (∀ later' rest', Takes {} chunks later' rest' ↔ later' = later ∧ rest' = rest) ∧
      rest.buffered.length ≤ 2047 ∧
      (rest.isDiscarding = true → rest.buffered = [] ∨ rest.buffered = [0x0D]) ∧
      (rest.isDiscarding = false →
        ¬ [0x0D, 0x0A] <:+: rest.buffered ∧ rest.buffered.head? ≠ some 0x04) ∧
      rest.next? = (none, rest) ∧
      ∃ emptied, Calls last? rest [] emptied ∨
        ∃ request, Calls last? rest [.request request] emptied := by
  obtain ⟨later, rest, htakes⟩ := exists_takes {} chunks
  have hquiet := isQuiet_of_takes htakes isQuiet_empty
  refine ⟨later, rest, fun later' rest' => ⟨htakes.unique, ?_⟩,
    Nat.le_of_lt_succ hquiet.length_lt, ?_, ?_, hquiet, ?_⟩
  · rintro ⟨rfl, rfl⟩
    exact htakes
  · intro hdiscarding
    obtain ⟨-, -, hlast⟩ | ⟨hopen, -⟩ := hquiet.cases
    · rw [← hlast]
      exact lastReturn_cases rest.buffered
    · rw [hdiscarding] at hopen
      cases hopen
  · intro hopen
    obtain ⟨hdiscarding, -⟩ | ⟨-, hhead, hcut, -⟩ := hquiet.cases
    · rw [hopen] at hdiscarding
      cases hdiscarding
    · exact ⟨not_infix_of_cutLine?_eq_none hcut, hhead⟩
  · have hcalls := calls_finish rest
    rw [finish_of_isQuiet hquiet] at hcalls
    split_ifs at hcalls
    · exact ⟨_, .inl hcalls⟩
    · exact ⟨_, .inl hcalls⟩
    · exact ⟨_, .inr ⟨_, hcalls⟩⟩

end InverterLink.LineBuffer
