import InverterLink.Text.Utf8

/-!
# Request lines

A client sends requests that end in carriage return and line feed. They arrive in chunks, so a
`LineBuffer` keeps what has not become a line yet. A request that outgrows the buffer is reported
once and dropped up to its end. A request that would begin with the byte EOT ends the connection
instead.

## Main definitions

* `cutLine?`: a byte string up to its first line end.
* `LineBuffer.next?`: the next line, if the buffer holds one.
* `LineBuffer.drain`: all lines that the buffer holds.
* `LineBuffer.finish`: all lines that the buffer holds when nothing follows.
-/

namespace InverterLink

/-- One unit of what a client sends. -/
inductive Line where
  | request (text : List Char)
  /-- A request that outgrew the buffer. -/
  | oversized
  /-- The client wants the connection closed. -/
  | ended
deriving DecidableEq

namespace Line

/-- The byte that ends a connection. -/
def endOfTransmission : UInt8 := 0x04

/-- The size at which a request outgrows the buffer. -/
def limit : Nat := 2048

end Line

/-- The bytes before the first carriage return with a line feed behind it, and the bytes behind
both. -/
def cutLine? : List UInt8 → Option (List UInt8 × List UInt8)
  | [] => none
  | byte :: rest =>
    if byte = 0x0D ∧ rest.head? = some 0x0A then some ([], rest.tail)
    else (cutLine? rest).map fun (line, behind) => (byte :: line, behind)

/-- What remains of bytes that are dropped: a carriage return at their end, since it may be the
first half of a line end. -/
def lastReturn (bytes : List UInt8) : List UInt8 :=
  if bytes.getLast? = some 0x0D then [0x0D] else []

/-- What has arrived and has not become a line yet. -/
structure LineBuffer where
  buffered : List UInt8 := []
  /-- The bytes up to the next line end belong to an oversized request. -/
  isDiscarding : Bool := false
deriving DecidableEq

namespace LineBuffer

/-- The buffer with more bytes at its end. -/
def append (b : LineBuffer) (bytes : List UInt8) : LineBuffer :=
  { b with buffered := b.buffered ++ bytes }

/-- The next line of bytes that begin with a request. -/
def nextOf (bytes : List UInt8) : Option Line × LineBuffer :=
  if bytes.head? = some Line.endOfTransmission then (some .ended, ⟨[], false⟩)
  else
    match cutLine? bytes with
    | some (line, behind) =>
      if Line.limit ≤ line.length then (some .oversized, ⟨behind, false⟩)
      else (some (.request (Utf8.decodeLossy line)), ⟨behind, false⟩)
    | none =>
      if Line.limit ≤ bytes.length then (some .oversized, ⟨lastReturn bytes, true⟩)
      else (none, ⟨bytes, false⟩)

/-- The next line, if there is one, and what remains. -/
def next? (b : LineBuffer) : Option Line × LineBuffer :=
  if b.isDiscarding then
    match cutLine? b.buffered with
    | some (_, behind) => nextOf behind
    | none => (none, ⟨lastReturn b.buffered, true⟩)
  else
    nextOf b.buffered

theorem length_of_cutLine? {bytes line behind : List UInt8}
    (h : cutLine? bytes = some (line, behind)) :
    line.length + behind.length + 2 = bytes.length := by
  induction bytes generalizing line with
  | nil => simp [cutLine?] at h
  | cons byte rest ih =>
    simp only [cutLine?] at h
    split at h
    · rename_i hend
      cases rest with
      | nil => simp at hend
      | cons second rest =>
        simp only [List.tail_cons, Option.some.injEq, Prod.mk.injEq] at h
        simp [← h.1, ← h.2]
    · simp only [Option.map_eq_some_iff, Prod.exists, Prod.mk.injEq] at h
      obtain ⟨first, behind', hcut, rfl, rfl⟩ := h
      have := ih hcut
      simp only [List.length_cons]
      omega

theorem length_lastReturn_le (bytes : List UInt8) : (lastReturn bytes).length ≤ 1 := by
  simp only [lastReturn]
  split <;> simp

theorem length_nextOf_lt {bytes : List UInt8} {line : Line} {b : LineBuffer}
    (h : nextOf bytes = (some line, b)) : b.buffered.length < bytes.length := by
  simp only [nextOf] at h
  split at h
  · rename_i hhead
    cases bytes with
    | nil => simp at hhead
    | cons => simp only [Prod.mk.injEq] at h; simp [← h.2]
  · split at h
    · rename_i line' behind hcut
      have := length_of_cutLine? hcut
      split at h <;> simp only [Prod.mk.injEq] at h <;> simp only [← h.2] <;> omega
    · split at h
      · rename_i hlimit
        have := length_lastReturn_le bytes
        simp only [Line.limit] at hlimit
        simp only [Prod.mk.injEq] at h
        simp only [← h.2]
        omega
      · simp at h

/-- Each line takes bytes out of the buffer. -/
theorem length_next?_lt {b b' : LineBuffer} {line : Line} (h : b.next? = (some line, b')) :
    b'.buffered.length < b.buffered.length := by
  simp only [next?] at h
  split at h
  · split at h
    · rename_i _ behind hcut
      have := length_of_cutLine? hcut
      have := length_nextOf_lt h
      omega
    · simp at h
  · exact length_nextOf_lt h

/-- All lines that the buffer holds, and what remains. -/
def drain (b : LineBuffer) : List Line × LineBuffer :=
  match _h : b.next? with
  | (some line, b') =>
    let (lines, rest) := b'.drain
    (line :: lines, rest)
  | (none, b') => ([], b')
termination_by b.buffered.length
decreasing_by exact length_next?_lt _h

/-- The lines that a chunk completes. -/
def feed (b : LineBuffer) (chunk : List UInt8) : List Line × LineBuffer :=
  (b.append chunk).drain

/-- All lines that the buffer holds if nothing follows: what remains after the others is a request
of its own, unless it is empty or belongs to an oversized request. -/
def finish (b : LineBuffer) : List Line × LineBuffer :=
  let (lines, rest) := b.drain
  if rest.isDiscarding || rest.buffered.isEmpty then (lines, { rest with buffered := [] })
  else (lines ++ [.request (Utf8.decodeLossy rest.buffered)], { rest with buffered := [] })

end LineBuffer

end InverterLink
