import InverterLink.Proofs.Record.Outcomes

/-!
# Decoding any bytes

Whatever bytes stand in a frame, decoding it ends in a response of the kind that the command asks
for or in one of two classes of errors. The answer to a setting is an acknowledgement by its first
two bytes and nothing else. The answer to a question is an invalid response exactly if it is
malformed as a frame: too short, without the marker, with a size that is no number or greater than
what is there, or without a text. Behind a well-formed frame only the record can fail, and then the
error names it.

## Main definitions

* `Response.IsMalformed`: the frames from which no payload can be taken.
* `Response.framed`: a payload under a header, which `Response.IsHeaderOf` says to be admissible.

## Main statements

* `Response.payload_cases`: a payload is taken from a frame exactly if it is not malformed.
* `Response.decode_total`: what decoding any bytes ends in, for every command.
-/

namespace InverterLink

/-- The commands without a kind of record are those that set something. -/
theorem Command.recordKind?_eq_none_iff (command : Command) :
    command.recordKind? = none ↔ command.isSetter = true := by
  cases command <;> decide

namespace Response

variable {frame : List UInt8}

theorem pair_prefix_iff {m n m₀ m₁ : UInt8} {bytes : List UInt8} :
    [m, n] <+: m₀ :: m₁ :: bytes ↔ m₀ = m ∧ m₁ = n := by
  rw [List.cons_prefix_cons, List.cons_prefix_cons, eq_comm, eq_comm (a := n)]
  simp

/-! ### Declared sizes -/

/-- An ASCII digit. -/
def IsDigit (b : UInt8) : Prop :=
  0x30 ≤ b.toNat ∧ b.toNat ≤ 0x39

instance (b : UInt8) : Decidable (IsDigit b) :=
  inferInstanceAs (Decidable (_ ∧ _))

/-- The number that ASCII digits denote. -/
def decimal (digits : List UInt8) : Nat :=
  digits.foldl (fun n b => 10 * n + (b.toNat - 0x30)) 0

theorem toNat_ofNat_byte (b : UInt8) : (Char.ofNat b.toNat).toNat = b.toNat :=
  Utf8.toNat_ofNat (.inl (Nat.lt_trans b.toNat_lt (by decide)))

/-- A byte is a digit if it is one as a character. -/
theorem isDigit_ofNat_iff (b : UInt8) : (Char.ofNat b.toNat).isDigit = true ↔ IsDigit b := by
  rw [Char.isDigit_iff_toNat, toNat_ofNat_byte]
  rfl

theorem ofDigitChars_ofNat (digits : List UInt8) :
    Nat.ofDigitChars 10 (digits.map fun b => Char.ofNat b.toNat) 0 = decimal digits := by
  rw [Nat.ofDigitChars, List.foldl_map]
  simp only [toNat_ofNat_byte]
  rfl

/-- **A size is declared by digits alone**, as the number that they denote. -/
theorem declaredSize?_eq_some_iff {digits : List UInt8} {n : Nat} :
    declaredSize? digits = some n ↔
      (digits ≠ [] ∧ ∀ b ∈ digits, IsDigit b) ∧ decimal digits = n := by
  rw [declaredSize?, Digits.read?_eq_some_iff, Digits.isNumeral_iff, ofDigitChars_ofNat]
  simp only [ne_eq, List.map_eq_nil_iff, List.forall_mem_map, isDigit_ofNat_iff]

/-! ### Malformed frames -/

/-- A frame from which no payload can be taken. -/
inductive IsMalformed (frame : List UInt8) : Prop where
  /-- There is no room for the marker and the size. -/
  | short (h : frame.length < 5)
  /-- The marker `^D` is missing. -/
  | unmarked (h : ¬ [0x5E, 0x44] <+: frame)
  /-- The size is no number of three digits. -/
  | unsized (h : ∃ b ∈ (frame.drop 2).take 3, ¬ IsDigit b)
  /-- The size is greater than that of the payload with a checksum and a terminator behind it. -/
  | oversized (h : (frame.drop 5).length + 3 < decimal ((frame.drop 2).take 3))
  /-- The payload is not the encoding of a text. -/
  | notText (h : ∀ text, Utf8.encode text ≠ frame.drop 5)

/-- **A payload is taken from a frame exactly if it is not malformed**, and then it is the text
whose encoding stands behind the size. -/
theorem payload_cases (frame : List UInt8) :
    (IsMalformed frame ∧ ∃ cause, payload frame = .error cause) ∨
      (¬ IsMalformed frame ∧
        ∃ text, payload frame = .ok text ∧ Utf8.encode text = frame.drop 5) := by
  -- behind the frames that are too short, there is always a marker and a size to look at
  rcases frame with _ | ⟨m₀, _ | ⟨m₁, _ | ⟨d₀, _ | ⟨d₁, _ | ⟨d₂, bytes⟩⟩⟩⟩⟩
  iterate 5 exact .inl ⟨.short (by simp), _, rfl⟩
  rw [payload]
  split_ifs with hmarker
  · cases hsize : declaredSize? [d₀, d₁, d₂] with
    | none =>
      refine .inl ⟨.unsized ?_, _, rfl⟩
      by_contra! hdigits
      have hdeclared := declaredSize?_eq_some_iff.mpr ⟨⟨List.cons_ne_nil _ _, hdigits⟩, rfl⟩
      exact absurd (hsize.symm.trans hdeclared) nofun
    | some declared =>
      obtain ⟨⟨-, hdigits⟩, rfl⟩ := declaredSize?_eq_some_iff.mp hsize
      dsimp only
      split_ifs with hover
      · exact .inl ⟨.oversized hover, _, rfl⟩
      cases htext : Utf8.decode? bytes with
      | none =>
        refine .inl ⟨.notText fun text h => ?_, _, rfl⟩
        exact absurd (htext.symm.trans (Utf8.decode?_eq_some_iff.mpr h)) nofun
      | some text =>
        have hencode : Utf8.encode text = bytes := Utf8.decode?_eq_some_iff.mp htext
        refine .inr ⟨fun hmalformed => ?_, text, rfl, hencode⟩
        cases hmalformed with
        | short h => exact absurd h (by simp)
        | unmarked h => exact h (pair_prefix_iff.mpr hmarker)
        | unsized h =>
          obtain ⟨b, hb, hdigit⟩ := h
          exact hdigit (hdigits b hb)
        | oversized h => exact hover h
        | notText h => exact h text hencode
  · exact .inl ⟨.unmarked fun h => hmarker (pair_prefix_iff.mp h), _, rfl⟩

theorem encode_of_payload {text : List Char} (h : payload frame = .ok text) :
    Utf8.encode text = frame.drop 5 := by
  obtain ⟨-, cause, herror⟩ | ⟨-, text', hpayload, hencode⟩ := payload_cases frame
  · cases herror.symm.trans h
  · obtain rfl := Except.ok.inj (hpayload.symm.trans h)
    exact hencode

theorem isMalformed_iff : IsMalformed frame ↔ (payload frame).isOk = false := by
  obtain ⟨hmalformed, cause, hpayload⟩ | ⟨hwell, text, hpayload, -⟩ := payload_cases frame
  · simp [hmalformed, hpayload, Except.isOk, Except.toBool]
  · simp [hwell, hpayload, Except.isOk, Except.toBool]

instance (frame : List UInt8) : Decidable (IsMalformed frame) :=
  decidable_of_iff' _ isMalformed_iff

/-! ### Payloads under a header -/

/-- Digits that may stand in front of a payload: there are three of them, and they declare at most
the size of the payload with a checksum and a terminator behind it. -/
structure IsHeaderOf (digits : List UInt8) (payload : List Char) : Prop where
  length_eq : digits.length = 3
  isDigit : ∀ b ∈ digits, IsDigit b
  decimal_le : decimal digits ≤ Utf8.byteLength payload + 3

theorem isHeaderOf_iff {digits : List UInt8} {payload : List Char} :
    IsHeaderOf digits payload ↔
      digits.length = 3 ∧ (digits.all fun b => decide (IsDigit b)) = true ∧
      decimal digits ≤ Utf8.byteLength payload + 3 := by
  rw [List.all_eq_true]
  simp only [decide_eq_true_iff]
  exact ⟨fun ⟨hlength, hdigits, hsize⟩ => ⟨hlength, hdigits, hsize⟩,
    fun ⟨hlength, hdigits, hsize⟩ => ⟨hlength, hdigits, hsize⟩⟩

instance (digits : List UInt8) (payload : List Char) : Decidable (IsHeaderOf digits payload) :=
  decidable_of_iff' _ isHeaderOf_iff

/-- A payload behind the marker and the digits of a header. -/
def framed (digits : List UInt8) (payload : List Char) : List UInt8 :=
  0x5E :: 0x44 :: (digits ++ Utf8.encode payload)

variable {digits : List UInt8} {text : List Char}

/-- A header hides nothing of the payload. -/
theorem IsHeaderOf.payload_framed (h : IsHeaderOf digits text) :
    payload (framed digits text) = .ok text := by
  obtain ⟨d₀, d₁, d₂, rfl⟩ := List.length_eq_three.mp h.length_eq
  have hdeclared := declaredSize?_eq_some_iff.mpr ⟨⟨List.cons_ne_nil _ _, h.isDigit⟩, rfl⟩
  have hroom : ¬ (Utf8.encode text).length + Frame.trailerSize < decimal [d₀, d₁, d₂] := by
    rw [Utf8.length_encode]
    exact Nat.not_lt_of_le h.decimal_le
  rw [framed, List.cons_append, List.cons_append, List.cons_append, List.nil_append, payload]
  simp only [and_self, if_true, hdeclared, if_neg hroom, Utf8.decode?_encode]

/-! ### Acknowledgements -/

/-- **A setting is acknowledged by the first two bytes alone.** -/
theorem acknowledgement?_eq (frame : List UInt8) :
    acknowledgement? frame =
      if [0x5E, 0x31] <+: frame then some true
      else if [0x5E, 0x30] <+: frame then some false
      else none := by
  rw [acknowledgement?.eq_def]
  split
  · rw [if_pos (pair_prefix_iff.mpr ⟨rfl, rfl⟩)]
  · rw [if_neg (pair_prefix_iff.not.mpr (by decide)), if_pos (pair_prefix_iff.mpr ⟨rfl, rfl⟩)]
  · next haccepted hrefused =>
    rw [if_neg fun ⟨bytes, h⟩ => haccepted bytes h.symm,
      if_neg fun ⟨bytes, h⟩ => hrefused bytes h.symm]

/-! ### Responses -/

variable {command : Command} {kind : RecordKind}

theorem decode_of_isSetter (frame : List UInt8) (h : command.isSetter = true) :
    decode command frame =
      if [0x5E, 0x31] <+: frame then .ok (.acknowledgement true)
      else if [0x5E, 0x30] <+: frame then .ok (.acknowledgement false)
      else .error (.response .notAcknowledgement) := by
  rw [decode, (Command.recordKind?_eq_none_iff command).mpr h]
  dsimp only
  rw [acknowledgement?_eq]
  split_ifs <;> rfl

theorem decode_of_isMalformed (hkind : command.recordKind? = some kind) (h : IsMalformed frame) :
    ∃ cause, decode command frame = .error (.response cause) := by
  obtain ⟨-, cause, hpayload⟩ | ⟨hwell, -⟩ := payload_cases frame
  · refine ⟨cause, ?_⟩
    rw [decode, hkind]
    dsimp only
    rw [hpayload]
  · exact absurd h hwell

/-- The payload of a frame is read as a record of the kind that was asked for. -/
theorem decode_of_payload (hkind : command.recordKind? = some kind)
    (hpayload : payload frame = .ok text) :
    decode command frame = (Record.ofPayload kind text).map .record := by
  rw [decode, hkind]
  dsimp only
  rw [hpayload]

/-- What a payload under a header is decoded as is what the layout of the kind reads from it. -/
theorem decode_framed_eq_ok_iff (hkind : command.recordKind? = some kind)
    (hheader : IsHeaderOf digits text) {response : Response} :
    decode command (framed digits text) = .ok response ↔
      ∃ cells, kind.layout.read kind.label text = .ok cells ∧ response = .record ⟨kind, cells⟩ := by
  rw [decode_of_payload hkind hheader.payload_framed, Record.ofPayload]
  cases kind.layout.read kind.label text with
  | error e => exact ⟨nofun, nofun⟩
  | ok cells => simp [bind, Except.bind, pure, Except.pure, Except.map, eq_comm]

/-- **When a frame is decoded as a record**: it is of the kind that was asked for, and its layout
reads the fields from the payload. -/
theorem decode_eq_ok_record_iff {r : Record} :
    decode command frame = .ok (.record r) ↔
      command.recordKind? = some r.kind ∧
        ∃ text, payload frame = .ok text ∧ r.kind.layout.read r.kind.label text = .ok r.cells := by
  constructor
  · intro h
    rw [decode] at h
    split at h
    · split at h <;> cases h
    · next kind hkind =>
      split at h
      · cases h
      · next text hpayload =>
        rw [Record.ofPayload] at h
        cases hread : kind.layout.read kind.label text with
        | error e =>
          rw [hread] at h
          cases h
        | ok cells =>
          rw [hread] at h
          cases h
          exact ⟨hkind, text, hpayload, hread⟩
  · rintro ⟨hkind, text, hpayload, hread⟩
    rw [decode_of_payload hkind hpayload, Record.ofPayload, hread]
    rfl

theorem warnings_framed (hkind : command.recordKind? = some kind)
    (hheader : IsHeaderOf digits text) :
    warnings command (framed digits text) = Record.warnings kind text := by
  rw [warnings, hkind, hheader.payload_framed]

/-- Behind a frame that is well-formed, there is a record or the reason why there is none. -/
theorem decode_of_not_isMalformed (hkind : command.recordKind? = some kind)
    (h : ¬ IsMalformed frame) :
    (∃ cells, decode command frame = .ok (.record ⟨kind, cells⟩) ∧
        kind.layout.admits cells = true) ∨
      ∃ cause, decode command frame = .error (.parse kind.label cause) := by
  obtain ⟨hmalformed, -⟩ | ⟨-, text, hpayload, -⟩ := payload_cases frame
  · exact absurd hmalformed h
  have hdecode := decode_of_payload hkind hpayload
  have hrecord := Record.endsIn_ofPayload kind text
  rw [hdecode]
  cases hread : Record.ofPayload kind text with
  | ok r =>
    rw [hread] at hrecord
    obtain ⟨rfl, hadmits, -⟩ := hrecord
    exact .inl ⟨r.cells, rfl, hadmits⟩
  | error e =>
    rw [hread] at hrecord
    obtain ⟨cause, rfl, -⟩ := hrecord
    exact .inr ⟨cause, rfl⟩

/-- **What decoding ends in**, for every command and any bytes. The answer to a setting is an
acknowledgement by its first two bytes, or an invalid response. The answer to a question is an
invalid response exactly if it is malformed; else it is a record of the kind that was asked for, or
no record can be read from it. -/
theorem decode_total (command : Command) (frame : List UInt8) :
    (command.isSetter = true →
      ([0x5E, 0x31] <+: frame → decode command frame = .ok (.acknowledgement true)) ∧
      ([0x5E, 0x30] <+: frame → decode command frame = .ok (.acknowledgement false)) ∧
      (¬ [0x5E, 0x31] <+: frame → ¬ [0x5E, 0x30] <+: frame →
        ∃ e, decode command frame = .error e ∧ e.layer = .invalidResponse)) ∧
    (command.isSetter = false → ∃ kind, command.recordKind? = some kind ∧
      (IsMalformed frame →
        ∃ e, decode command frame = .error e ∧ e.layer = .invalidResponse) ∧
      (¬ IsMalformed frame →
        (∃ cells, decode command frame = .ok (.record ⟨kind, cells⟩) ∧
          kind.layout.admits cells = true) ∨
        ∃ e, decode command frame = .error e ∧ e.layer = .parse)) := by
  constructor
  · intro hsetter
    rw [decode_of_isSetter frame hsetter]
    refine ⟨fun haccepted => if_pos haccepted, fun hrefused => ?_, fun haccepted hrefused => ?_⟩
    · have hdistinct : ¬ [0x5E, 0x31] <+: frame := fun haccepted => absurd
        (List.prefix_of_prefix_length_le haccepted hrefused (Nat.le_refl 2)) (by decide)
      rw [if_neg hdistinct, if_pos hrefused]
    · rw [if_neg haccepted, if_neg hrefused]
      exact ⟨_, rfl, rfl⟩
  · intro hgetter
    obtain ⟨kind, hkind⟩ : ∃ kind, command.recordKind? = some kind := by
      rw [← Option.ne_none_iff_exists', Ne, Command.recordKind?_eq_none_iff, hgetter]
      exact nofun
    refine ⟨kind, hkind, fun hmalformed => ?_, fun hwell => ?_⟩
    · obtain ⟨cause, hdecode⟩ := decode_of_isMalformed hkind hmalformed
      exact ⟨_, hdecode, rfl⟩
    · exact (decode_of_not_isMalformed hkind hwell).imp_right fun ⟨_, hdecode⟩ => ⟨_, hdecode, rfl⟩

/-- A serial number whose third byte is in the middle of a character, the same frame with the
character cut off in the middle, and a setting that is refused with bytes that are no text. -/
theorem decode_total_cut_character :
    (∃ e, decode .getSerialNumber
        [0x5E, 0x44, 0x30, 0x30, 0x39, 0x30, 0x33, 0x61, 0x62, 0xC3, 0xA9] = .error e ∧
      e.layer = .parse) ∧
    (∃ e, decode .getSerialNumber
        [0x5E, 0x44, 0x30, 0x30, 0x38, 0x30, 0x33, 0x61, 0x62, 0xC3] = .error e ∧
      e.layer = .invalidResponse) ∧
    decode .setAcSupply [0x5E, 0x30, 0xFF] = .ok (.acknowledgement false) := by
  refine ⟨?_, ?_, ?_⟩
  · obtain ⟨kind, -, -, hwell⟩ := (decode_total .getSerialNumber
      [0x5E, 0x44, 0x30, 0x30, 0x39, 0x30, 0x33, 0x61, 0x62, 0xC3, 0xA9]).2 rfl
    refine (hwell (by decide)).resolve_left fun ⟨cells, hdecode, _⟩ => ?_
    have hnone : (decode .getSerialNumber
      [0x5E, 0x44, 0x30, 0x30, 0x39, 0x30, 0x33, 0x61, 0x62, 0xC3, 0xA9]).isOk = false := by decide
    rw [hdecode] at hnone
    cases hnone
  · obtain ⟨kind, -, hmalformed, -⟩ := (decode_total .getSerialNumber
      [0x5E, 0x44, 0x30, 0x30, 0x38, 0x30, 0x33, 0x61, 0x62, 0xC3]).2 rfl
    exact hmalformed (by decide)
  · exact ((decode_total .setAcSupply [0x5E, 0x30, 0xFF]).1 rfl).2.1 (by decide)

end Response

end InverterLink
