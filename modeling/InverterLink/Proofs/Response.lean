import InverterLink.Proofs.Record.Reading
import InverterLink.Response

/-!
# Responses hold the records that were written

A device wraps the payload of a record into a frame that declares its size in three digits. As long
as the size fits them, the frame holds the payload, and with it the record.
-/

namespace InverterLink.Response

/-! ### Frames -/

/-- The bytes of a frame: the marker, the three digits of the size, and the payload. -/
theorem exists_encode_ofPayload {payload : List Char} (h : Utf8.byteLength payload ≤ 996) :
    ∃ d₀ d₁ d₂, Utf8.encode (Frame.ofPayload payload) =
        0x5E :: 0x44 :: d₀ :: d₁ :: d₂ :: Utf8.encode payload ∧
      declaredSize? [d₀, d₁, d₂] = some (Utf8.byteLength payload + Frame.trailerSize) := by
  set size := Utf8.byteLength payload + Frame.trailerSize with hsize
  have htrailer : Frame.trailerSize = 3 := rfl
  have hdigits : ∀ c ∈ Digits.writePadded 3 size, c.isDigit := fun _ =>
    Digits.isDigit_of_mem_writePadded
  have hthree : (Utf8.encode (Digits.writePadded 3 size)).length = 3 := by
    rw [Utf8.length_encode, Digits.byteLength_writePadded (by decide) (by omega)]
  obtain ⟨d₀, d₁, d₂, hencode⟩ := List.length_eq_three.mp hthree
  have hchars := Utf8.encode_of_isDigit hdigits
  rw [hencode] at hchars
  refine ⟨d₀, d₁, d₂, ?_, ?_⟩
  · rw [Frame.ofPayload, Frame.build, ← hsize, Utf8.encode_append, Utf8.encode_append, hencode]
    rfl
  · rw [declaredSize?, hchars, Digits.read?_writePadded]

/-- **A frame holds the payload that it was built around.** -/
theorem payload_encode_ofPayload {payload : List Char} (h : Utf8.byteLength payload ≤ 996) :
    Response.payload (Utf8.encode (Frame.ofPayload payload)) = .ok payload := by
  obtain ⟨d₀, d₁, d₂, hencode, hdeclared⟩ := exists_encode_ofPayload h
  -- the declared size is exactly that of the frame
  have hadmissible : ¬ (Utf8.encode payload).length + Frame.trailerSize <
      Utf8.byteLength payload + Frame.trailerSize := by
    rw [Utf8.length_encode]
    exact Nat.lt_irrefl _
  rw [hencode, Response.payload]
  simp only [and_self, if_true, hdeclared, if_neg hadmissible, Utf8.decode?_encode]

/-! ### Records -/

/-- A frame around a payload is read as the record that the payload holds. -/
theorem decode_ofPayload {command : Command} {kind : RecordKind} {payload : List Char}
    {cells : List Cell} (hkind : command.recordKind? = some kind)
    (hsize : Utf8.byteLength payload ≤ 996)
    (hread : kind.layout.read kind.label payload = .ok cells) :
    decode command (Utf8.encode (Frame.ofPayload payload)) = .ok (.record ⟨kind, cells⟩) := by
  rw [decode, hkind]
  dsimp only
  rw [payload_encode_ofPayload hsize]
  dsimp only
  rw [Record.ofPayload, hread]
  rfl

/-- **A response holds the record that was written**, whatever the layout leaves open. -/
theorem decode_write {command : Command} {kind : RecordKind} {cells : List Cell}
    (hkind : command.recordKind? = some kind) (spelling : Spelling)
    (hfits : kind.layout.fits spelling cells = true)
    (hsize : Utf8.byteLength (kind.layout.write spelling cells) ≤ 996) :
    decode command (Utf8.encode (Frame.ofPayload (kind.layout.write spelling cells))) =
      .ok (.record ⟨kind, cells⟩) := by
  have hrecord : Record.ofPayload kind (kind.layout.write spelling cells) = .ok ⟨kind, cells⟩ := by
    rw [Record.ofPayload, Layout.read_of_fits kind.label hfits]
    rfl
  rw [decode, hkind]
  dsimp only
  rw [payload_encode_ofPayload hsize]
  dsimp only
  rw [hrecord]
  rfl

/-- The settings of one of several devices, with a serial number of fourteen characters and a
current of three digits. -/
theorem decode_write_parallel :
    decode .getParallelRatedInformation
        (Utf8.encode (Frame.ofPayload "1,14,96332110100452000000,2,060,130,1".toList)) =
      .ok (.record ⟨.parallelRatedInformation, [
        .choice .parallelConnectionStatus 1, .number 14, .text "96332110100452".toList,
        .choice .chargeSourcePriority 2, .number 60, .number 130, .choice .outputMode 1]⟩) := by
  set cells : List Cell := [
    .choice .parallelConnectionStatus 1, .number 14, .text "96332110100452".toList,
    .choice .chargeSourcePriority 2, .number 60, .number 130, .choice .outputMode 1]
  set spelling : Spelling :=
    ⟨fun index => [1, 2, 20, 1, 3, 3, 1].getD index 1, fun _ => "000000".toList⟩
  have hwrite : RecordKind.parallelRatedInformation.layout.write spelling cells =
      "1,14,96332110100452000000,2,060,130,1".toList := by decide
  have hfits : RecordKind.parallelRatedInformation.layout.fits spelling cells = true := by decide
  rw [← hwrite]
  exact decode_write rfl spelling hfits (by decide)

end InverterLink.Response
