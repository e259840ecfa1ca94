import InverterLink.Proofs.Decoding
import InverterLink.Proofs.Link.Fixtures
import InverterLink.Proofs.Response

/-!
# The loopback device serves every command

A device without a queue accepts every setting, and answers every question with the fixture of its
own mnemonic. The mnemonic of one question begins that of another, but the longest one that the
frame begins with is always its own: what stands behind it, arguments or a checksum, does not make
it longer. Each fixture is a payload with the layout of the record that is asked for, and it fits
into the room for an answer. So every command that is accepted and laid out ends in the response of
its kind.

## Main statements

* `Loopback.fixtureFor_frame`: what the device answers to the frame of an accepted request.
* `Flags.read_onWire`: an answer that fits is read as it went out.
* `Link.execute_ofRequest`: what an accepted request ends in.
-/

namespace InverterLink

variable {c : Command} {name : String} {args normalised : List String} {frame : List Char}

/-! ### The fixture of a command -/

namespace Loopback

/-- The fixture with the longest mnemonic that begins the one of a question is its own. -/
theorem longestFixture?_mnemonic (hgetter : c.isSetter = false) :
    ∃ payload, fixtures.lookup c.profile.mnemonic = some payload ∧
      longestFixture? (Utf8.encode c.mnemonic) = some (c.profile.mnemonic, payload) := by
  have hall : ∀ c ∈ Command.all, c.isSetter = false →
      ∃ payload ∈ fixtures.lookup c.profile.mnemonic,
        longestFixture? (Utf8.encode c.mnemonic) = some (c.profile.mnemonic, payload) := by
    decide +kernel
  exact hall c (Command.mem_all c) hgetter

/-- So it is when arguments stand behind the mnemonic. -/
theorem longestFixture?_body {packed : List Char}
    (h : Command.ofRequest name args = .ok (c, normalised))
    (hpack : c.pack normalised = .ok packed) (hgetter : c.isSetter = false) :
    longestFixture? (Utf8.encode (c.mnemonic ++ packed)) =
      longestFixture? (Utf8.encode c.mnemonic) := by
  -- the mnemonic that another one goes on from has no arguments behind it
  by_cases hprotocol : c = .getProtocolId
  · subst hprotocol
    cases hpack
    rfl
  · have hlongest := length_le_of_mnemonic_prefix hgetter hprotocol
    rw [Utf8.encode_append, longestFixture?_append hlongest]

/-- **What the device answers to an accepted request**: it accepts a setting, and it answers a
question with the fixture of its mnemonic. -/
theorem fixtureFor_frame (h : Command.ofRequest name args = .ok (c, normalised))
    (hframe : c.frame normalised = .ok frame) :
    (c.isSetter = true → fixtureFor (Utf8.encode frame) = [0x5E, 0x31]) ∧
      (c.isSetter = false → ∃ payload, fixtures.lookup c.profile.mnemonic = some payload ∧
        fixtureFor (Utf8.encode frame) = Utf8.encode (Frame.ofPayload payload.toList)) := by
  obtain ⟨packed, hpack, rfl⟩ := Command.frame_eq_ok.mp hframe
  obtain ⟨header, hencode, hlength, hsetting⟩ :=
    Command.exists_encode_build (Command.shape_of_body h hpack).1
  have hmarked : List.isPrefixOf [0x5E, 0x53] (header ++ Utf8.encode (c.mnemonic ++ packed)) =
      c.isSetter := by
    rw [Bool.eq_iff_iff, List.isPrefixOf_iff_prefix, ← hsetting]
    exact List.isPrefix_append_of_length (by rw [hlength]; decide)
  rw [hencode, fixtureFor, hmarked, List.drop_left' hlength]
  refine ⟨fun hsetter => if_pos hsetter, fun hgetter => ?_⟩
  obtain ⟨payload, hlookup, hlongest⟩ := longestFixture?_mnemonic hgetter
  refine ⟨payload, hlookup, ?_⟩
  rw [hgetter, if_neg Bool.false_ne_true, longestFixture?_body h hpack hgetter, hlongest]

end Loopback

/-- The fixture of a question is a payload with the layout of its record, and its frame fits into
the room for an answer. -/
theorem Command.exists_read_fixture {kind : RecordKind} (hkind : c.recordKind? = some kind)
    {payload : String} (hlookup : Loopback.fixtures.lookup c.profile.mnemonic = some payload) :
    (∃ cells, kind.layout.read kind.label payload.toList = .ok cells) ∧
      Utf8.byteLength payload.toList ≤ 996 ∧
      Frame.terminator ∉ Utf8.encode (Frame.ofPayload payload.toList) ∧
      (Utf8.encode (Frame.ofPayload payload.toList)).length + Frame.trailerSize ≤
        Link.answerCapacity := by
  have hfits : (kind.layout.read kind.label payload.toList).isOk = true ∧
      Utf8.byteLength payload.toList ≤ 996 ∧
      Frame.terminator ∉ Utf8.encode (Frame.ofPayload payload.toList) ∧
      (Utf8.encode (Frame.ofPayload payload.toList)).length + Frame.trailerSize ≤
        Link.answerCapacity := by
    cases c <;> cases hkind <;> cases hlookup
    -- the characters of a long text are rewritten, since to evaluate them takes long
    all_goals
      try rw [String.toList_append]
      repeat rw [String.toList_ofList]
      decide +kernel
  obtain ⟨hok, hframe⟩ := hfits
  refine ⟨?_, hframe⟩
  cases hread : kind.layout.read kind.label payload.toList with
  | ok cells => exact ⟨cells, rfl⟩
  | error e =>
    rw [hread] at hok
    cases hok

/-! ### Answers that fit -/

/-- **An answer that fits is read as it went out.** -/
theorem Flags.read_onWire (flags : Flags) {capacity : Nat} {answer : List UInt8}
    (hplain : Frame.terminator ∉ answer) (hroom : answer.length + Frame.trailerSize ≤ capacity) :
    flags.read capacity (Frame.onWire flags.readChecksum answer) = .ok answer := by
  have hbody := Frame.terminator_notMem_body flags.readChecksum hplain
  have hlength : (Frame.body flags.readChecksum answer).length + 1 ≤ capacity := by
    have htrailer : Frame.trailerSize = Checksum.size + 1 := rfl
    rw [Frame.length_body]
    split_ifs <;> omega
  rw [Frame.onWire_eq_body, Flags.read,
    if_pos ((terminator_mem_take_iff hbody capacity).mpr hlength), takeWhile_frame hbody,
    Flags.payload_body]
  rfl

/-! ### Commands -/

namespace Command

/-- An accepted request ends in what the answer to its frame is decoded as, if the link reads
checksums exactly if the device adds them and the answer fits. -/
theorem fixtureOutcome_of_fixtureFor (flags : Flags)
    (h : ofRequest name args = .ok (c, normalised)) (hframe : c.frame normalised = .ok frame)
    {answer : List UInt8} (hanswer : Loopback.fixtureFor (Utf8.encode frame) = answer)
    (hplain : Frame.terminator ∉ answer)
    (hroom : answer.length + Frame.trailerSize ≤ Link.answerCapacity) :
    c.fixtureOutcome flags flags.readChecksum normalised = Response.decode c answer := by
  have hread : flags.fixtureAnswer flags.readChecksum (Utf8.encode frame) = .ok answer := by
    rw [Flags.fixtureAnswer, Loopback.fixtureFor_body h hframe, hanswer,
      flags.read_onWire hplain hroom]
  rw [fixtureOutcome, hframe, ok_bind, hread, ok_bind]

end Command

namespace Link

/-- **Every accepted command works on the loopback device** that has nothing queued, with whatever
the link does about the checksums of its requests, in whatever pieces the device takes them, and
with any budget, as long as the link reads the checksums that the device adds. A setting is
accepted, and a question is answered with the record in the fixture of its own mnemonic. -/
theorem execute_ofRequest (link : Link) (h : Command.ofRequest name args = .ok (c, normalised))
    (hframe : c.frame normalised = .ok frame) (hidle : link.device.IsIdle)
    (hread : link.flags.readChecksum = link.device.appendChecksum) :
    ∃ response after, link.execute c normalised = some (.ok response, after) ∧
      (c.isSetter = true → response = .acknowledgement true) ∧
      (c.isSetter = false → ∃ r payload, response = .record r ∧ c.recordKind? = some r.kind ∧
        Loopback.fixtures.lookup c.profile.mnemonic = some payload ∧
        Record.ofPayload r.kind payload.toList = .ok r) := by
  obtain ⟨after, hexecute⟩ := exists_execute_of_isIdle link hidle fun frame' hframe' =>
    Command.isPlain_frame h hframe'
  rw [← hread] at hexecute
  obtain ⟨hsetting, hquestion⟩ := Loopback.fixtureFor_frame h hframe
  cases hkind : c.recordKind? with
  | none =>
    have hsetter := (Command.recordKind?_eq_none_iff c).mp hkind
    have houtcome := Command.fixtureOutcome_of_fixtureFor link.flags h hframe (hsetting hsetter)
      (by decide) (by decide)
    rw [houtcome, Response.decode_of_isSetter _ hsetter, if_pos (List.prefix_refl _)] at hexecute
    refine ⟨_, after, hexecute, fun _ => rfl, fun hgetter => ?_⟩
    exact absurd (hgetter.symm.trans hsetter) Bool.false_ne_true
  | some kind =>
    have hgetter : c.isSetter = false := by
      rw [← Bool.not_eq_true, ← Command.recordKind?_eq_none_iff, hkind]
      exact nofun
    obtain ⟨payload, hlookup, hanswer⟩ := hquestion hgetter
    obtain ⟨⟨cells, hcells⟩, hsize, hplain, hroom⟩ := Command.exists_read_fixture hkind hlookup
    have houtcome := Command.fixtureOutcome_of_fixtureFor link.flags h hframe hanswer hplain hroom
    rw [houtcome, Response.decode_ofPayload hkind hsize hcells] at hexecute
    refine ⟨_, after, hexecute, fun hsetter => ?_, fun _ => ?_⟩
    · exact absurd (hgetter.symm.trans hsetter) Bool.false_ne_true
    · refine ⟨⟨kind, cells⟩, payload, rfl, rfl, hlookup, ?_⟩
      rw [Record.ofPayload, hcells]
      rfl

/-- The question whose mnemonic begins another one, written with its checksum and byte by byte, and
a question with an argument, whose answer has ordinals and an item that a device may leave out. -/
theorem execute_ofRequest_protocol :
    (∃ after, execute { device := { writeLimit? := some 1 } } .getProtocolId [] =
      some (.ok (.record ⟨.protocolId, [.number 18]⟩), after)) ∧
    ∃ r after, execute { device := { writeLimit? := some 7 } } .getParallelGeneralStatus ["1"] =
        some (.ok (.record r), after) ∧
      r.kind = .parallelGeneralStatus ∧ r.cells.length = 29 ∧
      r.cells[1]? = some (.choice .workingMode 5) ∧ r.cells[28]? = some (.number 38) := by
  constructor
  · have hrequest : Command.ofRequest "get-protocol-id" [] = .ok (.getProtocolId, []) := by decide
    have hframe : Command.frame .getProtocolId [] = .ok "^P005PI".toList := by decide
    obtain ⟨response, after, hexecute, -, hquestion⟩ :=
      execute_ofRequest { device := { writeLimit? := some 1 } } hrequest hframe ⟨rfl, rfl⟩ rfl
    obtain ⟨⟨kind, cells⟩, payload, rfl, hkind, hlookup, hrecord⟩ := hquestion rfl
    cases hkind
    cases hlookup
    cases hrecord
    exact ⟨after, hexecute⟩
  · have hrequest : Command.ofRequest "get-p-status" ["1"] =
        .ok (.getParallelGeneralStatus, ["1"]) := by decide
    have hframe : Command.frame .getParallelGeneralStatus ["1"] = .ok "^P007PGS1".toList := by
      decide
    obtain ⟨response, after, hexecute, -, hquestion⟩ :=
      execute_ofRequest { device := { writeLimit? := some 7 } } hrequest hframe ⟨rfl, rfl⟩ rfl
    obtain ⟨r, payload, rfl, hkind, hlookup, hrecord⟩ := hquestion rfl
    rw [← Option.some.inj hkind] at hrecord
    have hshape : ((Record.ofPayload .parallelGeneralStatus payload.toList).map fun r =>
        (r.cells.length, r.cells[1]?, r.cells[28]?)) =
          .ok (29, some (.choice .workingMode 5), some (.number 38)) := by
      cases hlookup
      decide +kernel
    rw [hrecord] at hshape
    obtain ⟨hlength, hmode, hlast⟩ : r.cells.length = 29 ∧
        r.cells[1]? = some (.choice .workingMode 5) ∧ r.cells[28]? = some (.number 38) := by
      simpa [Except.map] using hshape
    exact ⟨r, after, hexecute, (Option.some.inj hkind).symm, hlength, hmode, hlast⟩

end Link

end InverterLink
