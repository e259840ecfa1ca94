import InverterLink.Proofs.Command.Packing
import InverterLink.Proofs.Text.LineEnds

/-!
# The frames of requests

The packed arguments of an accepted request have a size that depends on its command alone, so the
size that a frame declares fits its three digits, and the frames of two commands whose mnemonics
begin alike differ in size. A frame therefore tells its command, and with it where in the frame
which argument stands.

## Main statements

* `frame_shape`: what the frame of an accepted request looks like.
* `agree_of_frame_eq`: requests with the same frame are the same request.
-/

namespace InverterLink.Command

variable {c c' : Command} {name name' : String} {args args' normalised normalised' : List String}
  {frame packed : List Char}

/-! ### The size of a request -/

/-- The size of the packed arguments of an accepted request. -/
def packedSize (c : Command) : Nat :=
  (c.layout.map (Slot.size c)).sum

/-- The size of what stands behind the header of the frame of an accepted request. -/
def bodySize (c : Command) : Nat :=
  c.mnemonic.length + c.packedSize

/-- A size that is declared in three digits is enough for every command. -/
theorem bodySize_lt (c : Command) : c.bodySize + Frame.trailerSize < 10 ^ 3 := by
  have hall : ∀ c ∈ all, c.bodySize + Frame.trailerSize < 10 ^ 3 := by decide
  exact hall c (mem_all c)

theorem isPrinted_mnemonic (c : Command) : ∀ ch ∈ c.mnemonic, IsPrinted ch := by
  have hall : ∀ c ∈ all, (c.mnemonic.all fun ch => IsPrinted ch) = true := by decide
  exact fun ch hch => of_decide_eq_true (List.all_eq_true.mp (hall c (mem_all c)) ch hch)

/-- **Commands of one kind whose mnemonics begin alike have requests of different sizes.** -/
theorem eq_of_leading_mnemonic (hsetter : c.isSetter = c'.isSetter)
    (hsize : c.bodySize = c'.bodySize) (hleads : c.mnemonic <+: c'.mnemonic) : c = c' := by
  have hall : ∀ c ∈ all, ∀ c' ∈ all, c.isSetter = c'.isSetter → c.bodySize = c'.bodySize →
      c.mnemonic <+: c'.mnemonic → c = c' := by decide +kernel
  exact hall c (mem_all c) c' (mem_all c') hsetter hsize hleads

/-- What stands behind the header of a frame tells the command of an accepted request. -/
theorem eq_of_body_eq {behind behind' : List Char} (hsetter : c.isSetter = c'.isSetter)
    (hsize : behind.length = c.packedSize) (hsize' : behind'.length = c'.packedSize)
    (h : c.mnemonic ++ behind = c'.mnemonic ++ behind') : c = c' := by
  have hsizes : c.bodySize = c'.bodySize := by
    rw [bodySize, bodySize, ← hsize, ← hsize', ← List.length_append, ← List.length_append, h]
  have hleft : c.mnemonic <+: c.mnemonic ++ behind := List.prefix_append _ _
  have hright : c'.mnemonic <+: c.mnemonic ++ behind := h ▸ List.prefix_append _ _
  obtain hleads | hleads := List.prefix_or_prefix_of_prefix hleft hright
  · exact eq_of_leading_mnemonic hsetter hsizes hleads
  · exact (eq_of_leading_mnemonic hsetter.symm hsizes.symm hleads).symm

/-! ### What a frame looks like -/

theorem frame_eq_ok : c.frame args = .ok frame ↔
    ∃ packed, c.pack args = .ok packed ∧ frame = Frame.build c.marker (c.mnemonic ++ packed) := by
  simp only [Command.frame, bind_eq_ok, pure_eq_ok]
  exact exists_congr fun packed => and_congr_right fun _ => eq_comm

/-- The packed arguments of an accepted request have the size of the layout, and print. -/
theorem shape_of_pack (h : ofRequest name args = .ok (c, normalised))
    (hpack : c.pack normalised = .ok packed) :
    packed.length = c.packedSize ∧ ∀ ch ∈ packed, IsPrinted ch := by
  obtain ⟨-, hlength, hnormalise⟩ := ofRequest_eq_ok h
  exact shape_of_fillAll (fits_of_normalise hlength hnormalise).suits hpack

/-- What stands behind the header of the frame of an accepted request has a size of at most three
digits, and prints. -/
theorem shape_of_body (h : ofRequest name args = .ok (c, normalised))
    (hpack : c.pack normalised = .ok packed) :
    Utf8.byteLength (c.mnemonic ++ packed) + Frame.trailerSize < 10 ^ 3 ∧
      ∀ ch ∈ c.mnemonic ++ packed, IsPrinted ch := by
  obtain ⟨hsize, hprinted⟩ := shape_of_pack h hpack
  have hbody : ∀ ch ∈ c.mnemonic ++ packed, IsPrinted ch :=
    List.forall_mem_append.mpr ⟨isPrinted_mnemonic c, hprinted⟩
  refine ⟨?_, hbody⟩
  rw [Utf8.byteLength_of_isPrinted hbody, List.length_append, hsize]
  exact c.bodySize_lt

/-- **The frame of an accepted request is well formed.** It is a caret, the letter of settings or of
questions, three digits, the mnemonic and the packed arguments. The digits declare three bytes more
than stand behind them. Everything prints, so that no terminator stands inside. -/
theorem frame_shape (h : ofRequest name args = .ok (c, normalised))
    (hframe : c.frame normalised = .ok frame) :
    ∃ digits packed, c.pack normalised = .ok packed ∧
      frame = '^' :: (if c.isSetter then 'S' else 'P') :: (digits ++ (c.mnemonic ++ packed)) ∧
      digits.length = 3 ∧ (∀ d ∈ digits, d.isDigit = true) ∧
      Digits.read? digits = some (3 + Utf8.byteLength (c.mnemonic ++ packed)) ∧
      (∀ ch ∈ frame, 0x20 ≤ ch.toNat ∧ ch.toNat ≤ 0x7E) ∧ '\r' ∉ frame := by
  obtain ⟨packed, hpack, rfl⟩ := frame_eq_ok.mp hframe
  obtain ⟨hsize, hbody⟩ := shape_of_body h hpack
  set size := Utf8.byteLength (c.mnemonic ++ packed) + Frame.trailerSize with hdeclared
  have hdigits : ∀ d ∈ Digits.writePadded 3 size, d.isDigit = true := fun d hd =>
    Digits.isDigit_of_mem_writePadded hd
  have hprinted : ∀ ch ∈ Frame.build c.marker (c.mnemonic ++ packed), IsPrinted ch := by
    have hmarker : IsPrinted c.marker := by
      rw [marker]
      split_ifs <;> exact ⟨by decide, by decide⟩
    rw [Frame.build, List.forall_mem_append, List.forall_mem_append, List.forall_mem_cons,
      List.forall_mem_singleton]
    exact ⟨⟨⟨⟨by decide, by decide⟩, hmarker⟩, fun ch hch => isPrinted_of_isDigit (hdigits ch hch)⟩,
      hbody⟩
  refine ⟨Digits.writePadded 3 size, packed, hpack, ?_, Digits.length_writePadded (by decide) hsize,
    hdigits, ?_, hprinted, fun hreturn => absurd (hprinted _ hreturn).1 (by decide)⟩
  · rw [Frame.build, ← hdeclared, marker]
    rfl
  · rw [Digits.read?_writePadded, hdeclared, Nat.add_comm]
    rfl

/-- The frame for a serial number of fourteen digits, which is filled up with zeros. -/
theorem frame_shape_of_serial :
    ∃ digits packed, pack .setSolarConfig ["92932004102443"] = .ok packed ∧
      "^S027ID1492932004102443000000".toList =
        '^' :: 'S' :: (digits ++ (mnemonic .setSolarConfig ++ packed)) ∧
      digits.length = 3 ∧ (∀ d ∈ digits, d.isDigit = true) ∧
      Digits.read? digits = some (3 + Utf8.byteLength (mnemonic .setSolarConfig ++ packed)) ∧
      (∀ ch ∈ "^S027ID1492932004102443000000".toList, 0x20 ≤ ch.toNat ∧ ch.toNat ≤ 0x7E) ∧
      '\r' ∉ "^S027ID1492932004102443000000".toList := by
  have hrequest : ofRequest "set-solar-configuration" ["92932004102443"] =
      .ok (.setSolarConfig, ["92932004102443"]) := by decide
  have hframe : Command.frame .setSolarConfig ["92932004102443"] =
      .ok "^S027ID1492932004102443000000".toList := by decide
  exact frame_shape hrequest hframe

/-- There is no carriage return in the frame of an accepted request. -/
theorem isPlain_frame (h : ofRequest name args = .ok (c, normalised))
    (hframe : c.frame normalised = .ok frame) : IsPlain frame := by
  obtain ⟨packed, hpack, rfl⟩ := frame_eq_ok.mp hframe
  obtain ⟨-, hprinted⟩ := shape_of_body h hpack
  have hmarker : IsPlain ['^', c.marker] := by
    rw [marker]
    split_ifs <;> decide
  have hbody : IsPlain (c.mnemonic ++ packed) := fun hmem =>
    absurd (hprinted _ hmem).1 (by decide)
  rw [Frame.build, isPlain_append, isPlain_append]
  exact ⟨⟨hmarker, Digits.isPlain_writePadded _ _⟩, hbody⟩

/-! ### What a frame tells -/

/-- Whether a slot is filled with a number. -/
def Slot.readsNumber (index : Nat) : Slot → Bool
  | number i _ | tenfold i _ | year i => i = index
  | _ => false

/-- Whether a slot is filled with the tenths of a decimal. -/
def Slot.readsDecimal : Slot → Bool
  | tenths _ _ => true
  | _ => false

/-- Whether a command has arguments that are decimals. -/
def hasDecimals (c : Command) : Bool :=
  c.layout.any Slot.readsDecimal

/-- Two lists of arguments of a command agree at a position: as numbers where the command has a
number laid out, and as texts elsewhere. -/
def AgreeAt (c : Command) (args args' : List String) (index : Nat) : Prop :=
  if c.layout.any (Slot.readsNumber index) then
    ∃ n, c.integer args index = .ok n ∧ c.integer args' index = .ok n
  else args[index]? = args'[index]?

/-- Every argument that is laid out has its slot. -/
theorem exists_slot_of_lt {index : Nat} (h : index < c.laidOut) :
    ∃ slot ∈ c.layout, slot.index? = some index := by
  have hall : ∀ c ∈ all, ∀ index < c.laidOut, ∃ slot ∈ c.layout, slot.index? = some index := by
    decide
  exact hall c (mem_all c) index h

/-- Arguments that agree about what is laid out agree position by position, decimals apart. -/
theorem agreeAt_of_agrees {index : Nat} (hdecimals : c.hasDecimals = false)
    (h : ∀ slot ∈ c.layout, slot.Agrees c args args') (hindex : index < c.laidOut) :
    c.AgreeAt args args' index := by
  rw [AgreeAt]
  split_ifs with hnumber
  · obtain ⟨slot, hslot, hreads⟩ := List.any_eq_true.mp hnumber
    have hagrees := h slot hslot
    cases slot with
    | number i width | tenfold i width | year i =>
      obtain rfl : i = index := of_decide_eq_true hreads
      exact hagrees
    | _ => cases hreads
  · obtain ⟨slot, hslot, hat⟩ := exists_slot_of_lt hindex
    have hagrees := h slot hslot
    cases slot with
    | text i | state i | sized i =>
      obtain rfl : i = index := Option.some.inj hat
      exact hagrees
    | number i width | tenfold i width | year i =>
      obtain rfl : i = index := Option.some.inj hat
      exact absurd (List.any_eq_true.mpr ⟨_, hslot, decide_eq_true rfl⟩) hnumber
    | tenths i width =>
      have hdecimal : c.hasDecimals = true := List.any_eq_true.mpr ⟨_, hslot, rfl⟩
      exact absurd (hdecimals.symm.trans hdecimal) Bool.false_ne_true
    | comma => cases hat

/-- Frames that are equal have the same kind and the same bytes behind their headers. -/
theorem eq_of_build_eq {marker marker' : Char} {body body' : List Char}
    (hsize : Utf8.byteLength body + Frame.trailerSize < 10 ^ 3)
    (hsize' : Utf8.byteLength body' + Frame.trailerSize < 10 ^ 3)
    (h : Frame.build marker body = Frame.build marker' body') :
    marker = marker' ∧ body = body' := by
  rw [Frame.build, Frame.build] at h
  have hdigits := (Digits.length_writePadded (by decide) hsize).trans
    (Digits.length_writePadded (by decide) hsize').symm
  obtain ⟨hheader, hbody⟩ := List.append_inj h (by simpa using hdigits)
  refine ⟨?_, hbody⟩
  have hfront := List.cons.inj (List.append_inj hheader rfl).1
  exact List.head_eq_of_cons_eq hfront.2

theorem isSetter_eq_of_marker_eq (h : c.marker = c'.marker) : c.isSetter = c'.isSetter := by
  have hall : ∀ setter setter' : Bool, (if setter then 'S' else 'P') =
      (if setter' then 'S' else 'P') → setter = setter' := by decide
  exact hall _ _ h

/-- **A frame tells the request** that it was built for: the command, the packed arguments, and the
arguments position by position if none of them is a decimal. -/
theorem agree_of_frame_eq (h : ofRequest name args = .ok (c, normalised))
    (h' : ofRequest name' args' = .ok (c', normalised'))
    (hframe : c.frame normalised = .ok frame) (hframe' : c'.frame normalised' = .ok frame) :
    c = c' ∧ (∃ packed, c.pack normalised = .ok packed ∧ c'.pack normalised' = .ok packed) ∧
      (c.hasDecimals = false → normalised.length = normalised'.length ∧
        ∀ index < normalised.length, c.AgreeAt normalised normalised' index) := by
  obtain ⟨packed, hpack, rfl⟩ := frame_eq_ok.mp hframe
  obtain ⟨packed', hpack', heq⟩ := frame_eq_ok.mp hframe'
  obtain ⟨hmarker, hbody⟩ :=
    eq_of_build_eq (shape_of_body h hpack).1 (shape_of_body h' hpack').1 heq
  obtain rfl := eq_of_body_eq (isSetter_eq_of_marker_eq hmarker) (shape_of_pack h hpack).1
    (shape_of_pack h' hpack').1 hbody
  obtain rfl := List.append_cancel_left hbody
  obtain ⟨-, hlength, hnormalise⟩ := ofRequest_eq_ok h
  obtain ⟨-, hlength', hnormalise'⟩ := ofRequest_eq_ok h'
  have hfits := fits_of_normalise hlength hnormalise
  have hfits' := fits_of_normalise hlength' hnormalise'
  refine ⟨rfl, ⟨packed, hpack, hpack'⟩, fun hdecimals => ⟨?_, fun index hindex => ?_⟩⟩
  · exact hfits.length_eq.trans hfits'.length_eq.symm
  · exact agreeAt_of_agrees hdecimals (agrees_of_fillAll_eq hfits.suits hfits'.suits hpack hpack')
      (hfits.length_eq ▸ hindex)

/-- March has one frame, with or without a zero in front of its number, which is the same number. -/
theorem agree_of_frame_eq_march :
    Command.frame .getMonthGenerated ["2024", "3"] =
      Command.frame .getMonthGenerated ["2024", "03"] ∧
      AgreeAt .getMonthGenerated ["2024", "3"] ["2024", "03"] 1 := by
  have hrequest : ofRequest "get-month-generated" ["2024", "3"] =
      .ok (.getMonthGenerated, ["2024", "3"]) := by decide
  have hrequest' : ofRequest "get-month-generated" ["2024", "03"] =
      .ok (.getMonthGenerated, ["2024", "03"]) := by decide
  have hframe : Command.frame .getMonthGenerated ["2024", "3"] = .ok "^P011EM202403".toList := by
    decide
  have hframe' : Command.frame .getMonthGenerated ["2024", "03"] = .ok "^P011EM202403".toList := by
    decide
  obtain ⟨-, -, hagree⟩ := agree_of_frame_eq hrequest hrequest' hframe hframe'
  obtain ⟨-, hpositions⟩ := hagree (by decide)
  exact ⟨hframe.trans hframe'.symm, hpositions 1 (by decide)⟩

end InverterLink.Command
