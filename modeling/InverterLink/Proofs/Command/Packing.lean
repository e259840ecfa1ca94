import InverterLink.Proofs.Command.Arguments

/-!
# How arguments are laid out

Arguments that suit the slots of a layout fill each of them with a text of a fixed size, all of it
printed ASCII. Texts of fixed sizes can be told apart when they stand one behind the other, so the
arguments of a command can be read off what they are packed into: numbers by their digits, texts as
they are. Only a decimal cannot be told from another one with the same tenths, and it is also the
one kind of argument that may not be laid out at all, if it is negative.

## Main statements

* `exists_fill_iff`: when arguments that suit a slot can be laid out in it.
* `shape_of_fillAll`: the size and the characters of packed arguments.
* `agrees_of_fillAll_eq`: packed arguments tell the arguments that were packed.
-/

namespace InverterLink

/-- Whether a character is printed ASCII. -/
def IsPrinted (ch : Char) : Prop :=
  0x20 ≤ ch.toNat ∧ ch.toNat ≤ 0x7E

instance (ch : Char) : Decidable (IsPrinted ch) :=
  inferInstanceAs (Decidable (_ ∧ _))

theorem isPrinted_of_isDigit {ch : Char} (h : ch.isDigit = true) : IsPrinted ch := by
  obtain ⟨hlow, hhigh⟩ := Digits.toNat_of_isDigit h
  exact ⟨by omega, by omega⟩

theorem isPrinted_of_isAlphanum {ch : Char} (h : ch.isAlphanum = true) : IsPrinted ch := by
  rw [Char.isAlphanum, Bool.or_eq_true] at h
  obtain hletter | hdigit := h
  · obtain hupper | hlower := Bool.or_eq_true_iff.mp hletter
    · obtain ⟨hlow, hhigh⟩ := of_decide_eq_true hupper
      have hleast : 65 ≤ ch.toNat := UInt32.le_iff_toNat_le.mp hlow
      have hgreatest : ch.toNat ≤ 90 := UInt32.le_iff_toNat_le.mp hhigh
      exact ⟨by omega, by omega⟩
    · obtain ⟨hlow, hhigh⟩ := Bool.and_eq_true_iff.mp hlower
      have hleast : 97 ≤ ch.toNat := UInt32.le_iff_toNat_le.mp (of_decide_eq_true hlow)
      have hgreatest : ch.toNat ≤ 122 := UInt32.le_iff_toNat_le.mp (of_decide_eq_true hhigh)
      exact ⟨by omega, by omega⟩
  · exact isPrinted_of_isDigit hdigit

/-- A text of printed ASCII has one byte for each character. -/
theorem Utf8.byteLength_of_isPrinted {cs : List Char} (h : ∀ ch ∈ cs, IsPrinted ch) :
    Utf8.byteLength cs = cs.length := by
  induction cs with
  | nil => rfl
  | cons ch cs ih =>
    have hsize : ch.utf8Size = 1 := by
      rw [Char.utf8Size_eq_one_iff]
      exact UInt32.le_iff_toNat_le.mpr (Nat.le_succ_of_le (h ch List.mem_cons_self).2)
    rw [Utf8.byteLength, hsize, ih fun d hd => h d (List.mem_cons_of_mem ch hd), List.length_cons,
      Nat.add_comm]

namespace Command

variable {c : Command} {args args' : List String} {slot : Slot} {index width : Nat}
  {filled : List Char}

/-! ### The text of a slot -/

/-- The size of the text that fills a slot. -/
def Slot.size (c : Command) : Slot → Nat
  | text _ => c.textSize
  | number _ width => width
  | tenfold _ width => width
  | tenths _ width => width
  | state _ => 1
  | sized _ => 22
  | year _ => 2
  | comma => 1

/-- Whether a slot is to be filled with a negative decimal. -/
def Slot.HasNegative (args : List String) : Slot → Prop
  | tenths index _ => ∃ v, decimal? args index = some v ∧ v < 0
  | _ => False

theorem argument_of_getElem? {arg : String} (h : args[index]? = some arg) :
    c.argument args index = .ok arg := by
  rw [argument, h]

theorem fill_text {arg : String} (h : args[index]? = some arg) :
    c.fill args (.text index) = .ok arg.toList := by
  rw [fill, argument_of_getElem? h]
  rfl

theorem fill_number {n : Nat} (h : c.integer args index = .ok n) :
    c.fill args (.number index width) = .ok (Digits.writePadded width n) := by
  rw [fill, h]
  rfl

theorem fill_tenfold {n : Nat} (h : c.integer args index = .ok n) :
    c.fill args (.tenfold index width) =
      .ok (Digits.writePadded width (saturate (10 * n))) := by
  rw [fill, h]
  rfl

theorem fill_state {arg : String} (h : args[index]? = some arg) :
    c.fill args (.state index) = .ok (if arg = "1" then ['E'] else ['D']) := by
  rw [fill, argument_of_getElem? h]
  rfl

theorem fill_sized {arg : String} (h : args[index]? = some arg) :
    c.fill args (.sized index) = .ok (Digits.writePadded 2 (Utf8.byteLength arg.toList) ++
      List.rightpad 20 '0' arg.toList) := by
  rw [fill, argument_of_getElem? h]
  rfl

theorem fill_year {n : Nat} (h : c.integer args index = .ok n) (hn : 2000 ≤ n) :
    c.fill args (.year index) = .ok (Digits.writePadded 2 (n - 2000)) := by
  rw [fill, h, ok_bind, if_neg (not_lt.mpr hn)]
  rfl

/-- A decimal is laid out as its tenths unless it is negative. -/
theorem fill_tenths {v : Rat} (h : decimal? args index = some v) (hv : 0 ≤ v) :
    c.fill args (.tenths index width) =
      .ok (Digits.writePadded width (saturate (Decimal.tenths v).toNat)) := by
  obtain ⟨arg, harg, hread⟩ := Option.bind_eq_some_iff.mp h
  have hfilter : (some v).filter (0 ≤ ·) = some v := by simp [hv]
  rw [fill, decimalTenths, argument_of_getElem? harg, ok_bind, hread, hfilter]
  rfl

/-- A negative decimal is refused. -/
theorem fill_tenths_of_neg {v : Rat} (h : decimal? args index = some v) (hv : v < 0) :
    ∃ arg, args[index]? = some arg ∧
      c.fill args (.tenths index width) = .error (.pack c.label (.notDecimal index arg)) := by
  obtain ⟨arg, harg, hread⟩ := Option.bind_eq_some_iff.mp h
  have hfilter : (some v).filter (0 ≤ ·) = none := by simp [hv]
  refine ⟨arg, harg, ?_⟩
  rw [fill, decimalTenths, argument_of_getElem? harg, ok_bind, hread, hfilter]
  rfl

/-- What fits into a register is not cut. -/
theorem saturate_of_lt {n : Nat} (hwidth : FitsRegister width) (h : n < 10 ^ width) :
    saturate n = n :=
  Nat.min_eq_left (Nat.le_sub_one_of_lt (hwidth.lt_registerBound h))

/-! ### Filled slots -/

/-- **Arguments that suit a slot fill it** unless the slot is for a decimal and gets a negative
one. -/
theorem exists_fill_iff (h : slot.Suits c args) :
    (∃ filled, c.fill args slot = .ok filled) ↔ ¬ slot.HasNegative args := by
  cases slot with
  | tenths index width =>
    obtain ⟨-, v, hv, -⟩ := h
    constructor
    · rintro ⟨filled, hfill⟩ ⟨v', hv', hneg⟩
      obtain ⟨arg, -, herror⟩ := fill_tenths_of_neg hv' hneg
      cases herror.symm.trans hfill
    · intro hnonneg
      exact ⟨_, fill_tenths hv (not_lt.mp fun hneg => hnonneg ⟨v, hv, hneg⟩)⟩
  | text index =>
    obtain ⟨arg, harg, -⟩ := h
    exact ⟨fun _ => not_false, fun _ => ⟨_, fill_text harg⟩⟩
  | number index width =>
    obtain ⟨-, n, hn, -⟩ := h
    exact ⟨fun _ => not_false, fun _ => ⟨_, fill_number hn⟩⟩
  | tenfold index width =>
    obtain ⟨-, n, hn, -⟩ := h
    exact ⟨fun _ => not_false, fun _ => ⟨_, fill_tenfold hn⟩⟩
  | state index =>
    obtain ⟨arg, harg, -⟩ := h
    exact ⟨fun _ => not_false, fun _ => ⟨_, fill_state harg⟩⟩
  | sized index =>
    obtain ⟨arg, harg, -⟩ := h
    exact ⟨fun _ => not_false, fun _ => ⟨_, fill_sized harg⟩⟩
  | year index =>
    obtain ⟨n, hn, hlow, -⟩ := h
    exact ⟨fun _ => not_false, fun _ => ⟨_, fill_year hn hlow⟩⟩
  | comma => exact ⟨fun _ => not_false, fun _ => ⟨_, rfl⟩⟩

/-- A number in digits has the size of its place, and prints. -/
theorem shape_writePadded {n : Nat} (hwidth : 0 < width) (h : n < 10 ^ width) :
    (Digits.writePadded width n).length = width ∧
      ∀ ch ∈ Digits.writePadded width n, IsPrinted ch :=
  ⟨Digits.length_writePadded hwidth h, fun _ hch =>
    isPrinted_of_isDigit (Digits.isDigit_of_mem_writePadded hch)⟩

/-- The tenths of a decimal that suits its place are a number of so many digits. -/
theorem toNat_tenths_lt {v : Rat} (h : Decimal.tenths v < 10 ^ width) :
    (Decimal.tenths v).toNat < 10 ^ width := by
  have hpos : 0 < 10 ^ width := Nat.pow_pos (by decide)
  rw [Int.toNat_lt' hpos]
  exact_mod_cast h

/-- **A filled slot has the size of the slot, and prints.** -/
theorem shape_of_fill (h : slot.Suits c args) (hfill : c.fill args slot = .ok filled) :
    filled.length = slot.size c ∧ ∀ ch ∈ filled, IsPrinted ch := by
  cases slot with
  | text index =>
    obtain ⟨arg, harg, hsize, halphanum⟩ := h
    obtain rfl := Except.ok.inj ((fill_text harg).symm.trans hfill)
    exact ⟨hsize, fun ch hch => isPrinted_of_isAlphanum (halphanum ch hch)⟩
  | number index width =>
    obtain ⟨hwidth, n, hn, hsmall⟩ := h
    obtain rfl := Except.ok.inj ((fill_number hn).symm.trans hfill)
    exact shape_writePadded hwidth.1 hsmall
  | tenfold index width =>
    obtain ⟨hwidth, n, hn, hsmall⟩ := h
    obtain rfl := Except.ok.inj ((fill_tenfold hn).symm.trans hfill)
    rw [saturate_of_lt hwidth hsmall]
    exact shape_writePadded hwidth.1 hsmall
  | tenths index width =>
    have hnonneg := (exists_fill_iff h).mp ⟨filled, hfill⟩
    obtain ⟨hwidth, v, hv, -, hsmall⟩ := h
    have hv0 : 0 ≤ v := not_lt.mp fun hneg => hnonneg ⟨v, hv, hneg⟩
    obtain rfl := Except.ok.inj ((fill_tenths hv hv0).symm.trans hfill)
    rw [saturate_of_lt hwidth (toNat_tenths_lt hsmall)]
    exact shape_writePadded hwidth.1 (toNat_tenths_lt hsmall)
  | state index =>
    obtain ⟨arg, harg, -⟩ := h
    obtain rfl := Except.ok.inj ((fill_state harg).symm.trans hfill)
    split_ifs
    · exact ⟨rfl, fun ch hch => List.mem_singleton.mp hch ▸ ⟨by decide, by decide⟩⟩
    · exact ⟨rfl, fun ch hch => List.mem_singleton.mp hch ▸ ⟨by decide, by decide⟩⟩
  | sized index =>
    obtain ⟨arg, harg, hsize, hdigits⟩ := h
    obtain rfl := Except.ok.inj ((fill_sized harg).symm.trans hfill)
    rw [Utf8.byteLength_of_isDigit hdigits]
    have hsmall : arg.toList.length < 10 ^ 2 := Nat.lt_of_le_of_lt hsize (by decide)
    obtain ⟨hlength, hprinted⟩ := shape_writePadded (by decide) hsmall
    constructor
    · rw [List.length_append, hlength, List.length_rightpad, Nat.max_eq_left hsize]
      rfl
    · intro ch hch
      rw [List.mem_append, List.rightpad, List.mem_append] at hch
      obtain hch | hch | hch := hch
      · exact hprinted ch hch
      · exact isPrinted_of_isDigit (hdigits ch hch)
      · exact List.eq_of_mem_replicate hch ▸ ⟨by decide, by decide⟩
  | year index =>
    obtain ⟨n, hn, hlow, hhigh⟩ := h
    obtain rfl := Except.ok.inj ((fill_year hn hlow).symm.trans hfill)
    have hsmall : n - 2000 < 10 ^ 2 := by omega
    exact shape_writePadded (by decide) hsmall
  | comma =>
    obtain rfl := Except.ok.inj hfill
    exact ⟨rfl, fun ch hch => List.mem_singleton.mp hch ▸ ⟨by decide, by decide⟩⟩

/-! ### What a filled slot tells -/

/-- Two lists of arguments agree about what is laid out in a slot: about the number where there is
one, and otherwise about the text. About a decimal, only its tenths are laid out. -/
def Slot.Agrees (c : Command) (args args' : List String) : Slot → Prop
  | number index _ | tenfold index _ | year index =>
    ∃ n, c.integer args index = .ok n ∧ c.integer args' index = .ok n
  | text index | state index | sized index => args[index]? = args'[index]?
  | tenths _ _ | comma => True

/-- A number in digits tells the number. -/
theorem eq_of_writePadded_eq {n n' : Nat}
    (h : Digits.writePadded width n = Digits.writePadded width n') : n = n' := by
  have hread := congrArg Digits.read? h
  rw [Digits.read?_writePadded, Digits.read?_writePadded] at hread
  exact Option.some.inj hread

/-- Texts of one size that are padded alike are the same. -/
theorem eq_of_rightpad_eq {n : Nat} {a : Char} {cs cs' : List Char} (hsize : cs.length = cs'.length)
    (h : List.rightpad n a cs = List.rightpad n a cs') : cs = cs' := by
  rw [List.rightpad, List.rightpad] at h
  exact (List.append_inj h hsize).1

/-- **A filled slot tells what was laid out in it.** -/
theorem agrees_of_fill_eq (h : slot.Suits c args) (h' : slot.Suits c args')
    (hfill : c.fill args slot = .ok filled) (hfill' : c.fill args' slot = .ok filled) :
    slot.Agrees c args args' := by
  have heq := hfill.trans hfill'.symm
  cases slot with
  | text index =>
    obtain ⟨arg, harg, -⟩ := h
    obtain ⟨arg', harg', -⟩ := h'
    rw [fill_text harg, fill_text harg', Except.ok.injEq, String.toList_inj] at heq
    exact harg.trans (heq ▸ harg'.symm)
  | number index width =>
    obtain ⟨-, n, hn, -⟩ := h
    obtain ⟨-, n', hn', -⟩ := h'
    rw [fill_number hn, fill_number hn', Except.ok.injEq] at heq
    exact ⟨n, hn, eq_of_writePadded_eq heq ▸ hn'⟩
  | tenfold index width =>
    obtain ⟨hwidth, n, hn, hsmall⟩ := h
    obtain ⟨-, n', hn', hsmall'⟩ := h'
    rw [fill_tenfold hn, fill_tenfold hn', Except.ok.injEq, saturate_of_lt hwidth hsmall,
      saturate_of_lt hwidth hsmall'] at heq
    obtain rfl := Nat.eq_of_mul_eq_mul_left (by decide) (eq_of_writePadded_eq heq)
    exact ⟨n, hn, hn'⟩
  | tenths index width => trivial
  | state index =>
    obtain ⟨arg, harg, hbit⟩ := h
    obtain ⟨arg', harg', hbit'⟩ := h'
    rw [fill_state harg, fill_state harg', Except.ok.injEq] at heq
    obtain rfl | rfl := hbit <;> obtain rfl | rfl := hbit'
    · exact harg.trans harg'.symm
    · exact absurd heq (by decide)
    · exact absurd heq (by decide)
    · exact harg.trans harg'.symm
  | sized index =>
    obtain ⟨arg, harg, hsize, hdigits⟩ := h
    obtain ⟨arg', harg', hsize', hdigits'⟩ := h'
    rw [fill_sized harg, fill_sized harg', Except.ok.injEq, Utf8.byteLength_of_isDigit hdigits,
      Utf8.byteLength_of_isDigit hdigits'] at heq
    -- the two digits in front tell the size, and the size tells the text from its padding
    have hlengths : (Digits.writePadded 2 arg.toList.length).length =
        (Digits.writePadded 2 arg'.toList.length).length := by
      rw [Digits.length_writePadded (by decide) (by omega),
        Digits.length_writePadded (by decide) (by omega)]
    obtain ⟨hfront, hback⟩ := List.append_inj heq hlengths
    have htext := eq_of_rightpad_eq (eq_of_writePadded_eq hfront) hback
    exact harg.trans (String.toList_inj.mp htext ▸ harg'.symm)
  | year index =>
    obtain ⟨n, hn, hlow, -⟩ := h
    obtain ⟨n', hn', hlow', -⟩ := h'
    rw [fill_year hn hlow, fill_year hn' hlow', Except.ok.injEq] at heq
    have hsame := eq_of_writePadded_eq heq
    obtain rfl : n = n' := by omega
    exact ⟨n, hn, hn'⟩
  | comma => trivial

/-! ### Filled layouts -/

theorem fillAll_cons_eq_ok {slots : List Slot} {text : List Char} :
    c.fillAll args (slot :: slots) = .ok text ↔ ∃ filled behind, c.fill args slot = .ok filled ∧
      c.fillAll args slots = .ok behind ∧ text = filled ++ behind := by
  simp only [fillAll, bind_eq_ok, pure_eq_ok]
  constructor
  · rintro ⟨filled, hfill, behind, hbehind, rfl⟩
    exact ⟨filled, behind, hfill, hbehind, rfl⟩
  · rintro ⟨filled, behind, hfill, hbehind, rfl⟩
    exact ⟨filled, hfill, behind, hbehind, rfl⟩

/-- **Arguments that suit a layout fill it** unless one of its decimals is negative. -/
theorem exists_fillAll_iff {slots : List Slot} (h : ∀ slot ∈ slots, slot.Suits c args) :
    (∃ text, c.fillAll args slots = .ok text) ↔ ∀ slot ∈ slots, ¬ slot.HasNegative args := by
  induction slots with
  | nil => exact ⟨fun _ => List.forall_mem_nil _, fun _ => ⟨[], rfl⟩⟩
  | cons slot slots ih =>
    obtain ⟨hslot, hslots⟩ := List.forall_mem_cons.mp h
    rw [List.forall_mem_cons, ← exists_fill_iff hslot, ← ih hslots]
    constructor
    · rintro ⟨text, htext⟩
      obtain ⟨filled, behind, hfill, hbehind, -⟩ := fillAll_cons_eq_ok.mp htext
      exact ⟨⟨filled, hfill⟩, behind, hbehind⟩
    · rintro ⟨⟨filled, hfill⟩, behind, hbehind⟩
      exact ⟨_, fillAll_cons_eq_ok.mpr ⟨filled, behind, hfill, hbehind, rfl⟩⟩

/-- **A filled layout has the size of its slots, and prints.** -/
theorem shape_of_fillAll {slots : List Slot} (h : ∀ slot ∈ slots, slot.Suits c args)
    {text : List Char} (htext : c.fillAll args slots = .ok text) :
    text.length = (slots.map (Slot.size c)).sum ∧ ∀ ch ∈ text, IsPrinted ch := by
  induction slots generalizing text with
  | nil =>
    obtain rfl := Except.ok.inj htext
    exact ⟨rfl, List.forall_mem_nil _⟩
  | cons slot slots ih =>
    obtain ⟨hslot, hslots⟩ := List.forall_mem_cons.mp h
    obtain ⟨filled, behind, hfill, hbehind, rfl⟩ := fillAll_cons_eq_ok.mp htext
    obtain ⟨hsize, hprinted⟩ := shape_of_fill hslot hfill
    obtain ⟨hsizes, hprinteds⟩ := ih hslots hbehind
    constructor
    · rw [List.length_append, hsize, hsizes, List.map_cons, List.sum_cons]
    · exact List.forall_mem_append.mpr ⟨hprinted, hprinteds⟩

/-- **A filled layout tells what was laid out**, slot by slot: the slots have fixed sizes, so that
each text can be cut off in front. -/
theorem agrees_of_fillAll_eq {slots : List Slot} (h : ∀ slot ∈ slots, slot.Suits c args)
    (h' : ∀ slot ∈ slots, slot.Suits c args') {text : List Char}
    (htext : c.fillAll args slots = .ok text) (htext' : c.fillAll args' slots = .ok text) :
    ∀ slot ∈ slots, slot.Agrees c args args' := by
  induction slots generalizing text with
  | nil => exact List.forall_mem_nil _
  | cons slot slots ih =>
    obtain ⟨hslot, hslots⟩ := List.forall_mem_cons.mp h
    obtain ⟨hslot', hslots'⟩ := List.forall_mem_cons.mp h'
    obtain ⟨filled, behind, hfill, hbehind, rfl⟩ := fillAll_cons_eq_ok.mp htext
    obtain ⟨filled', behind', hfill', hbehind', heq⟩ := fillAll_cons_eq_ok.mp htext'
    have hsizes : filled.length = filled'.length :=
      (shape_of_fill hslot hfill).1.trans (shape_of_fill hslot' hfill').1.symm
    obtain ⟨rfl, rfl⟩ := List.append_inj heq hsizes
    exact List.forall_mem_cons.mpr
      ⟨agrees_of_fill_eq hslot hslot' hfill hfill', ih hslots hslots' hbehind hbehind'⟩

end Command

end InverterLink
