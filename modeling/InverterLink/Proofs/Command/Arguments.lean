import InverterLink.Command.Packing
import InverterLink.Command.Request
import InverterLink.Proofs.Decimal.Binary64
import InverterLink.Proofs.Failure
import InverterLink.Proofs.Text.Digits

/-!
# What the checks of a request let through

The arguments that a request comes back with are made for the layout of its command. `Slot.Suits`
says, slot by slot, what that means: a text of the right size, a number of so many digits, a decimal
whose tenths have so many digits, a word for a state, a year of this century. Each check of a
request has a lemma that says what passes it, and from these follows, command by command, that what
passes all checks suits every slot of the layout.

## Main statements

* `Slot.Suits`: what a slot asks of arguments.
* `fits_of_normalise`: the arguments of an accepted request fit the layout of its command.
-/

namespace InverterLink

namespace Command

/-! ### What a slot asks of arguments -/

/-- Whether the first argument of a command is a year that is laid out as it is. -/
def startsWithYear : Command → Bool
  | getYearGenerated | getMonthGenerated | getDayGenerated => true
  | _ => false

/-- The size of the texts that are laid out as they are: a year, and otherwise an ordinal, a number
of one digit or a letter. -/
def textSize (c : Command) : Nat :=
  if c.startsWithYear then 4 else 1

/-- The least number of tenths that the checks of a command leave for a decimal. -/
def leastTenths (c : Command) (index : Nat) : Nat :=
  match c, index with
  | setBatteryMaxChargeVoltage, _ => 480
  | setBatteryChargeThresholds, 0 => 110
  | setBatteryCutOffVoltage, _ => 400
  | _, _ => 0

/-- The binary64 number that the argument at a position denotes, if there is one. -/
def decimal? (args : List String) (index : Nat) : Option Rat :=
  args[index]?.bind fun arg => Decimal.read? arg.toList

/-- Whether all numbers of so many digits fit into a register, and there are any. -/
def FitsRegister (width : Nat) : Prop :=
  0 < width ∧ width ≤ 9

instance (width : Nat) : Decidable (FitsRegister width) :=
  inferInstanceAs (Decidable (_ ∧ _))

theorem FitsRegister.lt_registerBound {n width : Nat} (h : FitsRegister width)
    (hn : n < 10 ^ width) : n < registerBound := by
  calc n < 10 ^ width := hn
    _ ≤ 10 ^ 9 := Nat.pow_le_pow_right (by decide) h.2
    _ < registerBound := by decide

/-- What a slot asks of the arguments of a command. -/
def Slot.Suits (c : Command) (args : List String) : Slot → Prop
  | text index => ∃ arg, args[index]? = some arg ∧ arg.toList.length = c.textSize ∧
      ∀ ch ∈ arg.toList, ch.isAlphanum = true
  | number index width => FitsRegister width ∧ ∃ n, c.integer args index = .ok n ∧ n < 10 ^ width
  | tenfold index width =>
    FitsRegister width ∧ ∃ n, c.integer args index = .ok n ∧ 10 * n < 10 ^ width
  | tenths index width => FitsRegister width ∧ ∃ v, decimal? args index = some v ∧
      (c.leastTenths index : Int) ≤ Decimal.tenths v ∧ Decimal.tenths v < 10 ^ width
  | state index => ∃ arg, args[index]? = some arg ∧ (arg = "0" ∨ arg = "1")
  | sized index => ∃ arg, args[index]? = some arg ∧ arg.toList.length ≤ 20 ∧
      ∀ ch ∈ arg.toList, ch.isDigit = true
  | year index => ∃ n, c.integer args index = .ok n ∧ 2000 ≤ n ∧ n < 2100
  | comma => True

/-- The position of the argument that fills a slot. -/
def Slot.index? : Slot → Option Nat
  | text index | number index _ | tenfold index _ | tenths index _ | state index | sized index
  | year index => some index
  | comma => none

/-- How many arguments a command lays out, each in one slot. -/
def laidOut (c : Command) : Nat :=
  (c.layout.filterMap Slot.index?).length

/-- Arguments that are made for the layout of a command. -/
structure Fits (c : Command) (args : List String) : Prop where
  length_eq : args.length = c.laidOut
  suits : ∀ slot ∈ c.layout, slot.Suits c args

/-! ### What passes a check -/

theorem require_eq_ok {α : Type} {subject : String} {o : Option α} {a : α} :
    require subject o = .ok a ↔ o = some a := by
  cases o with
  | none => simp [require, refuse]
  | some b => simp [require]

theorem ensure_eq_ok {subject : String} {condition : Bool} {u : Unit} :
    ensure subject condition = .ok u ↔ condition = true := by
  cases condition with
  | false => simp [ensure, refuse]
  | true => simp [ensure]

theorem checkBit_eq_ok {subject bit : String} {u : Unit} :
    checkBit subject bit = .ok u ↔ bit = "0" ∨ bit = "1" := by
  rw [checkBit]
  split_ifs with h <;> simp [h]

/-- What passes as a year has four digits. -/
theorem readYear?_eq_some {cs : List Char} {y : Nat} (h : readYear? cs = some y) :
    cs.length = 4 ∧ Digits.read? cs = some y ∧ 2000 ≤ y ∧ y ≤ 2099 := by
  rw [readYear?] at h
  split_ifs at h with hsize
  rw [Option.filter_eq_some_iff, Bool.and_eq_true, decide_eq_true_iff, decide_eq_true_iff] at h
  exact ⟨hsize, h.1, h.2⟩

/-- What passes as a part of a date or of a time is a number between the bounds. -/
theorem readPart?_eq_some {low high n : Nat} {cs : List Char} (h : readPart? low high cs = some n) :
    Digits.read? cs = some n ∧ low ≤ n ∧ n ≤ high := by
  rw [readPart?] at h
  split_ifs at h
  rw [Option.filter_eq_some_iff, Bool.and_eq_true, decide_eq_true_iff, decide_eq_true_iff] at h
  exact h

theorem checkDate_eq_ok {year month day : String} {u : Unit}
    (h : checkDate year month day = .ok u) :
    ∃ y m d, readYear? year.toList = some y ∧ readPart? 1 12 month.toList = some m ∧
      readPart? 1 31 day.toList = some d := by
  simp only [checkDate, checkYear, checkMonth, bind_eq_ok, require_eq_ok] at h
  obtain ⟨y, hy, m, hm, d, hd, -⟩ := h
  exact ⟨y, m, d, hy, hm, hd⟩

theorem checkClockPart_eq_ok {subject part : String} {greatest : Nat} {u : Unit}
    (h : checkClockPart subject greatest part = .ok u) :
    ∃ n, readPart? 0 greatest part.toList = some n := by
  simp only [checkClockPart, bind_eq_ok, require_eq_ok] at h
  obtain ⟨n, hn, -⟩ := h
  exact ⟨n, hn⟩

/-- What passes as a time of day is an hour and a minute. -/
theorem readClock?_eq_some {cs : List Char} {hour minute : Nat}
    (h : readClock? cs = some (hour, minute)) : hour ≤ 23 ∧ minute ≤ 59 := by
  rw [readClock?] at h
  split at h
  · simp only [Option.bind_eq_bind, Option.bind_eq_some_iff, Option.filter_eq_some_iff,
      decide_eq_true_iff, Option.pure_def, Option.some.injEq, Prod.mk.injEq] at h
    obtain ⟨_, ⟨-, hh⟩, _, ⟨-, hm⟩, rfl, rfl⟩ := h
    exact ⟨hh, hm⟩
  · cases h

/-- A word that is chosen becomes its ordinal. -/
theorem choose_eq_ok {choices : List String} {subject word ordinal : String}
    (h : choose choices subject word = .ok ordinal) :
    ∃ n < choices.length, ordinal = numeral n := by
  rw [choose, require_eq_ok, Option.map_eq_some_iff] at h
  obtain ⟨n, hn, rfl⟩ := h
  exact ⟨n, List.findIdx?_eq_some_iff_getElem.mp hn |>.1, rfl⟩

theorem checkParallelId_eq_ok {id checked : String} (h : checkParallelId id = .ok checked) :
    ∃ n ≤ Values.greatestParallelId, Digits.read? id.toList = some n ∧ checked = numeral n := by
  simp only [checkParallelId, bind_eq_ok, require_eq_ok, Option.filter_eq_some_iff, pure_eq_ok] at h
  obtain ⟨n, ⟨hread, hn⟩, rfl⟩ := h
  exact ⟨n, of_decide_eq_true hn, hread, rfl⟩

/-- What passes as one of listed voltages has one of the listed numbers of tenths. -/
theorem exists_mem_of_isListed {tables : List (List Nat)} {v : Rat}
    (h : Values.isListed tables v = true) :
    ∃ table ∈ tables, ∃ t ∈ table, Decimal.tenths v = (t : Int) := by
  rw [Values.isListed, Option.any_eq_true] at h
  obtain ⟨t, ht, hlisted⟩ := h
  rw [List.any_eq_true] at hlisted
  obtain ⟨table, htable, hmem⟩ := hlisted
  refine ⟨table, htable, t, List.contains_iff_mem.mp hmem, ?_⟩
  rw [Values.wholeTenths?] at ht
  split_ifs at ht with hfar
  rw [← Option.some.inj ht, Int.toNat_of_nonneg (not_lt.mp fun hneg => hfar (.inr hneg))]

/-- What passes as a voltage between two numbers of tenths has a number of tenths between both. -/
theorem tenths_mem_of_isBetween {low high : Nat} {v : Rat} (hhigh : high ≤ 9000)
    (horder : low ≤ high) (h : Values.isBetween low high v = true) :
    (low : Int) ≤ Decimal.tenths v ∧ Decimal.tenths v ≤ high := by
  rw [Values.isBetween, Bool.and_eq_true, decide_eq_true_iff, decide_eq_true_iff] at h
  exact Decimal.tenths_mem_of_between hhigh h horder

/-! ### What suits a slot -/

variable {c : Command} {args : List String} {index : Nat}

/-- A numeral among the arguments is read as its number. -/
theorem integer_of_read? {arg : String} {n : Nat} (harg : args[index]? = some arg)
    (h : Digits.read? arg.toList = some n) (hn : n < registerBound) :
    c.integer args index = .ok n := by
  rw [integer, argument, harg]
  simp only [bind_eq_ok, Except.ok.injEq, exists_eq_left', Digits.readSignedBelow?_of_read? h hn]
  rfl

theorem suits_number {arg : String} {n width : Nat} (harg : args[index]? = some arg)
    (h : Digits.read? arg.toList = some n) (hn : n < 10 ^ width)
    (hwidth : FitsRegister width) : Slot.Suits c args (.number index width) :=
  ⟨hwidth, n, integer_of_read? harg h (hwidth.lt_registerBound hn), hn⟩

/-- A number that a check has written suits a place for numbers. -/
theorem suits_number_of_numeral {n width : Nat} (harg : args[index]? = some (numeral n))
    (hn : n < 10 ^ width) (hwidth : FitsRegister width) :
    Slot.Suits c args (.number index width) := by
  refine suits_number harg ?_ hn hwidth
  rw [numeral, String.toList_ofList, Digits.read?_write]

/-- A number of one digit that a check has written suits a place for texts. -/
theorem suits_text_of_numeral {n : Nat} (harg : args[index]? = some (numeral n)) (hn : n < 10)
    (hc : c.textSize = 1) : Slot.Suits c args (.text index) := by
  refine ⟨_, harg, ?_, fun ch hch => ?_⟩
  · rw [numeral, String.toList_ofList, Digits.length_write_of_lt hn, hc]
  · rw [numeral, String.toList_ofList] at hch
    have hdigit := Nat.isDigit_of_mem_toDigits (by decide) (by decide) hch
    simp [Char.isAlphanum, hdigit]

/-- A bit suits a place for texts. -/
theorem suits_text_of_bit {bit : String} (harg : args[index]? = some bit)
    (hbit : bit = "0" ∨ bit = "1") (hc : c.textSize = 1) : Slot.Suits c args (.text index) := by
  obtain ⟨ch, hch, hletter⟩ : ∃ ch : Char, bit.toList = [ch] ∧ ch.isAlphanum = true := by
    obtain rfl | rfl := hbit
    · exact ⟨'0', rfl, rfl⟩
    · exact ⟨'1', rfl, rfl⟩
  refine ⟨bit, harg, ?_, ?_⟩
  · rw [hch, hc, List.length_singleton]
  · rw [hch]
    exact List.forall_mem_singleton.mpr hletter

/-- A year that has been checked suits the place of a year. -/
theorem suits_text_of_year {arg : String} {y : Nat} (harg : args[index]? = some arg)
    (h : readYear? arg.toList = some y) (hc : c.textSize = 4) :
    Slot.Suits c args (.text index) := by
  obtain ⟨hsize, hread, -⟩ := readYear?_eq_some h
  have hdigits := (Digits.isNumeral_iff.mp (Digits.read?_eq_some_iff.mp hread).1).2
  exact ⟨arg, harg, hsize.trans hc.symm, fun ch hch => by simp [Char.isAlphanum, hdigits ch hch]⟩

theorem suits_year {arg : String} {y : Nat} (harg : args[index]? = some arg)
    (h : readYear? arg.toList = some y) : Slot.Suits c args (.year index) := by
  obtain ⟨-, hread, hlow, hhigh⟩ := readYear?_eq_some h
  refine ⟨y, integer_of_read? harg hread ?_, hlow, Nat.lt_succ_of_le hhigh⟩
  exact Nat.lt_of_le_of_lt hhigh (by decide)

/-- A part of a date or of a time that has been checked suits the place of two digits. -/
theorem suits_part {arg : String} {low high n : Nat} (harg : args[index]? = some arg)
    (h : readPart? low high arg.toList = some n) (hhigh : high ≤ 59) :
    Slot.Suits c args (.number index 2) := by
  obtain ⟨hread, -, hle⟩ := readPart?_eq_some h
  exact suits_number harg hread (by omega) (by decide)

/-- The letters of the switches suit a place for texts. -/
theorem suits_text_of_switch {name : String} {switch : Switch}
    (harg : args[index]? = some (String.singleton switch.letter))
    (h : Switch.find? name = some switch) (hc : c.textSize = 1) :
    Slot.Suits c args (.text index) := by
  have hletters : ∀ s ∈ Switch.all, s.letter.isAlphanum = true := by decide
  refine ⟨_, harg, ?_, fun ch hch => ?_⟩
  · rw [String.toList_singleton, List.length_singleton, hc]
  · rw [String.toList_singleton, List.mem_singleton] at hch
    exact hch ▸ hletters switch (List.mem_of_find?_eq_some h)

/-- A voltage whose tenths are known suits its place. -/
theorem suits_tenths {arg : String} {v : Rat} {low high width : Nat}
    (harg : args[index]? = some arg) (h : Decimal.read? arg.toList = some v)
    (hv : (low : Int) ≤ Decimal.tenths v ∧ Decimal.tenths v ≤ high)
    (hlow : c.leastTenths index = low) (hhigh : FitsRegister width ∧ high < 10 ^ width) :
    Slot.Suits c args (.tenths index width) := by
  refine ⟨hhigh.1, v, ?_, ?_, ?_⟩
  · rw [decimal?, harg, Option.bind_some, h]
  · rw [hlow]
    exact hv.1
  · exact lt_of_le_of_lt hv.2 (by exact_mod_cast hhigh.2)

/-- A voltage that is listed has tenths between the least and the greatest that are listed. -/
theorem tenths_mem_of_isListed {tables : List (List Nat)} {v : Rat} {low high : Nat}
    (htables : ∀ table ∈ tables, ∀ t ∈ table, low ≤ t ∧ t ≤ high)
    (h : Values.isListed tables v = true) :
    (low : Int) ≤ Decimal.tenths v ∧ Decimal.tenths v ≤ high := by
  obtain ⟨table, htable, t, ht, heq⟩ := exists_mem_of_isListed h
  obtain ⟨hlow, hhigh⟩ := htables table htable t ht
  rw [heq]
  exact ⟨by exact_mod_cast hlow, by exact_mod_cast hhigh⟩

/-! ### The arguments of an accepted request -/

/-- **What passes all checks fits the layout** of the command. -/
theorem fits_of_normalise {normalised : List String} (hlength : args.length = c.arity)
    (h : c.normalise args = .ok normalised) : c.Fits normalised := by
  cases c with
  | getYearGenerated =>
    obtain ⟨year, rfl⟩ := List.length_eq_one_iff.mp hlength
    simp only [normalise, checkYear, bind_eq_ok, require_eq_ok, pure_eq_ok] at h
    obtain ⟨y, hy, rfl⟩ := h
    exact ⟨rfl, List.forall_mem_singleton.mpr (suits_text_of_year rfl hy rfl)⟩
  | getMonthGenerated =>
    obtain ⟨year, month, rfl⟩ := List.length_eq_two.mp hlength
    simp only [normalise, checkYear, checkMonth, bind_eq_ok, require_eq_ok, pure_eq_ok] at h
    obtain ⟨y, hy, m, hm, rfl⟩ := h
    refine ⟨rfl, ?_⟩
    simp only [layout, List.forall_mem_cons]
    exact ⟨suits_text_of_year rfl hy rfl, suits_part rfl hm (by decide), List.forall_mem_nil _⟩
  | getDayGenerated =>
    obtain ⟨year, month, day, rfl⟩ := List.length_eq_three.mp hlength
    simp only [normalise, bind_eq_ok, pure_eq_ok] at h
    obtain ⟨_, hdate, rfl⟩ := h
    obtain ⟨y, m, d, hy, hm, hd⟩ := checkDate_eq_ok hdate
    refine ⟨rfl, ?_⟩
    simp only [layout, List.forall_mem_cons]
    exact ⟨suits_text_of_year rfl hy rfl, suits_part rfl hm (by decide),
      suits_part rfl hd (by decide), List.forall_mem_nil _⟩
  | getParallelRatedInformation | getParallelGeneralStatus =>
    obtain ⟨id, rfl⟩ := List.length_eq_one_iff.mp hlength
    simp only [normalise, bind_eq_ok, ensure_eq_ok, pure_eq_ok] at h
    obtain ⟨_, hid, rfl⟩ := h
    rw [Bool.and_eq_true, decide_eq_true_iff] at hid
    exact ⟨rfl, List.forall_mem_singleton.mpr
      (suits_number rfl (Digits.read?_eq_some_iff.mpr ⟨hid.2, rfl⟩)
        (Digits.ofDigitChars_lt_of_length_le hid.2 hid.1) (by decide))⟩
  | setAcSupply =>
    obtain ⟨bit, rfl⟩ := List.length_eq_one_iff.mp hlength
    simp only [normalise, bind_eq_ok, checkBit_eq_ok, pure_eq_ok] at h
    obtain ⟨_, hbit, rfl⟩ := h
    exact ⟨rfl, List.forall_mem_singleton.mpr (suits_text_of_bit rfl hbit rfl)⟩
  | setFlag =>
    obtain ⟨name, bit, rfl⟩ := List.length_eq_two.mp hlength
    simp only [normalise, bind_eq_ok, require_eq_ok, checkBit_eq_ok, pure_eq_ok] at h
    obtain ⟨switch, hswitch, _, hbit, rfl⟩ := h
    refine ⟨rfl, ?_⟩
    simp only [layout, List.forall_mem_cons]
    exact ⟨⟨bit, rfl, hbit⟩, suits_text_of_switch rfl hswitch rfl, List.forall_mem_nil _⟩
  | setBatteryMaxChargeCurrent | setBatteryMaxAcChargeCurrent =>
    obtain ⟨id, amps, rfl⟩ := List.length_eq_two.mp hlength
    simp only [normalise, bind_eq_ok, require_eq_ok, Option.filter_eq_some_iff,
      decide_eq_true_iff, pure_eq_ok] at h
    obtain ⟨checked, hid, n, ⟨-, hn⟩, rfl⟩ := h
    obtain ⟨i, hi, -, rfl⟩ := checkParallelId_eq_ok hid
    refine ⟨rfl, ?_⟩
    simp only [layout, List.forall_mem_cons]
    exact ⟨suits_text_of_numeral rfl (lt_of_le_of_lt hi (by decide)) rfl, trivial,
      suits_number_of_numeral rfl (by omega) (by decide), List.forall_mem_nil _⟩
  | setAcOutputFreq =>
    obtain ⟨freq, rfl⟩ := List.length_eq_one_iff.mp hlength
    rw [normalise] at h
    split_ifs at h with hfreq
    obtain rfl := Except.ok.inj h
    refine ⟨rfl, List.forall_mem_singleton.mpr ?_⟩
    obtain rfl | rfl := hfreq
    · exact suits_number rfl (n := 50) (by decide) (by decide) (by decide)
    · exact suits_number rfl (n := 60) (by decide) (by decide) (by decide)
  | setBatteryMaxChargeVoltage =>
    obtain ⟨constant, floating, rfl⟩ := List.length_eq_two.mp hlength
    simp only [normalise, readVoltage, bind_eq_ok, require_eq_ok, ensure_eq_ok, pure_eq_ok] at h
    obtain ⟨cv, hcv, fv, hfv, _, hcvRange, _, hfvRange, rfl⟩ := h
    refine ⟨rfl, ?_⟩
    simp only [layout, List.forall_mem_cons]
    exact ⟨suits_tenths rfl hcv (tenths_mem_of_isBetween (by decide) (by decide) hcvRange) rfl
        (by decide), trivial,
      suits_tenths rfl hfv (tenths_mem_of_isBetween (by decide) (by decide) hfvRange) rfl
        (by decide), List.forall_mem_nil _⟩
  | setAcOutputVoltage =>
    obtain ⟨voltage, rfl⟩ := List.length_eq_one_iff.mp hlength
    simp only [normalise, bind_eq_ok, require_eq_ok, Option.filter_eq_some_iff, pure_eq_ok] at h
    obtain ⟨v, ⟨-, hv⟩, rfl⟩ := h
    have hsmall : ∀ v ∈ Values.outputVoltages, 10 * v < 10 ^ 4 := by decide
    have hv' := hsmall v (List.contains_iff_mem.mp hv)
    refine ⟨rfl, List.forall_mem_singleton.mpr
      ⟨by decide, v, integer_of_read? rfl ?_ ?_, hv'⟩⟩
    · rw [numeral, String.toList_ofList, Digits.read?_write]
    · exact lt_of_lt_of_le (by omega : v < 10 ^ 4) (by decide)
  | setOutputSourcePriority | setSolarPowerPriority | setAcInputVoltageRange | setBatteryType =>
    obtain ⟨word, rfl⟩ := List.length_eq_one_iff.mp hlength
    simp only [normalise, bind_eq_ok, pure_eq_ok] at h
    obtain ⟨ordinal, hword, rfl⟩ := h
    obtain ⟨n, hn, rfl⟩ := choose_eq_ok hword
    exact ⟨rfl, List.forall_mem_singleton.mpr
      (suits_text_of_numeral rfl (lt_of_lt_of_le hn (by decide)) rfl)⟩
  | setBatteryChargeThresholds =>
    obtain ⟨recharge, redischarge, rfl⟩ := List.length_eq_two.mp hlength
    simp only [normalise, readVoltage, bind_eq_ok, require_eq_ok, ensure_eq_ok, pure_eq_ok] at h
    obtain ⟨cv, hcv, dv, hdv, _, hcvListed, _, hdvListed, rfl⟩ := h
    refine ⟨rfl, ?_⟩
    simp only [layout, List.forall_mem_cons]
    have hcvTenths := tenths_mem_of_isListed (by decide : ∀ table ∈ Values.rechargeVoltages,
      ∀ t ∈ table, 110 ≤ t ∧ t ≤ 510) hcvListed
    have hdvTenths := tenths_mem_of_isListed (by decide : ∀ table ∈ Values.redischargeVoltages,
      ∀ t ∈ table, 0 ≤ t ∧ t ≤ 580) hdvListed
    exact ⟨suits_tenths rfl hcv hcvTenths rfl (by decide), trivial,
      suits_tenths rfl hdv hdvTenths rfl (by decide), List.forall_mem_nil _⟩
  | setChargeSourcePriority | setOutputMode =>
    obtain ⟨id, word, rfl⟩ := List.length_eq_two.mp hlength
    simp only [normalise, bind_eq_ok, pure_eq_ok] at h
    obtain ⟨checked, hid, ordinal, hword, rfl⟩ := h
    obtain ⟨i, hi, -, rfl⟩ := checkParallelId_eq_ok hid
    obtain ⟨n, hn, rfl⟩ := choose_eq_ok hword
    refine ⟨rfl, ?_⟩
    simp only [layout, List.forall_mem_cons]
    exact ⟨suits_text_of_numeral rfl (lt_of_le_of_lt hi (by decide)) rfl, trivial,
      suits_text_of_numeral rfl (lt_of_lt_of_le hn (by decide)) rfl, List.forall_mem_nil _⟩
  | setBatteryCutOffVoltage =>
    obtain ⟨voltage, rfl⟩ := List.length_eq_one_iff.mp hlength
    simp only [normalise, readVoltage, bind_eq_ok, require_eq_ok, ensure_eq_ok, pure_eq_ok] at h
    obtain ⟨v, hv, _, hrange, rfl⟩ := h
    exact ⟨rfl, List.forall_mem_singleton.mpr (suits_tenths rfl hv
      (tenths_mem_of_isBetween (by decide) (by decide) hrange) rfl (by decide))⟩
  | setSolarConfig =>
    obtain ⟨serial, rfl⟩ := List.length_eq_one_iff.mp hlength
    simp only [normalise, bind_eq_ok, ensure_eq_ok, pure_eq_ok] at h
    obtain ⟨_, hserial, rfl⟩ := h
    rw [Bool.and_eq_true, decide_eq_true_iff] at hserial
    exact ⟨rfl, List.forall_mem_singleton.mpr
      ⟨serial, rfl, hserial.2, (Digits.isNumeral_iff.mp hserial.1).2⟩⟩
  | setDateTime =>
    have hsix : args.length = 6 := hlength
    match args, hsix with
    | [year, month, day, hour, minute, second], _ =>
    simp only [normalise, bind_eq_ok, pure_eq_ok] at h
    obtain ⟨_, hdate, _, hhour, _, hminute, _, hsecond, rfl⟩ := h
    obtain ⟨y, m, d, hy, hm, hd⟩ := checkDate_eq_ok hdate
    obtain ⟨hh, hhour⟩ := checkClockPart_eq_ok hhour
    obtain ⟨mm, hminute⟩ := checkClockPart_eq_ok hminute
    obtain ⟨ss, hsecond⟩ := checkClockPart_eq_ok hsecond
    refine ⟨rfl, ?_⟩
    simp only [layout, List.forall_mem_cons]
    exact ⟨suits_year rfl hy, suits_part rfl hm (by decide), suits_part rfl hd (by decide),
      suits_part rfl hhour (by decide), suits_part rfl hminute (by decide),
      suits_part rfl hsecond (by decide), List.forall_mem_nil _⟩
  | setAcChargeTimeBucket | setAcSupplyTimeBucket =>
    obtain ⟨start, stop, rfl⟩ := List.length_eq_two.mp hlength
    simp only [normalise, bind_eq_ok, require_eq_ok, pure_eq_ok] at h
    obtain ⟨⟨startHour, startMinute⟩, hstart, ⟨stopHour, stopMinute⟩, hstop, rfl⟩ := h
    obtain ⟨hstartHour, hstartMinute⟩ := readClock?_eq_some hstart
    obtain ⟨hstopHour, hstopMinute⟩ := readClock?_eq_some hstop
    refine ⟨rfl, ?_⟩
    simp only [layout, List.forall_mem_cons]
    exact ⟨suits_number_of_numeral rfl (by omega) (by decide),
      suits_number_of_numeral rfl (by omega) (by decide), trivial,
      suits_number_of_numeral rfl (by omega) (by decide),
      suits_number_of_numeral rfl (by omega) (by decide), List.forall_mem_nil _⟩
  | _ =>
    -- the queries, which take no arguments and lay out none
    obtain rfl := List.length_eq_zero_iff.mp hlength
    obtain rfl := Except.ok.inj h
    exact ⟨rfl, List.forall_mem_nil _⟩

/-- The command and the checked arguments of an accepted request. -/
theorem ofRequest_eq_ok {name : String} {normalised : List String}
    (h : ofRequest name args = .ok (c, normalised)) :
    ofName? name = some c ∧ args.length = c.arity ∧ c.normalise args = .ok normalised := by
  simp only [ofRequest, bind_eq_ok, require_eq_ok] at h
  obtain ⟨command, hname, h⟩ := h
  split_ifs at h with hlength
  simp only [bind_eq_ok, pure_eq_ok, Prod.mk.injEq] at h
  obtain ⟨checked, hnormalise, rfl, rfl⟩ := h
  exact ⟨hname, hlength, hnormalise⟩

end Command

end InverterLink
