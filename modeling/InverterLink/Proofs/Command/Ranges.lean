import InverterLink.Proofs.Command.Frames

/-!
# What goes out is in range

The checks of a request look at the decimal that was typed, and the frame carries its tenths, which
are rounded from the text once more. Nevertheless no setting goes out of its range: the ends of
every range are tenths themselves, so that what lies between them has its tenths between them, and
what is close to a listed voltage has the tenths of this voltage. The numbers that are not decimals
go out as they were typed.

The tenths that go out differ by a half at most from ten times what was typed, and by a little more
that is due to the rounding to binary64.

## Main definitions

* `HoldsTenths`: digits that go out for a decimal.
* `HoldsNumber`: digits that go out for a natural number.

## Main statements

* `ranges_of_frame`: what the frames of the commands with numbers and decimals hold.
-/

namespace InverterLink.Command

variable {c : Command} {args normalised : List String} {packed filled : List Char} {index : Nat}

/-! ### Digits that go out -/

/-- Three digits that hold a number of tenths, at most 0.500001 away from ten times what was typed,
both as a binary64 number and exactly. -/
structure HoldsTenths (typed : String) (digits : List Char) (n : Nat) : Prop where
  length_eq : digits.length = 3
  read?_eq : Digits.read? digits = some n
  near_binary64 : ∃ v, Decimal.read? typed.toList = some v ∧ |(n : Rat) - 10 * v| ≤ 0.500001
  near_exact : ∃ l, Decimal.Literal.ofText? typed.toList = some l ∧
    |(n : Rat) - 10 * l.value| ≤ 0.500001

/-- So many digits that hold `factor` times the natural number that was typed. -/
structure HoldsNumber (width factor : Nat) (typed : String) (digits : List Char) (n : Nat) :
    Prop where
  length_eq : digits.length = width
  read?_eq : Digits.read? digits = some (factor * n)
  typed_eq : Digits.read? typed.toList = some n

/-- A decimal with tenths of three digits is laid out as these. -/
theorem holdsTenths_of_fill {typed : String} {v : Rat} {n : Nat} (hn : n < 10 ^ 3)
    (htyped : args[index]? = some typed) (hread : Decimal.read? typed.toList = some v)
    (htenths : Decimal.tenths v = n) (hfill : c.fill args (.tenths index 3) = .ok filled) :
    HoldsTenths typed filled n := by
  have hdecimal : decimal? args index = some v := by
    rw [decimal?, htyped, Option.bind_some, hread]
  have hnonneg : 0 ≤ v := by
    by_contra hneg
    obtain ⟨arg, -, herror⟩ : ∃ arg, args[index]? = some arg ∧ c.fill args (.tenths index 3) =
        .error (.pack c.label (.notDecimal index arg)) :=
      fill_tenths_of_neg hdecimal (not_le.mp hneg)
    cases herror.symm.trans hfill
  have hfilled : filled = Digits.writePadded 3 n := by
    refine Except.ok.inj (hfill.symm.trans ((fill_tenths hdecimal hnonneg).trans ?_))
    have hwidth : FitsRegister 3 := by decide
    rw [htenths, Int.toNat_natCast, saturate_of_lt hwidth hn]
  have hcast : (Decimal.tenths v : Rat) = n := by
    rw [htenths]
    exact Int.cast_natCast n
  have hsize : |(Decimal.tenths v : Rat)| ≤ 1000 := by
    rw [hcast, Nat.abs_cast]
    exact_mod_cast hn.le
  obtain ⟨l, hliteral, hnearest⟩ := Option.bind_eq_some_iff.mp hread
  have hbinary := Decimal.abs_tenths_sub_le hsize
  have hexact := Decimal.Literal.abs_tenths_sub_value_le hnearest hsize
  rw [hcast] at hbinary hexact
  exact {
    length_eq := hfilled ▸ Digits.length_writePadded (by decide) hn
    read?_eq := hfilled ▸ Digits.read?_writePadded 3 n
    near_binary64 := ⟨v, hread, hbinary.trans (by norm_num)⟩
    near_exact := ⟨l, hliteral, hexact.trans (by norm_num)⟩ }

/-- A voltage between two numbers of tenths is laid out as one between both. -/
theorem exists_holdsTenths_of_isBetween {typed : String} {v : Rat} {low high : Nat}
    (horder : low ≤ high) (hhigh : high < 10 ^ 3) (htyped : args[index]? = some typed)
    (hread : Decimal.read? typed.toList = some v) (hrange : Values.isBetween low high v = true)
    (hfill : c.fill args (.tenths index 3) = .ok filled) :
    ∃ n, HoldsTenths typed filled n ∧ low ≤ n ∧ n ≤ high := by
  obtain ⟨hlow, hle⟩ := tenths_mem_of_isBetween (by omega) horder hrange
  obtain ⟨n, hn⟩ := Int.eq_ofNat_of_zero_le (Int.le_trans (Int.natCast_nonneg low) hlow)
  rw [hn] at hlow hle
  have hlow' : low ≤ n := Int.ofNat_le.mp hlow
  have hle' : n ≤ high := Int.ofNat_le.mp hle
  exact ⟨n, holdsTenths_of_fill (by omega) htyped hread hn hfill, hlow', hle'⟩

/-- A listed voltage is laid out as the number of tenths that is listed. -/
theorem exists_holdsTenths_of_isListed {typed : String} {v : Rat} {tables : List (List Nat)}
    (htables : ∀ n ∈ tables.flatten, n < 10 ^ 3) (htyped : args[index]? = some typed)
    (hread : Decimal.read? typed.toList = some v) (hlisted : Values.isListed tables v = true)
    (hfill : c.fill args (.tenths index 3) = .ok filled) :
    ∃ n ∈ tables.flatten, HoldsTenths typed filled n := by
  obtain ⟨table, htable, n, hn, htenths⟩ := exists_mem_of_isListed hlisted
  have hmem : n ∈ tables.flatten := List.mem_flatten.mpr ⟨table, htable, hn⟩
  exact ⟨n, hmem, holdsTenths_of_fill (htables n hmem) htyped hread htenths hfill⟩

/-! ### Layouts -/

theorem fill_of_pack_single {slot : Slot} (hlayout : c.layout = [slot])
    (hpack : c.pack args = .ok packed) : c.fill args slot = .ok packed := by
  rw [pack, hlayout] at hpack
  obtain ⟨filled, behind, hfill, hnil, rfl⟩ := fillAll_cons_eq_ok.mp hpack
  obtain rfl := Except.ok.inj hnil
  rwa [List.append_nil]

theorem fill_of_pack_pair {slot slot' : Slot} (hlayout : c.layout = [slot, .comma, slot'])
    (hpack : c.pack args = .ok packed) : ∃ first second, packed = first ++ ',' :: second ∧
      c.fill args slot = .ok first ∧ c.fill args slot' = .ok second := by
  rw [pack, hlayout] at hpack
  obtain ⟨first, behind, hfirst, hbehind, rfl⟩ := fillAll_cons_eq_ok.mp hpack
  obtain ⟨comma, rest, hcomma, hrest, rfl⟩ := fillAll_cons_eq_ok.mp hbehind
  obtain ⟨second, last, hsecond, hlast, rfl⟩ := fillAll_cons_eq_ok.mp hrest
  obtain rfl := Except.ok.inj hcomma
  obtain rfl := Except.ok.inj hlast
  exact ⟨first, second, by rw [List.append_nil]; rfl, hfirst, hsecond⟩

/-! ### Commands -/

/-- Both charge voltages go out between 48 and 58.4 volts. -/
theorem range_maxChargeVoltage (hlength : args.length = arity .setBatteryMaxChargeVoltage)
    (h : normalise .setBatteryMaxChargeVoltage args = .ok normalised)
    (hpack : pack .setBatteryMaxChargeVoltage normalised = .ok packed) :
    ∃ constant floating first second, args = [constant, floating] ∧
      packed = first ++ ',' :: second ∧
      (∃ n, HoldsTenths constant first n ∧ 480 ≤ n ∧ n ≤ 584) ∧
      ∃ n, HoldsTenths floating second n ∧ 480 ≤ n ∧ n ≤ 584 := by
  obtain ⟨constant, floating, rfl⟩ := List.length_eq_two.mp hlength
  simp only [normalise, readVoltage, bind_eq_ok, require_eq_ok, ensure_eq_ok, pure_eq_ok] at h
  obtain ⟨cv, hcv, fv, hfv, _, hcvRange, _, hfvRange, rfl⟩ := h
  obtain ⟨first, second, hpacked, hfirst, hsecond⟩ := fill_of_pack_pair rfl hpack
  exact ⟨constant, floating, first, second, rfl, hpacked,
    exists_holdsTenths_of_isBetween (by decide) (by decide) rfl hcv hcvRange hfirst,
    exists_holdsTenths_of_isBetween (by decide) (by decide) rfl hfv hfvRange hsecond⟩

/-- The cut-off voltage goes out between 40 and 48 volts. -/
theorem range_cutOffVoltage (hlength : args.length = arity .setBatteryCutOffVoltage)
    (h : normalise .setBatteryCutOffVoltage args = .ok normalised)
    (hpack : pack .setBatteryCutOffVoltage normalised = .ok packed) :
    ∃ voltage, args = [voltage] ∧ ∃ n, HoldsTenths voltage packed n ∧ 400 ≤ n ∧ n ≤ 480 := by
  obtain ⟨voltage, rfl⟩ := List.length_eq_one_iff.mp hlength
  simp only [normalise, readVoltage, bind_eq_ok, require_eq_ok, ensure_eq_ok, pure_eq_ok] at h
  obtain ⟨v, hv, _, hrange, rfl⟩ := h
  exact ⟨voltage, rfl, exists_holdsTenths_of_isBetween (by decide) (by decide) rfl hv hrange
    (fill_of_pack_single rfl hpack)⟩

/-- Both thresholds go out as listed voltages. -/
theorem range_chargeThresholds (hlength : args.length = arity .setBatteryChargeThresholds)
    (h : normalise .setBatteryChargeThresholds args = .ok normalised)
    (hpack : pack .setBatteryChargeThresholds normalised = .ok packed) :
    ∃ recharge redischarge first second, args = [recharge, redischarge] ∧
      packed = first ++ ',' :: second ∧
      (∃ n ∈ Values.rechargeVoltages.flatten, HoldsTenths recharge first n) ∧
      ∃ n ∈ Values.redischargeVoltages.flatten, HoldsTenths redischarge second n := by
  obtain ⟨recharge, redischarge, rfl⟩ := List.length_eq_two.mp hlength
  simp only [normalise, readVoltage, bind_eq_ok, require_eq_ok, ensure_eq_ok, pure_eq_ok] at h
  obtain ⟨cv, hcv, dv, hdv, _, hcvListed, _, hdvListed, rfl⟩ := h
  obtain ⟨first, second, hpacked, hfirst, hsecond⟩ := fill_of_pack_pair rfl hpack
  exact ⟨recharge, redischarge, first, second, rfl, hpacked,
    exists_holdsTenths_of_isListed (by decide) rfl hcv hcvListed hfirst,
    exists_holdsTenths_of_isListed (by decide) rfl hdv hdvListed hsecond⟩

/-- The number of a device and a current in amperes go out as they were typed. -/
theorem range_chargeCurrent
    (hc : c = .setBatteryMaxChargeCurrent ∨ c = .setBatteryMaxAcChargeCurrent)
    (hlength : args.length = c.arity) (h : c.normalise args = .ok normalised)
    (hpack : c.pack normalised = .ok packed) :
    ∃ id amps first second, args = [id, amps] ∧ packed = first ++ ',' :: second ∧
      (∃ n, HoldsNumber 1 1 id first n ∧ n ≤ 6) ∧ ∃ n, HoldsNumber 3 1 amps second n ∧ n ≤ 999 := by
  obtain ⟨id, amps, rfl⟩ : ∃ id amps, args = [id, amps] := by
    obtain rfl | rfl := hc
    · exact List.length_eq_two.mp hlength
    · exact List.length_eq_two.mp hlength
  obtain ⟨i, n, hi, hid, hn, hamps, rfl⟩ :
      ∃ i n, i ≤ 6 ∧ Digits.read? id.toList = some i ∧ n ≤ 999 ∧
      Digits.read? amps.toList = some n ∧ normalised = [numeral i, numeral n] := by
    obtain rfl | rfl := hc
    all_goals
      simp only [normalise, bind_eq_ok, require_eq_ok, Option.filter_eq_some_iff,
        decide_eq_true_iff, pure_eq_ok] at h
      obtain ⟨checked, hchecked, n, ⟨hamps, hn⟩, rfl⟩ := h
      obtain ⟨i, hi, hid, rfl⟩ := checkParallelId_eq_ok hchecked
      exact ⟨i, n, hi, hid, hn, hamps, rfl⟩
  obtain ⟨first, second, hpacked, hfirst, hsecond⟩ :=
    fill_of_pack_pair (by obtain rfl | rfl := hc <;> rfl) hpack
  have hfilled : first = Digits.write i := by
    refine Except.ok.inj (hfirst.symm.trans ((fill_text rfl).trans ?_))
    rw [numeral, String.toList_ofList]
  have hfilled' : second = Digits.writePadded 3 n := by
    refine Except.ok.inj (hsecond.symm.trans (fill_number (integer_of_read? rfl ?_ ?_)))
    · rw [numeral, String.toList_ofList, Digits.read?_write]
    · exact Nat.lt_of_le_of_lt hn (by decide)
  refine ⟨id, amps, first, second, rfl, hpacked, ⟨i, ⟨?_, ?_, hid⟩, hi⟩, n, ⟨?_, ?_, hamps⟩, hn⟩
  · rw [hfilled, Digits.length_write_of_lt (by omega)]
  · rw [hfilled, Digits.read?_write, Nat.one_mul]
  · rw [hfilled', Digits.length_writePadded (by decide) (by omega)]
  · rw [hfilled', Digits.read?_writePadded, Nat.one_mul]

/-- The output voltage goes out as ten times the one that was typed. -/
theorem range_outputVoltage (hlength : args.length = arity .setAcOutputVoltage)
    (h : normalise .setAcOutputVoltage args = .ok normalised)
    (hpack : pack .setAcOutputVoltage normalised = .ok packed) :
    ∃ voltage, args = [voltage] ∧
      ∃ n ∈ Values.outputVoltages, HoldsNumber 4 10 voltage packed n := by
  obtain ⟨voltage, rfl⟩ := List.length_eq_one_iff.mp hlength
  simp only [normalise, bind_eq_ok, require_eq_ok, Option.filter_eq_some_iff, pure_eq_ok] at h
  obtain ⟨n, ⟨hread, hlisted⟩, rfl⟩ := h
  have hmem : n ∈ Values.outputVoltages := List.contains_iff_mem.mp hlisted
  have hsmall : ∀ n ∈ Values.outputVoltages, 10 * n < 10 ^ 4 := by decide
  have hn := hsmall n hmem
  have hinteger : integer .setAcOutputVoltage [numeral n] 0 = .ok n := by
    refine integer_of_read? rfl ?_ ?_
    · rw [numeral, String.toList_ofList, Digits.read?_write]
    · exact Nat.lt_of_lt_of_le (by omega : n < 10 ^ 4) (by decide)
  have hpacked : packed = Digits.writePadded 4 (10 * n) := by
    have hwidth : FitsRegister 4 := by decide
    have hfill := (fill_of_pack_single rfl hpack).symm.trans (fill_tenfold hinteger)
    rw [Except.ok.inj hfill, saturate_of_lt hwidth hn]
  refine ⟨voltage, rfl, n, hmem, ?_, ?_, hread⟩
  · rw [hpacked, Digits.length_writePadded (by decide) hn]
  · rw [hpacked, Digits.read?_writePadded]

/-- The commands with decimals in their layouts. -/
theorem eq_of_hasDecimals (h : c.hasDecimals = true) :
    c = .setBatteryMaxChargeVoltage ∨ c = .setBatteryChargeThresholds ∨
      c = .setBatteryCutOffVoltage := by
  have hall : ∀ c ∈ all, c.hasDecimals = true → c = .setBatteryMaxChargeVoltage ∨
      c = .setBatteryChargeThresholds ∨ c = .setBatteryCutOffVoltage := by decide
  exact hall c (mem_all c) h

/-- **No accepted request sends a setting that is out of range.** Behind the mnemonic, the frame
holds the tenths of voltages between the ends of their range, or of listed voltages, the number of a
device and a current as they were typed, or ten times an output voltage. The commands with voltages
in tenths are the only ones with decimals. -/
theorem ranges_of_frame {name : String} {frame : List Char}
    (h : ofRequest name args = .ok (c, normalised)) (hframe : c.frame normalised = .ok frame) :
    ∃ packed, frame = Frame.build c.marker (c.mnemonic ++ packed) ∧
      (c = .setBatteryMaxChargeVoltage → ∃ constant floating first second,
        args = [constant, floating] ∧ packed = first ++ ',' :: second ∧
        (∃ n, HoldsTenths constant first n ∧ 480 ≤ n ∧ n ≤ 584) ∧
        ∃ n, HoldsTenths floating second n ∧ 480 ≤ n ∧ n ≤ 584) ∧
      (c = .setBatteryCutOffVoltage → ∃ voltage, args = [voltage] ∧
        ∃ n, HoldsTenths voltage packed n ∧ 400 ≤ n ∧ n ≤ 480) ∧
      (c = .setBatteryChargeThresholds → ∃ recharge redischarge first second,
        args = [recharge, redischarge] ∧ packed = first ++ ',' :: second ∧
        (∃ n ∈ Values.rechargeVoltages.flatten, HoldsTenths recharge first n) ∧
        ∃ n ∈ Values.redischargeVoltages.flatten, HoldsTenths redischarge second n) ∧
      (c = .setBatteryMaxChargeCurrent ∨ c = .setBatteryMaxAcChargeCurrent →
        ∃ id amps first second, args = [id, amps] ∧ packed = first ++ ',' :: second ∧
          (∃ n, HoldsNumber 1 1 id first n ∧ n ≤ 6) ∧
          ∃ n, HoldsNumber 3 1 amps second n ∧ n ≤ 999) ∧
      (c = .setAcOutputVoltage → ∃ voltage, args = [voltage] ∧
        ∃ n ∈ Values.outputVoltages, HoldsNumber 4 10 voltage packed n) ∧
      (c.hasDecimals = true → c = .setBatteryMaxChargeVoltage ∨ c = .setBatteryChargeThresholds ∨
        c = .setBatteryCutOffVoltage) := by
  obtain ⟨-, hlength, hnormalise⟩ := ofRequest_eq_ok h
  obtain ⟨packed, hpack, hbuild⟩ := frame_eq_ok.mp hframe
  refine ⟨packed, hbuild, ?_, ?_, ?_, ?_, ?_, eq_of_hasDecimals⟩
  · rintro rfl
    exact range_maxChargeVoltage hlength hnormalise hpack
  · rintro rfl
    exact range_cutOffVoltage hlength hnormalise hpack
  · rintro rfl
    exact range_chargeThresholds hlength hnormalise hpack
  · exact fun hc => range_chargeCurrent hc hlength hnormalise hpack
  · rintro rfl
    exact range_outputVoltage hlength hnormalise hpack

/-- The ends of the range of charge voltages, one of them with an exponent. The other one is too
great by less than the distance of binary64 numbers, so it is accepted, and it goes out as the end
of the range. -/
theorem ranges_of_frame_at_ends : ∃ first second n m,
    ofRequest "set-max-charge-voltage" ["58.400000000000001", "+4.80e1"] =
        .ok (.setBatteryMaxChargeVoltage, ["58.400000000000001", "+4.80e1"]) ∧
      "^S015MCHGV584,480".toList =
        Frame.build 'S' (mnemonic .setBatteryMaxChargeVoltage ++ (first ++ ',' :: second)) ∧
      HoldsTenths "58.400000000000001" first n ∧ n ≤ 584 ∧ HoldsTenths "+4.80e1" second m ∧
        480 ≤ m := by
  have hrequest : ofRequest "set-max-charge-voltage" ["58.400000000000001", "+4.80e1"] =
      .ok (.setBatteryMaxChargeVoltage, ["58.400000000000001", "+4.80e1"]) := by decide +kernel
  have hframe : Command.frame .setBatteryMaxChargeVoltage ["58.400000000000001", "+4.80e1"] =
      .ok "^S015MCHGV584,480".toList := by decide +kernel
  obtain ⟨packed, hbuild, hvoltages, -⟩ := ranges_of_frame hrequest hframe
  obtain ⟨constant, floating, first, second, hargs, rfl, ⟨n, hfirst, -, hn⟩, m, hsecond, hm, -⟩ :=
    hvoltages rfl
  cases hargs
  exact ⟨first, second, n, m, hrequest, hbuild, hfirst, hn, hsecond, hm⟩

end InverterLink.Command
