import InverterLink.Proofs.Command.Frames
import InverterLink.Proofs.Response

/-!
# Settings are read back as they were typed

Three kinds of settings are laid out in the way in which a device answers a question about them: a
serial number, the two times of day of a bucket, and, but for the century, a date with a time. The
slots of a setting and the layout of a record know nothing of each other. Put into a frame of a
device, the packed arguments are nevertheless read as the record of what was typed, however many
zeros stood in front of the numbers, and although the serial number is filled up with zeros.

## Main definitions

* `IsClock`: what it is for a text to say a time of day.
* `clockText`: a time of day in two digits, a colon and two digits.

## Main statements

* `Command.decode_pack`: what the packed arguments of an accepted request are read as.
-/

namespace InverterLink

/-! ### Times of day -/

/-- A text that says a time of day: digits for the hour and for the minute, with a colon between
them. -/
def IsClock (text : List Char) (hour minute : Nat) : Prop :=
  ∃ first second, text = first ++ ':' :: second ∧
    Digits.read? first = some hour ∧ Digits.read? second = some minute

/-- A time of day as `HH:MM`. -/
def clockText (hour minute : Nat) : List Char :=
  [Nat.digitChar (hour / 10), Nat.digitChar (hour % 10), ':',
    Nat.digitChar (minute / 10), Nat.digitChar (minute % 10)]

/-- The two digits of a number below a hundred. -/
theorem Digits.writePadded_two {n : Nat} (h : n < 100) :
    writePadded 2 n = [Nat.digitChar (n / 10), Nat.digitChar (n % 10)] := by
  have hall : ∀ n < 100, writePadded 2 n = [Nat.digitChar (n / 10), Nat.digitChar (n % 10)] := by
    decide
  exact hall n h

/-- A year of this century is that of the century with two digits in front. -/
theorem Digits.writePadded_year {year : Nat} (hlow : 2000 ≤ year) (hhigh : year < 2100) :
    writePadded 4 year = '2' :: '0' :: writePadded 2 (year - 2000) := by
  have hall : ∀ n < 100, writePadded 4 (2000 + n) = '2' :: '0' :: writePadded 2 n := by decide
  have h := hall (year - 2000) (by omega)
  rwa [Nat.add_sub_cancel' hlow] at h

namespace Command

variable {c : Command} {args normalised : List String}

/-- What passes as a time of day says one. -/
theorem isClock_of_readClock? {cs : List Char} {hour minute : Nat}
    (h : readClock? cs = some (hour, minute)) : IsClock cs hour minute := by
  rw [readClock?] at h
  split at h
  · next first second hparts =>
    have htext : [':'].intercalate (cs.splitOn ':') = cs := List.intercalate_splitOn _
    rw [hparts, List.intercalate_cons_cons, List.intercalate_singleton, List.append_assoc,
      List.singleton_append] at htext
    simp only [Option.bind_eq_bind, Option.bind_eq_some_iff, Option.filter_eq_some_iff,
      Option.pure_def, Option.some.injEq, Prod.mk.injEq] at h
    obtain ⟨_, ⟨hhour, -⟩, _, ⟨hminute, -⟩, rfl, rfl⟩ := h
    exact ⟨first, second, htext.symm, hhour, hminute⟩
  · cases h

/-! ### Packed arguments -/

theorem fillAll_cons {slot : Slot} {slots : List Slot} {filled behind : List Char}
    (hfill : c.fill args slot = .ok filled) (hbehind : c.fillAll args slots = .ok behind) :
    c.fillAll args (slot :: slots) = .ok (filled ++ behind) :=
  fillAll_cons_eq_ok.mpr ⟨filled, behind, hfill, hbehind, rfl⟩

/-- A numeral among the arguments fills a slot of two digits. -/
theorem fill_two_digits {index n : Nat} {arg : String} (harg : args[index]? = some arg)
    (hread : Digits.read? arg.toList = some n) (hn : n < 100) :
    c.fill args (.number index 2) = .ok (Digits.writePadded 2 n) :=
  fill_number (integer_of_read? harg hread (Nat.lt_trans hn (by decide)))

theorem fitsDigits_two {n : Nat} (hn : n < 100) : (Cell.number n).fitsDigits 2 = true :=
  Layout.fitsDigits_iff.mpr ⟨n, rfl, by decide, hn, Nat.lt_trans hn (by decide)⟩

/-- The packed arguments of an accepted request are small enough for a frame, even with a century in
front of them. -/
theorem byteLength_pack {packed : List Char} (hlength : args.length = c.arity)
    (h : c.normalise args = .ok normalised) (hpack : c.pack normalised = .ok packed) :
    2 + Utf8.byteLength packed ≤ 996 := by
  obtain ⟨hsize, hprinted⟩ := shape_of_fillAll (fits_of_normalise hlength h).suits hpack
  have hpacked : packed.length = c.packedSize := hsize
  have hall : ∀ c ∈ all, 2 + c.packedSize ≤ 996 := by decide
  rw [Utf8.byteLength_of_isPrinted hprinted, hpacked]
  exact hall c (mem_all c)

/-! ### Serial numbers -/

/-- **A serial number is read back** from the setting of one. -/
theorem decode_setSolarConfig (hlength : args.length = arity .setSolarConfig)
    (h : normalise .setSolarConfig args = .ok normalised) :
    ∃ serial packed, args = [serial] ∧ pack .setSolarConfig normalised = .ok packed ∧
      Response.decode .getSerialNumber (Utf8.encode (Frame.ofPayload packed)) =
        .ok (.record ⟨.serialNumber, [.text serial.toList]⟩) := by
  obtain ⟨serial, rfl⟩ := List.length_eq_one_iff.mp hlength
  have hnormalise := h
  simp only [normalise, bind_eq_ok, ensure_eq_ok, pure_eq_ok] at h
  obtain ⟨_, hserial, rfl⟩ := h
  rw [Bool.and_eq_true, decide_eq_true_iff] at hserial
  obtain ⟨hnumeral, hsize⟩ := hserial
  have hbytes := Utf8.byteLength_of_isDigit (Digits.isNumeral_iff.mp hnumeral).2
  have hpack : pack .setSolarConfig [serial] =
      .ok (Digits.writePadded 2 (Utf8.byteLength serial.toList) ++
        (serial.toList ++ List.replicate (20 - serial.toList.length) '0') ++ []) :=
    fillAll_cons (fill_sized rfl) rfl
  rw [List.append_nil] at hpack
  have hframe := byteLength_pack hlength hnormalise hpack
  exact ⟨serial, _, rfl, hpack, Response.decode_ofPayload rfl (by omega)
    (Layout.readSizedText_append _ (by omega) _)⟩

/-! ### Time buckets -/

/-- What a time bucket shows: its times in two digits for the hour and two for the minute. -/
theorem content_timeBucket {hour minute hour' minute' : Nat} (hhour : hour < 100)
    (hminute : minute < 100) (hhour' : hour' < 100) (hminute' : minute' < 100) :
    Record.content ⟨.timeBucket, [.number hour, .number minute, .number hour', .number minute']⟩ =
      .table [⟨"start_time".toList, "Start time".toList, .text (clockText hour minute), none⟩,
        ⟨"end_time".toList, "End time".toList, .text (clockText hour' minute'), none⟩] := by
  have hclock {h m : Nat} (hh : h < 100) (hm : m < 100) :
      Digits.writePadded 2 h ++ ':' :: Digits.writePadded 2 m = clockText h m := by
    rw [Digits.writePadded_two hh, Digits.writePadded_two hm]
    rfl
  rw [← hclock hhour hminute, ← hclock hhour' hminute']
  rfl

/-- The setting of a time bucket is laid out as a bucket is written. -/
theorem pack_timeBucket (hc : c = .setAcChargeTimeBucket ∨ c = .setAcSupplyTimeBucket)
    {hour minute hour' minute' : Nat} (hhour : hour < 100) (hminute : minute < 100)
    (hhour' : hour' < 100) (hminute' : minute' < 100) (spelling : Spelling) :
    c.pack ([hour, minute, hour', minute'].map numeral) = .ok (Layout.clocks.write spelling
      [.number hour, .number minute, .number hour', .number minute']) := by
  have hlayout : c.layout = [.number 0 2, .number 1 2, .comma, .number 2 2, .number 3 2] := by
    obtain rfl | rfl := hc <;> rfl
  have hread (n : Nat) : Digits.read? (numeral n).toList = some n := by
    rw [numeral, String.toList_ofList, Digits.read?_write]
  have hfilled : c.fillAll ([hour, minute, hour', minute'].map numeral) c.layout =
      .ok (Digits.writePadded 2 hour ++ (Digits.writePadded 2 minute ++ ([','] ++
        (Digits.writePadded 2 hour' ++ (Digits.writePadded 2 minute' ++ []))))) := by
    rw [hlayout]
    exact fillAll_cons (fill_two_digits rfl (hread hour) hhour)
      (fillAll_cons (fill_two_digits rfl (hread minute) hminute)
        (fillAll_cons rfl
          (fillAll_cons (fill_two_digits rfl (hread hour') hhour')
            (fillAll_cons (fill_two_digits rfl (hread minute') hminute') rfl))))
  rw [pack, hfilled, Layout.write, List.intercalate_cons_cons, List.intercalate_singleton]
  simp [Cell.write]

/-- **The times of a bucket are read back** from the setting of one. -/
theorem decode_timeBucket {getter : Command} (hgetter : getter.recordKind? = some .timeBucket)
    (hc : c = .setAcChargeTimeBucket ∨ c = .setAcSupplyTimeBucket)
    (hlength : args.length = c.arity) (h : c.normalise args = .ok normalised) :
    ∃ start stop hour minute hour' minute' packed record, args = [start, stop] ∧
      IsClock start.toList hour minute ∧ IsClock stop.toList hour' minute' ∧
      c.pack normalised = .ok packed ∧
      Response.decode getter (Utf8.encode (Frame.ofPayload packed)) = .ok (.record record) ∧
      record =
        ⟨.timeBucket, [.number hour, .number minute, .number hour', .number minute']⟩ ∧
      record.content = .table [
        ⟨"start_time".toList, "Start time".toList, .text (clockText hour minute), none⟩,
        ⟨"end_time".toList, "End time".toList, .text (clockText hour' minute'), none⟩] := by
  have htwo : args.length = 2 := by
    obtain rfl | rfl := hc <;> exact hlength
  obtain ⟨start, stop, rfl⟩ := List.length_eq_two.mp htwo
  -- both buckets are checked in the same way, so what was checked is stated once for them
  have htimes : ∃ first, require "start time" (readClock? start.toList) = .ok first ∧
      ∃ second, require "end time" (readClock? stop.toList) = .ok second ∧
        [first.1, first.2, second.1, second.2].map numeral = normalised := by
    obtain rfl | rfl := hc <;> simpa only [normalise, bind_eq_ok, pure_eq_ok] using h
  simp only [require_eq_ok] at htimes
  obtain ⟨⟨hour, minute⟩, hstart, ⟨hour', minute'⟩, hstop, hnormalised⟩ := htimes
  obtain ⟨hhour, hminute⟩ := readClock?_eq_some hstart
  obtain ⟨hhour', hminute'⟩ := readClock?_eq_some hstop
  set spelling : Spelling := ⟨fun _ => 2, fun _ => []⟩
  set cells : List Cell := [.number hour, .number minute, .number hour', .number minute']
  have hpack : c.pack normalised = .ok (Layout.clocks.write spelling cells) :=
    hnormalised ▸ pack_timeBucket hc (by omega) (by omega) (by omega) (by omega) spelling
  have hfits : Layout.clocks.fits spelling cells = true := by
    rw [Layout.fits, Bool.and_eq_true]
    refine ⟨rfl, List.all_eq_true.mpr ?_⟩
    simp only [cells, List.forall_mem_cons]
    exact ⟨fitsDigits_two (by omega), fitsDigits_two (by omega), fitsDigits_two (by omega),
      fitsDigits_two (by omega), List.forall_mem_nil _⟩
  have hframe := byteLength_pack hlength h hpack
  exact ⟨start, stop, hour, minute, hour', minute', _, _, rfl, isClock_of_readClock? hstart,
    isClock_of_readClock? hstop, hpack, Response.decode_ofPayload hgetter (by omega)
    (Layout.read_of_fits _ hfits), rfl,
    content_timeBucket (by omega) (by omega) (by omega) (by omega)⟩

/-! ### Dates -/

/-- The setting of a date and a time is laid out as the present time is written, without its
century. -/
theorem pack_setDateTime {year month day hour minute second : String} {y mo d h mi s : Nat}
    (hyear : Digits.read? year.toList = some y) (hmonth : Digits.read? month.toList = some mo)
    (hday : Digits.read? day.toList = some d) (hhour : Digits.read? hour.toList = some h)
    (hminute : Digits.read? minute.toList = some mi) (hsecond : Digits.read? second.toList = some s)
    (hy : 2000 ≤ y ∧ y < 2100) (hmo : mo < 100) (hd : d < 100) (hh : h < 100) (hmi : mi < 100)
    (hs : s < 100) (spelling : Spelling) :
    ∃ packed, pack .setDateTime [year, month, day, hour, minute, second] = .ok packed ∧
      '2' :: '0' :: packed = (Layout.fixed [4, 2, 2, 2, 2, 2]).write spelling
        [.number y, .number mo, .number d, .number h, .number mi, .number s] := by
  have hinteger : integer .setDateTime [year, month, day, hour, minute, second] 0 = .ok y :=
    integer_of_read? rfl hyear (Nat.lt_trans hy.2 (by decide))
  refine ⟨_, fillAll_cons (fill_year hinteger hy.1)
    (fillAll_cons (fill_two_digits rfl hmonth hmo) (fillAll_cons (fill_two_digits rfl hday hd)
      (fillAll_cons (fill_two_digits rfl hhour hh) (fillAll_cons (fill_two_digits rfl hminute hmi)
        (fillAll_cons (fill_two_digits rfl hsecond hs) rfl))))), ?_⟩
  rw [Layout.write]
  simp [Cell.write, Digits.writePadded_year hy.1 hy.2]

/-- **A date and a time are read back** from the setting of them, with the century in front. -/
theorem decode_setDateTime (hlength : args.length = arity .setDateTime)
    (h : normalise .setDateTime args = .ok normalised) :
    ∃ (numbers : List Nat) (packed : List Char),
      args.map (fun arg => Digits.read? arg.toList) = numbers.map some ∧
      pack .setDateTime normalised = .ok packed ∧
      Response.decode .getCurrentTime (Utf8.encode (Frame.ofPayload ('2' :: '0' :: packed))) =
        .ok (.record ⟨.currentTime, numbers.map .number⟩) := by
  obtain ⟨year, month, day, hour, minute, second, rfl⟩ : ∃ year month day hour minute second,
      args = [year, month, day, hour, minute, second] := by
    have hsix : args.length = 6 := hlength
    match args, hsix with
    | [_, _, _, _, _, _], _ => exact ⟨_, _, _, _, _, _, rfl⟩
  have hnormalise := h
  simp only [normalise, bind_eq_ok, pure_eq_ok] at h
  obtain ⟨_, hdate, _, hhour, _, hminute, _, hsecond, rfl⟩ := h
  obtain ⟨y, mo, d, hy, hmo, hd⟩ := checkDate_eq_ok hdate
  obtain ⟨h, hh⟩ := checkClockPart_eq_ok hhour
  obtain ⟨mi, hmi⟩ := checkClockPart_eq_ok hminute
  obtain ⟨s, hs⟩ := checkClockPart_eq_ok hsecond
  obtain ⟨-, hyRead, hyLow, hyHigh⟩ := readYear?_eq_some hy
  obtain ⟨hmoRead, -, hmoHigh⟩ := readPart?_eq_some hmo
  obtain ⟨hdRead, -, hdHigh⟩ := readPart?_eq_some hd
  obtain ⟨hhRead, -, hhHigh⟩ := readPart?_eq_some hh
  obtain ⟨hmiRead, -, hmiHigh⟩ := readPart?_eq_some hmi
  obtain ⟨hsRead, -, hsHigh⟩ := readPart?_eq_some hs
  set spelling : Spelling := ⟨fun _ => 2, fun _ => []⟩
  obtain ⟨packed, hpack, hwritten⟩ := pack_setDateTime hyRead hmoRead hdRead hhRead hmiRead hsRead
    ⟨hyLow, by omega⟩ (by omega) (by omega) (by omega) (by omega) (by omega) spelling
  -- with the century in front, the setting is a spelling of the present time that its reader
  -- accepts
  have hfits : (Layout.fixed [4, 2, 2, 2, 2, 2]).fits spelling
      ([y, mo, d, h, mi, s].map .number) = true := by
    rw [Layout.fits, Bool.and_eq_true]
    refine ⟨rfl, List.all_eq_true.mpr ?_⟩
    simp only [List.map_cons, List.map_nil, List.zip_cons_cons, List.zip_nil_right,
      List.forall_mem_cons]
    have hyear : (Cell.number y).fitsDigits 4 = true := Layout.fitsDigits_iff.mpr
      ⟨y, rfl, by decide, by omega, Nat.lt_of_le_of_lt hyHigh (by decide)⟩
    exact ⟨hyear, fitsDigits_two (by omega), fitsDigits_two (by omega), fitsDigits_two (by omega),
      fitsDigits_two (by omega), fitsDigits_two (by omega), List.forall_mem_nil _⟩
  have hframe := byteLength_pack hlength hnormalise hpack
  have hsize : Utf8.byteLength ('2' :: '0' :: packed) = 2 + Utf8.byteLength packed := by
    rw [Utf8.byteLength, Utf8.byteLength, ← Nat.add_assoc]
    rfl
  refine ⟨[y, mo, d, h, mi, s], packed, ?_, hpack, Response.decode_ofPayload rfl (by omega) ?_⟩
  · simp only [List.map_cons, List.map_nil, hyRead, hmoRead, hdRead, hhRead, hmiRead, hsRead]
  · rw [hwritten]
    exact Layout.read_of_fits _ hfits

/-! ### Requests -/

/-- **Settings are read back as they were typed.** Packed and put into a frame of a device, the
arguments of an accepted request are read, as the answer to the question about the setting, as the
serial number that was typed, as the times that were typed and shown as `HH:MM`, or, with the
century in front of them, as the numbers of the date and of the time that were typed. -/
theorem decode_pack {name : String} (h : ofRequest name args = .ok (c, normalised)) :
    (c = .setSolarConfig → ∃ serial packed, args = [serial] ∧ c.pack normalised = .ok packed ∧
      Response.decode .getSerialNumber (Utf8.encode (Frame.ofPayload packed)) =
        .ok (.record ⟨.serialNumber, [.text serial.toList]⟩)) ∧
    (∀ getter, (c = .setAcChargeTimeBucket ∧ getter = .getAcChargeTimeBucket) ∨
        (c = .setAcSupplyTimeBucket ∧ getter = .getAcSupplyTimeBucket) →
      ∃ start stop hour minute hour' minute' packed record, args = [start, stop] ∧
        IsClock start.toList hour minute ∧ IsClock stop.toList hour' minute' ∧
        c.pack normalised = .ok packed ∧
        Response.decode getter (Utf8.encode (Frame.ofPayload packed)) = .ok (.record record) ∧
        record =
          ⟨.timeBucket, [.number hour, .number minute, .number hour', .number minute']⟩ ∧
        record.content = .table [
          ⟨"start_time".toList, "Start time".toList, .text (clockText hour minute), none⟩,
          ⟨"end_time".toList, "End time".toList, .text (clockText hour' minute'), none⟩]) ∧
    (c = .setDateTime → ∃ (numbers : List Nat) (packed : List Char),
      args.map (fun arg => Digits.read? arg.toList) = numbers.map some ∧
      c.pack normalised = .ok packed ∧
      Response.decode .getCurrentTime (Utf8.encode (Frame.ofPayload ('2' :: '0' :: packed))) =
        .ok (.record ⟨.currentTime, numbers.map .number⟩)) := by
  obtain ⟨-, hlength, hnormalise⟩ := ofRequest_eq_ok h
  refine ⟨?_, fun getter hpair => ?_, ?_⟩
  · rintro rfl
    exact decode_setSolarConfig hlength hnormalise
  · refine decode_timeBucket ?_ (hpair.imp And.left And.left) hlength hnormalise
    obtain ⟨-, rfl⟩ | ⟨-, rfl⟩ := hpair <;> rfl
  · rintro rfl
    exact decode_setDateTime hlength hnormalise

/-- A serial number that begins with zeros, times with more zeros and with fewer than two digits
need, and a date whose parts have no zeros in front of them. -/
theorem decode_pack_zeros :
    (∃ packed, pack .setSolarConfig ["0012"] = .ok packed ∧
      Response.decode .getSerialNumber (Utf8.encode (Frame.ofPayload packed)) =
        .ok (.record ⟨.serialNumber, [.text "0012".toList]⟩)) ∧
    (∃ hour minute hour' minute' packed record,
      IsClock "008:5".toList hour minute ∧ IsClock "23:0059".toList hour' minute' ∧
      pack .setAcChargeTimeBucket ["8", "5", "23", "59"] = .ok packed ∧
      Response.decode .getAcChargeTimeBucket (Utf8.encode (Frame.ofPayload packed)) =
        .ok (.record record) ∧
      record = ⟨.timeBucket, [.number hour, .number minute, .number hour', .number minute']⟩) ∧
    ∃ packed, pack .setDateTime ["2024", "2", "29", "7", "5", "0"] = .ok packed ∧
      Response.decode .getCurrentTime (Utf8.encode (Frame.ofPayload ('2' :: '0' :: packed))) =
        .ok (.record ⟨.currentTime, [2024, 2, 29, 7, 5, 0].map .number⟩) := by
  have hserial : ofRequest "set-solar-configuration" ["0012"] =
      .ok (.setSolarConfig, ["0012"]) := by decide
  have hbucket : ofRequest "set-ac-charge-time" ["008:5", "23:0059"] =
      .ok (.setAcChargeTimeBucket, ["8", "5", "23", "59"]) := by decide
  have hdate : ofRequest "set-date-time" ["2024", "2", "29", "7", "5", "0"] =
      .ok (.setDateTime, ["2024", "2", "29", "7", "5", "0"]) := by decide
  refine ⟨?_, ?_, ?_⟩
  · obtain ⟨serial, packed, hargs, hread⟩ := (decode_pack hserial).1 rfl
    cases hargs
    exact ⟨packed, hread⟩
  · obtain ⟨start, stop, hour, minute, hour', minute', packed, record, hargs, hstart, hstop, hpack,
      hdecode, hrecord, -⟩ := (decode_pack hbucket).2.1 .getAcChargeTimeBucket (.inl ⟨rfl, rfl⟩)
    cases hargs
    exact ⟨hour, minute, hour', minute', packed, record, hstart, hstop, hpack, hdecode, hrecord⟩
  · obtain ⟨numbers, packed, hnumbers, hread⟩ := (decode_pack hdate).2.2 rfl
    have htyped : ["2024", "2", "29", "7", "5", "0"].map (fun arg => Digits.read? arg.toList) =
        [2024, 2, 29, 7, 5, 0].map some := by decide
    obtain rfl := List.map_injective_iff.mpr (Option.some_injective _) (htyped.symm.trans hnumbers)
    exact ⟨packed, hread⟩

end Command

end InverterLink
