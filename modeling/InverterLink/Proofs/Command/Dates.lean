import InverterLink.Proofs.Command.Readback
import Mathlib.Tactic.IntervalCases

/-!
# Dates and times that are accepted

Four commands take a date or times of day. Their arguments are texts of any characters, and the
checks are spread over the parts of an argument: its size, its characters, the number that it
denotes, the range of this number, and, for a date, the calendar. Taken together, they accept
exactly the arguments that say a date of this century or times of day. What a date is, is not said
here once more, but left to the calendar of the standard library.

## Main definitions

* `Calendar.IsGregorian`: three numbers that are a date.
* `Digits.Denotes`: digits, as many as the bounds allow, that denote a number.
* `Command.SaysDate`, `Command.SaysPart`: texts that say a date of this century, or a part of a time
  of day.

## Main statements

* `Calendar.isDate_iff`: the calendar agrees with that of the standard library.
* `Command.ofRequest_dates`: what the commands with dates and times accept, and what they return.
-/

namespace InverterLink

/-! ### The calendar -/

namespace Calendar

open Std.Time

/-- The numbers are the year, the month and the day of a date in the calendar of the standard
library. -/
def IsGregorian (year month day : Nat) : Prop :=
  ∃ date : PlainDate, date.year.toInt = year ∧ date.month.val = month ∧ date.day.val = day

/-- Years before the common era are not among ours, so that remainders are those of natural
numbers. -/
theorem isLeap_eq (year : Nat) : Year.Offset.isLeap (year : Int) = isLeapYear year := by
  have hremainder (n : Int) : (year : Int).tmod n = (year : Int) % n :=
    Int.tmod_eq_emod_of_nonneg (Int.natCast_nonneg year)
  rw [Bool.eq_iff_iff, Year.Offset.isLeap, isLeapYear]
  simp only [Year.Offset.toInt, hremainder, decide_eq_true_eq, Bool.and_eq_true, Bool.or_eq_true]
  omega

/-- The months are as long as in the standard library. -/
theorem days_eq (year : Nat) (month : Month.Ordinal) :
    (month.days (Year.Offset.isLeap (year : Int))).val = daysInMonth year month.val.toNat := by
  rw [isLeap_eq]
  obtain ⟨m, hlow, hhigh⟩ := month
  interval_cases m
  pick_goal 2
  · -- the second month is the only one whose length depends on the year
    show _ = ((if isLeapYear year then 29 else 28 : Nat) : Int)
    cases isLeapYear year <;> rfl
  all_goals rfl

/-- The ranges in which the month and the day of a date lie. -/
theorem ranges_of_isDate {year month day : Nat} (h : isDate year month day = true) :
    1 ≤ month ∧ month ≤ 12 ∧ 1 ≤ day ∧ day ≤ 31 := by
  rw [isDate, Bool.and_eq_true, decide_eq_true_iff, decide_eq_true_iff, daysInMonth.eq_def] at h
  obtain ⟨hpos, hlast⟩ := h
  split at hlast
  any_goals omega
  -- what is left is the month whose length depends on the year
  split_ifs at hlast <;> omega

/-- **The calendar agrees with that of the standard library** on which numbers are a date. -/
theorem isDate_iff {year month day : Nat} :
    isDate year month day = true ↔ IsGregorian year month day := by
  constructor
  · intro h
    obtain ⟨hfirst, htwelve, hpos, hday⟩ := ranges_of_isDate h
    rw [isDate, Bool.and_eq_true, decide_eq_true_iff, decide_eq_true_iff] at h
    let m : Month.Ordinal := ⟨month, by omega, by omega⟩
    let d : Day.Ordinal := ⟨day, by omega, by omega⟩
    have hvalid : d.val ≤ (m.days (Year.Offset.isLeap (year : Int))).val := by
      rw [days_eq]
      exact Int.ofNat_le.mpr h.2
    exact ⟨⟨(year : Int), m, d, hvalid⟩, rfl, rfl, rfl⟩
  · rintro ⟨date, hyear, hmonth, hday⟩
    have hvalid : date.day.val ≤ (date.month.days date.year.isLeap).val := date.valid
    have hoffset : date.year = (year : Int) := hyear
    have hpos := date.day.property.1
    rw [hoffset, days_eq, hmonth, hday, Int.toNat_natCast] at hvalid
    rw [hday] at hpos
    rw [isDate, Bool.and_eq_true, decide_eq_true_iff, decide_eq_true_iff]
    exact ⟨Int.ofNat_le.mp hpos, Int.ofNat_le.mp hvalid⟩

instance (year month day : Nat) : Decidable (IsGregorian year month day) :=
  decidable_of_iff _ isDate_iff

example : IsGregorian 2000 2 29 ∧ ¬ IsGregorian 2023 2 29 ∧ ¬ IsGregorian 2024 4 31 := by decide

end Calendar

/-! ### Parts of dates and times -/

/-- At least `least` and at most `greatest` ASCII digits, which denote the number `n`. -/
structure Digits.Denotes (least greatest : Nat) (cs : List Char) (n : Nat) : Prop where
  least_le : least ≤ cs.length
  le_greatest : cs.length ≤ greatest
  isDigit : ∀ c ∈ cs, c.isDigit = true
  value : Nat.ofDigitChars 10 cs 0 = n

theorem Digits.denotes_iff {least greatest n : Nat} {cs : List Char} (hleast : 1 ≤ least) :
    Denotes least greatest cs n ↔
      least ≤ cs.length ∧ cs.length ≤ greatest ∧ read? cs = some n := by
  rw [read?_eq_some_iff, isNumeral_iff]
  constructor
  · rintro ⟨hleast', hgreatest, hdigits, hvalue⟩
    exact ⟨hleast', hgreatest, ⟨List.ne_nil_of_length_pos (by omega), hdigits⟩, hvalue⟩
  · rintro ⟨hleast', hgreatest, ⟨-, hdigits⟩, hvalue⟩
    exact ⟨hleast', hgreatest, hdigits, hvalue⟩

namespace Command

/-- Three texts that say a date of this century: the year in four digits, the month and the day in
one or two. -/
def SaysDate (year month day : String) : Prop :=
  ∃ y m d, Digits.Denotes 4 4 year.toList y ∧ 2000 ≤ y ∧ y ≤ 2099 ∧
    Digits.Denotes 1 2 month.toList m ∧ Digits.Denotes 1 2 day.toList d ∧
    Calendar.IsGregorian y m d

/-- A text that says a part of a time of day, in one or two digits. -/
def SaysPart (greatest : Nat) (part : String) : Prop :=
  ∃ n, Digits.Denotes 1 2 part.toList n ∧ n ≤ greatest

theorem readYear?_eq_some_iff {cs : List Char} {y : Nat} :
    readYear? cs = some y ↔ Digits.Denotes 4 4 cs y ∧ 2000 ≤ y ∧ y ≤ 2099 := by
  rw [Digits.denotes_iff (by decide)]
  constructor
  · intro h
    obtain ⟨hsize, hread, hrange⟩ := readYear?_eq_some h
    exact ⟨⟨hsize.ge, hsize.le, hread⟩, hrange⟩
  · rintro ⟨⟨hleast, hgreatest, hread⟩, hlow, hhigh⟩
    rw [readYear?, if_pos (by omega), hread, Option.filter_some, if_pos (by simp [hlow, hhigh])]

theorem readPart?_eq_some_iff {low high n : Nat} {cs : List Char} :
    readPart? low high cs = some n ↔ Digits.Denotes 1 2 cs n ∧ low ≤ n ∧ n ≤ high := by
  rw [Digits.denotes_iff (by decide), readPart?]
  split_ifs with hsize
  · rw [Option.filter_eq_some_iff, Bool.and_eq_true, decide_eq_true_iff, decide_eq_true_iff]
    constructor
    · rintro ⟨hread, hrange⟩
      have hne := (Digits.isNumeral_iff.mp (Digits.read?_eq_some_iff.mp hread).1).1
      exact ⟨⟨List.length_pos_iff.mpr hne, hsize, hread⟩, hrange⟩
    · rintro ⟨⟨-, -, hread⟩, hrange⟩
      exact ⟨hread, hrange⟩
  · refine iff_of_false (fun h => ?_) fun h => hsize h.1.2.1
    cases h

/-- **A date passes exactly if the texts say one.** -/
theorem checkDate_eq_ok_iff {year month day : String} {u : Unit} :
    checkDate year month day = .ok u ↔ SaysDate year month day := by
  simp only [checkDate, checkYear, checkMonth, bind_eq_ok, require_eq_ok, ensure_eq_ok,
    readYear?_eq_some_iff, readPart?_eq_some_iff, Calendar.isDate_iff, SaysDate]
  constructor
  · rintro ⟨y, ⟨hy, hlow, hhigh⟩, m, ⟨hm, -⟩, d, ⟨hd, -⟩, hdate⟩
    exact ⟨y, m, d, hy, hlow, hhigh, hm, hd, hdate⟩
  · rintro ⟨y, m, d, hy, hlow, hhigh, hm, hd, hdate⟩
    -- the ranges of the month and of the day, which are checked before the date, follow from it
    obtain ⟨hfirst, htwelve, hpos, hday⟩ :=
      Calendar.ranges_of_isDate (Calendar.isDate_iff.mpr hdate)
    exact ⟨y, ⟨hy, hlow, hhigh⟩, m, ⟨hm, hfirst, htwelve⟩, d, ⟨hd, hpos, hday⟩, hdate⟩

theorem checkClockPart_eq_ok_iff {subject part : String} {greatest : Nat} {u : Unit} :
    checkClockPart subject greatest part = .ok u ↔ SaysPart greatest part := by
  simp only [checkClockPart, bind_eq_ok, require_eq_ok, pure_eq_ok, readPart?_eq_some_iff, SaysPart]
  constructor
  · rintro ⟨n, ⟨hn, -, hrange⟩, -⟩
    exact ⟨n, hn, hrange⟩
  · rintro ⟨n, hn, hrange⟩
    exact ⟨n, ⟨hn, Nat.zero_le n, hrange⟩, trivial⟩

/-- **A time of day passes exactly if the text says one**, with an hour and a minute that a day
has. -/
theorem readClock?_eq_some_iff {cs : List Char} {hour minute : Nat} :
    readClock? cs = some (hour, minute) ↔ IsClock cs hour minute ∧ hour ≤ 23 ∧ minute ≤ 59 := by
  constructor
  · exact fun h => ⟨isClock_of_readClock? h, readClock?_eq_some h⟩
  · rintro ⟨⟨first, second, rfl, hfirst, hsecond⟩, hhour, hminute⟩
    have hcolon {text : List Char} {n : Nat} (h : Digits.read? text = some n) :
        text.splitOn ':' = [text] := by
      have hdigits := (Digits.isNumeral_iff.mp (Digits.read?_eq_some_iff.mp h).1).2
      exact List.splitOn_eq_singleton fun hmem => absurd (hdigits ':' hmem) (by decide)
    rw [readClock?, List.splitOn_append_cons_self, hcolon hfirst, hcolon hsecond]
    simp [hfirst, hsecond, hhour, hminute, Option.filter]

/-! ### Requests -/

variable {c : Command} {args : List String} {name : String} {result : Command × List String}

/-- A request for a known command is accepted if its arguments are as many as they must be and
pass. -/
theorem ofRequest_eq_ok_iff (hname : ofName? name = some c) :
    ofRequest name args = .ok result ↔
      args.length = c.arity ∧ ∃ normalised, c.normalise args = .ok normalised ∧
        result = (c, normalised) := by
  simp only [ofRequest, bind_eq_ok, require_eq_ok, hname, Option.some.injEq, exists_eq_left']
  split_ifs with hlength
  · simp only [bind_eq_ok, pure_eq_ok, hlength, true_and, eq_comm (a := result)]
  · refine iff_of_false (fun h => ?_) fun h => hlength h.1
    cases h

theorem ofRequest_getDayGenerated :
    ofRequest "get-day-generated" args = .ok result ↔
      ∃ year month day, args = [year, month, day] ∧ SaysDate year month day ∧
        result = (.getDayGenerated, args) := by
  have hname : ofName? "get-day-generated" = some .getDayGenerated := by decide
  rw [ofRequest_eq_ok_iff hname, show arity .getDayGenerated = 3 from rfl, List.length_eq_three]
  constructor
  · rintro ⟨⟨year, month, day, rfl⟩, normalised, h, rfl⟩
    simp only [normalise, bind_eq_ok, pure_eq_ok] at h
    obtain ⟨_, hdate, rfl⟩ := h
    exact ⟨year, month, day, rfl, checkDate_eq_ok_iff.mp hdate, rfl⟩
  · rintro ⟨year, month, day, rfl, hdate, rfl⟩
    refine ⟨⟨year, month, day, rfl⟩, _, ?_, rfl⟩
    simp only [normalise, bind_eq_ok, pure_eq_ok]
    exact ⟨(), checkDate_eq_ok_iff.mpr hdate, trivial⟩

theorem ofRequest_setDateTime :
    ofRequest "set-date-time" args = .ok result ↔
      ∃ year month day hour minute second, args = [year, month, day, hour, minute, second] ∧
        SaysDate year month day ∧ SaysPart 23 hour ∧ SaysPart 59 minute ∧ SaysPart 59 second ∧
        result = (.setDateTime, args) := by
  have hname : ofName? "set-date-time" = some .setDateTime := by decide
  rw [ofRequest_eq_ok_iff hname, show arity .setDateTime = 6 from rfl]
  constructor
  · rintro ⟨hlength, normalised, h, rfl⟩
    match args, hlength with
    | [year, month, day, hour, minute, second], _ =>
      simp only [normalise, bind_eq_ok, pure_eq_ok, checkDate_eq_ok_iff,
        checkClockPart_eq_ok_iff] at h
      obtain ⟨_, hdate, _, hhour, _, hminute, _, hsecond, rfl⟩ := h
      exact ⟨year, month, day, hour, minute, second, rfl, hdate, hhour, hminute, hsecond, rfl⟩
  · rintro ⟨year, month, day, hour, minute, second, rfl, hdate, hhour, hminute, hsecond, rfl⟩
    refine ⟨rfl, _, ?_, rfl⟩
    simp only [normalise, bind_eq_ok, pure_eq_ok, checkDate_eq_ok_iff, checkClockPart_eq_ok_iff]
    exact ⟨(), hdate, (), hhour, (), hminute, (), hsecond, trivial⟩

/-- Both time buckets are checked in the same way. -/
theorem normalise_timeBucket (hc : c = .setAcChargeTimeBucket ∨ c = .setAcSupplyTimeBucket)
    (start stop : String) :
    c.normalise [start, stop] = (do
      let first ← require "start time" (readClock? start.toList)
      let second ← require "end time" (readClock? stop.toList)
      return [first.1, first.2, second.1, second.2].map numeral) := by
  obtain rfl | rfl := hc <;> rfl

theorem ofRequest_timeBucket (hname : ofName? name = some c)
    (hc : c = .setAcChargeTimeBucket ∨ c = .setAcSupplyTimeBucket) :
    ofRequest name args = .ok result ↔
      ∃ start stop hour minute hour' minute', args = [start, stop] ∧
        IsClock start.toList hour minute ∧ hour ≤ 23 ∧ minute ≤ 59 ∧
        IsClock stop.toList hour' minute' ∧ hour' ≤ 23 ∧ minute' ≤ 59 ∧
        result = (c, [hour, minute, hour', minute'].map numeral) := by
  have htwo : c.arity = 2 := by obtain rfl | rfl := hc <;> rfl
  rw [ofRequest_eq_ok_iff hname, htwo, List.length_eq_two]
  constructor
  · rintro ⟨⟨start, stop, rfl⟩, normalised, h, rfl⟩
    rw [normalise_timeBucket hc] at h
    simp only [bind_eq_ok, pure_eq_ok, require_eq_ok] at h
    obtain ⟨⟨hour, minute⟩, hstart, ⟨hour', minute'⟩, hstop, rfl⟩ := h
    obtain ⟨hclock, hhour, hminute⟩ := readClock?_eq_some_iff.mp hstart
    obtain ⟨hclock', hhour', hminute'⟩ := readClock?_eq_some_iff.mp hstop
    exact ⟨start, stop, hour, minute, hour', minute', rfl, hclock, hhour, hminute, hclock', hhour',
      hminute', rfl⟩
  · rintro ⟨start, stop, hour, minute, hour', minute', rfl, hclock, hhour, hminute, hclock', hhour',
      hminute', rfl⟩
    refine ⟨⟨start, stop, rfl⟩, _, ?_, rfl⟩
    rw [normalise_timeBucket hc]
    simp only [bind_eq_ok, pure_eq_ok, require_eq_ok]
    exact ⟨(hour, minute), readClock?_eq_some_iff.mpr ⟨hclock, hhour, hminute⟩, (hour', minute'),
      readClock?_eq_some_iff.mpr ⟨hclock', hhour', hminute'⟩, rfl⟩

/-- **What the commands with dates and times accept, and what they return**, for any arguments. A
date is accepted exactly if it is three texts that say a date of this century, and a date with a
time exactly if three more texts say the parts of a time of day; both are returned as they are. The
times of a bucket are accepted exactly if they are two texts of digits, a colon and digits with an
hour and a minute that a day has, and the four numbers are returned in their order. -/
theorem ofRequest_dates (args : List String) (result : Command × List String) :
    (ofRequest "get-day-generated" args = .ok result ↔
      ∃ year month day, args = [year, month, day] ∧ SaysDate year month day ∧
        result = (.getDayGenerated, args)) ∧
    (ofRequest "set-date-time" args = .ok result ↔
      ∃ year month day hour minute second, args = [year, month, day, hour, minute, second] ∧
        SaysDate year month day ∧ SaysPart 23 hour ∧ SaysPart 59 minute ∧ SaysPart 59 second ∧
        result = (.setDateTime, args)) ∧
    (ofRequest "set-ac-charge-time" args = .ok result ↔
      ∃ start stop hour minute hour' minute', args = [start, stop] ∧
        IsClock start.toList hour minute ∧ hour ≤ 23 ∧ minute ≤ 59 ∧
        IsClock stop.toList hour' minute' ∧ hour' ≤ 23 ∧ minute' ≤ 59 ∧
        result = (.setAcChargeTimeBucket, [hour, minute, hour', minute'].map numeral)) ∧
    (ofRequest "set-ac-supply-time" args = .ok result ↔
      ∃ start stop hour minute hour' minute', args = [start, stop] ∧
        IsClock start.toList hour minute ∧ hour ≤ 23 ∧ minute ≤ 59 ∧
        IsClock stop.toList hour' minute' ∧ hour' ≤ 23 ∧ minute' ≤ 59 ∧
        result = (.setAcSupplyTimeBucket, [hour, minute, hour', minute'].map numeral)) :=
  ⟨ofRequest_getDayGenerated, ofRequest_setDateTime,
    ofRequest_timeBucket (by decide) (.inl rfl), ofRequest_timeBucket (by decide) (.inr rfl)⟩

end Command

end InverterLink
