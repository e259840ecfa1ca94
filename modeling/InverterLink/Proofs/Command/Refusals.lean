import InverterLink.Proofs.Command.Frames
import InverterLink.Proofs.Record.Outcomes

/-!
# What a request is refused for

The checks of a request refuse it for a reason that names a subject and nothing that the client has
sent, and such a refusal is no fault of the program. What passes the checks can be laid out, with
one exception: a threshold for discharging again that is negative, but so little that the table of
voltages takes it for zero. The table looks at the nearest tenth, and the layout at the sign.

## Main definitions

* `Error.IsRefusal`: what the errors of the checks have in common.
* `Command.HasNegativeThreshold`: whether a command has a threshold of this kind.

## Main statements

* `Command.refusal_ofRequest`: what checking a request ends in.
* `Command.exists_frame_iff`: which accepted requests can be laid out.
* `Command.endsIn_frame`: what building a frame ends in.
-/

namespace InverterLink

/-! ### Refusals -/

namespace Error

/-- An error that refuses a request, and says so without a carriage return. -/
def IsRefusal (e : Error) : Prop :=
  ∃ cause : ArgumentError, e = argument cause ∧ IsPlain cause.message.toList

namespace IsRefusal

variable {e : Error}

theorem isExternal (h : e.IsRefusal) : e.IsExternal := by
  obtain ⟨cause, rfl, hplain⟩ := h
  exact ⟨nofun, hplain⟩

/-- A refusal is shown as it is. -/
theorem collapse_eq (h : e.IsRefusal) : e.collapse = e := by
  obtain ⟨cause, rfl, -⟩ := h
  rfl

end IsRefusal

variable {subject : String}

theorem isRefusal_invalid (h : IsPlain subject.toList) :
    (argument (.invalid subject)).IsRefusal := by
  refine ⟨_, rfl, ?_⟩
  rw [ArgumentError.message.eq_def]
  exact isPlain_toList_append.mpr ⟨by decide, h⟩

theorem isRefusal_onlyAllowed (h : IsPlain subject.toList) (first second : Nat) :
    (argument (.onlyAllowed subject first second)).IsRefusal := by
  refine ⟨_, rfl, ?_⟩
  rw [ArgumentError.message.eq_def]
  simp only [isPlain_toList_append]
  exact ⟨⟨⟨⟨⟨⟨by decide, h⟩, by decide⟩, isPlain_toString first⟩, by decide⟩,
    isPlain_toString second⟩, by decide⟩

theorem isRefusal_wrongCount (required : Nat) : (argument (.wrongCount required)).IsRefusal := by
  have hending : IsPlain (if required = 1 then "" else "s").toList := by split_ifs <;> decide
  refine ⟨_, rfl, ?_⟩
  rw [ArgumentError.message.eq_def]
  simp only [isPlain_toList_append]
  exact ⟨⟨⟨by decide, isPlain_toString required⟩, by decide⟩, hending⟩

end Error

namespace Command

variable {c : Command} {subject : String}

theorem endsIn_require {α : Type} (h : IsPlain subject.toList) (o : Option α) :
    EndsIn (require subject o) (fun _ => True) Error.IsRefusal := by
  cases o with
  | none => exact Error.isRefusal_invalid h
  | some a => trivial

theorem endsIn_ensure (h : IsPlain subject.toList) (condition : Bool) :
    EndsIn (ensure subject condition) (fun _ => True) Error.IsRefusal := by
  rw [ensure]
  split_ifs
  · trivial
  · exact Error.isRefusal_invalid h

theorem endsIn_checkBit (h : IsPlain subject.toList) (bit : String) :
    EndsIn (checkBit subject bit) (fun _ => True) Error.IsRefusal := by
  rw [checkBit]
  split_ifs
  · trivial
  · exact Error.isRefusal_onlyAllowed h 0 1

theorem endsIn_choose (h : IsPlain subject.toList) (choices : List String) (word : String) :
    EndsIn (choose choices subject word) (fun _ => True) Error.IsRefusal :=
  endsIn_require h _

theorem endsIn_readVoltage (h : IsPlain subject.toList) (voltage : String) :
    EndsIn (readVoltage subject voltage) (fun _ => True) Error.IsRefusal :=
  endsIn_require h _

theorem endsIn_checkYear (year : String) :
    EndsIn (checkYear year) (fun _ => True) Error.IsRefusal :=
  endsIn_require (by decide) _

theorem endsIn_checkMonth (month : String) :
    EndsIn (checkMonth month) (fun _ => True) Error.IsRefusal :=
  endsIn_require (by decide) _

theorem endsIn_checkDate (year month day : String) :
    EndsIn (checkDate year month day) (fun _ => True) Error.IsRefusal :=
  (endsIn_checkYear year).bind fun _ _ => (endsIn_checkMonth month).bind fun _ _ =>
    (endsIn_require (by decide) _).bind fun _ _ => endsIn_ensure (by decide) _

theorem endsIn_checkClockPart (h : IsPlain subject.toList) (greatest : Nat) (part : String) :
    EndsIn (checkClockPart subject greatest part) (fun _ => True) Error.IsRefusal :=
  (endsIn_require h _).bind fun _ _ => trivial

theorem endsIn_checkParallelId (id : String) :
    EndsIn (checkParallelId id) (fun _ => True) Error.IsRefusal :=
  (endsIn_require (by decide) _).bind fun _ _ => trivial

/-- The checks of every command do nothing but refuse. -/
theorem endsIn_normalise (c : Command) (args : List String) :
    EndsIn (c.normalise args) (fun _ => True) Error.IsRefusal := by
  have hargument : IsPlain "argument".toList := by decide
  rw [normalise.eq_def]
  split
  · exact (endsIn_checkYear _).bind fun _ _ => trivial
  · exact (endsIn_checkYear _).bind fun _ _ => (endsIn_checkMonth _).bind fun _ _ => trivial
  · exact (endsIn_checkDate _ _ _).bind fun _ _ => trivial
  · exact (endsIn_ensure hargument _).bind fun _ _ => trivial
  · exact (endsIn_ensure hargument _).bind fun _ _ => trivial
  · exact (endsIn_checkBit hargument _).bind fun _ _ => trivial
  · exact (endsIn_require (by decide) _).bind fun _ _ =>
      (endsIn_checkBit (by decide) _).bind fun _ _ => trivial
  · exact (endsIn_checkParallelId _).bind fun _ _ =>
      (endsIn_require (by decide) _).bind fun _ _ => trivial
  · exact (endsIn_checkParallelId _).bind fun _ _ =>
      (endsIn_require (by decide) _).bind fun _ _ => trivial
  · split_ifs
    · trivial
    · exact Error.isRefusal_onlyAllowed (by decide) 50 60
  · exact (endsIn_readVoltage (by decide) _).bind fun _ _ =>
      (endsIn_readVoltage (by decide) _).bind fun _ _ =>
        (endsIn_ensure (by decide) _).bind fun _ _ =>
          (endsIn_ensure (by decide) _).bind fun _ _ => trivial
  · exact (endsIn_require (by decide) _).bind fun _ _ => trivial
  · exact (endsIn_choose hargument _ _).bind fun _ _ => trivial
  · exact (endsIn_readVoltage (by decide) _).bind fun _ _ =>
      (endsIn_readVoltage (by decide) _).bind fun _ _ =>
        (endsIn_ensure (by decide) _).bind fun _ _ =>
          (endsIn_ensure (by decide) _).bind fun _ _ => trivial
  · exact (endsIn_checkParallelId _).bind fun _ _ =>
      (endsIn_choose hargument _ _).bind fun _ _ => trivial
  · exact (endsIn_choose (by decide) _ _).bind fun _ _ => trivial
  · exact (endsIn_choose hargument _ _).bind fun _ _ => trivial
  · exact (endsIn_choose (by decide) _ _).bind fun _ _ => trivial
  · exact (endsIn_checkParallelId _).bind fun _ _ =>
      (endsIn_choose (by decide) _ _).bind fun _ _ => trivial
  · exact (endsIn_readVoltage (by decide) _).bind fun _ _ =>
      (endsIn_ensure (by decide) _).bind fun _ _ => trivial
  · exact (endsIn_ensure hargument _).bind fun _ _ => trivial
  · exact (endsIn_checkDate _ _ _).bind fun _ _ =>
      (endsIn_checkClockPart (by decide) _ _).bind fun _ _ =>
        (endsIn_checkClockPart (by decide) _ _).bind fun _ _ =>
          (endsIn_checkClockPart (by decide) _ _).bind fun _ _ => trivial
  · exact (endsIn_require (by decide) _).bind fun _ _ =>
      (endsIn_require (by decide) _).bind fun _ _ => trivial
  · exact (endsIn_require (by decide) _).bind fun _ _ =>
      (endsIn_require (by decide) _).bind fun _ _ => trivial
  · trivial

/-- **Checking a request** accepts it or refuses it. -/
theorem refusal_ofRequest (name : String) (args : List String) :
    EndsIn (ofRequest name args) (fun _ => True) Error.IsRefusal := by
  refine (endsIn_require (by decide) _).bind fun c _ => ?_
  split_ifs
  · exact (endsIn_normalise c args).bind fun _ _ => trivial
  · exact Error.isRefusal_wrongCount _

theorem endsIn_ofRequest (name : String) (args : List String) :
    EndsIn (ofRequest name args) (fun _ => True) Error.IsExternal :=
  (refusal_ofRequest name args).mono (fun _ _ => trivial) fun _ => Error.IsRefusal.isExternal

/-! ### Requests that cannot be laid out -/

/-- Whether the second threshold of a command that sets both is negative. -/
def HasNegativeThreshold (c : Command) (args : List String) : Prop :=
  c = .setBatteryChargeThresholds ∧ ∃ v, decimal? args 1 = some v ∧ v < 0

/-- The second of both thresholds is the only decimal that may be zero. -/
theorem eq_of_leastTenths_eq_zero {slot : Slot} {index width : Nat} (hslot : slot ∈ c.layout)
    (htenths : slot = .tenths index width) (h : c.leastTenths index = 0) :
    c = .setBatteryChargeThresholds ∧ index = 1 := by
  have hall : ∀ c ∈ all, ∀ slot ∈ c.layout, slot.readsDecimal = true → ∀ index ∈ slot.index?,
      c.leastTenths index = 0 → c = .setBatteryChargeThresholds ∧ index = 1 := by decide
  subst htenths
  exact hall c (mem_all c) _ hslot rfl index rfl h

variable {name : String} {args normalised : List String}

/-- **Accepted requests have a frame**, but for a threshold that is negative. -/
theorem exists_frame_iff (h : ofRequest name args = .ok (c, normalised)) :
    (∃ frame, c.frame normalised = .ok frame) ↔ ¬ c.HasNegativeThreshold normalised := by
  obtain ⟨-, hlength, hnormalise⟩ := ofRequest_eq_ok h
  have hsuits := (fits_of_normalise hlength hnormalise).suits
  have hframe : (∃ frame, c.frame normalised = .ok frame) ↔
      ∃ packed, c.fillAll normalised c.layout = .ok packed := by
    constructor
    · rintro ⟨frame, hframe⟩
      obtain ⟨packed, hpack, -⟩ := frame_eq_ok.mp hframe
      exact ⟨packed, hpack⟩
    · rintro ⟨packed, hpack⟩
      exact ⟨_, frame_eq_ok.mpr ⟨packed, hpack, rfl⟩⟩
  rw [hframe, exists_fillAll_iff hsuits]
  constructor
  · rintro hnonneg ⟨rfl, v, hv, hneg⟩
    exact hnonneg (.tenths 1 3) (by decide) ⟨v, hv, hneg⟩
  · intro hthreshold slot hslot hnegative
    cases slot with
    | tenths index width =>
      obtain ⟨v, hv, hneg⟩ := hnegative
      obtain ⟨-, v', hv', hleast, -⟩ := hsuits _ hslot
      obtain rfl : v = v' := Option.some.inj (hv.symm.trans hv')
      -- a decimal with tenths above zero is above zero itself
      have hzero : c.leastTenths index = 0 := by
        by_contra hpos
        have htenths : 0 < Decimal.tenths v := by omega
        exact absurd (Decimal.pos_of_tenths_pos htenths) (not_lt.mpr hneg.le)
      obtain ⟨hc, rfl⟩ := eq_of_leastTenths_eq_zero hslot rfl hzero
      exact hthreshold ⟨hc, v, hv, hneg⟩
    | _ => exact hnegative

/-! ### Errors of the layout -/

theorem isPlain_label (c : Command) : IsPlain c.label.toList := by
  cases c <;> exact isPlain_ofList (by decide)

/-- An error of the layout of a command. -/
def IsOfLayout (c : Command) (e : Error) : Prop :=
  ∃ cause, e = .pack c.label cause

theorem endsIn_argument (args : List String) (index : Nat) :
    EndsIn (c.argument args index) (fun _ => True) c.IsOfLayout := by
  rw [argument]
  split
  · trivial
  · exact ⟨_, rfl⟩

theorem endsIn_integer (args : List String) (index : Nat) :
    EndsIn (c.integer args index) (fun _ => True) c.IsOfLayout := by
  refine (endsIn_argument args index).bind fun arg _ => ?_
  split
  · trivial
  · exact ⟨_, rfl⟩

theorem endsIn_decimalTenths (args : List String) (index : Nat) :
    EndsIn (c.decimalTenths args index) (fun _ => True) c.IsOfLayout := by
  refine (endsIn_argument args index).bind fun arg _ => ?_
  split
  · trivial
  · exact ⟨_, rfl⟩

theorem endsIn_fill (args : List String) (slot : Slot) :
    EndsIn (c.fill args slot) (fun _ => True) c.IsOfLayout := by
  cases slot with
  | text index | state index | sized index =>
    exact (endsIn_argument args index).bind fun _ _ => trivial
  | number index width | tenfold index width =>
    exact (endsIn_integer args index).bind fun _ _ => trivial
  | tenths index width => exact (endsIn_decimalTenths args index).bind fun _ _ => trivial
  | year index =>
    refine (endsIn_integer args index).bind fun n _ => ?_
    split_ifs
    · exact ⟨_, rfl⟩
    · trivial
  | comma => trivial

theorem endsIn_fillAll (args : List String) (slots : List Slot) :
    EndsIn (c.fillAll args slots) (fun _ => True) c.IsOfLayout := by
  induction slots with
  | nil => trivial
  | cons slot slots ih => exact (endsIn_fill args slot).bind fun _ _ => ih.bind fun _ _ => trivial

/-- **Building a frame** fails with an error of the layout alone. -/
theorem endsIn_frame (c : Command) (args : List String) :
    EndsIn (c.frame args) (fun _ => True) c.IsOfLayout :=
  (endsIn_fillAll args c.layout).bind fun _ _ => trivial

end Command

theorem PackError.isPlain_message (cause : PackError) : IsPlain cause.message.toList := by
  rw [message.eq_def]
  cases cause with
  | missing index =>
    simp only [isPlain_toList_append]
    exact ⟨⟨by decide, isPlain_toString index⟩, by decide⟩
  | notInteger index text =>
    simp only [isPlain_toList_append]
    exact ⟨⟨⟨by decide, isPlain_toString index⟩, by decide⟩, isPlain_quoted _⟩
  | notDecimal index text =>
    simp only [isPlain_toList_append]
    exact ⟨⟨⟨by decide, isPlain_toString index⟩, by decide⟩, isPlain_quoted _⟩
  | yearBefore2000 => decide

/-- An error of the layout is a fault of the program, and plain. -/
theorem Command.IsOfLayout.internal_and_isPlain {c : Command} {e : Error} (h : c.IsOfLayout e) :
    e.layer = .internal ∧ IsPlain e.message.toList := by
  obtain ⟨cause, rfl⟩ := h
  refine ⟨rfl, ?_⟩
  rw [Error.message.eq_def]
  simp only [isPlain_toList_append]
  exact ⟨⟨c.isPlain_label, by decide⟩, cause.isPlain_message⟩

end InverterLink
