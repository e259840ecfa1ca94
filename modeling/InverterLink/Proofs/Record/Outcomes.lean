import InverterLink.Proofs.Failure
import InverterLink.Proofs.Rendering

/-!
# What reading an answer ends in

A payload is read as a record of the expected kind, with the fields of its layout and with no texts
but parts of the payload, or it is refused by an error that names the record. Each step of the
reading has a lemma that says both. Hence an answer without a carriage return is read as a response
without one, or it is refused by a message without one: a message shows a part of the answer between
quotation marks or because it is a numeral. No refusal is a fault of the program.

## Main definitions

* `Error.IsExternal`: what the errors of an exchange with a device have in common.
* `Error.IsParseOf`: what the errors of reading a record have in common.
* `Layout.admits`: whether fields are those of a record with a layout.

## Main statements

* `Record.endsIn_ofPayload`: what reading a record ends in.
* `Response.endsIn_decode`: what decoding an answer ends in.
-/

namespace InverterLink

/-! ### Messages -/

theorem isPlain_checksumText (value : UInt16) : IsPlain (checksumText value).toList := by
  rw [checksumText, isPlain_toList_append]
  exact ⟨by decide, isPlain_ofList (Digits.isPlain_writeHex 4 _)⟩

theorem isPlain_quoted (cs : List Char) : IsPlain (quoted cs).toList := by
  rw [quoted]
  exact isPlain_ofList (Quoted.isPlain_quote cs)

theorem FrameError.isPlain_message (cause : FrameError) : IsPlain cause.message.toList := by
  rw [message.eq_def]
  cases cause with
  | checksum expected actual =>
    simp only [isPlain_toList_append]
    exact ⟨⟨⟨by decide, isPlain_checksumText _⟩, by decide⟩, isPlain_checksumText _⟩
  | _ => decide

theorem ResponseError.isPlain_message (cause : ResponseError) : IsPlain cause.message.toList := by
  rw [message.eq_def]
  cases cause with
  | tooShort size =>
    simp only [isPlain_toList_append]
    exact ⟨⟨by decide, isPlain_toString size⟩, by decide⟩
  | lengthExceeded declared actual =>
    simp only [isPlain_toList_append]
    exact ⟨⟨⟨by decide, isPlain_toString declared⟩, by decide⟩, isPlain_toString actual⟩
  | _ => decide

theorem Width.isPlain_text (width : Width) : IsPlain width.text.toList := by
  rw [text]
  split_ifs
  · exact isPlain_toString _
  · simp only [isPlain_toList_append]
    exact ⟨⟨⟨⟨by decide, isPlain_toString _⟩, by decide⟩, isPlain_toString _⟩, by decide⟩

/-- A cause that shows nothing as it stands but plain text. -/
def ParseError.IsTidy : ParseError → Prop
  | outOfRange numeral => IsPlain numeral
  | _ => True

theorem ParseError.IsTidy.isPlain_message {cause : ParseError} (h : cause.IsTidy) :
    IsPlain cause.message.toList := by
  rw [message.eq_def]
  cases cause with
  | tooFewItems expected actual =>
    simp only [isPlain_toList_append]
    exact ⟨⟨⟨⟨by decide, isPlain_toString _⟩, by decide⟩, isPlain_toString _⟩, by decide⟩
  | wrongWidth index expected actual =>
    simp only [isPlain_toList_append]
    exact ⟨⟨⟨⟨⟨⟨by decide, isPlain_toString _⟩, by decide⟩, expected.isPlain_text⟩, by decide⟩,
      isPlain_toString _⟩, by decide⟩
  | missingItem index =>
    simp only [isPlain_toList_append]
    exact ⟨⟨by decide, isPlain_toString _⟩, by decide⟩
  | unknownValue index value =>
    simp only [isPlain_toList_append]
    exact ⟨⟨⟨by decide, isPlain_toString _⟩, by decide⟩, isPlain_toString _⟩
  | unknownMode value =>
    simp only [isPlain_toList_append]
    exact ⟨by decide, isPlain_toString _⟩
  | notNumeral text =>
    simp only [isPlain_toList_append]
    exact ⟨isPlain_quoted text, by decide⟩
  | outOfRange numeral =>
    simp only [isPlain_toList_append]
    exact ⟨isPlain_ofList h, by decide⟩
  | tooFewCharacters expected actual =>
    simp only [isPlain_toList_append]
    exact ⟨⟨⟨by decide, isPlain_toString _⟩, by decide⟩, isPlain_toString _⟩

theorem Error.message_argument (cause : ArgumentError) :
    (Error.argument cause).message = cause.message := rfl

/-! ### Errors of exchanges -/

/-- What the errors of an exchange have in common: the program is not to blame, and no carriage
return is shown. -/
structure Error.IsExternal (e : Error) : Prop where
  not_internal : e.layer ≠ .internal
  isPlain : IsPlain e.message.toList

namespace Error

theorem isExternal_timeout (phase : Phase) (elapsed : Nat) :
    (timeout phase elapsed).IsExternal := by
  have hphase : IsPlain phase.description.toList := by cases phase <;> decide
  refine ⟨nofun, ?_⟩
  rw [message.eq_def]
  simp only [isPlain_toList_append]
  exact ⟨⟨⟨hphase, by decide⟩, isPlain_toString elapsed⟩, by decide⟩

theorem isExternal_frame (cause : FrameError) : (frame cause).IsExternal :=
  ⟨nofun, cause.isPlain_message⟩

theorem isExternal_response (cause : ResponseError) : (response cause).IsExternal :=
  ⟨nofun, cause.isPlain_message⟩

theorem isExternal_parse {record : String} {cause : ParseError} (hrecord : IsPlain record.toList)
    (h : cause.IsTidy) : (parse record cause).IsExternal := by
  refine ⟨nofun, ?_⟩
  rw [message.eq_def]
  simp only [isPlain_toList_append]
  exact ⟨⟨⟨by decide, hrecord⟩, by decide⟩, h.isPlain_message⟩

/-- An error that names a record and says why the payload is none. -/
def IsParseOf (record : String) (e : Error) : Prop :=
  ∃ cause : ParseError, e = parse record cause ∧ cause.IsTidy

theorem IsParseOf.isExternal {record : String} {e : Error} (h : e.IsParseOf record)
    (hrecord : IsPlain record.toList) : e.IsExternal := by
  obtain ⟨cause, rfl, hcause⟩ := h
  exact isExternal_parse hrecord hcause

end Error

/-! ### Forms of fields -/

namespace Cell

/-- Whether a field is one that an item of the given form can hold. -/
def hasForm : ItemForm → Cell → Bool
  | .number, .number n => n < Items.numberBound
  | .flag, .flag _ => true
  | .text, .text _ => true
  | .clipped _, .text _ => true
  | .choice e, .choice e' ordinal => e = e' && e.has ordinal
  | _, _ => false

/-- A field whose text, if it has one, is a part of the payload. -/
def IsPartOf (payload : List Char) : Cell → Prop
  | .text cs => cs <:+: payload
  | _ => True

/-- A field that is read from a payload as an item of the given form. -/
structure IsReadAs (payload : List Char) (form : ItemForm) (cell : Cell) : Prop where
  hasForm : cell.hasForm form = true
  isPartOf : cell.IsPartOf payload

variable {payload : List Char} {form : ItemForm}

theorem isReadAs_number {n : Nat} (h : n < Items.numberBound) :
    (number n).IsReadAs payload .number :=
  ⟨decide_eq_true h, trivial⟩

theorem isReadAs_choice {e : Enumeration} {ordinal : Nat} (h : e.has ordinal = true) :
    (choice e ordinal).IsReadAs payload (.choice e) :=
  ⟨by simp [Cell.hasForm, h], trivial⟩

theorem IsPartOf.isTidy {cell : Cell} (h : cell.IsPartOf payload) (hpayload : IsPlain payload) :
    cell.IsTidy := by
  cases cell with
  | text cs => exact hpayload.of_subset (List.IsInfix.subset h)
  | _ => trivial

end Cell

/-- Whether fields are those of a record with the given layout. -/
def Layout.admits (cells : List Cell) : Layout → Bool
  | .fixed sizes => cells.length = sizes.length && cells.all (Cell.hasForm .number)
  | .mode => cells.length = 1 && cells.all (Cell.hasForm (.choice .workingMode))
  | .sizedText => cells.length = 1 && cells.all (Cell.hasForm .text)
  | .separated table =>
    table.required ≤ cells.length && cells.length ≤ table.columns.length &&
      (cells.zip table.columns).all fun (cell, column) => cell.hasForm column.form
  | .clocks => cells.length = 4 && cells.all (Cell.hasForm .number)
  | .numbers => !cells.isEmpty && cells.all (Cell.hasForm .number)

/-! ### Items -/

namespace Items

variable (record : String) {payload : List Char} {items : List (List Char)}

theorem endsIn_fail {α : Type} {result : α → Prop} {cause : ParseError} (h : cause.IsTidy) :
    EndsIn (fail record cause) result (Error.IsParseOf record) :=
  ⟨cause, rfl, h⟩

theorem endsIn_checkWidths (position : Nat) (widths : List Width) (items : List (List Char)) :
    EndsIn (checkWidths record position widths items) (fun _ => True) (Error.IsParseOf record) := by
  fun_induction checkWidths record position widths items with
  | case1 position width widths item items haccepts ih => exact ih
  | case2 => exact endsIn_fail record trivial
  | case3 => trivial

/-- Splitting finds parts of the payload, and enough of them if there is a table. -/
theorem endsIn_split (widths : List Width) (atLeast : Nat) (payload : List Char) :
    EndsIn (split record widths atLeast payload)
      (fun items => items ≠ [] ∧ (∀ item ∈ items, item <:+: payload) ∧
        (widths ≠ [] → atLeast ≤ items.length))
      (Error.IsParseOf record) := by
  have hne : payload.splitOn ',' ≠ [] := List.splitOn_ne_nil _ _
  have hparts : ∀ item ∈ payload.splitOn ',', item <:+: payload := fun _ => isInfix_of_mem_splitOn
  rw [split]
  split_ifs with hempty hfew
  · exact ⟨hne, hparts, fun hwidths => absurd (List.isEmpty_iff.mp hempty) hwidths⟩
  · exact endsIn_fail record trivial
  · exact (endsIn_checkWidths record 0 widths _).map fun _ _ =>
      ⟨hne, hparts, fun _ => Nat.le_of_not_lt hfew⟩

theorem endsIn_slice (start size : Nat) (payload : List Char) :
    EndsIn (slice record start size payload) (· <:+: payload) (Error.IsParseOf record) := by
  rw [slice]
  split
  · next part behind hcut =>
    obtain ⟨⟨front, rest⟩, hfront, hpart⟩ := Option.bind_eq_some_iff.mp hcut
    rw [EndsIn, ← Utf8.append_of_takeBytes? hfront, ← Utf8.append_of_takeBytes? hpart]
    exact List.infix_append' _ _ _
  · exact endsIn_fail record trivial

/-- A numeral that is out of range is shown as it is, since it holds nothing but digits. -/
theorem endsIn_readNumber (cs : List Char) :
    EndsIn (readNumber record cs) (· < numberBound) (Error.IsParseOf record) := by
  rw [readNumber]
  cases hread : Digits.read? cs with
  | none => exact endsIn_fail record trivial
  | some n =>
    dsimp only
    split_ifs with hn
    · exact hn
    · have hnumeral := (Digits.read?_eq_some_iff.mp hread).1
      exact endsIn_fail record (isPlain_of_isDigit (Digits.isNumeral_iff.mp hnumeral).2)

theorem endsIn_item (items : List (List Char)) (index : Nat) :
    EndsIn (item record items index) (· ∈ items) (Error.IsParseOf record) := by
  rw [item]
  split
  · next cs hcs => exact List.mem_of_getElem? hcs
  · exact endsIn_fail record trivial

theorem endsIn_number (items : List (List Char)) (index : Nat) :
    EndsIn (number record items index) (· < numberBound) (Error.IsParseOf record) :=
  (endsIn_item record items index).bind fun cs _ => endsIn_readNumber record cs

theorem endsIn_flag (items : List (List Char)) (index : Nat) :
    EndsIn (flag record items index) (fun _ => True) (Error.IsParseOf record) :=
  (endsIn_number record items index).bind fun _ _ => trivial

theorem endsIn_ordinal (items : List (List Char)) (e : Enumeration) (index : Nat) :
    EndsIn (ordinal record items e index) (e.has · = true) (Error.IsParseOf record) := by
  refine (endsIn_number record items index).bind fun value _ => ?_
  split_ifs with hhas
  · exact hhas
  · exact endsIn_fail record trivial

theorem endsIn_numbers (items : List (List Char)) :
    EndsIn (numbers record items)
      (fun ns => ns.length = items.length ∧ ∀ n ∈ ns, n < numberBound)
      (Error.IsParseOf record) := by
  induction items with
  | nil => exact ⟨rfl, List.forall_mem_nil _⟩
  | cons cs items ih =>
    exact (endsIn_readNumber record cs).bind fun _ hn => ih.bind fun _ ⟨hlength, hns⟩ =>
      ⟨congrArg (· + 1) hlength, List.forall_mem_cons.mpr ⟨hn, hns⟩⟩

end Items

/-! ### Layouts -/

namespace Layout

variable (record : String) {payload : List Char} {items : List (List Char)}
  (hitems : ∀ item ∈ items, item <:+: payload)

include hitems in
theorem endsIn_readItem (form : ItemForm) (index : Nat) :
    EndsIn (readItem record items form index) (Cell.IsReadAs payload form)
      (Error.IsParseOf record) := by
  cases form with
  | number =>
    exact (Items.endsIn_number record items index).bind fun _ hn => Cell.isReadAs_number hn
  | flag => exact (Items.endsIn_flag record items index).bind fun _ _ => ⟨rfl, trivial⟩
  | text => exact (Items.endsIn_item record items index).bind fun cs hcs => ⟨rfl, hitems cs hcs⟩
  | choice e =>
    exact (Items.endsIn_ordinal record items e index).bind fun _ hhas => Cell.isReadAs_choice hhas
  | clipped sizeAt =>
    exact (Items.endsIn_number record items sizeAt).bind fun size _ =>
      (Items.endsIn_item record items index).bind fun cs hcs =>
        ⟨rfl, (List.take_prefix size cs).isInfix.trans (hitems cs hcs)⟩

include hitems in
/-- Items are read as far as there are columns and items. -/
theorem endsIn_readItems (columns : List Column) (index : Nat) :
    EndsIn (readItems record items columns index)
      (fun cells => cells.length = min columns.length (items.length - index) ∧
        (∀ cell ∈ cells, cell.IsPartOf payload) ∧
        ((cells.zip columns).all fun (cell, column) => cell.hasForm column.form) = true)
      (Error.IsParseOf record) := by
  induction columns generalizing index with
  | nil => exact ⟨(Nat.zero_min _).symm, List.forall_mem_nil _, rfl⟩
  | cons column columns ih =>
    rw [readItems]
    split_ifs with hindex
    · refine (endsIn_readItem record hitems column.form index).bind fun cell hcell =>
        (ih (index + 1)).bind fun cells ⟨hlength, hparts, hforms⟩ => ⟨?_, ?_, ?_⟩
      · rw [List.length_cons, List.length_cons, hlength]
        omega
      · exact List.forall_mem_cons.mpr ⟨hcell.isPartOf, hparts⟩
      · rw [List.zip_cons_cons, List.all_cons, Bool.and_eq_true]
        exact ⟨hcell.hasForm, hforms⟩
    · refine ⟨?_, List.forall_mem_nil _, rfl⟩
      rw [List.length_nil]
      omega

include hitems in
theorem endsIn_peek (columns : List Column) (index : Nat) :
    EndsIn (peek record items columns index) (fun _ => True) (Error.IsParseOf record) := by
  rw [peek]
  split
  · next column _ _ _ =>
    exact (endsIn_readItem record hitems column.form index).map fun _ _ => trivial
  · trivial

include hitems in
/-- The fields of a table are as many as its columns, or as its items if there are fewer. -/
theorem endsIn_readTable {table : Table} (hcolumns : table.required ≤ table.columns.length)
    (henough : table.columns ≠ [] → table.required ≤ items.length) :
    EndsIn (readTable record table items)
      (fun cells => (separated table).admits cells = true ∧ ∀ cell ∈ cells, cell.IsPartOf payload)
      (Error.IsParseOf record) := by
  have hcells : EndsIn (readItems record items table.columns 0)
      (fun cells => (separated table).admits cells = true ∧ ∀ cell ∈ cells, cell.IsPartOf payload)
      (Error.IsParseOf record) := by
    refine (endsIn_readItems record hitems table.columns 0).mono
      (fun cells ⟨hlength, hparts, hforms⟩ => ⟨?_, hparts⟩) fun _ he => he
    rw [admits, Bool.and_eq_true, Bool.and_eq_true, decide_eq_true_iff, decide_eq_true_iff, hlength,
      Nat.sub_zero]
    refine ⟨⟨Nat.le_min.mpr ⟨hcolumns, ?_⟩, Nat.min_le_left _ _⟩, hforms⟩
    by_cases hempty : table.columns = []
    · rw [hempty] at hcolumns
      exact Nat.le_trans hcolumns (Nat.zero_le _)
    · exact henough hempty
  rw [readTable]
  split
  · next index _ =>
    exact (endsIn_peek record hitems table.columns index).bind fun _ _ => hcells
  · exact hcells

/-- Fields that are all numbers are those of a layout of so many numbers. -/
theorem admits_numbers {cells : List Cell} (h : ∀ cell ∈ cells, cell.IsReadAs payload .number) :
    cells.all (Cell.hasForm .number) = true ∧ ∀ cell ∈ cells, cell.IsPartOf payload :=
  ⟨List.all_eq_true.mpr fun cell hcell => (h cell hcell).hasForm,
    fun cell hcell => (h cell hcell).isPartOf⟩

theorem endsIn_readFixed (payload : List Char) (sizes : List Nat) (start : Nat) (part : List Char) :
    EndsIn (readFixed record part sizes start)
      (fun cells => cells.length = sizes.length ∧ ∀ cell ∈ cells, cell.IsReadAs payload .number)
      (Error.IsParseOf record) := by
  induction sizes generalizing start with
  | nil => exact ⟨rfl, List.forall_mem_nil _⟩
  | cons size sizes ih =>
    rw [readFixed]
    exact (Items.endsIn_slice record start size part).bind fun cs _ =>
      (Items.endsIn_readNumber record cs).bind fun n hn =>
        (ih (start + size)).bind fun cells ⟨hlength, hcells⟩ =>
          ⟨congrArg (· + 1) hlength, List.forall_mem_cons.mpr ⟨Cell.isReadAs_number hn, hcells⟩⟩

theorem endsIn_readMode (payload : List Char) :
    EndsIn (readMode record payload)
      (fun cells => mode.admits cells = true ∧ ∀ cell ∈ cells, cell.IsPartOf payload)
      (Error.IsParseOf record) := by
  refine (Items.endsIn_slice record 0 2 payload).bind fun cs _ =>
    (Items.endsIn_readNumber record cs).bind fun value _ => ?_
  split_ifs with hhas
  · refine ⟨?_, List.forall_mem_singleton.mpr trivial⟩
    simp [admits, Cell.hasForm, hhas]
  · exact Items.endsIn_fail record trivial

theorem endsIn_readSizedText (payload : List Char) :
    EndsIn (readSizedText record payload)
      (fun cells => sizedText.admits cells = true ∧ ∀ cell ∈ cells, cell.IsPartOf payload)
      (Error.IsParseOf record) :=
  (Items.endsIn_slice record 0 2 payload).bind fun cs _ =>
    (Items.endsIn_readNumber record cs).bind fun size _ =>
      (Items.endsIn_slice record 2 size payload).bind fun _ htext =>
        ⟨rfl, List.forall_mem_singleton.mpr htext⟩

theorem endsIn_readClocks (payload : List Char) :
    EndsIn (readClocks record payload)
      (fun cells => clocks.admits cells = true ∧ ∀ cell ∈ cells, cell.IsPartOf payload)
      (Error.IsParseOf record) := by
  refine (Items.endsIn_split record clockWidths 2 payload).bind fun items _ =>
    (Items.endsIn_item record items 0).bind fun start _ =>
      (Items.endsIn_item record items 1).bind fun stop _ =>
        (endsIn_readFixed record payload [2, 2] 0 start).bind fun first ⟨hfirst, hfirsts⟩ =>
          (endsIn_readFixed record payload [2, 2] 0 stop).bind fun second ⟨hsecond, hseconds⟩ => ?_
  obtain ⟨hforms, hparts⟩ := admits_numbers (List.forall_mem_append.mpr ⟨hfirsts, hseconds⟩)
  refine ⟨?_, hparts⟩
  rw [admits, Bool.and_eq_true, List.length_append, hfirst, hsecond]
  exact ⟨rfl, hforms⟩

theorem endsIn_readNumbers (payload : List Char) :
    EndsIn (numbers.read record payload)
      (fun cells => numbers.admits cells = true ∧ ∀ cell ∈ cells, cell.IsPartOf payload)
      (Error.IsParseOf record) := by
  refine (Items.endsIn_split record [] 0 payload).bind fun items ⟨hne, _⟩ =>
    (Items.endsIn_numbers record items).bind fun ns ⟨hlength, hns⟩ => ?_
  have hcells : ∀ cell ∈ ns.map Cell.number, cell.IsReadAs payload .number :=
    List.forall_mem_map.mpr fun n hn => Cell.isReadAs_number (hns n hn)
  obtain ⟨hforms, hparts⟩ := admits_numbers hcells
  refine ⟨?_, hparts⟩
  rw [admits, Bool.and_eq_true, Bool.not_eq_true', List.isEmpty_eq_false_iff]
  refine ⟨List.ne_nil_of_length_pos ?_, hforms⟩
  rw [List.length_map, hlength]
  exact List.length_pos_iff.mpr hne

/-- **What reading by a layout ends in**: fields of the layout whose texts are parts of the payload,
or an error that names the record. -/
theorem endsIn_read (payload : List Char) {layout : Layout}
    (hlayout : ∀ table, layout = separated table → table.required ≤ table.columns.length) :
    EndsIn (layout.read record payload)
      (fun cells => layout.admits cells = true ∧ ∀ cell ∈ cells, cell.IsPartOf payload)
      (Error.IsParseOf record) := by
  cases layout with
  | fixed sizes =>
    refine (endsIn_readFixed record payload sizes 0 payload).mono
      (fun cells ⟨hlength, hcells⟩ => ?_) fun _ he => he
    obtain ⟨hforms, hparts⟩ := admits_numbers hcells
    refine ⟨?_, hparts⟩
    rw [admits, Bool.and_eq_true]
    exact ⟨decide_eq_true hlength, hforms⟩
  | mode => exact endsIn_readMode record payload
  | sizedText => exact endsIn_readSizedText record payload
  | separated table =>
    refine (Items.endsIn_split record table.widths table.required payload).bind
      fun items ⟨_, hitems, henough⟩ =>
        endsIn_readTable record hitems (hlayout table rfl) fun hcolumns => henough ?_
    exact List.map_eq_nil_iff.not.mpr hcolumns
  | clocks => exact endsIn_readClocks record payload
  | numbers => exact endsIn_readNumbers record payload

end Layout

/-! ### Responses -/

theorem RecordKind.isPlain_label (kind : RecordKind) : IsPlain kind.label.toList := by
  cases kind <;> exact isPlain_ofList (by decide)

/-- No table requires more items than it has columns. -/
theorem RecordKind.required_le (kind : RecordKind) (table : Table)
    (h : kind.layout = .separated table) : table.required ≤ table.columns.length := by
  cases kind <;> cases h <;> decide

/-- **What reading a record ends in**: a record of the kind, whose texts are parts of the payload,
or an error that names it. -/
theorem Record.endsIn_ofPayload (kind : RecordKind) (payload : List Char) :
    EndsIn (Record.ofPayload kind payload)
      (fun r => r.kind = kind ∧ kind.layout.admits r.cells = true ∧
        ∀ cell ∈ r.cells, cell.IsPartOf payload)
      (Error.IsParseOf kind.label) :=
  (Layout.endsIn_read kind.label payload kind.required_le).bind fun _ hcells => ⟨rfl, hcells⟩

/-- The payload of an answer without carriage returns is plain. -/
theorem Response.isPlain_of_payload {answer : List UInt8} {text : List Char}
    (h : Response.payload answer = .ok text) (hanswer : Frame.terminator ∉ answer) :
    IsPlain text := by
  rw [payload.eq_def] at h
  split at h
  · next m₀ m₁ d₀ d₁ d₂ bytes =>
    split_ifs at h
    split at h
    · cases h
    · split_ifs at h
      split at h
      · next text htext =>
        cases h
        have hsuffix : bytes <:+ m₀ :: m₁ :: d₀ :: d₁ :: d₂ :: bytes :=
          List.suffix_append [m₀, m₁, d₀, d₁, d₂] bytes
        exact Utf8.isPlain_of_decode? htext fun hmem => hanswer (hsuffix.subset hmem)
      · cases h
  · cases h

/-- **What decoding an answer ends in**: a tidy response, or an error of an exchange. -/
theorem Response.endsIn_decode (command : Command) {answer : List UInt8}
    (h : Frame.terminator ∉ answer) :
    EndsIn (Response.decode command answer) Response.IsTidy Error.IsExternal := by
  rw [decode]
  split
  · split
    · trivial
    · exact Error.isExternal_response _
  · next kind _ =>
    split
    · exact Error.isExternal_response _
    · next text htext =>
      refine ((Record.endsIn_ofPayload kind text).mono (fun r ⟨_, _, hparts⟩ => ?_)
        fun _ he => he.isExternal kind.isPlain_label).map fun _ htidy => htidy
      exact fun cell hcell => (hparts cell hcell).isTidy (isPlain_of_payload htext h)

end InverterLink
