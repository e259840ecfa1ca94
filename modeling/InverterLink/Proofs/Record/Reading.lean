import InverterLink.Proofs.Record.Items
import InverterLink.Proofs.Record.Writing
import InverterLink.Record.Decoding

/-!
# Reading records that were written

Every layout reads back what was written in it. For a table this comes down to one statement about a
column and a field that fits it; for numbers at fixed offsets it is an induction over their sizes
that carries what has been read along.
-/

namespace InverterLink

/-! ### Items of a table -/

theorem Spelling.getElem?_items (spelling : Spelling) (cells : List Cell) (index : Nat) :
    (spelling.items cells)[index]? =
      cells[index]?.map (Cell.write (spelling.size index) (spelling.filler index)) :=
  List.getElem?_mapIdx

theorem Spelling.length_items (spelling : Spelling) (cells : List Cell) :
    (spelling.items cells).length = cells.length :=
  List.length_mapIdx

/-- Every ordinal of an enumeration is a number that an item can hold. -/
theorem Enumeration.lt_of_has {e : Enumeration} {ordinal : Nat} (h : e.has ordinal = true) :
    ordinal < 10 ∧ ordinal < Items.numberBound := by
  have hsize : e.labels.length ≤ 6 := by cases e <;> decide
  rw [has, decide_eq_true_iff] at h
  rw [Items.numberBound]
  omega

namespace Table

variable {table : Table} {spelling : Spelling} {cells : List Cell}

/-- What it is for a record to fit a table: it has the right number of fields, and each fits its
column. -/
theorem fits_iff :
    table.fits spelling cells = true ↔
      cells ≠ [] ∧ table.required ≤ cells.length ∧ cells.length ≤ table.columns.length ∧
        ∀ (index : Nat) (cell : Cell) (column : Column), cells[index]? = some cell →
          table.columns[index]? = some column →
          column.fits cells (spelling.size index) (spelling.filler index) cell = true := by
  rw [fits, Bool.and_eq_true, Bool.and_eq_true, Bool.and_eq_true, Bool.not_eq_true',
    List.isEmpty_eq_false_iff, decide_eq_true_iff, decide_eq_true_iff, List.all_eq_true, and_assoc,
    and_assoc]
  refine and_congr_right fun _ => and_congr_right fun _ => and_congr_right fun _ => ?_
  constructor
  · intro h index cell column hcell hcolumn
    refine h ((cell, index), column) (List.mem_iff_getElem?.mpr ⟨index, ?_⟩)
    rw [List.getElem?_zip_eq_some, List.getElem?_zipIdx, hcell, Nat.zero_add]
    exact ⟨rfl, hcolumn⟩
  · rintro h ⟨⟨cell, position⟩, column⟩ hmem
    obtain ⟨index, hindex⟩ := List.mem_iff_getElem?.mp hmem
    rw [List.getElem?_zip_eq_some, List.getElem?_zipIdx, Nat.zero_add,
      Option.map_eq_some_iff] at hindex
    obtain ⟨⟨cell', hcell, heq⟩, hcolumn⟩ := hindex
    cases heq
    exact h position cell column hcell hcolumn

/-- Each field of a record that fits has a column. -/
theorem exists_column (h : table.fits spelling cells = true) {index : Nat} {cell : Cell}
    (hcell : cells[index]? = some cell) :
    ∃ column, table.columns[index]? = some column ∧
      column.fits cells (spelling.size index) (spelling.filler index) cell = true := by
  obtain ⟨-, -, hknown, hfits⟩ := fits_iff.mp h
  obtain ⟨hlt, -⟩ := List.getElem?_eq_some_iff.mp hcell
  have hcolumn := List.getElem?_eq_getElem (Nat.lt_of_lt_of_le hlt hknown)
  exact ⟨_, hcolumn, hfits index cell _ hcell hcolumn⟩

end Table

namespace Column

variable {cells : List Cell} {size : Nat} {filler : List Char} {column : Column} {cell : Cell}

/-- One digit is enough for a digit. -/
private theorem lt_pow_of_lt_ten {n size : Nat} (h : n < 10) (hsize : 0 < size) : n < 10 ^ size :=
  Nat.lt_of_lt_of_le h (Nat.le_self_pow (Nat.ne_of_gt hsize) 10)

/-- A padded numeral has the width that it is padded to, and no commas. -/
private theorem numeral_of_accepts {width : Width} {n : Nat} (hwidth : width.accepts size = true)
    (hsize : 0 < size) (hlt : n < 10 ^ size) :
    width.accepts (Utf8.byteLength (Digits.writePadded size n)) = true ∧
      ',' ∉ Digits.writePadded size n := by
  rw [Digits.byteLength_writePadded hsize hlt]
  exact ⟨hwidth, Digits.comma_notMem_writePadded size n⟩

/-- What is written in a column has one of its widths, and no commas. -/
theorem write_of_fits (h : column.fits cells size filler cell = true) :
    column.width.accepts (Utf8.byteLength (cell.write size filler)) = true ∧
      ',' ∉ cell.write size filler := by
  obtain ⟨width, form⟩ := column
  cases form with
  | number =>
    obtain ⟨n, rfl, hwidth, hsize, hlt, -⟩ := fits_number_iff.mp h
    exact numeral_of_accepts hwidth hsize hlt
  | flag =>
    obtain ⟨b, rfl, hwidth, hsize⟩ := fits_flag_iff.mp h
    have hlt := lt_pow_of_lt_ten (Nat.lt_of_lt_of_le b.toNat_lt (by decide)) hsize
    exact numeral_of_accepts hwidth hsize hlt
  | text =>
    obtain ⟨cs, rfl, rfl, hcomma, hwidth⟩ := fits_text_iff.mp h
    rw [Cell.write, List.append_nil]
    exact ⟨hwidth, hcomma⟩
  | choice e =>
    obtain ⟨ordinal, rfl, hhas, hwidth, hsize⟩ := fits_choice_iff.mp h
    have hlt := lt_pow_of_lt_ten (Enumeration.lt_of_has hhas).1 hsize
    exact numeral_of_accepts hwidth hsize hlt
  | clipped sizeAt =>
    obtain ⟨cs, rfl, hcomma, hwidth, -⟩ := fits_clipped_iff.mp h
    exact ⟨hwidth, hcomma⟩

end Column

namespace Layout

variable (record : String) {table : Table} {spelling : Spelling} {cells : List Cell}

/-- **An item is read as the field that was written.** -/
theorem readItem_of_fits (h : table.fits spelling cells = true) {index : Nat} {cell : Cell}
    {column : Column} (hcell : cells[index]? = some cell)
    (hfits : column.fits cells (spelling.size index) (spelling.filler index) cell = true) :
    readItem record (spelling.items cells) column.form index = .ok cell := by
  have hitem : (spelling.items cells)[index]? =
      some (cell.write (spelling.size index) (spelling.filler index)) := by
    rw [Spelling.getElem?_items, hcell, Option.map_some]
  obtain ⟨width, form⟩ := column
  cases form with
  | number =>
    obtain ⟨n, rfl, -, -, -, hbound⟩ := Column.fits_number_iff.mp hfits
    rw [readItem, Items.number_of_getElem? record hitem hbound]
    rfl
  | flag =>
    obtain ⟨b, rfl, -, -⟩ := Column.fits_flag_iff.mp hfits
    have hbound : b.toNat < Items.numberBound := Nat.lt_of_lt_of_le b.toNat_lt (by decide)
    rw [readItem, Items.flag, Items.number_of_getElem? record hitem hbound]
    cases b <;> rfl
  | text =>
    obtain ⟨cs, rfl, hfiller, -, -⟩ := Column.fits_text_iff.mp hfits
    rw [readItem, Items.item_of_getElem? record hitem, hfiller, Cell.write, List.append_nil]
    rfl
  | choice e =>
    obtain ⟨ordinal, rfl, hhas, -, -⟩ := Column.fits_choice_iff.mp hfits
    rw [readItem, Items.ordinal, Items.number_of_getElem? record hitem
      (Enumeration.lt_of_has hhas).2]
    dsimp only [bind, Except.bind]
    rw [if_pos hhas]
    rfl
  | clipped sizeAt =>
    obtain ⟨cs, rfl, -, -, hsizeAt⟩ := Column.fits_clipped_iff.mp hfits
    -- the size was written as a number of its own, in a column that comes from the same table
    obtain ⟨sizeColumn, -, hsizeFits⟩ := Table.exists_column h hsizeAt
    have hsize : (spelling.items cells)[sizeAt]? =
        some (Digits.writePadded (spelling.size sizeAt) cs.length) := by
      rw [Spelling.getElem?_items, hsizeAt, Option.map_some, Cell.write]
    rw [readItem, Items.number_of_getElem? record hsize (Column.lt_of_fits_number hsizeFits),
      Items.item_of_getElem? record hitem, Cell.write]
    dsimp only [bind, Except.bind, pure, Except.pure]
    rw [List.take_left]

/-- Items are read as the fields that were written, from any column on. -/
theorem readItems_of_fits (h : table.fits spelling cells = true) (columns : List Column)
    (index : Nat) (hcolumns : table.columns.drop index = columns) :
    readItems record (spelling.items cells) columns index = .ok (cells.drop index) := by
  induction columns generalizing index with
  | nil =>
    obtain ⟨-, -, hknown, -⟩ := Table.fits_iff.mp h
    have hend := Nat.le_trans hknown (List.drop_eq_nil_iff.mp hcolumns)
    rw [readItems, List.drop_eq_nil_of_le hend]
  | cons column columns ih =>
    rw [readItems, Spelling.length_items]
    by_cases hlt : index < cells.length
    · have hcolumn : table.columns[index]? = some column := by
        rw [← List.head?_drop, hcolumns, List.head?_cons]
      have hbehind : table.columns.drop (index + 1) = columns := by
        rw [← List.tail_drop, hcolumns, List.tail_cons]
      have hcell := List.getElem?_eq_getElem hlt
      obtain ⟨-, -, -, hfits⟩ := Table.fits_iff.mp h
      rw [if_pos hlt, readItem_of_fits record h hcell (hfits _ _ _ hcell hcolumn), ih _ hbehind,
        List.drop_eq_getElem_cons hlt]
      rfl
    · rw [if_neg hlt, List.drop_eq_nil_of_le (Nat.le_of_not_lt hlt)]

/-- The item that is read before the others can be read. -/
theorem peek_of_fits (h : table.fits spelling cells = true) (index : Nat) :
    peek record (spelling.items cells) table.columns index = .ok () := by
  rw [peek, Spelling.getElem?_items]
  cases hcolumn : table.columns[index]? with
  | none => rfl
  | some column =>
    cases hcell : cells[index]? with
    | none => rfl
    | some cell =>
      obtain ⟨-, -, -, hfits⟩ := Table.fits_iff.mp h
      dsimp only [Option.map_some]
      rw [readItem_of_fits record h hcell (hfits _ _ _ hcell hcolumn)]
      rfl

/-- **A table reads back the items that were written in it.** -/
theorem readTable_of_fits (h : table.fits spelling cells = true) :
    readTable record table (spelling.items cells) = .ok cells := by
  have hitems := readItems_of_fits record h table.columns 0 rfl
  rw [readTable]
  cases table.readFirst? with
  | none => exact hitems
  | some index =>
    dsimp only
    rw [peek_of_fits record h index]
    exact hitems

/-- **A payload is cut into the items that were written.** -/
theorem split_of_fits (h : table.fits spelling cells = true) :
    Items.split record table.widths table.required ([','].intercalate (spelling.items cells)) =
      .ok (spelling.items cells) := by
  obtain ⟨hne, hrequired, -, hfits⟩ := Table.fits_iff.mp h
  refine Items.split_of_accepts record ?_ ?_ (by rwa [Spelling.length_items]) ?_
  · rwa [← List.length_pos_iff, Spelling.length_items, List.length_pos_iff]
  · intro cs hcs
    obtain ⟨index, hindex⟩ := List.mem_iff_getElem?.mp hcs
    rw [Spelling.getElem?_items, Option.map_eq_some_iff] at hindex
    obtain ⟨cell, hcell, rfl⟩ := hindex
    obtain ⟨column, -, hcolumn⟩ := Table.exists_column h hcell
    exact (Column.write_of_fits hcolumn).2
  · intro index width cs hwidth hcs
    rw [Spelling.getElem?_items, Option.map_eq_some_iff] at hcs
    rw [Table.widths, List.getElem?_map, Option.map_eq_some_iff] at hwidth
    obtain ⟨cell, hcell, rfl⟩ := hcs
    obtain ⟨column, hcolumn, rfl⟩ := hwidth
    exact (Column.write_of_fits (hfits index cell column hcell hcolumn)).1

/-! ### Numbers of fixed sizes -/

/-- What it is for a field to fit into so many digits. -/
theorem fitsDigits_iff {size : Nat} {cell : Cell} :
    cell.fitsDigits size = true ↔
      ∃ n, cell = .number n ∧ 0 < size ∧ n < 10 ^ size ∧ n < Items.numberBound := by
  have hwidth : (Width.exactly size).accepts size = true := by
    simp only [Width.accepts, Width.exactly, Nat.le_refl, decide_true, Bool.and_self]
  rw [Cell.fitsDigits, Column.digits, Column.fits_number_iff]
  simp only [hwidth, true_and]

/-- **Numbers of fixed sizes are read as they were written**, behind anything. -/
theorem readFixed_of_fits (sizes : List Nat) (cells : List Cell)
    (hlength : sizes.length = cells.length)
    (h : ∀ field ∈ sizes.zip cells, field.2.fitsDigits field.1 = true) (before : List Char) :
    readFixed record
      (before ++ (List.zipWith (fun size cell => Cell.write size [] cell) sizes cells).flatten)
      sizes (Utf8.byteLength before) = .ok cells := by
  -- The induction is on the sizes; what has been read moves to the text before the rest.
  induction sizes generalizing cells before with
  | nil => rw [readFixed, List.eq_nil_of_length_eq_zero hlength.symm]
  | cons size sizes ih =>
    obtain ⟨cell, cells, rfl⟩ := List.exists_cons_of_length_eq_add_one hlength.symm
    obtain ⟨n, rfl, hsize, hlt, hbound⟩ := fitsDigits_iff.mp (h (size, cell) List.mem_cons_self)
    have hpart := Digits.byteLength_writePadded hsize hlt
    have hrest := ih cells (Nat.succ.inj hlength)
      (fun field hfield => h field (List.mem_cons_of_mem _ hfield))
      (before ++ Digits.writePadded size n)
    have hslice := Items.slice_append record before (Digits.writePadded size n)
      (List.zipWith (fun size cell => Cell.write size [] cell) sizes cells).flatten
    rw [hpart] at hslice
    rw [Utf8.byteLength_append, hpart, List.append_assoc] at hrest
    rw [List.zipWith_cons_cons, List.flatten_cons, Cell.write, readFixed, hslice]
    dsimp only [bind, Except.bind]
    rw [Items.readNumber_writePadded record hbound, hrest]
    rfl

/-- A mode is read as it was written. -/
theorem readMode_of_fits (h : mode.fits spelling cells = true) :
    readMode record (mode.write spelling cells) = .ok cells := by
  obtain ⟨ordinal, rfl, hhas⟩ : ∃ ordinal, cells = [.choice .workingMode ordinal] ∧
      Enumeration.workingMode.has ordinal = true := by
    rw [fits.eq_def] at h
    dsimp only at h
    split at h
    · exact ⟨_, rfl, h⟩
    · cases h
  obtain ⟨hdigit, hbound⟩ := Enumeration.lt_of_has hhas
  have hslice := Items.slice_zero record (Digits.writePadded 2 ordinal) []
  rw [Digits.byteLength_writePadded (by decide) (Nat.lt_trans hdigit (by decide))] at hslice
  rw [readMode, write, List.flatMap_cons, List.flatMap_nil, Cell.write, hslice]
  dsimp only [bind, Except.bind]
  rw [Items.readNumber_writePadded record hbound]
  dsimp only
  rw [if_pos hhas]
  rfl

/-! ### Texts behind their sizes -/

/-- A text is read behind its size, whatever stands behind the text. -/
theorem readSizedText_append {cs : List Char} (hsize : Utf8.byteLength cs < 100)
    (behind : List Char) :
    readSizedText record (Digits.writePadded 2 (Utf8.byteLength cs) ++ (cs ++ behind)) =
      .ok [.text cs] := by
  have hlength : Utf8.byteLength (Digits.writePadded 2 (Utf8.byteLength cs)) = 2 :=
    Digits.byteLength_writePadded (by decide) hsize
  have hbound : Utf8.byteLength cs < Items.numberBound := Nat.lt_trans hsize (by decide)
  have hdigits := Items.slice_zero record (Digits.writePadded 2 (Utf8.byteLength cs)) (cs ++ behind)
  have htext := Items.slice_append record (Digits.writePadded 2 (Utf8.byteLength cs)) cs behind
  rw [hlength] at hdigits htext
  rw [readSizedText, hdigits]
  dsimp only [bind, Except.bind]
  rw [Items.readNumber_writePadded record hbound]
  dsimp only
  rw [htext]
  rfl

/-- A text is read behind the size that was written. -/
theorem readSizedText_of_fits (h : sizedText.fits spelling cells = true) :
    readSizedText record (sizedText.write spelling cells) = .ok cells := by
  obtain ⟨cs, rfl, hsize⟩ : ∃ cs, cells = [.text cs] ∧ Utf8.byteLength cs < 100 := by
    rw [fits.eq_def] at h
    dsimp only at h
    split at h
    · exact ⟨_, rfl, of_decide_eq_true h⟩
    · cases h
  have hread := readSizedText_append record hsize []
  rw [List.append_nil] at hread
  rwa [write, List.flatMap_cons, List.flatMap_nil, Cell.writeSized, List.append_nil]

/-! ### Times of day -/

/-- Two numbers of two digits are an item of a time bucket, and are read back from it. -/
private theorem clock_of_fits (two : List Cell) (hlength : two.length = 2)
    (h : ∀ cell ∈ two, cell.fitsDigits 2 = true) :
    Utf8.byteLength (two.flatMap (Cell.write 2 [])) = 4 ∧
      ',' ∉ two.flatMap (Cell.write 2 []) ∧
      readFixed record (two.flatMap (Cell.write 2 [])) [2, 2] 0 = .ok two := by
  obtain ⟨hour, minute, rfl⟩ := List.length_eq_two.mp hlength
  have hhour := h hour (by simp)
  have hminute := h minute (by simp)
  have hread := readFixed_of_fits record [2, 2] [hour, minute] rfl (by simp [hhour, hminute]) []
  obtain ⟨n, rfl, -, hn, -⟩ := fitsDigits_iff.mp hhour
  obtain ⟨m, rfl, -, hm, -⟩ := fitsDigits_iff.mp hminute
  refine ⟨?_, ?_, hread⟩
  · rw [List.flatMap_cons, List.flatMap_cons, List.flatMap_nil, List.append_nil,
      Utf8.byteLength_append, Cell.write, Cell.write,
      Digits.byteLength_writePadded (by decide) hn, Digits.byteLength_writePadded (by decide) hm]
  · rw [List.flatMap_cons, List.flatMap_cons, List.flatMap_nil, List.append_nil, List.mem_append,
      not_or]
    exact ⟨Digits.comma_notMem_writePadded 2 n, Digits.comma_notMem_writePadded 2 m⟩

/-- Two times of day are read as they were written. -/
theorem readClocks_of_fits (h : clocks.fits spelling cells = true) :
    readClocks record (clocks.write spelling cells) = .ok cells := by
  rw [fits, Bool.and_eq_true, decide_eq_true_iff, List.all_eq_true] at h
  obtain ⟨hlength, hfits⟩ := h
  obtain ⟨hstart, hstartComma, hreadStart⟩ := clock_of_fits record (cells.take 2)
    (by rw [List.length_take, hlength]; rfl)
    fun cell hcell => hfits cell (List.mem_of_mem_take hcell)
  obtain ⟨hstop, hstopComma, hreadStop⟩ := clock_of_fits record (cells.drop 2)
    (by rw [List.length_drop, hlength]) fun cell hcell => hfits cell (List.mem_of_mem_drop hcell)
  have hsplit : Items.split record clockWidths 2 (clocks.write spelling cells) =
      .ok [(cells.take 2).flatMap (Cell.write 2 []), (cells.drop 2).flatMap (Cell.write 2 [])] := by
    refine Items.split_of_accepts record (List.cons_ne_nil _ _) ?_ (Nat.le_refl 2) ?_
    · simp [hstartComma, hstopComma]
    · intro index width cs hwidth hcs
      obtain _ | _ | index := index
      · cases hwidth
        cases hcs
        rw [hstart]
        rfl
      · cases hwidth
        cases hcs
        rw [hstop]
        rfl
      · cases hcs
  rw [readClocks, hsplit]
  dsimp only [bind, Except.bind, Items.item, List.getElem?_cons_zero, List.getElem?_cons_succ]
  rw [hreadStart, hreadStop]
  exact congrArg Except.ok (List.take_append_drop 2 cells)

/-! ### Any number of numbers -/

/-- Fields that are all numbers are a list of numbers. -/
private theorem exists_numbers {cells : List Cell}
    (h : (cells.all fun
      | .number n => decide (n < Items.numberBound)
      | _ => false) = true) :
    ∃ ns : List Nat, cells = ns.map .number ∧ ∀ n ∈ ns, n < Items.numberBound := by
  induction cells with
  | nil => exact ⟨[], rfl, nofun⟩
  | cons cell cells ih =>
    rw [List.all_cons, Bool.and_eq_true] at h
    obtain ⟨ns, rfl, hns⟩ := ih h.2
    cases cell with
    | number n =>
      refine ⟨n :: ns, rfl, ?_⟩
      rw [List.forall_mem_cons]
      exact ⟨of_decide_eq_true h.1, hns⟩
    | _ => exact absurd h.1 Bool.false_ne_true

/-- Any numbers between commas are read as they were written. -/
theorem readNumbers_of_fits (h : numbers.fits spelling cells = true) :
    numbers.read record (numbers.write spelling cells) = .ok cells := by
  rw [fits, Bool.and_eq_true, Bool.not_eq_true', List.isEmpty_eq_false_iff] at h
  obtain ⟨hne, hall⟩ := h
  obtain ⟨ns, rfl, hns⟩ := exists_numbers hall
  have hitems : (ns.map Cell.number).map (Cell.write 1 []) = ns.map (Digits.writePadded 1) :=
    List.map_map
  have hsplit : Items.split record [] 0 ([','].intercalate (ns.map (Digits.writePadded 1))) =
      .ok (ns.map (Digits.writePadded 1)) :=
    Items.split_nil record (by simpa using hne) (by simp [Digits.comma_notMem_writePadded]) 0
  rw [read, write, hitems, hsplit]
  dsimp only [bind, Except.bind]
  rw [Items.numbers_map_writePadded record hns]
  rfl

/-- **Every layout reads back what was written in it.** -/
theorem read_of_fits {layout : Layout} (h : layout.fits spelling cells = true) :
    layout.read record (layout.write spelling cells) = .ok cells := by
  cases layout with
  | fixed sizes =>
    rw [fits, Bool.and_eq_true, decide_eq_true_iff, List.all_eq_true] at h
    exact readFixed_of_fits record sizes cells h.1 h.2 []
  | mode => exact readMode_of_fits record h
  | sizedText => exact readSizedText_of_fits record h
  | separated table =>
    rw [read, write, split_of_fits record h]
    exact readTable_of_fits record h
  | clocks => exact readClocks_of_fits record h
  | numbers => exact readNumbers_of_fits record h

end Layout

end InverterLink
