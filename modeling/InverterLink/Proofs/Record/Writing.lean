import InverterLink.Record.Layout
import Mathlib.Algebra.Group.Nat.Defs
import Mathlib.Data.List.Basic

/-!
# Writing records

A layout leaves little open about the payload of a record. What it does is said by a `Spelling`: the
size of a number whose column accepts several, and what stands behind a text that is clipped.
`Layout.write` is the payload, and `Layout.fits` says which records have one: the fields are those
of the layout, their numbers are small enough for their sizes, and their texts hold no commas and
have the sizes that they must have.
-/

namespace InverterLink

/-- What a table leaves open about its items, by their positions. -/
structure Spelling where
  /-- The size in which a number, a flag or an ordinal is written. -/
  size : Nat → Nat
  /-- What stands behind a text. -/
  filler : Nat → List Char := fun _ => []

/-! ### Payloads -/

/-- A field as it stands in a payload: digits padded with zeros to a size, or a text. -/
def Cell.write (size : Nat) (filler : List Char) : Cell → List Char
  | .number n => Digits.writePadded size n
  | .flag b => Digits.writePadded size b.toNat
  | .text cs => cs ++ filler
  | .choice _ ordinal => Digits.writePadded size ordinal

/-- The items of a table. -/
def Spelling.items (spelling : Spelling) (cells : List Cell) : List (List Char) :=
  cells.mapIdx fun index cell => cell.write (spelling.size index) (spelling.filler index)

/-- A text behind two digits that tell its size. -/
def Cell.writeSized : Cell → List Char
  | .text cs => Digits.writePadded 2 (Utf8.byteLength cs) ++ cs
  | _ => []

/-- The payload of a record. -/
def Layout.write (spelling : Spelling) (cells : List Cell) : Layout → List Char
  | .fixed sizes => (List.zipWith (fun size cell => Cell.write size [] cell) sizes cells).flatten
  | .mode => cells.flatMap (Cell.write 2 [])
  | .sizedText => cells.flatMap Cell.writeSized
  | .separated _ => [','].intercalate (spelling.items cells)
  | .clocks =>
    [','].intercalate
      [(cells.take 2).flatMap (Cell.write 2 []), (cells.drop 2).flatMap (Cell.write 2 [])]
  | .numbers => [','].intercalate (cells.map (Cell.write 1 []))

/-! ### Records that can be written -/

/-- Whether a field of a record with the given fields can be written as an item of a column. -/
def Column.fits (cells : List Cell) (size : Nat) (filler : List Char) (column : Column)
    (cell : Cell) : Bool :=
  match column.form, cell with
  | .number, .number n =>
    column.width.accepts size && 0 < size && n < 10 ^ size && n < Items.numberBound
  | .flag, .flag _ => column.width.accepts size && 0 < size
  | .text, .text cs =>
    filler.isEmpty && ',' ∉ cs && column.width.accepts (Utf8.byteLength cs)
  | .choice e, .choice e' ordinal =>
    e = e' && e.has ordinal && column.width.accepts size && 0 < size
  | .clipped sizeAt, .text cs =>
    ',' ∉ cs ++ filler && column.width.accepts (Utf8.byteLength (cs ++ filler)) &&
      cells[sizeAt]? = some (.number cs.length)
  | _, _ => false

/-- Whether the items of a record can be written in a table. -/
def Table.fits (spelling : Spelling) (cells : List Cell) (table : Table) : Bool :=
  !cells.isEmpty && table.required ≤ cells.length && cells.length ≤ table.columns.length &&
    (cells.zipIdx.zip table.columns).all fun ((cell, index), column) =>
      column.fits cells (spelling.size index) (spelling.filler index) cell

/-- Whether a field is a number that can be written in so many digits. -/
def Cell.fitsDigits (size : Nat) (cell : Cell) : Bool :=
  (Column.digits size).fits [] size [] cell

/-- Whether a record with the given fields can be written. -/
def Layout.fits (spelling : Spelling) (cells : List Cell) : Layout → Bool
  | .fixed sizes =>
    sizes.length = cells.length && (sizes.zip cells).all fun (size, cell) => cell.fitsDigits size
  | .mode =>
    match cells with
    | [.choice .workingMode ordinal] => Enumeration.workingMode.has ordinal
    | _ => false
  | .sizedText =>
    match cells with
    | [.text cs] => Utf8.byteLength cs < 100
    | _ => false
  | .separated table => table.fits spelling cells
  | .clocks => cells.length = 4 && cells.all (Cell.fitsDigits 2)
  | .numbers =>
    !cells.isEmpty && cells.all fun
      | .number n => n < Items.numberBound
      | _ => false

namespace Column

variable {cells : List Cell} {size : Nat} {filler : List Char} {width : Width} {cell : Cell}

/-! ### What fits a column -/

theorem fits_number_iff :
    fits cells size filler ⟨width, .number⟩ cell = true ↔
      ∃ n, cell = .number n ∧ width.accepts size = true ∧ 0 < size ∧ n < 10 ^ size ∧
        n < Items.numberBound := by
  cases cell <;> simp [fits, and_assoc]

theorem fits_flag_iff :
    fits cells size filler ⟨width, .flag⟩ cell = true ↔
      ∃ b, cell = .flag b ∧ width.accepts size = true ∧ 0 < size := by
  cases cell <;> simp [fits]

theorem fits_text_iff :
    fits cells size filler ⟨width, .text⟩ cell = true ↔
      ∃ cs, cell = .text cs ∧ filler = [] ∧ ',' ∉ cs ∧
        width.accepts (Utf8.byteLength cs) = true := by
  cases cell <;> simp [fits, and_assoc]

theorem fits_choice_iff {e : Enumeration} :
    fits cells size filler ⟨width, .choice e⟩ cell = true ↔
      ∃ ordinal, cell = .choice e ordinal ∧ e.has ordinal = true ∧
        width.accepts size = true ∧ 0 < size := by
  cases cell with
  | choice e' ordinal =>
    simp only [fits, Bool.and_eq_true, decide_eq_true_iff]
    constructor
    · rintro ⟨⟨⟨rfl, hhas⟩, hwidth⟩, hsize⟩
      exact ⟨ordinal, rfl, hhas, hwidth, hsize⟩
    · rintro ⟨ordinal, heq, hhas, hwidth, hsize⟩
      cases heq
      exact ⟨⟨⟨rfl, hhas⟩, hwidth⟩, hsize⟩
  | _ => simp [fits]

theorem fits_clipped_iff {sizeAt : Nat} :
    fits cells size filler ⟨width, .clipped sizeAt⟩ cell = true ↔
      ∃ cs, cell = .text cs ∧ ',' ∉ cs ++ filler ∧
        width.accepts (Utf8.byteLength (cs ++ filler)) = true ∧
        cells[sizeAt]? = some (.number cs.length) := by
  cases cell <;> simp [fits, and_assoc]

/-- A number fits only into columns of numbers. -/
theorem lt_of_fits_number {column : Column} {n : Nat}
    (h : fits cells size filler column (.number n) = true) : n < Items.numberBound := by
  obtain ⟨width, form⟩ := column
  cases form with
  | number =>
    obtain ⟨n', heq, -, -, -, hbound⟩ := fits_number_iff.mp h
    cases heq
    exact hbound
  | _ => cases h

end Column

end InverterLink
