import InverterLink.Proofs.Record.Outcomes
import InverterLink.Record.Display
import Mathlib.Data.List.Perm.Basic

/-!
# What the lines of a record show

The lines of a kind of record name fields by their positions, in an order of their own. Every field
is named by one line, but for two that are not shown, and no line names a field that there is not. A
line that needs a number names a field that holds one. So a line is left out in two cases only: the
device has left out its field, or its fault has no description.

## Main definitions

* `Layout.forms`: the forms of the fields of a layout.
* `Record.Source.positions`, `Record.Source.fits`: the fields that a line needs, and their forms.

## Main statements

* `Record.fits_of_mem_lines`: what a line shows has the form that the line is for.
* `Record.positions_perm`: the lines of a kind name all of its fields, each of them once.
* `Record.field?_eq_none_iff`: which lines of a record are left out.
-/

namespace InverterLink

namespace Layout

variable {layout : Layout} {cells : List Cell} {index : Nat} {form : ItemForm} {cell : Cell}

/-- The forms of the fields of a layout, as far as their number is known. -/
def forms : Layout → List ItemForm
  | fixed sizes => List.replicate sizes.length .number
  | mode => [.choice .workingMode]
  | sizedText => [.text]
  | separated table => table.columns.map (·.form)
  | clocks => List.replicate 4 .number
  | numbers => []

/-- Each field of a record has the form that its layout has for it. -/
theorem hasForm_of_admits (h : layout.admits cells = true)
    (hform : layout.forms[index]? = some form) (hcell : cells[index]? = some cell) :
    cell.hasForm form = true := by
  have hmem : form ∈ layout.forms := List.mem_of_getElem? hform
  -- all layouts but that of a table have fields of one form
  have hone (only : ItemForm) (heq : form = only) (hall : cells.all (Cell.hasForm only) = true) :
      cell.hasForm form = true :=
    heq ▸ List.all_eq_true.mp hall cell (List.mem_of_getElem? hcell)
  cases layout with
  | fixed sizes => exact hone .number (List.eq_of_mem_replicate hmem) (Bool.and_elim_right h)
  | mode => exact hone _ (List.mem_singleton.mp hmem) (Bool.and_elim_right h)
  | sizedText => exact hone .text (List.mem_singleton.mp hmem) (Bool.and_elim_right h)
  | separated table =>
    obtain ⟨column, hcolumn, rfl⟩ := Option.map_eq_some_iff.mp (List.getElem?_map ▸ hform)
    have hzip : (cell, column) ∈ cells.zip table.columns :=
      List.mem_of_getElem? (List.getElem?_zip_eq_some.mpr ⟨hcell, hcolumn⟩)
    exact List.all_eq_true.mp (Bool.and_elim_right h) _ hzip
  | clocks => exact hone .number (List.eq_of_mem_replicate hmem) (Bool.and_elim_right h)
  | numbers => exact absurd hmem List.not_mem_nil

end Layout

theorem Cell.hasForm_number_iff {cell : Cell} :
    cell.hasForm .number = true ↔ ∃ n, cell = .number n ∧ n < Items.numberBound := by
  cases cell <;> simp [Cell.hasForm]

namespace Record

variable {kind : RecordKind} {line : Line} {cells : List Cell}

/-! ### What a line needs -/

/-- The positions of the fields that a value comes from. -/
def Source.positions : Source → List Nat
  | field index => [index]
  | tenths index => [index]
  | fault index => [index]
  | clock hour minute => [hour, minute]

/-- Whether there are fields for a value, and hold numbers if that is what it takes. -/
def Source.fits (forms : List ItemForm) : Source → Bool
  | field index => index < forms.length
  | tenths index => forms[index]? = some .number
  | fault index => forms[index]? = some .number
  | clock hour minute => forms[hour]? = some .number && forms[minute]? = some .number

/-- The positions of the fields that are not shown: a reserved item, and the size of a serial
number. -/
def hidden : RecordKind → List Nat
  | .flagsAndStatuses => [8]
  | .parallelRatedInformation => [1]
  | _ => []

/-- The positions that a line adds to those of the lines before it. The description of a fault
stands behind its code. -/
def Line.added (line : Line) : List Nat :=
  match line.source with
  | .fault _ => []
  | source => source.positions

/-- **What a line shows has the form that the line is for.** -/
theorem fits_of_mem_lines (h : line ∈ lines kind) : line.source.fits kind.layout.forms = true := by
  have hall : ∀ line ∈ lines kind, line.source.fits kind.layout.forms = true := by
    cases kind <;> decide
  exact hall line h

/-- **The lines of a kind name all of its fields**, each of them once, but for those that are not
shown. -/
theorem positions_perm (kind : RecordKind) :
    ((lines kind).flatMap Line.added ++ hidden kind).Perm
      (List.range kind.layout.forms.length) := by
  cases kind <;> decide

/-! ### Lines that are left out -/

/-- A line that needs a number finds one, unless the device has left it out. -/
theorem getElem?_cases (hcells : kind.layout.admits cells = true) {index : Nat}
    (hform : kind.layout.forms[index]? = some .number) :
    cells.length ≤ index ∨ index < cells.length ∧ ∃ n, cells[index]? = some (.number n) := by
  rcases Nat.lt_or_ge index cells.length with hlt | hge
  · have hcell := List.getElem?_eq_getElem hlt
    obtain ⟨n, hn, -⟩ := Cell.hasForm_number_iff.mp (Layout.hasForm_of_admits hcells hform hcell)
    exact .inr ⟨hlt, n, hcell.trans (congrArg some hn)⟩
  · exact .inl hge

/-- **A line is left out for two reasons only**: the device has left out a field that it needs, or
it is for a fault without a description. -/
theorem field?_eq_none_iff (hcells : kind.layout.admits cells = true) (hline : line ∈ lines kind) :
    line.field? cells = none ↔
      (∃ index ∈ line.source.positions, cells.length ≤ index) ∨
        ∃ index code, line.source = .fault index ∧ cells[index]? = some (.number code) ∧
          faultDescription? code = none := by
  have hfits := fits_of_mem_lines hline
  rw [Line.field?, Option.map_eq_none_iff]
  cases hsource : line.source with
  | field index => simp [Source.value?, Source.positions]
  | tenths index =>
    rw [hsource] at hfits
    obtain hout | ⟨hin, n, hn⟩ := getElem?_cases hcells (of_decide_eq_true hfits)
    · simp [Source.value?, Source.positions, hout]
    · simp [Source.value?, Source.positions, hn, Nat.not_le.mpr hin]
  | fault index =>
    rw [hsource] at hfits
    obtain hout | ⟨hin, code, hcode⟩ := getElem?_cases hcells (of_decide_eq_true hfits)
    · simp [Source.value?, Source.positions, hout]
    · simp [Source.value?, Source.positions, hcode, Nat.not_le.mpr hin]
  | clock hour minute =>
    rw [hsource] at hfits
    obtain ⟨hhour, hminute⟩ := Bool.and_eq_true_iff.mp hfits
    obtain hout | ⟨hin, h, hh⟩ := getElem?_cases hcells (of_decide_eq_true hhour)
    · simp [Source.value?, Source.positions, hout]
    · obtain hout | ⟨hin', m, hm⟩ := getElem?_cases hcells (of_decide_eq_true hminute)
      · simp [Source.value?, Source.positions, hout]
      · simp [Source.value?, Source.positions, hh, hm, Nat.not_le.mpr hin, Nat.not_le.mpr hin']

end Record

end InverterLink
