import InverterLink.Proofs.Json.Writing
import InverterLink.Proofs.Text.LineEnds
import InverterLink.Response

/-!
# What is shown holds no line end

A response is shown as JSON, where every text is escaped, or as a table, where texts stand as they
are. The titles, the units and the labels are plain, so a table is plain if the texts that the
device sent are. The message of a status may come from a client and need not be plain, but nothing
that is put in front of it can make a line end with it.

## Main definitions

* `Content.IsTidy`, `Response.IsTidy`: what the texts of a content and of a response must be like.

## Main statements

* `Json.isPlain_write`: JSON is plain, whatever its texts.
* `Response.not_hasLineEnd_render`: a tidy response is shown without a line end in every format.
-/

namespace InverterLink

/-! ### Decimals -/

namespace Decimal

namespace Shortest

theorem isPlain_digits (s : Shortest) : IsPlain s.digits :=
  Digits.isPlain_write s.significand

theorem isPlain_positional (s : Shortest) : IsPlain s.positional := by
  have hzeros (n : Nat) : IsPlain (List.replicate n '0') := fun hmem =>
    absurd (List.eq_of_mem_replicate hmem) (by decide)
  rw [positional]
  split_ifs
  · exact isPlain_append.mpr ⟨s.isPlain_digits, hzeros _⟩
  · rw [isPlain_append, isPlain_cons]
    exact ⟨s.isPlain_digits.of_subset (List.take_subset _ _), by decide,
      s.isPlain_digits.of_subset (List.drop_subset _ _)⟩
  · rw [List.cons_append, List.cons_append, isPlain_cons, isPlain_cons, isPlain_append]
    exact ⟨by decide, by decide, hzeros _, s.isPlain_digits⟩

end Shortest

theorem isPlain_plain (r : Rat) : IsPlain (plain r) := by
  rw [plain]
  split_ifs
  · decide
  · exact Shortest.isPlain_positional _

end Decimal

/-! ### JSON -/

/-- **JSON holds no carriage return**, not even in a text. -/
theorem Json.isPlain_write (value : Json) : IsPlain value.write := fun hmem =>
  absurd (isPrinted_write value '\r' hmem) (by decide)

/-! ### Tables -/

/-- Lines without carriage returns are a text without one. -/
theorem isPlain_joinLines {lines : List (List Char)} (h : ∀ line ∈ lines, IsPlain line) :
    IsPlain (joinLines lines) := by
  rw [joinLines]
  induction lines with
  | nil => exact isPlain_nil
  | cons line lines ih =>
    obtain ⟨hline, hlines⟩ := List.forall_mem_cons.mp h
    cases lines with
    | nil =>
      rw [List.intercalate_singleton]
      exact hline
    | cons next lines =>
      rw [List.intercalate_cons_cons, isPlain_append, isPlain_append]
      exact ⟨⟨hline, by decide⟩, ih hlines⟩

theorem Measure.isPlain_symbol (measure : Measure) : IsPlain measure.symbol := by
  cases measure <;> decide

namespace Field

/-- A field whose texts are plain. -/
structure IsTidy (field : Field) : Prop where
  key : IsPlain field.key
  title : IsPlain field.title
  value : IsPlain field.value.plain

theorem isPlain_unitSuffix (field : Field) : IsPlain field.unitSuffix := by
  rw [unitSuffix]
  split
  · exact isPlain_cons.mpr ⟨by decide, Measure.isPlain_symbol _⟩
  · exact isPlain_nil

variable {field : Field}

theorem IsTidy.isPlain_alignedLine (h : field.IsTidy) (width : Nat) :
    IsPlain (field.alignedLine width) := by
  have hpadding (n : Nat) : IsPlain (List.replicate n ' ') := fun hmem =>
    absurd (List.eq_of_mem_replicate hmem) (by decide)
  rw [alignedLine, List.rightpad]
  simp only [isPlain_append, isPlain_cons]
  exact ⟨⟨⟨⟨h.title, by decide, isPlain_nil⟩, hpadding _⟩, by decide, h.value⟩,
    field.isPlain_unitSuffix⟩

theorem IsTidy.isPlain_simpleLine (h : field.IsTidy) : IsPlain field.simpleLine := by
  rw [simpleLine]
  simp only [isPlain_append, isPlain_cons]
  refine ⟨⟨h.key, by decide, ?_⟩, field.isPlain_unitSuffix⟩
  split_ifs
  · exact isPlain_append.mpr ⟨isPlain_cons.mpr ⟨by decide, h.value⟩, by decide⟩
  · exact h.value

end Field

/-! ### Contents -/

namespace Content

/-- A content whose texts are plain, but for the message of a status, in which there is no line
end. -/
def IsTidy : Content → Prop
  | table fields => ∀ field ∈ fields, field.IsTidy
  | list values => ∀ value ∈ values, IsPlain value.plain
  | status _ message => ¬ HasLineEnd message

variable {content : Content}

theorem isPlain_outcome (ok : Bool) : IsPlain (outcome ok) := by
  cases ok <;> decide

/-- A tidy content has no line end among the lines for people. -/
theorem IsTidy.not_hasLineEnd_lines (h : content.IsTidy) (simple : Bool) :
    ¬ HasLineEnd (joinLines (content.lines simple)) := by
  cases content with
  | table fields =>
    refine IsPlain.not_hasLineEnd (isPlain_joinLines fun line hline => ?_)
    rw [lines] at hline
    split_ifs at hline
    all_goals obtain ⟨field, hfield, rfl⟩ := List.mem_map.mp hline
    · exact (h field hfield).isPlain_simpleLine
    · exact (h field hfield).isPlain_alignedLine _
  | list values =>
    refine IsPlain.not_hasLineEnd (isPlain_joinLines fun line hline => ?_)
    obtain ⟨value, hvalue, rfl⟩ := List.mem_map.mp hline
    exact h value hvalue
  | status ok message =>
    rw [lines, joinLines, List.intercalate_singleton, (isPlain_outcome ok).hasLineEnd_append]
    split_ifs
    · exact isPlain_nil.not_hasLineEnd
    · have hcolon : IsPlain [':', ' '] := by decide
      exact hcolon.hasLineEnd_append.not.mpr h

/-- **A tidy content is shown without a line end**, in every format. -/
theorem IsTidy.not_hasLineEnd_render (h : content.IsTidy) (format : Format) :
    ¬ HasLineEnd (content.render format) := by
  cases format with
  | table => exact h.not_hasLineEnd_lines false
  | simpleTable => exact h.not_hasLineEnd_lines true
  | json => exact (Json.isPlain_write _).not_hasLineEnd
  | simpleJson => exact (Json.isPlain_write _).not_hasLineEnd

end Content

/-! ### Records -/

theorem Enumeration.isPlain_label? {e : Enumeration} {ordinal : Nat} {label : String}
    (h : e.label? ordinal = some label) : IsPlain label.toList := by
  have hall : ∀ label ∈ e.labels, IsPlain label.toList := by
    cases e
    all_goals
      simp only [labels, List.forall_mem_cons]
      repeat' apply And.intro
    all_goals first
      | exact isPlain_ofList (by decide)
      | exact List.forall_mem_nil _
  exact hall label (List.mem_of_getElem? h)

theorem isPlain_faultDescription? {code : Nat} {text : String}
    (h : faultDescription? code = some text) : IsPlain text.toList := by
  rw [faultDescription?.eq_def] at h
  split at h
  case h_29 => cases h
  all_goals
    obtain rfl := Option.some.inj h
    exact isPlain_ofList (by decide)

/-- A cell whose text is plain. -/
def Cell.IsTidy : Cell → Prop
  | .text cs => IsPlain cs
  | _ => True

namespace Record

theorem isPlain_cellValue {cell : Cell} (h : cell.IsTidy) : IsPlain (cellValue cell).plain := by
  cases cell with
  | number n => exact Digits.isPlain_write n
  | flag b => cases b <;> decide
  | text cs => exact h
  | choice e ordinal =>
    rw [cellValue, Value.plain]
    cases hlabel : e.label? ordinal with
    | none => exact isPlain_nil
    | some label => exact Enumeration.isPlain_label? hlabel

/-- The keys and the titles of all kinds of records are plain. -/
theorem isPlain_line {kind : RecordKind} {line : Line} (h : line ∈ lines kind) :
    IsPlain line.key.toList ∧ IsPlain line.title.toList := by
  have hall : ∀ line ∈ lines kind, IsPlain line.key.toList ∧ IsPlain line.title.toList := by
    cases kind
    all_goals
      simp only [lines, List.forall_mem_cons]
      repeat' apply And.intro
    all_goals first
      | exact isPlain_ofList (by decide)
      | exact List.forall_mem_nil _
  exact hall line h

theorem isPlain_value? {cells : List Cell} (h : ∀ cell ∈ cells, cell.IsTidy) {source : Source}
    {value : Value} (hvalue : source.value? cells = some value) : IsPlain value.plain := by
  cases source with
  | field index =>
    obtain ⟨cell, hcell, rfl⟩ := Option.map_eq_some_iff.mp hvalue
    exact isPlain_cellValue (h cell (List.mem_of_getElem? hcell))
  | tenths index =>
    rw [Source.value?] at hvalue
    split at hvalue
    · obtain rfl := Option.some.inj hvalue
      exact Decimal.isPlain_plain _
    · cases hvalue
  | fault index =>
    rw [Source.value?] at hvalue
    split at hvalue
    · obtain ⟨text, htext, rfl⟩ := Option.map_eq_some_iff.mp hvalue
      exact isPlain_faultDescription? htext
    · cases hvalue
  | clock hour minute =>
    rw [Source.value?] at hvalue
    split at hvalue
    · obtain rfl := Option.some.inj hvalue
      exact isPlain_append.mpr ⟨Digits.isPlain_writePadded 2 _,
        isPlain_cons.mpr ⟨by decide, Digits.isPlain_writePadded 2 _⟩⟩
    · cases hvalue

/-- A record with plain texts shows a tidy content. -/
theorem isTidy_content {r : Record} (h : ∀ cell ∈ r.cells, cell.IsTidy) : r.content.IsTidy := by
  have hlist : (Content.list (r.cells.map cellValue)).IsTidy := by
    intro value hvalue
    obtain ⟨cell, hcell, rfl⟩ := List.mem_map.mp hvalue
    exact isPlain_cellValue (h cell hcell)
  have htable : (Content.table ((lines r.kind).filterMap (Line.field? r.cells))).IsTidy := by
    intro field hfield
    obtain ⟨line, hline, hfield⟩ := List.mem_filterMap.mp hfield
    obtain ⟨value, hvalue, rfl⟩ := Option.map_eq_some_iff.mp hfield
    obtain ⟨hkey, htitle⟩ := isPlain_line hline
    exact ⟨hkey, htitle, isPlain_value? h hvalue⟩
  rw [content]
  split
  · exact hlist
  · exact htable

end Record

namespace Response

/-- A response whose texts are plain, but for the message of an error, in which there is no line
end. -/
def IsTidy : Response → Prop
  | record r => ∀ cell ∈ r.cells, cell.IsTidy
  | acknowledgement _ => True
  | failure message => ¬ HasLineEnd message

variable {response : Response}

theorem IsTidy.content (h : response.IsTidy) : response.content.IsTidy := by
  cases response with
  | record r => exact Record.isTidy_content h
  | acknowledgement accepted => exact isPlain_nil.not_hasLineEnd
  | failure message => exact h

/-- **A tidy response is shown without a line end**, in every format. -/
theorem not_hasLineEnd_render (h : response.IsTidy) (format : Format) :
    ¬ HasLineEnd (response.render format) :=
  h.content.not_hasLineEnd_render format

end Response

end InverterLink
