import InverterLink.Proofs.Decoding
import InverterLink.Proofs.Record.Splitting

/-!
# What stands behind the known fields does not matter

A device may send more than a layout knows of. Behind the items of a table there may be further
items, and behind the parts at fixed offsets any text. No field looks behind the items of the table:
it is read from the item at its own position, or from one that stands before it. So a record that
can be read is read again with anything behind it, and the only trace of the surplus is one warning
that names the first item beyond the table. The status of a device that works in parallel with
others needs care, since its last item may be missing: what stands behind the items of an answer
without it would be taken for it.

## Main definitions

* `ItemForm.reach`: how many items a field looks at.

## Main statements

* `Layout.read_append_comma`: a layout with a table does not look behind its items.
* `Layout.read_append`: a layout of fixed offsets does not look behind its parts.
* `Response.decode_trailing`: an answer with a surplus is decoded as the answer without it.
-/

namespace InverterLink

/-! ### Fields and items -/

/-- How many items there must be so that a field of the given form finds everything that it is read
from besides its own item. -/
def ItemForm.reach : ItemForm → Nat
  | clipped sizeAt => sizeAt + 1
  | _ => 0

namespace Items

variable {record : String} {items : List (List Char)} {index : Nat}

theorem item_append (h : index < items.length) (extra : List (List Char)) :
    item record (items ++ extra) index = item record items index := by
  rw [item, item, List.getElem?_append_left h]

theorem number_append (h : index < items.length) (extra : List (List Char)) :
    number record (items ++ extra) index = number record items index := by
  rw [number, number, item_append h]

theorem flag_append (h : index < items.length) (extra : List (List Char)) :
    flag record (items ++ extra) index = flag record items index := by
  rw [flag, flag, number_append h]

theorem ordinal_append (h : index < items.length) (e : Enumeration) (extra : List (List Char)) :
    ordinal record (items ++ extra) e index = ordinal record items e index := by
  rw [ordinal, ordinal, number_append h]

/-- A payload with further items behind it is split into its items and the further ones. -/
theorem split_append_comma {widths : List Width} {atLeast : Nat} {payload : List Char}
    (h : split record widths atLeast payload = .ok items) (henough : widths.length ≤ items.length)
    (junk : List Char) :
    split record widths atLeast (payload ++ ',' :: junk) = .ok (items ++ junk.splitOn ',') := by
  obtain ⟨rfl, hchecked⟩ := split_eq_ok_iff.mp h
  refine split_eq_ok_iff.mpr ⟨List.splitOn_append_cons_self payload junk, fun hwidths => ?_⟩
  obtain ⟨hleast, haccepted⟩ := hchecked hwidths
  refine ⟨?_, IsAcceptedAt.append haccepted henough _⟩
  rw [List.length_append]
  exact Nat.le_add_right_of_le hleast

end Items

namespace Layout

variable {record : String} {items : List (List Char)}

/-- A field is read from the items that it reaches. -/
theorem readItem_append {form : ItemForm} {index : Nat} (hindex : index < items.length)
    (hreach : form.reach ≤ items.length) (extra : List (List Char)) :
    readItem record (items ++ extra) form index = readItem record items form index := by
  cases form with
  | number => rw [readItem, readItem, Items.number_append hindex]
  | flag => rw [readItem, readItem, Items.flag_append hindex]
  | text => rw [readItem, readItem, Items.item_append hindex]
  | choice e => rw [readItem, readItem, Items.ordinal_append hindex]
  | clipped sizeAt =>
    rw [readItem, readItem, Items.number_append hreach, Items.item_append hindex]

/-- If there are items for all columns, they are read in the same way in front of further ones. -/
theorem readItems_append (record : String) {columns : List Column} {index : Nat}
    (henough : index + columns.length ≤ items.length)
    (hreach : ∀ column ∈ columns, column.form.reach ≤ items.length) (extra : List (List Char)) :
    readItems record (items ++ extra) columns index = readItems record items columns index := by
  induction columns generalizing index with
  | nil => rw [readItems, readItems]
  | cons column columns ih =>
    rw [List.length_cons] at henough
    obtain ⟨hfirst, hreach⟩ := List.forall_mem_cons.mp hreach
    have hindex : index < items.length := by omega
    have hlonger : index < (items ++ extra).length := by
      rw [List.length_append]
      omega
    rw [readItems, readItems, if_pos hindex, if_pos hlonger, readItem_append hindex hfirst,
      ih (by omega) hreach]

theorem peek_append {columns : List Column} (henough : columns.length ≤ items.length)
    (hreach : ∀ column ∈ columns, column.form.reach ≤ items.length) (index : Nat)
    (extra : List (List Char)) :
    peek record (items ++ extra) columns index = peek record items columns index := by
  cases hcolumn : columns[index]? with
  | none => rw [peek, peek, hcolumn]
  | some column =>
    obtain ⟨hlt, -⟩ := List.getElem?_eq_some_iff.mp hcolumn
    have hindex := Nat.lt_of_lt_of_le hlt henough
    rw [peek, peek, hcolumn, List.getElem?_append_left hindex, List.getElem?_eq_getElem hindex]
    dsimp only
    rw [readItem_append hindex (hreach column (List.mem_of_getElem? hcolumn))]

/-- **A table is read from its own items.** -/
theorem readTable_append {table : Table} (henough : table.columns.length ≤ items.length)
    (hreach : ∀ column ∈ table.columns, column.form.reach ≤ items.length)
    (extra : List (List Char)) :
    readTable record table (items ++ extra) = readTable record table items := by
  have hfirst : 0 + table.columns.length ≤ items.length := by rwa [Nat.zero_add]
  rw [readTable, readTable, readItems_append record hfirst hreach]
  cases table.readFirst? with
  | none => rfl
  | some index =>
    dsimp only
    rw [peek_append henough hreach]

variable {payload : List Char} {cells : List Cell}

/-- What a layout with a table reads has passed the check of the table. -/
theorem split_of_read {layout : Layout} (htable : layout.widths ≠ [])
    (h : layout.read record payload = .ok cells) :
    Items.split record layout.widths layout.required payload = .ok (payload.splitOn ',') := by
  cases layout with
  | fixed | mode | sizedText | numbers => exact absurd rfl htable
  | separated table =>
    rw [read, bind_eq_ok] at h
    obtain ⟨items, hsplit, -⟩ := h
    rwa [(Items.split_eq_ok_iff.mp hsplit).1]
  | clocks =>
    rw [read, readClocks, bind_eq_ok] at h
    obtain ⟨items, hsplit, -⟩ := h
    rwa [(Items.split_eq_ok_iff.mp hsplit).1]

/-- **A layout with a table does not look behind its items**, if they are all there. -/
theorem read_append_comma {layout : Layout} (htable : layout.widths ≠ [])
    (hreach : ∀ table, layout = separated table →
      ∀ column ∈ table.columns, column.form.reach ≤ table.columns.length)
    (henough : layout.widths.length ≤ (payload.splitOn ',').length)
    (h : layout.read record payload = .ok cells) (junk : List Char) :
    layout.read record (payload ++ ',' :: junk) = .ok cells := by
  have hsplit := split_of_read htable h
  have hfurther := Items.split_append_comma hsplit henough junk
  cases layout with
  | fixed | mode | sizedText | numbers => exact absurd rfl htable
  | separated table =>
    have hcolumns : table.columns.length ≤ (payload.splitOn ',').length := by
      rwa [widths, Table.widths, List.length_map] at henough
    rw [read, show Items.split record table.widths table.required payload = _ from hsplit,
      ok_bind] at h
    rw [read, show Items.split record table.widths table.required _ = _ from hfurther, ok_bind,
      readTable_append hcolumns fun column hcolumn =>
        Nat.le_trans (hreach table rfl column hcolumn) hcolumns]
    exact h
  | clocks =>
    have htwo : 2 ≤ (payload.splitOn ',').length := henough
    rw [read, readClocks, show Items.split record clockWidths 2 payload = _ from hsplit,
      ok_bind] at h
    rw [read, readClocks, show Items.split record clockWidths 2 _ = _ from hfurther, ok_bind,
      Items.item_append (Nat.lt_of_lt_of_le Nat.zero_lt_two htwo),
      Items.item_append (Nat.lt_of_lt_of_le Nat.one_lt_two htwo)]
    exact h

/-! ### Parts at fixed offsets -/

theorem readFixed_append {sizes : List Nat} {start : Nat}
    (h : readFixed record payload sizes start = .ok cells) (junk : List Char) :
    readFixed record (payload ++ junk) sizes start = .ok cells := by
  induction sizes generalizing start cells with
  | nil => rwa [readFixed] at h ⊢
  | cons size sizes ih =>
    simp only [readFixed, bind_eq_ok] at h ⊢
    obtain ⟨part, hpart, n, hn, rest, hrest, hcells⟩ := h
    exact ⟨part, Items.slice_append_right record hpart junk, n, hn, rest, ih hrest, hcells⟩

/-- Whether the fields of a layout stand at fixed offsets, or at one that an earlier field tells. -/
def isPositional : Layout → Bool
  | fixed _ | mode | sizedText => true
  | _ => false

/-- **A layout of fixed offsets does not look behind its parts.** -/
theorem read_append {layout : Layout} (hpositional : layout.isPositional = true)
    (h : layout.read record payload = .ok cells) (junk : List Char) :
    layout.read record (payload ++ junk) = .ok cells := by
  cases layout with
  | fixed sizes => exact readFixed_append h junk
  | mode =>
    simp only [read, readMode, bind_eq_ok] at h ⊢
    obtain ⟨part, hpart, hread⟩ := h
    exact ⟨part, Items.slice_append_right record hpart junk, hread⟩
  | sizedText =>
    simp only [read, readSizedText, bind_eq_ok] at h ⊢
    obtain ⟨part, hpart, size, hsize, text, htext, hcells⟩ := h
    exact ⟨part, Items.slice_append_right record hpart junk, size, hsize, text,
      Items.slice_append_right record htext junk, hcells⟩
  | separated | clocks | numbers => cases hpositional

end Layout

/-! ### Kinds of records -/

namespace RecordKind

/-- No field of a record is read from items beyond its table. -/
theorem reach_le (kind : RecordKind) (table : Table) (h : kind.layout = .separated table) :
    ∀ column ∈ table.columns, column.form.reach ≤ table.columns.length := by
  cases kind <;> cases h <;> decide

/-- A payload with enough items has all items of the table, unless it leaves out the one that may be
missing. -/
theorem length_widths_le {kind : RecordKind} {count : Nat} (h : kind.layout.required ≤ count)
    (hwhole : kind = .parallelGeneralStatus → count ≠ 28) : kind.layout.widths.length ≤ count := by
  by_cases hparallel : kind = .parallelGeneralStatus
  · have hcount := hwhole hparallel
    subst hparallel
    have hrequired : 28 ≤ count := h
    exact Nat.lt_of_le_of_ne hrequired hcount.symm
  · refine Nat.le_trans ?_ h
    revert hparallel
    cases kind <;> decide

end RecordKind

namespace Response

/-- **What stands behind the known fields does not matter.** An answer with further items behind
those of its table, whatever they hold, is decoded as the answer without them, and one warning names
the first of them. So is an answer with any text behind its parts at fixed offsets, without a
warning. Both hold under every header that declares no more than there is. An answer of a parallel
device that leaves out its last item is excepted, since the first further item stands in the place
of it. -/
theorem decode_trailing {command : Command} {kind : RecordKind}
    (hkind : command.recordKind? = some kind) {digits digits' : List UInt8}
    {payload junk : List Char} {response : Response} (hheader : IsHeaderOf digits payload)
    (hdecode : decode command (framed digits payload) = .ok response) :
    (kind.layout.widths ≠ [] →
      (kind = .parallelGeneralStatus → (payload.splitOn ',').length ≠ 28) →
      IsHeaderOf digits' (payload ++ ',' :: junk) →
      decode command (framed digits' (payload ++ ',' :: junk)) = .ok response ∧
        warnings command (framed digits' (payload ++ ',' :: junk)) =
          [⟨.warn,
            s!"while parsing {kind.label}: item {kind.layout.widths.length} is not expected"⟩]) ∧
    (kind ∈ [.protocolId, .currentTime, .generated, .workingMode, .serialNumber] →
      IsHeaderOf digits' (payload ++ junk) →
      decode command (framed digits' (payload ++ junk)) = .ok response ∧
        warnings command (framed digits' (payload ++ junk)) = []) := by
  obtain ⟨cells, hread, rfl⟩ := (decode_framed_eq_ok_iff hkind hheader).mp hdecode
  constructor
  · intro htable hwhole hheader'
    have hsplit := Layout.split_of_read htable hread
    obtain ⟨-, hchecked⟩ := Items.split_eq_ok_iff.mp hsplit
    have henough := RecordKind.length_widths_le (hchecked htable).1 hwhole
    refine ⟨(decode_framed_eq_ok_iff hkind hheader').mpr
      ⟨cells, Layout.read_append_comma htable kind.reach_le henough hread junk, rfl⟩, ?_⟩
    have hsurplus : kind.layout.widths.length <
        (payload.splitOn ',' ++ junk.splitOn ',').length := by
      have hjunk := List.length_pos_iff.mpr (List.splitOn_ne_nil ',' junk)
      rw [List.length_append]
      omega
    rw [warnings_framed hkind hheader', Record.warnings, Items.warnings_of_split htable
      (Items.split_append_comma hsplit henough junk), if_pos hsurplus]
  · intro hfixed hheader'
    have hpositional : kind.layout.isPositional = true ∧ kind.layout.widths = [] := by
      revert hfixed
      cases kind <;> decide
    refine ⟨(decode_framed_eq_ok_iff hkind hheader').mpr
      ⟨cells, Layout.read_append hpositional.1 hread junk, rfl⟩, ?_⟩
    rw [warnings_framed hkind hheader', Record.warnings, hpositional.2, Items.warnings_nil]

/-- Versions with three more items behind them, one of them empty and one outside ASCII, under a
header that declares less than there is, and a serial number with a text behind it that holds a
comma. -/
theorem decode_trailing_versions :
    (decode .getCpuVersion (framed [0x30, 0x30, 0x35] "12345,00000,99999,é,,9".toList) =
        .ok (.record ⟨.cpuVersion,
          [.text "12345".toList, .text "00000".toList, .text "99999".toList]⟩) ∧
      warnings .getCpuVersion (framed [0x30, 0x30, 0x35] "12345,00000,99999,é,,9".toList) =
        [⟨.warn, "while parsing CpuVersion: item 3 is not expected"⟩]) ∧
    decode .getSerialNumber (framed [0x30, 0x31, 0x33] "05ABCDE9,9".toList) =
        .ok (.record ⟨.serialNumber, [.text "ABCDE".toList]⟩) ∧
      warnings .getSerialNumber (framed [0x30, 0x31, 0x33] "05ABCDE9,9".toList) = [] := by
  constructor
  · have hkind : Command.getCpuVersion.recordKind? = some .cpuVersion := rfl
    have hheader : IsHeaderOf [0x30, 0x32, 0x30] "12345,00000,99999".toList := by decide
    have hheader' : IsHeaderOf [0x30, 0x30, 0x35]
        ("12345,00000,99999".toList ++ ',' :: "é,,9".toList) := by decide
    have hread : RecordKind.cpuVersion.layout.read "CpuVersion" "12345,00000,99999".toList =
        .ok [.text "12345".toList, .text "00000".toList, .text "99999".toList] := by decide
    have hdecode := (decode_framed_eq_ok_iff hkind hheader).mpr ⟨_, hread, rfl⟩
    exact (decode_trailing hkind hheader hdecode).1 (List.cons_ne_nil _ _) nofun hheader'
  · have hkind : Command.getSerialNumber.recordKind? = some .serialNumber := rfl
    have hheader : IsHeaderOf [0x30, 0x31, 0x30] "05ABCDE".toList := by decide
    have hheader' : IsHeaderOf [0x30, 0x31, 0x33] ("05ABCDE".toList ++ "9,9".toList) := by decide
    have hread : RecordKind.serialNumber.layout.read "SerialNumber" "05ABCDE".toList =
        .ok [.text "ABCDE".toList] := by decide
    have hdecode := (decode_framed_eq_ok_iff hkind hheader).mpr ⟨_, hread, rfl⟩
    exact (decode_trailing hkind hheader hdecode).2 (by decide) hheader'

end Response

end InverterLink
