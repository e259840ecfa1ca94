import InverterLink.Proofs.Decoding
import InverterLink.Proofs.Record.Reading
import InverterLink.Proofs.Record.Splitting
import Mathlib.Algebra.Ring.Nat

/-!
# A record determines the bytes that it was read from

A number is read from digits alone, and in a field of one size there is only one way to write it. So
a record whose fields are all numbers, ordinals or texts of one size can be written again, and what
is written is what stood in the payload, byte for byte, as far as the layout of the record knows it.
Hence payloads that hold the same record agree on all fields of it. This is the converse of reading
what was written: no second spelling of a field is accepted anywhere, be it with a sign, a space or
a missing zero, and each field is taken from its own position.

## Main definitions

* `Layout.declared`: the bytes of a payload that a layout knows of.
* `Layout.spelling`: how a record is written when each field has the size that the layout declares.
* `Layout.isExact`: whether all fields of a layout have one size and one spelling.

## Main statements

* `Layout.write_of_read`: a record of an exact layout is written as it stood in the payload.
* `Response.decode_faithful`: what a decoded answer says about the bytes of the frame.
-/

namespace InverterLink

/-! ### Parts between separators -/

section Separators

variable {separator : Char} {cs ds : List Char} {n : Nat}

/-- The parts that are taken from a joined text stand at the beginning of it. -/
theorem intercalate_take_prefix (between : List Char) (parts : List (List Char)) (n : Nat) :
    between.intercalate (parts.take n) <+: between.intercalate parts := by
  induction parts generalizing n with
  | nil => rw [List.take_nil]
  | cons part parts ih =>
    cases n with
    | zero => exact List.nil_prefix
    | succ n =>
      rw [List.take_succ_cons]
      cases parts with
      | nil => rw [List.take_nil]
      | cons next parts =>
        have hbehind := ih n
        cases n with
        | zero =>
          rw [List.take_zero, List.intercalate_singleton, List.intercalate_cons_cons,
            List.append_assoc]
          exact List.prefix_append _ _
        | succ n =>
          rw [List.take_succ_cons] at hbehind ⊢
          rw [List.intercalate_cons_cons, List.intercalate_cons_cons]
          exact (List.prefix_append_right_inj _).mpr hbehind

/-- The parts between the separators of a text hold none of them. -/
theorem notMem_of_mem_splitOn {part : List Char} (h : part ∈ cs.splitOn separator) :
    separator ∉ part := by
  induction cs generalizing part with
  | nil =>
    rw [List.splitOn_nil, List.mem_singleton] at h
    rw [h]
    exact List.not_mem_nil
  | cons c cs ih =>
    rw [List.splitOn_cons_eq_if_modifyHead] at h
    split_ifs at h with hc
    · obtain rfl | hpart := List.mem_cons.mp h
      · exact List.not_mem_nil
      · exact ih hpart
    · obtain ⟨head, parts, hparts⟩ := List.exists_cons_of_ne_nil (List.splitOn_ne_nil separator cs)
      rw [hparts, List.modifyHead_cons] at h
      rw [hparts] at ih
      obtain rfl | hpart := List.mem_cons.mp h
      · rw [List.mem_cons, not_or]
        exact ⟨fun heq => hc (beq_iff_eq.mpr heq.symm), ih List.mem_cons_self⟩
      · exact ih (List.mem_cons_of_mem _ hpart)

/-- The first parts of texts are the same if they are the same text when they are joined. -/
theorem take_splitOn_eq_of_intercalate_eq
    (h : [separator].intercalate ((cs.splitOn separator).take n) =
      [separator].intercalate ((ds.splitOn separator).take n)) :
    (cs.splitOn separator).take n = (ds.splitOn separator).take n := by
  cases n with
  | zero => rw [List.take_zero, List.take_zero]
  | succ n =>
    have hsplit (text : List Char) :
        ([separator].intercalate ((text.splitOn separator).take (n + 1))).splitOn separator =
          (text.splitOn separator).take (n + 1) := by
      refine List.splitOn_intercalate separator
        (fun part hpart => notMem_of_mem_splitOn (List.mem_of_mem_take hpart)) ?_
      simp [List.take_eq_nil_iff, List.splitOn_ne_nil]
    rw [← hsplit cs, ← hsplit ds, h]

end Separators

/-! ### Exact layouts -/

/-- Whether a field of the given form has only one spelling of a given size. -/
def ItemForm.isExact : ItemForm → Bool
  | number | text | choice _ => true
  | flag | clipped _ => false

/-- Whether the fields in a column have one size and one spelling. -/
def Column.isExact (column : Column) : Bool :=
  column.form.isExact && column.width.least = column.width.greatest

namespace Layout

/-- Whether all fields of a layout have one size and one spelling. -/
def isExact : Layout → Bool
  | fixed _ | mode | clocks => true
  | separated table => table.columns.all Column.isExact
  | sizedText | numbers => false

/-- The bytes of a payload that a layout knows of: the parts of fixed sizes, or the items of the
table with the commas between them. -/
def declared (payload : List Char) (layout : Layout) : List UInt8 :=
  match layout with
  | fixed sizes => (Utf8.encode payload).take sizes.sum
  | mode | sizedText => (Utf8.encode payload).take 2
  | separated _ | clocks | numbers =>
    Utf8.encode ([','].intercalate ((payload.splitOn ',').take layout.widths.length))

/-- How a record is written when each field has the least size that the table declares for it. -/
def spelling (layout : Layout) : Spelling where
  size index := (layout.widths[index]?.map (·.least)).getD 0

theorem declared_prefix (payload : List Char) (layout : Layout) :
    layout.declared payload <+: Utf8.encode payload := by
  have hitems (count : Nat) :
      Utf8.encode ([','].intercalate ((payload.splitOn ',').take count)) <+:
        Utf8.encode payload := by
    obtain ⟨behind, h⟩ := intercalate_take_prefix [','] (payload.splitOn ',') count
    rw [List.intercalate_splitOn] at h
    exact ⟨Utf8.encode behind, by rw [← Utf8.encode_append, h]⟩
  cases layout with
  | fixed | mode | sizedText => exact List.take_prefix _ _
  | separated | clocks | numbers => exact hitems _

/-- Payloads with the same declared bytes have the same items within the table. -/
theorem take_splitOn_eq_of_declared_eq {layout : Layout} {payload payload' : List Char}
    (h : layout.declared payload = layout.declared payload') :
    (payload.splitOn ',').take layout.widths.length =
      (payload'.splitOn ',').take layout.widths.length := by
  cases layout with
  | fixed | mode | sizedText | numbers => rfl
  | separated | clocks => exact take_splitOn_eq_of_intercalate_eq (Utf8.eq_of_encode_eq h)

variable {record : String} {payload : List Char} {cells : List Cell}

/-- A width with equal bounds accepts a single size. -/
theorem eq_of_accepts {width : Width} {size : Nat} (hwidth : width.least = width.greatest)
    (h : width.accepts size = true) : size = width.least := by
  rw [Width.accepts, Bool.and_eq_true, decide_eq_true_iff, decide_eq_true_iff] at h
  omega

/-! ### Items of a table -/

section Items

variable {items : List (List Char)}

/-- A field with one spelling is written as the item that it was read from. -/
theorem write_of_readItem {form : ItemForm} (hexact : form.isExact = true) {index : Nat}
    {cs : List Char} (hitem : items[index]? = some cs) {cell : Cell}
    (h : readItem record items form index = .ok cell) :
    cell.write (Utf8.byteLength cs) [] = cs := by
  have hcs := Items.item_of_getElem? record hitem
  cases form with
  | number =>
    simp only [readItem, Items.number, hcs, ok_bind, bind_eq_ok, pure_eq_ok] at h
    obtain ⟨n, hn, rfl⟩ := h
    exact Items.writePadded_of_readNumber record hn
  | text =>
    simp only [readItem, hcs, ok_bind, pure_eq_ok] at h
    obtain rfl := h
    exact List.append_nil cs
  | choice e =>
    simp only [readItem, Items.ordinal, Items.number, hcs, ok_bind, bind_eq_ok, pure_eq_ok] at h
    obtain ⟨ordinal, ⟨n, hn, hhas⟩, rfl⟩ := h
    split_ifs at hhas
    · obtain rfl := pure_eq_ok.mp hhas
      exact Items.writePadded_of_readNumber record hn
    · cases hhas
  | flag | clipped => cases hexact

/-- **Each field is read from the item at its own position**, and there is one for each column that
has an item. -/
theorem readItems_eq_ok {columns : List Column} {index : Nat}
    (h : readItems record items columns index = .ok cells) :
    cells.length = min columns.length (items.length - index) ∧
      ∀ (k : Nat) (cell : Cell), cells[k]? = some cell → ∃ column, columns[k]? = some column ∧
        readItem record items column.form (index + k) = .ok cell := by
  induction columns generalizing index cells with
  | nil =>
    rw [readItems] at h
    cases h
    refine ⟨(Nat.zero_min _).symm, fun k cell hcell => ?_⟩
    cases hcell
  | cons column columns ih =>
    rw [readItems] at h
    split_ifs at h with hindex
    · simp only [bind_eq_ok, pure_eq_ok] at h
      obtain ⟨first, hfirst, rest, hrest, rfl⟩ := h
      obtain ⟨hlength, hcells⟩ := ih hrest
      refine ⟨?_, fun k cell hcell => ?_⟩
      · rw [List.length_cons, List.length_cons, hlength]
        omega
      · cases k with
        | zero =>
          obtain rfl := Option.some.inj hcell
          exact ⟨column, rfl, hfirst⟩
        | succ k =>
          obtain ⟨column', hcolumn', hread⟩ := hcells k cell hcell
          rw [Nat.add_right_comm, Nat.add_assoc] at hread
          exact ⟨column', hcolumn', hread⟩
    · cases h
      refine ⟨?_, fun k cell hcell => ?_⟩
      · rw [List.length_nil]
        omega
      · cases hcell

/-- A field in an exact column is written as the item at its position. -/
theorem write_of_isAcceptedAt {table : Table} (hexact : table.columns.all Column.isExact = true)
    {index : Nat} (haccepted : Items.IsAcceptedAt table.widths items index) {column : Column}
    (hcolumn : table.columns[index]? = some column) {cs : List Char}
    (hitem : items[index]? = some cs) {cell : Cell}
    (h : readItem record items column.form index = .ok cell) :
    cell.write ((separated table).spelling.size index) [] = cs := by
  have hwidth : table.widths[index]? = some column.width := by
    rw [Table.widths, List.getElem?_map, hcolumn]
    rfl
  obtain ⟨hform, hsize⟩ := Bool.and_eq_true_iff.mp
    (List.all_eq_true.mp hexact column (List.mem_of_getElem? hcolumn))
  have hdeclared : (separated table).spelling.size index = Utf8.byteLength cs := by
    rw [eq_of_accepts (of_decide_eq_true hsize) (haccepted column.width cs hwidth hitem)]
    simp only [spelling, widths, hwidth, Option.map_some, Option.getD_some]
  rw [hdeclared]
  exact write_of_readItem hform hitem h

/-- A record of a table whose columns are exact is written as the items of the table. -/
theorem items_of_readTable {table : Table} (hexact : table.columns.all Column.isExact = true)
    (haccepted : ∀ index, Items.IsAcceptedAt table.widths items index)
    (h : readTable record table items = .ok cells) :
    (separated table).spelling.items cells = items.take table.columns.length := by
  have hread : readItems record items table.columns 0 = .ok cells := by
    rw [readTable] at h
    split at h
    · obtain ⟨_, -, hread⟩ := bind_eq_ok.mp h
      exact hread
    · exact h
  obtain ⟨hlength, hcells⟩ := readItems_eq_ok hread
  refine List.ext_getElem? fun index => ?_
  rw [Spelling.getElem?_items, List.getElem?_take]
  cases hcell : cells[index]? with
  | none =>
    have hbeyond := List.getElem?_eq_none_iff.mp hcell
    split_ifs with hindex
    · exact (List.getElem?_eq_none_iff.mpr (by omega)).symm
    · rfl
  | some cell =>
    obtain ⟨column, hcolumn, hreadItem⟩ := hcells index cell hcell
    obtain ⟨hcolumnLt, -⟩ := List.getElem?_eq_some_iff.mp hcolumn
    obtain ⟨hcellLt, -⟩ := List.getElem?_eq_some_iff.mp hcell
    have hitem : items[index]? = some items[index] := List.getElem?_eq_getElem (by omega)
    rw [Nat.zero_add] at hreadItem
    rw [if_pos hcolumnLt, hitem, Option.map_some]
    exact congrArg some (write_of_isAcceptedAt hexact (haccepted index) hcolumn hitem hreadItem)

end Items

/-! ### Parts of fixed sizes -/

/-- A part of a text with a known beginning is found behind it. -/
theorem eq_append_of_slice (before : List Char) {rest part : List Char} {size : Nat}
    (h : Items.slice record (Utf8.byteLength before) size (before ++ rest) = .ok part) :
    ∃ behind, rest = part ++ behind ∧ Utf8.byteLength part = size := by
  obtain ⟨before', behind, hpayload, hbefore, hpart⟩ := (Items.slice_eq_ok_iff record).mp h
  have hcut := Utf8.takeBytes?_byteLength before rest
  have hcut' := Utf8.takeBytes?_eq_some_iff.mpr ⟨hpayload.symm, hbefore⟩
  obtain ⟨-, rfl⟩ := Prod.mk.inj (Option.some.inj (hcut.symm.trans hcut'))
  exact ⟨behind, rfl, hpart⟩

/-- **Numbers of fixed sizes are written as they stood in the payload.** -/
theorem write_of_readFixed {sizes : List Nat} (before : List Char) {rest : List Char}
    (h : readFixed record (before ++ rest) sizes (Utf8.byteLength before) = .ok cells) :
    cells.length = sizes.length ∧
      ∃ behind,
        rest = (List.zipWith (fun size cell => Cell.write size [] cell) sizes cells).flatten ++
          behind ∧
        Utf8.byteLength
          (List.zipWith (fun size cell => Cell.write size [] cell) sizes cells).flatten =
            sizes.sum := by
  -- as in reading what was written, the parts that have been read move to the text before the rest
  induction sizes generalizing before rest cells with
  | nil =>
    rw [readFixed] at h
    cases h
    exact ⟨rfl, rest, rfl, rfl⟩
  | cons size sizes ih =>
    simp only [readFixed, bind_eq_ok, pure_eq_ok] at h
    obtain ⟨part, hpart, n, hn, cells, hcells, rfl⟩ := h
    obtain ⟨behind, rfl, rfl⟩ := eq_append_of_slice before hpart
    rw [← Utf8.byteLength_append, ← List.append_assoc] at hcells
    obtain ⟨hlength, last, hbehind, hsum⟩ := ih (before ++ part) hcells
    have hwritten := Items.writePadded_of_readNumber record hn
    rw [List.zipWith_cons_cons, List.flatten_cons, Cell.write, hwritten]
    refine ⟨congrArg (· + 1) hlength, last, ?_, ?_⟩
    · rw [List.append_assoc, ← hbehind]
    · rw [Utf8.byteLength_append, hsum, List.sum_cons]

/-- The bytes at the beginning of a text are those of a part with as many. -/
theorem take_encode_append (part behind : List Char) :
    (Utf8.encode (part ++ behind)).take (Utf8.byteLength part) = Utf8.encode part := by
  rw [Utf8.encode_append, ← Utf8.length_encode, List.take_left]

theorem take_two_of_getElem? {items : List (List Char)} {first second : List Char}
    (hfirst : items[0]? = some first) (hsecond : items[1]? = some second) :
    items.take 2 = [first, second] := by
  rcases items with _ | ⟨_, _ | ⟨_, rest⟩⟩
  · cases hfirst
  · cases hsecond
  · cases hfirst
    cases hsecond
    rfl

/-- A time of day is written as the item that it was read from. -/
theorem write_of_readClock {item : List Char} (hsize : Utf8.byteLength item = 4)
    (h : readFixed record item [2, 2] 0 = .ok cells) :
    cells.length = 2 ∧ cells.flatMap (Cell.write 2 []) = item := by
  obtain ⟨hlength, behind, hitem, hsum⟩ := write_of_readFixed [] h
  obtain ⟨hour, minute, rfl⟩ := List.length_eq_two.mp hlength
  have hbehind : behind = [] := by
    rw [hitem, Utf8.byteLength_append, hsum] at hsize
    exact Utf8.eq_nil_of_byteLength_eq_zero (by simpa using hsize)
  subst hbehind
  refine ⟨rfl, ?_⟩
  rw [hitem]
  simp

/-! ### Layouts -/

/-- **A record of an exact layout is written as it stood in the payload**, byte for byte. -/
theorem write_of_read {layout : Layout} (hexact : layout.isExact = true)
    (h : layout.read record payload = .ok cells) :
    Utf8.encode (layout.write layout.spelling cells) = layout.declared payload := by
  cases layout with
  | fixed sizes =>
    obtain ⟨-, behind, rfl, hsum⟩ := write_of_readFixed [] h
    rw [declared, write, ← hsum, take_encode_append]
  | mode =>
    simp only [read, readMode, bind_eq_ok] at h
    obtain ⟨part, hpart, n, hn, hhas⟩ := h
    obtain ⟨behind, rfl, hsize⟩ := eq_append_of_slice [] hpart
    split_ifs at hhas
    · obtain rfl := pure_eq_ok.mp hhas
      have hwritten := Items.writePadded_of_readNumber record hn
      rw [hsize] at hwritten
      rw [declared, write, List.flatMap_singleton, Cell.write, hwritten, ← hsize,
        take_encode_append]
    · cases hhas
  | separated table =>
    simp only [read, bind_eq_ok] at h
    obtain ⟨items, hsplit, hcells⟩ := h
    obtain ⟨rfl, hchecked⟩ := Items.split_eq_ok_iff.mp hsplit
    have haccepted : ∀ index, Items.IsAcceptedAt table.widths (payload.splitOn ',') index := by
      by_cases hwidths : table.widths = []
      · intro index width item hwidth
        rw [hwidths] at hwidth
        cases hwidth
      · exact (hchecked hwidths).2
    rw [declared, write, items_of_readTable hexact haccepted hcells, widths, Table.widths,
      List.length_map]
  | clocks =>
    simp only [read, readClocks, bind_eq_ok, pure_eq_ok] at h
    obtain ⟨items, hsplit, first, hfirst, second, hsecond, start, hstart, stop, hstop, rfl⟩ := h
    obtain ⟨rfl, hchecked⟩ := Items.split_eq_ok_iff.mp hsplit
    obtain ⟨-, haccepted⟩ := hchecked (List.cons_ne_nil _ _)
    rw [Items.item_eq_ok_iff] at hfirst hsecond
    have hfirstSize := eq_of_accepts rfl (haccepted 0 (.exactly 4) first rfl hfirst)
    have hsecondSize := eq_of_accepts rfl (haccepted 1 (.exactly 4) second rfl hsecond)
    obtain ⟨hlength, hstartItem⟩ := write_of_readClock hfirstSize hstart
    obtain ⟨-, hstopItem⟩ := write_of_readClock hsecondSize hstop
    have hitems : (payload.splitOn ',').take clocks.widths.length = [first, second] :=
      take_two_of_getElem? hfirst hsecond
    rw [declared, hitems, write, List.take_left' hlength, List.drop_left' hlength, hstartItem,
      hstopItem]
  | sizedText | numbers => cases hexact

end Layout

/-! ### Responses -/

namespace Response

/-- **A record determines the bytes that it was read from.** If any frame is decoded as a record
whose fields all have one size, then the record, written in the order of its layout with each number
and each ordinal padded with zeros to the size that is declared for it, is what the payload begins
with, byte for byte, as far as the layout knows it. So any other frame that is decoded as the same
record has the same bytes there, and the same items within the table. -/
theorem decode_faithful {command : Command} {frame : List UInt8} {r : Record}
    (hkind : r.kind ∈ [.protocolId, .currentTime, .generated, .workingMode, .cpuVersion,
      .generalStatus, .parallelGeneralStatus, .timeBucket])
    (hdecode : decode command frame = .ok (.record r)) :
    ∃ text, payload frame = .ok text ∧
      Utf8.encode (r.kind.layout.write r.kind.layout.spelling r.cells) =
        r.kind.layout.declared text ∧
      r.kind.layout.declared text <+: frame.drop 5 ∧
      ∀ command' frame' text', decode command' frame' = .ok (.record r) →
        payload frame' = .ok text' →
        r.kind.layout.declared text' = r.kind.layout.declared text ∧
        (text'.splitOn ',').take r.kind.layout.widths.length =
          (text.splitOn ',').take r.kind.layout.widths.length := by
  have hexact : r.kind.layout.isExact = true := by
    generalize r.kind = kind at hkind
    revert hkind
    cases kind <;> decide
  obtain ⟨-, text, hpayload, hread⟩ := decode_eq_ok_record_iff.mp hdecode
  have hwritten := Layout.write_of_read hexact hread
  refine ⟨text, hpayload, hwritten, ?_, fun command' frame' text' hdecode' hpayload' => ?_⟩
  · rw [← encode_of_payload hpayload]
    exact Layout.declared_prefix text r.kind.layout
  · obtain ⟨-, text'', hpayload'', hread'⟩ := decode_eq_ok_record_iff.mp hdecode'
    obtain rfl := Except.ok.inj (hpayload'.symm.trans hpayload'')
    have hsame := (Layout.write_of_read hexact hread').symm.trans hwritten
    exact ⟨hsame, Layout.take_splitOn_eq_of_declared_eq hsame⟩

/-- The readings of a device that works in parallel with others and leaves the last item out. -/
def parallelStatus : List Cell := [
  .choice .parallelConnectionStatus 1, .choice .workingMode 5, .number 0, .number 2300, .number 500,
  .number 2300, .number 500, .number 115, .number 18, .number 230, .number 36, .number 2, .number 4,
  .number 500, .number 0, .number 12, .number 24, .number 78, .number 230, .number 0, .number 1801,
  .number 0, .choice .mpptChargerStatus 2, .choice .mpptChargerStatus 1,
  .choice .loadConnectionStatus 1, .choice .batteryPowerDirection 1, .choice .dcAcPowerDirection 2,
  .choice .linePowerDirection 0]

/-- These readings as the device sends them. -/
def parallelStatusText : List Char :=
  ("1,5,00,2300,500,2300,500,0115,0018,00230,00036,002,004,500,000,012,024,078,0230,0000,1801," ++
    "0000,2,1,1,1,2,0").toList

/-- Two times of day with a surplus behind them, a date and time with a text behind it, and readings
with ordinals among them. -/
theorem decode_faithful_surplus :
    Utf8.encode (Layout.clocks.write Layout.clocks.spelling
        [.number 9, .number 30, .number 17, .number 5]) =
      Layout.clocks.declared "0930,1705,é".toList ∧
    Utf8.encode ((Layout.fixed [4, 2, 2, 2, 2, 2]).write (Layout.fixed [4, 2, 2, 2, 2, 2]).spelling
        [.number 2024, .number 2, .number 29, .number 7, .number 8, .number 9]) <+:
      (framed [0x30, 0x31, 0x36] "20240229070809é".toList).drop 5 ∧
    Utf8.encode ((Layout.separated .parallelGeneralStatus).write
        (Layout.separated .parallelGeneralStatus).spelling parallelStatus) =
      (Layout.separated .parallelGeneralStatus).declared parallelStatusText := by
  refine ⟨?_, ?_, ?_⟩
  · have hkind : Command.getAcChargeTimeBucket.recordKind? = some .timeBucket := rfl
    have hheader : IsHeaderOf [0x30, 0x30, 0x39] "0930,1705,é".toList := by decide
    have hread : RecordKind.timeBucket.layout.read "TimeBucket" "0930,1705,é".toList =
        .ok [.number 9, .number 30, .number 17, .number 5] := by decide
    have hdecode := (decode_framed_eq_ok_iff hkind hheader).mpr ⟨_, hread, rfl⟩
    obtain ⟨text, hpayload, hwritten, -⟩ := decode_faithful (by decide) hdecode
    obtain rfl := Except.ok.inj (hheader.payload_framed.symm.trans hpayload)
    exact hwritten
  · have hkind : Command.getCurrentTime.recordKind? = some .currentTime := rfl
    have hheader : IsHeaderOf [0x30, 0x31, 0x36] "20240229070809é".toList := by decide
    have hread : RecordKind.currentTime.layout.read "CurrentTime" "20240229070809é".toList =
        .ok [.number 2024, .number 2, .number 29, .number 7, .number 8, .number 9] := by decide
    have hdecode := (decode_framed_eq_ok_iff hkind hheader).mpr ⟨_, hread, rfl⟩
    obtain ⟨text, -, hwritten, hprefix, -⟩ := decode_faithful (by decide) hdecode
    exact hwritten ▸ hprefix
  · have hkind : Command.getParallelGeneralStatus.recordKind? = some .parallelGeneralStatus := rfl
    have hheader : IsHeaderOf [0x31, 0x30, 0x39] parallelStatusText := by decide +kernel
    have hread : RecordKind.parallelGeneralStatus.layout.read "ParallelGeneralStatus"
        parallelStatusText = .ok parallelStatus := by decide +kernel
    have hdecode := (decode_framed_eq_ok_iff hkind hheader).mpr ⟨_, hread, rfl⟩
    obtain ⟨text, hpayload, hwritten, -⟩ := decode_faithful (by decide) hdecode
    obtain rfl := Except.ok.inj (hheader.payload_framed.symm.trans hpayload)
    exact hwritten

end Response

end InverterLink
