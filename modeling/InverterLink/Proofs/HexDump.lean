import InverterLink.HexDump
import InverterLink.Proofs.Blocks
import InverterLink.Proofs.Text.Hexadecimal
import Mathlib.Data.List.Basic
import Mathlib.Tactic.SplitIfs

/-!
# A dump shows the data

A dump has a row for each block of sixteen bytes. All rows have the same columns, at the same places
as long as the offsets have eight digits. So the bytes can be read back from the hexadecimal column,
whatever characters stand beside it, and different data have different dumps.

## Main definitions

* `HexDump.lines`: the rows of a text.
* `HexDump.bytesColumn`, `HexDump.charactersColumn`: the columns of a row, by their places.
* `HexDump.read?`: the bytes that the rows of a text show in hexadecimal.

## Main statements

* `HexDump.rows_eq_mapIdx`: a dump has a row for each block.
* `HexDump.read?_write`: the data are read back.
* `HexDump.shows_data`: what the rows of a dump look like.
-/

namespace InverterLink.HexDump

variable {data bytes : List UInt8} {offset : Nat}

/-! ### Reading a dump -/

/-- The rows of a text, of which the empty text has none. -/
def lines (dump : List Char) : List (List Char) :=
  if dump = [] then [] else dump.splitOn '\n'

/-- The place where the hexadecimal column begins. -/
def bytesPlace : Nat := 10

/-- The place of the bar in front of the character column. -/
def barPlace : Nat := 59

/-- The hexadecimal column of a row. -/
def bytesColumn (line : List Char) : List Char :=
  (line.drop bytesPlace).take hexColumnWidth

/-- The character column of a row: what stands between the bars. -/
def charactersColumn (line : List Char) : List Char :=
  (line.drop (barPlace + 1)).dropLast

/-- The byte that two hexadecimal digits denote. -/
def readByte? (digits : List Char) : Option UInt8 :=
  if digits.length = 2 then (Digits.readHex? digits).map UInt8.ofNat else none

/-- The bytes that the words of a hexadecimal column denote. -/
def readBytes? (column : List Char) : Option (List UInt8) :=
  ((column.splitOn ' ').filter (!·.isEmpty)).mapM readByte?

/-- The bytes that the rows of a text show in hexadecimal, one row after the other. -/
def read? (dump : List Char) : Option (List UInt8) :=
  ((lines dump).mapM fun line => readBytes? (bytesColumn line)).map List.flatten

/-! ### The hexadecimal column -/

theorem length_hexByte (byte : UInt8) : (hexByte byte).length = 2 :=
  Digits.length_writeHex (by decide) byte.toNat_lt

theorem readByte?_hexByte (byte : UInt8) : readByte? (hexByte byte) = some byte := by
  rw [readByte?, if_pos (length_hexByte byte), hexByte, Digits.readHex?_writeHex, Option.map_some,
    UInt8.ofNat_toNat]

theorem hexColumn_singleton (byte : UInt8) : hexColumn [byte] = hexByte byte :=
  List.intercalate_singleton

theorem hexColumn_cons_cons (byte next : UInt8) (bytes : List UInt8) :
    hexColumn (byte :: next :: bytes) = hexByte byte ++ [' '] ++ hexColumn (next :: bytes) :=
  List.intercalate_cons_cons

/-- Two digits for each byte, and the blanks between them. -/
theorem length_hexColumn_le (bytes : List UInt8) :
    (hexColumn bytes).length ≤ 3 * bytes.length - 1 := by
  induction bytes with
  | nil => exact Nat.le_refl 0
  | cons byte bytes ih =>
    cases bytes with
    | nil => rw [hexColumn_singleton, length_hexByte, List.length_singleton]
    | cons next bytes =>
      rw [hexColumn_cons_cons]
      simp only [List.length_append, List.length_cons, List.length_nil, length_hexByte] at ih ⊢
      omega

/-- No other character stands in a hexadecimal column. -/
theorem notMem_hexColumn {c : Char} (hc : Digits.hexValue? c = none) (hblank : c ≠ ' ')
    (bytes : List UInt8) : c ∉ hexColumn bytes := by
  induction bytes with
  | nil => exact List.not_mem_nil
  | cons byte bytes ih =>
    have hbyte : c ∉ hexByte byte := Digits.notMem_writeHex hc
    cases bytes with
    | nil => rwa [hexColumn_singleton]
    | cons next bytes =>
      rw [hexColumn_cons_cons]
      simp [hbyte, hblank, ih]

/-- Sixteen bytes fill the column. -/
theorem length_rightpad_hexColumn (h : bytes.length ≤ rowSize) :
    (List.rightpad hexColumnWidth ' ' (hexColumn bytes)).length = hexColumnWidth := by
  have hle := length_hexColumn_le bytes
  rw [List.length_rightpad, Nat.max_eq_left]
  rw [rowSize] at h
  rw [hexColumnWidth]
  omega

/-- Blanks behind a text add no words. -/
theorem filter_splitOn_rightpad (width : Nat) (cs : List Char) :
    ((List.rightpad width ' ' cs).splitOn ' ').filter (!·.isEmpty) =
      (cs.splitOn ' ').filter (!·.isEmpty) := by
  rw [List.rightpad]
  generalize width - cs.length = count
  induction count with
  | zero => rw [List.replicate_zero, List.append_nil]
  | succ count ih =>
    rw [List.replicate_succ', ← List.append_assoc, List.splitOn_append_cons_self,
      List.filter_append, ih]
    simp

/-- The words of a hexadecimal column are the bytes. -/
theorem filter_splitOn_hexColumn (bytes : List UInt8) :
    ((hexColumn bytes).splitOn ' ').filter (!·.isEmpty) = bytes.map hexByte := by
  by_cases hne : bytes = []
  · rw [hne]
    rfl
  · have hblanks : ∀ word ∈ bytes.map hexByte, ' ' ∉ word := by
      simp only [List.forall_mem_map]
      exact fun _ _ => Digits.notMem_writeHex rfl
    have hwords : ∀ word ∈ bytes.map hexByte, (!word.isEmpty) = true := by
      simp only [List.forall_mem_map, Bool.not_eq_true', List.isEmpty_eq_false_iff]
      intro byte _ hnil
      simpa [hnil] using length_hexByte byte
    rw [hexColumn, List.splitOn_intercalate ' ' hblanks (by simpa using hne),
      List.filter_eq_self.mpr hwords]

/-- **The hexadecimal column is read as it was written.** -/
theorem readBytes?_rightpad (bytes : List UInt8) :
    readBytes? (List.rightpad hexColumnWidth ' ' (hexColumn bytes)) = some bytes := by
  rw [readBytes?, filter_splitOn_rightpad, filter_splitOn_hexColumn]
  induction bytes with
  | nil => rfl
  | cons byte bytes ih => simp [List.mapM_cons, readByte?_hexByte, ih]

/-! ### The columns of a row -/

/-- An offset of eight digits. -/
theorem length_offset (h : offset < 2 ^ 32) : (Digits.writeHex 8 offset).length = 8 :=
  Digits.length_writeHex (by decide) (by omega)

theorem bytesColumn_row (hoffset : offset < 2 ^ 32) (hbytes : bytes.length ≤ rowSize) :
    bytesColumn (row offset bytes) = List.rightpad hexColumnWidth ' ' (hexColumn bytes) := by
  have hfront : (Digits.writeHex 8 offset ++ [' ', ' ']).length = bytesPlace := by
    rw [List.length_append, length_offset hoffset]
    rfl
  simp only [bytesColumn, row, List.append_assoc]
  rw [← List.append_assoc, List.drop_left' hfront,
    List.take_left' (length_rightpad_hexColumn hbytes)]

/-- What stands before the first bar of a row. -/
def front (offset : Nat) (bytes : List UInt8) : List Char :=
  Digits.writeHex 8 offset ++ [' ', ' '] ++ List.rightpad hexColumnWidth ' ' (hexColumn bytes) ++
    [' ', ' ']

theorem row_eq_append (offset : Nat) (bytes : List UInt8) :
    row offset bytes = front offset bytes ++ '|' :: (bytes.map visible ++ ['|']) := by
  simp [row, front]

/-- What stands before the first bar is as long, however short the row is. -/
theorem length_front (hoffset : offset < 2 ^ 32) (hbytes : bytes.length ≤ rowSize) :
    (front offset bytes).length = barPlace := by
  simp only [front, List.length_append, length_offset hoffset, length_rightpad_hexColumn hbytes]
  rfl

/-- Nothing but digits and blanks stands before the first bar. -/
theorem notMem_front {c : Char} (hc : Digits.hexValue? c = none) (hblank : c ≠ ' ') (offset : Nat)
    (bytes : List UInt8) : c ∉ front offset bytes := by
  have hoffset : c ∉ Digits.writeHex 8 offset := Digits.notMem_writeHex hc
  simp [front, List.rightpad, hoffset, hblank, notMem_hexColumn hc hblank]

/-- What the character column shows is visible. -/
theorem toNat_visible (byte : UInt8) :
    0x20 ≤ (visible byte).toNat ∧ (visible byte).toNat ≤ 0x7E := by
  rw [visible]
  split_ifs with h
  · rw [Bool.and_eq_true, decide_eq_true_iff, decide_eq_true_iff] at h
    have hvalid : byte.toNat.isValidChar := .inl (Nat.lt_trans byte.toNat_lt (by decide))
    rwa [Char.ofNat, dif_pos hvalid]
  · decide

/-- A row is a single line. -/
theorem lineFeed_notMem_row (offset : Nat) (bytes : List UInt8) : '\n' ∉ row offset bytes := by
  have hfront : '\n' ∉ front offset bytes := notMem_front rfl (by decide) offset bytes
  have hvisible : ∀ byte ∈ bytes, visible byte ≠ '\n' := fun byte _ heq =>
    absurd (heq ▸ toNat_visible byte) (by decide)
  simpa [row_eq_append, hfront] using hvisible

/-- A row begins with its offset. -/
theorem readHex?_take_row (hoffset : offset < 2 ^ 32) (bytes : List UInt8) :
    Digits.readHex? ((row offset bytes).take 8) = some offset := by
  have hfront : (Digits.writeHex 8 offset).length = 8 := length_offset hoffset
  simp only [row, List.append_assoc]
  rw [List.take_left' hfront, Digits.readHex?_writeHex]

/-- The first bar of a row is at one place, however short the row is. -/
theorem getElem?_barPlace_row (hoffset : offset < 2 ^ 32) (hbytes : bytes.length ≤ rowSize) :
    (row offset bytes)[barPlace]? = some '|' := by
  rw [row_eq_append, ← length_front hoffset hbytes, List.getElem?_append_right (Nat.le_refl _),
    Nat.sub_self]
  rfl

theorem bar_notMem_take_row (hoffset : offset < 2 ^ 32) (hbytes : bytes.length ≤ rowSize) :
    '|' ∉ (row offset bytes).take barPlace := by
  rw [row_eq_append, List.take_left' (length_front hoffset hbytes)]
  exact notMem_front rfl (by decide) _ _

theorem getLast?_row (offset : Nat) (bytes : List UInt8) :
    (row offset bytes).getLast? = some '|' := by
  rw [row_eq_append, ← List.cons_append, ← List.append_assoc, List.getLast?_concat]

/-- The characters of a row stand behind its first bar. -/
theorem charactersColumn_row (hoffset : offset < 2 ^ 32) (hbytes : bytes.length ≤ rowSize) :
    charactersColumn (row offset bytes) = bytes.map visible := by
  rw [charactersColumn, row_eq_append, List.append_cons, List.drop_left', List.dropLast_concat]
  rw [List.length_append, length_front hoffset hbytes, List.length_singleton]

/-! ### The rows of a dump -/

theorem rowsFrom_eq_mapIdx (offset : Nat) (data : List UInt8) :
    rowsFrom offset data = (blocks rowSize data).mapIdx fun k bytes =>
      row (offset + rowSize * k) bytes := by
  fun_induction rowsFrom offset data with
  | case1 => simp [blocks_nil]
  | case2 offset data hne ih =>
    rw [ih, blocks_of_ne_nil (by decide) hne, List.mapIdx_cons]
    simp only [Nat.mul_succ, Nat.mul_zero, Nat.add_zero, Nat.add_assoc, Nat.add_comm]

/-- **A dump has a row for each block**, with the place of the block in the data. -/
theorem rows_eq_mapIdx (data : List UInt8) :
    rows data = (blocks rowSize data).mapIdx fun k bytes => row (rowSize * k) bytes := by
  simp only [rows, rowsFrom_eq_mapIdx, Nat.zero_add]

/-- The rows of a dump are read as they were written. -/
theorem lines_write (data : List UInt8) : lines (write data) = rows data := by
  by_cases hdata : data = []
  · simp [hdata, lines, write, rows_eq_mapIdx, blocks_nil]
  · have hlines : ∀ line ∈ rows data, '\n' ∉ line := by
      intro line hline
      rw [rows_eq_mapIdx, List.mem_mapIdx] at hline
      obtain ⟨k, hk, rfl⟩ := hline
      exact lineFeed_notMem_row _ _
    have hfirst : ∃ line rest, rows data = line :: rest ∧ line ≠ [] := by
      rw [rows_eq_mapIdx, blocks_of_ne_nil (by decide) hdata, List.mapIdx_cons]
      exact ⟨_, _, rfl, by simp [row]⟩
    obtain ⟨line, rest, hrows, hline⟩ := hfirst
    have hsplit : (write data).splitOn '\n' = rows data :=
      List.splitOn_intercalate '\n' hlines (hrows ▸ List.cons_ne_nil line rest)
    have hwrite : write data ≠ [] := by
      intro hnil
      rw [hnil, hrows, List.splitOn_nil, List.cons_eq_cons] at hsplit
      exact hline hsplit.1.symm
    rw [lines, if_neg hwrite, hsplit]

/-- What every element is read as from what is written for it. -/
theorem mapM_mapIdx {α β : Type} {write : Nat → α → β} {read? : β → Option α} {xs : List α}
    (h : ∀ k x, xs[k]? = some x → read? (write k x) = some x) :
    (xs.mapIdx write).mapM read? = some xs := by
  induction xs generalizing write with
  | nil => rfl
  | cons x xs ih =>
    have hfirst : read? (write 0 x) = some x := h 0 x rfl
    have hrest : (xs.mapIdx fun k => write (k + 1)).mapM read? = some xs :=
      ih fun k x hx => h (k + 1) x hx
    simp [List.mapIdx_cons, List.mapM_cons, hfirst, hrest]

/-- The block of a row. -/
theorem block_cases (hdata : data.length < 2 ^ 32) {k : Nat}
    (h : (blocks rowSize data)[k]? = some bytes) :
    rowSize * k < 2 ^ 32 ∧ bytes.length ≤ rowSize ∧
      bytes = (data.drop (rowSize * k)).take rowSize := by
  obtain ⟨hk, rfl⟩ := of_getElem?_blocks (by decide) h
  exact ⟨Nat.lt_trans hk hdata, List.length_take_le _ _, rfl⟩

/-- **The data are read back from a dump.** -/
theorem read?_write (hdata : data.length < 2 ^ 32) : read? (write data) = some data := by
  have hblocks : (rows data).mapM (fun line => readBytes? (bytesColumn line)) =
      some (blocks rowSize data) := by
    rw [rows_eq_mapIdx]
    refine mapM_mapIdx fun k bytes hbytes => ?_
    obtain ⟨hoffset, hlength, -⟩ := block_cases hdata hbytes
    rw [bytesColumn_row hoffset hlength, readBytes?_rightpad]
  rw [read?, lines_write, hblocks, Option.map_some, flatten_blocks (by decide)]

/-- **A dump shows the data.** The dump of less than 2³² bytes has a row for each block of sixteen
bytes. The row begins with the place of the block in eight hexadecimal digits; its first bar, behind
which the characters stand, is at the same place in all rows; and the characters, up to the bar at
the end, are visible ones, one for each byte. The hexadecimal columns of all rows denote the data,
so that no other data have the same dump. -/
theorem shows_data (hdata : data.length < 2 ^ 32) :
    (lines (write data)).length = data.length ⌈/⌉ 16 ∧
    (∀ k text, (lines (write data))[k]? = some text →
      Digits.readHex? (text.take 8) = some (16 * k) ∧
      text[barPlace]? = some '|' ∧ '|' ∉ text.take barPlace ∧ text.getLast? = some '|' ∧
      charactersColumn text = ((data.drop (16 * k)).take 16).map visible ∧
      ∀ c ∈ charactersColumn text, 0x20 ≤ c.toNat ∧ c.toNat ≤ 0x7E) ∧
    read? (write data) = some data ∧
    ∀ other : List UInt8, other.length < 2 ^ 32 → write other = write data → other = data := by
  rw [lines_write]
  refine ⟨?_, fun k text htext => ?_, read?_write hdata, fun other hother hsame => ?_⟩
  · rw [rows_eq_mapIdx, List.length_mapIdx, length_blocks]
    rfl
  · rw [rows_eq_mapIdx, List.getElem?_mapIdx, Option.map_eq_some_iff] at htext
    obtain ⟨bytes, hbytes, rfl⟩ := htext
    obtain ⟨hoffset, hlength, hblock⟩ := block_cases hdata hbytes
    have hcharacters : charactersColumn (row (rowSize * k) bytes) = bytes.map visible :=
      charactersColumn_row hoffset hlength
    refine ⟨readHex?_take_row hoffset bytes, getElem?_barPlace_row hoffset hlength,
      bar_notMem_take_row hoffset hlength, getLast?_row _ bytes, ?_, ?_⟩
    · rw [hcharacters, hblock]
      rfl
    · rw [hcharacters, List.forall_mem_map]
      exact fun byte _ => toNat_visible byte
  · have hread := read?_write hother
    rw [hsame, read?_write hdata] at hread
    exact (Option.some.inj hread).symm

/-- Sixteen line feeds and a bar. -/
theorem shows_data_of_bar :
    (List.replicate 16 0x0A ++ [(0x7C : UInt8)]).length < 2 ^ 32 ∧
      (lines (write (List.replicate 16 0x0A ++ [0x7C]))).length = 2 ∧
      (∀ line, (lines (write (List.replicate 16 0x0A ++ [0x7C])))[1]? = some line →
        Digits.readHex? (line.take 8) = some 16 ∧ charactersColumn line = ['|']) ∧
      read? (write (List.replicate 16 0x0A ++ [0x7C])) =
        some (List.replicate 16 0x0A ++ [0x7C]) := by
  have hlength : (List.replicate 16 0x0A ++ [(0x7C : UInt8)]).length < 2 ^ 32 := by decide
  obtain ⟨hcount, hrows, hread, -⟩ := shows_data hlength
  refine ⟨hlength, hcount, fun line hline => ?_, hread⟩
  obtain ⟨hoffset, -, -, -, hcharacters, -⟩ := hrows 1 line hline
  exact ⟨hoffset, hcharacters.trans (by decide)⟩

end InverterLink.HexDump
