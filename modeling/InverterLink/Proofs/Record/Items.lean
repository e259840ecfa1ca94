import InverterLink.Proofs.Text.Digits
import InverterLink.Record.Items

/-!
# Reading items that were written

Items without commas, joined by commas, are the items of the payload that this makes; if they have
the widths of a table, the table accepts them. A part of a payload is found behind what stands
before it, and a padded numeral in it is read as its number.
-/

namespace InverterLink.Items

variable (record : String)

/-! ### Numbers -/

theorem readNumber_writePadded {n : Nat} (h : n < numberBound) (width : Nat) :
    readNumber record (Digits.writePadded width n) = .ok n := by
  rw [readNumber, Digits.read?_writePadded]
  exact if_pos h

theorem readNumber_eq_ok_iff {cs : List Char} {n : Nat} :
    readNumber record cs = .ok n ↔ Digits.read? cs = some n ∧ n < numberBound := by
  rw [readNumber]
  cases Digits.read? cs with
  | none => simp [fail]
  | some m =>
    dsimp only
    split_ifs with hm
    · grind
    · grind [fail]

/-- A number that was read is written as it stood there, if it is padded to the size of its item. -/
theorem writePadded_of_readNumber {cs : List Char} {n : Nat} (h : readNumber record cs = .ok n) :
    Digits.writePadded (Utf8.byteLength cs) n = cs := by
  obtain ⟨hread, -⟩ := (readNumber_eq_ok_iff record).mp h
  have hdigits := (Digits.isNumeral_iff.mp (Digits.read?_eq_some_iff.mp hread).1).2
  rw [Utf8.byteLength_of_isDigit hdigits, Digits.writePadded_of_read? hread]

theorem item_eq_ok_iff {items : List (List Char)} {index : Nat} {cs : List Char} :
    item record items index = .ok cs ↔ items[index]? = some cs := by
  rw [item]
  cases items[index]? with
  | none => exact ⟨nofun, nofun⟩
  | some found =>
    rw [Except.ok.injEq, Option.some.injEq]

theorem item_of_getElem? {items : List (List Char)} {index : Nat} {cs : List Char}
    (h : items[index]? = some cs) : item record items index = .ok cs :=
  (item_eq_ok_iff record).mpr h

/-- The item at a position holds the number that was written there. -/
theorem number_of_getElem? {items : List (List Char)} {index width n : Nat}
    (hitem : items[index]? = some (Digits.writePadded width n)) (h : n < numberBound) :
    number record items index = .ok n := by
  rw [number, item_of_getElem? record hitem]
  exact readNumber_writePadded record h width

/-- The items of a list hold the numbers that were written there. -/
theorem numbers_map_writePadded {ns : List Nat} (h : ∀ n ∈ ns, n < numberBound) (width : Nat) :
    numbers record (ns.map (Digits.writePadded width)) = .ok ns := by
  induction ns with
  | nil => rfl
  | cons n ns ih =>
    rw [List.map_cons, numbers, readNumber_writePadded record (h n List.mem_cons_self),
      ih fun m hm => h m (List.mem_cons_of_mem n hm)]
    rfl

/-! ### Parts at fixed offsets -/

/-- A part of a payload is found behind what stands before it. -/
theorem slice_append (before part behind : List Char) :
    slice record (Utf8.byteLength before) (Utf8.byteLength part) (before ++ (part ++ behind)) =
      .ok part := by
  rw [slice, Utf8.takeBytes?_byteLength, Option.bind_some]
  dsimp only
  rw [Utf8.takeBytes?_byteLength]

/-- A part at the beginning of a payload is found. -/
theorem slice_zero (part behind : List Char) :
    slice record 0 (Utf8.byteLength part) (part ++ behind) = .ok part :=
  slice_append record [] part behind

/-- A part of a payload is what stands between two cuts. -/
theorem slice_eq_ok_iff {start size : Nat} {payload part : List Char} :
    slice record start size payload = .ok part ↔
      ∃ before behind, payload = before ++ (part ++ behind) ∧
        Utf8.byteLength before = start ∧ Utf8.byteLength part = size := by
  constructor
  · intro h
    rw [slice] at h
    split at h
    · next found behind hcut =>
      cases h
      obtain ⟨⟨before, rest⟩, hbefore, hpart⟩ := Option.bind_eq_some_iff.mp hcut
      obtain ⟨rfl, hstart⟩ := Utf8.takeBytes?_eq_some_iff.mp hbefore
      obtain ⟨rfl, hsize⟩ := Utf8.takeBytes?_eq_some_iff.mp hpart
      exact ⟨before, behind, rfl, hstart, hsize⟩
    · cases h
  · rintro ⟨before, behind, rfl, rfl, rfl⟩
    exact slice_append record before part behind

/-- A part of a payload is found whatever stands behind the payload. -/
theorem slice_append_right {start size : Nat} {payload part : List Char}
    (h : slice record start size payload = .ok part) (behind : List Char) :
    slice record start size (payload ++ behind) = .ok part := by
  obtain ⟨before, rest, rfl, hstart, hsize⟩ := (slice_eq_ok_iff record).mp h
  refine (slice_eq_ok_iff record).mpr ⟨before, rest ++ behind, ?_, hstart, hsize⟩
  rw [List.append_assoc, List.append_assoc]

/-! ### Items between commas -/

/-- Items of the right widths pass the check. -/
theorem checkWidths_of_accepts {widths : List Width} {items : List (List Char)}
    (h : ∀ (index : Nat) (width : Width) (cs : List Char), widths[index]? = some width →
      items[index]? = some cs → width.accepts (Utf8.byteLength cs) = true) (position : Nat) :
    checkWidths record position widths items = .ok () := by
  induction widths generalizing items position with
  | nil => rw [checkWidths.eq_2]; exact nofun
  | cons width widths ih =>
    cases items with
    | nil => rw [checkWidths.eq_2]; exact nofun
    | cons cs items =>
      rw [checkWidths, if_pos (h 0 width cs rfl rfl)]
      exact ih (fun index => h (index + 1)) (position + 1)

/-- A payload of items without a table to check them. -/
theorem split_nil {items : List (List Char)} (hne : items ≠ []) (hcomma : ∀ cs ∈ items, ',' ∉ cs)
    (atLeast : Nat) : split record [] atLeast ([','].intercalate items) = .ok items := by
  rw [split, List.splitOn_intercalate ',' hcomma hne]
  rfl

/-- **The items of a payload are those that were joined**, if they have the widths of the table. -/
theorem split_of_accepts {widths : List Width} {atLeast : Nat} {items : List (List Char)}
    (hne : items ≠ []) (hcomma : ∀ cs ∈ items, ',' ∉ cs) (hleast : atLeast ≤ items.length)
    (h : ∀ (index : Nat) (width : Width) (cs : List Char), widths[index]? = some width →
      items[index]? = some cs → width.accepts (Utf8.byteLength cs) = true) :
    split record widths atLeast ([','].intercalate items) = .ok items := by
  rw [split, List.splitOn_intercalate ',' hcomma hne]
  rw [if_neg (Nat.not_lt_of_le hleast), checkWidths_of_accepts record h]
  exact ite_self _

end InverterLink.Items
