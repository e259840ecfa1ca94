import InverterLink.Proofs.Failure
import InverterLink.Proofs.Record.Items
import Mathlib.Data.Nat.Find

/-!
# A payload is checked against its table and against nothing else

A payload with commas is cut at every comma, and its items are held against a table of widths, one
by one, until either of them ends. Three things can come of this: there are too few items, or an
item has a size that its width does not accept, or all items are kept. What comes of it is said by
`IsAcceptedAt`, which looks at a single position. The loop behind it stops at the first position
that is not accepted, so that an error names the least one, and it never gets to the items beyond
the table, which are only reported.

## Main definitions

* `IsAcceptedAt`: whether the item at a position has a size that the table accepts.

## Main statements

* `split_eq_ok_iff`: when a payload is split, and into what.
* `split_table`: what comes of splitting a payload, in every case.
-/

namespace InverterLink.Items

variable {record : String} {widths : List Width} {items : List (List Char)} {payload : List Char}

/-! ### Positions -/

/-- The item at a position, if there is one, has a size that its width in the table, if there is
one, accepts. -/
def IsAcceptedAt (widths : List Width) (items : List (List Char)) (index : Nat) : Prop :=
  ∀ width item, widths[index]? = some width → items[index]? = some item →
    width.accepts (Utf8.byteLength item) = true

theorem not_isAcceptedAt_iff {index : Nat} :
    ¬ IsAcceptedAt widths items index ↔
      ∃ width item, widths[index]? = some width ∧ items[index]? = some item ∧
        width.accepts (Utf8.byteLength item) = false := by
  simp [IsAcceptedAt]

/-- Items behind those of the table do not change what is accepted. -/
theorem IsAcceptedAt.append (h : ∀ index, IsAcceptedAt widths items index)
    (henough : widths.length ≤ items.length) (extra : List (List Char)) (index : Nat) :
    IsAcceptedAt widths (items ++ extra) index := by
  intro width item hwidth hitem
  obtain ⟨hlt, -⟩ := List.getElem?_eq_some_iff.mp hwidth
  rw [List.getElem?_append_left (Nat.lt_of_lt_of_le hlt henough)] at hitem
  exact h index width item hwidth hitem

/-! ### The check -/

/-- **The check ends at the first position that is not accepted**, and names it. -/
theorem checkWidths_of_first (record : String) (position : Nat) {index : Nat} {width : Width}
    {item : List Char} (hwidth : widths[index]? = some width) (hitem : items[index]? = some item)
    (hrefuses : width.accepts (Utf8.byteLength item) = false)
    (hbefore : ∀ before < index, IsAcceptedAt widths items before) :
    checkWidths record position widths items =
      fail record (.wrongWidth (position + index) width (Utf8.byteLength item)) := by
  induction widths generalizing items position index with
  | nil => cases hwidth
  | cons first widths ih =>
    cases items with
    | nil => cases hitem
    | cons head items =>
      cases index with
      | zero =>
        obtain rfl := Option.some.inj hwidth
        obtain rfl := Option.some.inj hitem
        rw [checkWidths, hrefuses]
        rfl
      | succ index =>
        have haccepts := hbefore 0 (Nat.succ_pos index) first head rfl rfl
        have hbehind := ih (position + 1) hwidth hitem fun before hlt =>
          hbefore (before + 1) (Nat.succ_lt_succ hlt)
        rw [checkWidths, if_pos haccepts, hbehind, Nat.add_right_comm, Nat.add_assoc]

/-- Among the positions that are not accepted there is a first one. -/
theorem exists_first (h : ¬ ∀ index, IsAcceptedAt widths items index) :
    ∃ index width item, widths[index]? = some width ∧ items[index]? = some item ∧
      width.accepts (Utf8.byteLength item) = false ∧
      ∀ before < index, IsAcceptedAt widths items before := by
  classical
  have hex : ∃ index, ¬ IsAcceptedAt widths items index := not_forall.mp h
  obtain ⟨width, item, hwidth, hitem, hrefuses⟩ := not_isAcceptedAt_iff.mp (Nat.find_spec hex)
  exact ⟨Nat.find hex, width, item, hwidth, hitem, hrefuses, fun before hlt =>
    not_not.mp (Nat.find_min hex hlt)⟩

theorem checkWidths_eq_ok_iff {position : Nat} :
    checkWidths record position widths items = .ok () ↔
      ∀ index, IsAcceptedAt widths items index := by
  refine ⟨fun hok => ?_, fun h => checkWidths_of_accepts record h position⟩
  by_contra hrefused
  obtain ⟨index, width, item, hwidth, hitem, hrefuses, hbefore⟩ := exists_first hrefused
  rw [checkWidths_of_first record position hwidth hitem hrefuses hbefore] at hok
  cases hok

/-! ### Splitting -/

variable {atLeast : Nat}

theorem split_of_ne_nil (hwidths : widths ≠ []) :
    split record widths atLeast payload =
      if (payload.splitOn ',').length < atLeast then
        fail record (.tooFewItems atLeast (payload.splitOn ',').length)
      else
        (checkWidths record 0 widths (payload.splitOn ',')).map fun _ => payload.splitOn ',' := by
  rw [split, if_neg (by rwa [List.isEmpty_iff])]

/-- **When a payload is split, and into what**: its items are those between the commas, and if there
is a table, they are enough and each has a size that the table accepts. -/
theorem split_eq_ok_iff :
    split record widths atLeast payload = .ok items ↔
      payload.splitOn ',' = items ∧
        (widths ≠ [] → atLeast ≤ items.length ∧ ∀ index, IsAcceptedAt widths items index) := by
  by_cases hwidths : widths = []
  · simp [split, hwidths]
  · rw [split_of_ne_nil hwidths]
    split_ifs with hfew
    · constructor
      · intro h
        cases h
      · rintro ⟨rfl, h⟩
        exact absurd (h hwidths).1 (Nat.not_le_of_lt hfew)
    · cases hcheck : checkWidths record 0 widths (payload.splitOn ',') with
      | ok =>
        have haccepted := checkWidths_eq_ok_iff.mp hcheck
        constructor
        · rintro ⟨⟩
          exact ⟨rfl, fun _ => ⟨Nat.le_of_not_lt hfew, haccepted⟩⟩
        · rintro ⟨rfl, -⟩
          rfl
      | error e =>
        constructor
        · intro h
          cases h
        · rintro ⟨rfl, h⟩
          rw [checkWidths_eq_ok_iff.mpr (h hwidths).2] at hcheck
          cases hcheck

/-- Items that have been split are reported exactly if there are more than the table has widths. -/
theorem warnings_of_split (hwidths : widths ≠ [])
    (h : split record widths atLeast payload = .ok items) :
    warnings record widths atLeast payload =
      if widths.length < items.length then
        [⟨.warn, s!"while parsing {record}: item {widths.length} is not expected"⟩]
      else [] := by
  rw [warnings, h]
  simp only [unexpected?, List.isEmpty_eq_false_iff.mpr hwidths, Bool.not_false, Bool.true_and,
    decide_eq_true_iff]
  split_ifs <;> rfl

/-- Without a table nothing is reported. -/
theorem warnings_nil : warnings record [] atLeast payload = [] := by
  simp [warnings, split, unexpected?]

/-- **What comes of splitting a payload** that has a table, with a least number of items or with as
many as the table has widths. It is split exactly if there are enough items and those within the
table have the sizes that it accepts. If there are too few, the error says how many there must be
and how many there are; otherwise it names the first item of a wrong size, the width that was
expected and the size. Split, a payload comes apart into all its items, and one warning names the
first item beyond the table, if there is one. -/
theorem split_table (record : String) {widths : List Width} (hwidths : widths ≠ [])
    (atLeast? : Option Nat) {payload : List Char} {items : List (List Char)} {atLeast : Nat}
    (hitems : payload.splitOn ',' = items) (hatLeast : atLeast?.getD widths.length = atLeast) :
    ((∃ kept, split record widths atLeast payload = .ok kept) ↔
      atLeast ≤ items.length ∧ ∀ index, IsAcceptedAt widths items index) ∧
    (items.length < atLeast →
      split record widths atLeast payload =
        .error (.parse record (.tooFewItems atLeast items.length))) ∧
    (∀ index width item, atLeast ≤ items.length →
      widths[index]? = some width → items[index]? = some item →
      width.accepts (Utf8.byteLength item) = false →
      (∀ before < index, IsAcceptedAt widths items before) →
      split record widths atLeast payload =
        .error (.parse record (.wrongWidth index width (Utf8.byteLength item)))) ∧
    (∀ kept, split record widths atLeast payload = .ok kept →
      kept = items ∧ [','].intercalate kept = payload ∧
      warnings record widths atLeast payload =
        if widths.length < kept.length then
          [⟨.warn, s!"while parsing {record}: item {widths.length} is not expected"⟩]
        else []) := by
  subst hitems hatLeast
  refine ⟨?_, fun hfew => ?_, fun index width item henough hwidth hitem hrefuses hbefore => ?_,
    fun kept hkept => ?_⟩
  · constructor
    · rintro ⟨kept, hkept⟩
      obtain ⟨rfl, h⟩ := split_eq_ok_iff.mp hkept
      exact h hwidths
    · exact fun h => ⟨_, split_eq_ok_iff.mpr ⟨rfl, fun _ => h⟩⟩
  · rw [split_of_ne_nil hwidths, if_pos hfew]
    rfl
  · have hcheck := checkWidths_of_first record 0 hwidth hitem hrefuses hbefore
    rw [split_of_ne_nil hwidths, if_neg (Nat.not_lt_of_le henough), hcheck, Nat.zero_add]
    rfl
  · obtain ⟨rfl, -⟩ := split_eq_ok_iff.mp hkept
    exact ⟨rfl, List.intercalate_splitOn ',', warnings_of_split hwidths hkept⟩

/-- A range that an item is too long for, items beyond the table of which the last one is empty, and
a table whose last item may be left out. -/
theorem split_table_range :
    split "Test" [.exactly 1, ⟨2, 3⟩] 2 "1,2345,678".toList =
        .error (.parse "Test" (.wrongWidth 1 ⟨2, 3⟩ 4)) ∧
    warnings "Test" [.exactly 1, ⟨2, 3⟩] 2 "1,234,x,".toList =
        [⟨.warn, "while parsing Test: item 2 is not expected"⟩] ∧
    (∃ kept, split "Test" [.exactly 1, ⟨2, 3⟩] 1 "1".toList = .ok kept) ∧
    split "Test" [.exactly 1, ⟨2, 3⟩] 2 "1".toList =
        .error (.parse "Test" (.tooFewItems 2 1)) := by
  have hwidths : [Width.exactly 1, ⟨2, 3⟩] ≠ [] := List.cons_ne_nil _ _
  have haccepted : ∀ index, IsAcceptedAt [.exactly 1, ⟨2, 3⟩] ["1".toList] index :=
    checkWidths_eq_ok_iff.mp (by decide : checkWidths "Test" 0 _ _ = .ok ())
  have hone : "1".toList.splitOn ',' = ["1".toList] := by decide
  refine ⟨?_, ?_, ?_, ?_⟩
  · have hitems : "1,2345,678".toList.splitOn ',' = ["1".toList, "2345".toList, "678".toList] := by
      decide
    obtain ⟨-, -, hwrong, -⟩ := split_table "Test" hwidths none hitems rfl
    refine hwrong 1 ⟨2, 3⟩ "2345".toList (by decide) rfl (by decide) (by decide) ?_
    intro before hbefore width item hwidth hitem
    obtain rfl := Nat.lt_one_iff.mp hbefore
    cases hwidth
    cases (show some "1".toList = some item from hitem)
    rfl
  · have hitems : "1,234,x,".toList.splitOn ',' = ["1".toList, "234".toList, "x".toList, []] := by
      decide
    obtain ⟨-, -, -, hkept⟩ := split_table "Test" hwidths none hitems rfl
    exact (hkept ["1".toList, "234".toList, "x".toList, []] (by decide)).2.2
  · obtain ⟨hsplit, -⟩ := split_table "Test" hwidths (some 1) hone rfl
    exact hsplit.mpr ⟨by decide, haccepted⟩
  · obtain ⟨-, hfew, -⟩ := split_table "Test" hwidths none hone rfl
    exact hfew (by decide)

end InverterLink.Items
