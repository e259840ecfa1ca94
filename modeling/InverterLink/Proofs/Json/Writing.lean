import InverterLink.Proofs.Decimal.Shortest
import InverterLink.Proofs.Json.Unambiguity

/-!
# What is written is JSON

A value is written without blanks, each text with its quotation marks, backslashes and control
characters escaped, and each number as the shortest decimal that reads back. All of this is in the
grammar: a character is written as one of its spellings, and a decimal has digits on both sides of
its point and no zero in front of them. So what is written stands for one tree, and it holds the
texts of the value as they were. There is no control character in it, since the grammar needs none
without blanks and an escape is spelled without one.

## Main definitions

* `tree`: the tree that a value is written as.
* `IsPrinted`: a text without control characters.

## Main statements

* `Decimal.isNumber_scientific`: a binary64 number is written as a number of the grammar.
* `spells_write`, `denotes_write_iff`: what is written stands for the tree of the value, and for no
  other.
* `isPrinted_write`: no control character is written.
-/

namespace InverterLink

/-! ### Decimals -/

namespace Digits

/-- Only zero is written with a zero in front. -/
theorem isWhole_write (n : Nat) : Json.IsWhole (write n) := by
  have hread := read?_eq_some_iff.mp (read?_write n)
  refine ⟨isNumeral_write n, fun hzero => ?_⟩
  obtain ⟨ds, hds⟩ : ∃ ds, write n = '0' :: ds := List.head?_eq_some_iff.mp hzero
  have hdigits := (isNumeral_iff.mp hread.1).2
  rw [hds] at hread hdigits ⊢
  -- without the zero, the digits would denote the same number
  have hlt := ofDigitChars_lt (List.forall_mem_cons.mp hdigits).2
  have hn : Nat.ofDigitChars 10 ds 0 = n := hread.2
  rw [hn] at hlt
  cases ds with
  | nil => rfl
  | cons d ds =>
    have hlength := (length_write_le_iff (Nat.succ_pos ds.length)).mpr hlt
    rw [hds] at hlength
    exact absurd hlength (by simp)

end Digits

namespace Decimal

open Json

namespace Shortest

variable {s : Shortest}

theorem isNumeral_digits (s : Shortest) : Digits.isNumeral s.digits = true :=
  Digits.isNumeral_write s.significand

/-- The digits of a positive number do not begin with a zero. -/
theorem head?_digits (hs : 0 < s.significand) : s.digits.head? ≠ some '0' := fun hhead =>
  hs.ne' (Digits.write_injective ((Digits.isWhole_write s.significand).2 hhead))

/-- The first digits of a positive number are an integer. -/
theorem isWhole_take (hs : 0 < s.significand) {count : Nat} (hcount : 0 < count) :
    IsWhole (s.digits.take count) := by
  have hne : s.digits.take count ≠ [] := by
    rw [Ne, List.take_eq_nil_iff, not_or]
    exact ⟨hcount.ne', (Digits.isNumeral_iff.mp s.isNumeral_digits).1⟩
  refine ⟨Digits.isNumeral_of_subset s.isNumeral_digits (List.take_subset ..) hne, fun hhead => ?_⟩
  rw [List.head?_take, if_neg hcount.ne'] at hhead
  exact absurd hhead (head?_digits hs)

/-- The digits behind some of them are a fraction. -/
theorem isFraction_drop {count : Nat} (hcount : count < s.digits.length) :
    IsFraction ('.' :: s.digits.drop count) := by
  refine .inr ⟨_, Digits.isNumeral_of_subset s.isNumeral_digits (List.drop_subset ..) ?_, rfl⟩
  rw [Ne, List.drop_eq_nil_iff]
  omega

/-- A number that is no integer is written as an integer and a fraction. -/
theorem isNumber_positional_of_neg (hs : 0 < s.significand) (h : s.exponent < 0) :
    IsNumber s.positional := by
  rw [positional, if_neg (by omega)]
  split_ifs with hpoint
  · refine .of_parts (isWhole_take hs (by omega)) (isFraction_drop ?_)
    have hlength : s.point = s.digits.length + s.exponent := rfl
    omega
  · have hdigits : Digits.isNumeral (List.replicate (-s.point).toNat '0' ++ s.digits) = true := by
      obtain ⟨hne, hdigits⟩ := Digits.isNumeral_iff.mp s.isNumeral_digits
      refine Digits.isNumeral_iff.mpr ⟨List.append_ne_nil_of_right_ne_nil _ hne, ?_⟩
      refine List.forall_mem_append.mpr ⟨fun c hc => ?_, hdigits⟩
      rw [List.eq_of_mem_replicate hc]
      rfl
    have hnumber := IsNumber.of_parts isWhole_zero (.inr ⟨_, hdigits, rfl⟩)
    exact hnumber

theorem isNumber_exponential (hs : 0 < s.significand) : IsNumber s.exponential := by
  have hfraction :
      IsFraction (if (s.digits.drop 1).isEmpty then [] else '.' :: s.digits.drop 1) := by
    split_ifs with hempty
    · exact .inl rfl
    · refine isFraction_drop ?_
      rw [List.isEmpty_iff, List.drop_eq_nil_iff] at hempty
      omega
  have hexponent : IsExponent ('e' :: ((if s.point - 1 < 0 then ['-'] else []) ++
      Digits.write (s.point - 1).natAbs)) := by
    refine .inr ⟨'e', by decide, _, ?_, _, Digits.isNumeral_write _, rfl⟩
    split_ifs <;> decide
  have hsign : ([] : List Char) ∈ [[], ['-']] := by decide
  have hnumber := IsNumber.intro hsign (isWhole_take hs Nat.one_pos) hfraction hexponent
  rw [exponential]
  simpa using hnumber

end Shortest

/-- **A binary64 number is written as a number of the grammar.** -/
theorem isNumber_scientific (r : Rat) : IsNumber (scientific r) := by
  have hzero : IsFraction ['.', '0'] := .inr ⟨['0'], rfl, rfl⟩
  rw [scientific]
  split_ifs with hr
  · exact .of_parts isWhole_zero hzero
  dsimp only
  obtain hs | hs := Shortest.ofPositive_cases (not_le.mp hr)
  · split_ifs with hpoint hexponent
    · exact Shortest.isNumber_exponential hs
    · rw [Shortest.positional_of_nonneg hs hexponent]
      exact .of_parts (Digits.isWhole_write _) hzero
    · exact Shortest.isNumber_positional_of_neg hs (not_le.mp hexponent)
  · rw [hs]
    exact .of_parts isWhole_zero hzero

end Decimal

namespace Json

/-! ### Strings -/

/-- A character is written as one of its spellings. -/
theorem spellsChar_escape (c : Char) : SpellsChar c (escape c) := by
  have hunits : ∀ n < 0x20, codeUnit? (Digits.writeHex 4 n) = some n := by decide
  rw [escape.eq_def]
  split
  case h_8 hquote hbackslash _ _ _ _ _ =>
    split_ifs with hcontrol
    · exact .escape (.unit (hunits _ hcontrol))
    · exact .plain (not_lt.mp hcontrol) hquote hbackslash
  all_goals exact .escape (.letter (by decide))

theorem spellsString_flatMap (cs : List Char) : SpellsString cs (cs.flatMap escape) := by
  induction cs with
  | nil => exact .nil
  | cons c cs ih => exact .cons (spellsChar_escape c) ih

/-- **A text is written as one of its spellings**, whatever its characters are. -/
theorem spells_writeText (cs : List Char) : Spells (.value (.text cs)) (writeText cs) :=
  .text (spellsString_flatMap cs)

/-! ### Values -/

mutual

/-- The tree that a value is written as. -/
def tree : Json → Tree
  | natural n => .number (Digits.write n)
  | decimal r => .number (Decimal.scientific r)
  | bool b => .bool b
  | text cs => .text cs
  | array items => .array (treesOfItems items)
  | object fields => .object (membersOfFields fields)

/-- The trees of the items of an array. -/
def treesOfItems : List Json → List Tree
  | [] => []
  | item :: items => item.tree :: treesOfItems items

/-- The members of an object. -/
def membersOfFields : List (List Char × Json) → List (List Char × Tree)
  | [] => []
  | (key, value) :: fields => (key, value.tree) :: membersOfFields fields

end

theorem treesOfItems_eq_map (items : List Json) : treesOfItems items = items.map tree := by
  induction items with
  | nil => rfl
  | cons item items ih => rw [treesOfItems, ih, List.map_cons]

theorem membersOfFields_eq_map (fields : List (List Char × Json)) :
    membersOfFields fields = fields.map fun field => (field.1, field.2.tree) := by
  induction fields with
  | nil => rfl
  | cons field fields ih => rw [membersOfFields, ih, List.map_cons]

/-- Without blanks around it, a value is written as itself. -/
theorem Spells.withoutBlanks {tree : Tree} {cs : List Char} (h : Spells (.value tree) cs) :
    Spells (.padded tree) cs := by
  have hblank : IsBlank [] := nofun
  have hpadded := Spells.padded hblank h hblank
  rwa [List.nil_append, List.append_nil] at hpadded

mutual

/-- **A value is written as its tree is spelled.** -/
theorem spells_write : (value : Json) → Spells (.value value.tree) value.write
  | natural n => .number (.of_whole (Digits.isWhole_write n))
  | decimal r => .number (Decimal.isNumber_scientific r)
  | bool b => .bool b
  | text cs => spells_writeText cs
  | array items => .array (spells_writeItems items)
  | object fields => .object (spells_writeFields fields)

theorem spells_writeItems : (items : List Json) →
    Spells (.list ((treesOfItems items).map .item)) (writeItems items)
  | [] => .empty nofun
  | [item] => .single (.item (spells_write item).withoutBlanks)
  | item :: next :: items =>
    .more (.item (spells_write item).withoutBlanks) (List.cons_ne_nil _ _)
      (spells_writeItems (next :: items))

theorem spells_writeFields : (fields : List (List Char × Json)) →
    Spells (.list ((membersOfFields fields).map fun m => .member m.1 m.2)) (writeFields fields)
  | [] => .empty nofun
  | [(key, value)] =>
    .single (.member (spells_writeText key).withoutBlanks (spells_write value).withoutBlanks)
  | (key, value) :: next :: fields =>
    .more (.member (spells_writeText key).withoutBlanks (spells_write value).withoutBlanks)
      (List.cons_ne_nil _ _) (spells_writeFields (next :: fields))

end

/-- **What is written stands for the tree of the value**, and for no other. -/
theorem denotes_write_iff {value : Json} {tree : Tree} :
    Denotes value.write tree ↔ tree = value.tree := by
  constructor
  · exact fun h => h.unique (spells_write value).withoutBlanks
  · rintro rfl
    exact (spells_write value).withoutBlanks

/-! ### Control characters -/

/-- A text without the control characters in front of the blank. -/
def IsPrinted (cs : List Char) : Prop :=
  ∀ c ∈ cs, 0x20 ≤ c.toNat

instance (cs : List Char) : Decidable (IsPrinted cs) :=
  List.decidableBAll (fun c : Char => 0x20 ≤ c.toNat) cs

section

variable {c : Char} {cs ds : List Char}

theorem isPrinted_cons : IsPrinted (c :: cs) ↔ 0x20 ≤ c.toNat ∧ IsPrinted cs :=
  List.forall_mem_cons

theorem isPrinted_append : IsPrinted (cs ++ ds) ↔ IsPrinted cs ∧ IsPrinted ds :=
  List.forall_mem_append

theorem IsNumber.isPrinted (h : IsNumber cs) : IsPrinted cs := by
  intro c hc
  obtain hdigit | hmark := h.isNumberPart c hc
  · exact Nat.le_trans (by decide) (Digits.toNat_of_isDigit hdigit).1
  · have hmarks : IsPrinted numberMarks := by decide
    exact hmarks c hmark

end

theorem isPrinted_escape (c : Char) : IsPrinted (escape c) := by
  have hunits : ∀ n < 0x20, IsPrinted (['\\', 'u'] ++ Digits.writeHex 4 n) := by decide
  rw [escape.eq_def]
  split
  case h_8 =>
    split_ifs with hcontrol
    · exact hunits _ hcontrol
    · exact isPrinted_cons.mpr ⟨not_lt.mp hcontrol, nofun⟩
  all_goals decide

theorem isPrinted_writeText (cs : List Char) : IsPrinted (writeText cs) := by
  rw [writeText, isPrinted_append, isPrinted_cons]
  refine ⟨⟨by decide, fun d hd => ?_⟩, by decide⟩
  obtain ⟨c, -, hd⟩ := List.mem_flatMap.mp hd
  exact isPrinted_escape c d hd

mutual

/-- **No control character is written**, not even in a text. -/
theorem isPrinted_write : (value : Json) → IsPrinted value.write
  | natural n => (IsNumber.of_whole (Digits.isWhole_write n)).isPrinted
  | decimal r => (Decimal.isNumber_scientific r).isPrinted
  | bool true => by decide
  | bool false => by decide
  | text cs => isPrinted_writeText cs
  | array items => by
    rw [write, isPrinted_append, isPrinted_cons]
    exact ⟨⟨by decide, isPrinted_writeItems items⟩, by decide⟩
  | object fields => by
    rw [write, isPrinted_append, isPrinted_cons]
    exact ⟨⟨by decide, isPrinted_writeFields fields⟩, by decide⟩

theorem isPrinted_writeItems : (items : List Json) → IsPrinted (writeItems items)
  | [] => nofun
  | [item] => isPrinted_write item
  | item :: next :: items => by
    rw [writeItems, isPrinted_append, isPrinted_cons]
    · exact ⟨isPrinted_write item, by decide, isPrinted_writeItems (next :: items)⟩
    · exact nofun

theorem isPrinted_writeFields : (fields : List (List Char × Json)) → IsPrinted (writeFields fields)
  | [] => nofun
  | [(key, value)] => by
    rw [writeFields, isPrinted_append, isPrinted_cons]
    exact ⟨isPrinted_writeText key, by decide, isPrinted_write value⟩
  | (key, value) :: next :: fields => by
    rw [writeFields, isPrinted_append, isPrinted_append, isPrinted_cons, isPrinted_cons]
    · exact ⟨⟨isPrinted_writeText key, by decide, isPrinted_write value⟩, by decide,
        isPrinted_writeFields (next :: fields)⟩
    · exact nofun

end

end Json

end InverterLink
