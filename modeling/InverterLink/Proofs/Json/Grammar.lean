import InverterLink.Json
import InverterLink.Proofs.Text.Digits

/-!
# The grammar of JSON

What a JSON text stands for is said by the grammar alone, as a relation between trees and texts that
knows neither a reader nor a writer. The grammar is the one that all readers share: blanks may stand
around every value, a control character of a text must be escaped, every other character may be, and
a number has no zero in front of its digits.

The parts below the level of values are determined by where they begin: the spelling of a character
ends where it does, whatever stands behind it, and a string ends at its first quotation mark that is
not escaped.

## Main definitions

* `Tree`: what a text stands for.
* `SpellsEscape`, `SpellsChar`, `SpellsString`, `IsNumber`: the grammar of strings and numbers.
* `Spells`: the grammar of all parts of a text.
* `Denotes`: the grammar of whole texts.

## Main statements

* `SpellsChar.eq_of_append_eq`, `SpellsString.eq_of_append_eq`: where characters and strings end.
* `IsNumber.isNumberPart`: a number is a run of characters of its own.
-/

namespace InverterLink.Json

/-- What a JSON text stands for. A number is kept as it is spelled, and the members of an object in
the order in which they stand. -/
inductive Tree where
  | null
  | bool (b : Bool)
  | number (spelling : List Char)
  | text (cs : List Char)
  | array (items : List Tree)
  | object (members : List (List Char × Tree))

/-- What holds of each character of a list is decided for one after the other. An instance for all
characters that are in a list would try every character there is. -/
theorem forall_mem_of_all {cs : List Char} {P : Char → Prop} [DecidablePred P]
    (h : cs.all (fun c => decide (P c)) = true) : ∀ c ∈ cs, P c := fun c hc =>
  of_decide_eq_true (List.all_eq_true.mp h c hc)

/-! ### Strings -/

/-- The letters that stand behind a backslash, each with the character that both together stand
for. -/
def letterEscapes : List (Char × Char) :=
  [('"', '"'), ('\\', '\\'), ('/', '/'), ('b', '\x08'), ('f', '\x0c'), ('n', '\n'), ('r', '\r'),
    ('t', '\t')]

/-- The value of a hexadecimal digit, in upper or lower case. -/
def hexDigit? (c : Char) : Option Nat :=
  "0123456789abcdef".toList.idxOf? c.toLower

/-- The number that four hexadecimal digits denote. -/
def codeUnit? : List Char → Option Nat
  | [a, b, c, d] => do
    return (((← hexDigit? a) * 16 + (← hexDigit? b)) * 16 + (← hexDigit? c)) * 16 + (← hexDigit? d)
  | _ => none

/-- What may stand behind a backslash for a character: a letter, the code point, or a pair of
surrogates. -/
inductive SpellsEscape (c : Char) : List Char → Prop
  | letter {l : Char} (h : (l, c) ∈ letterEscapes) : SpellsEscape c [l]
  | unit {ds : List Char} (h : codeUnit? ds = some c.toNat) : SpellsEscape c ('u' :: ds)
  | pair {ds es : List Char} {high low : Nat} (hds : codeUnit? ds = some (0xD800 + high))
      (hes : codeUnit? es = some (0xDC00 + low)) (hhigh : high < 0x400) (hlow : low < 0x400)
      (h : c.toNat = 0x10000 + high * 0x400 + low) :
      SpellsEscape c ('u' :: (ds ++ '\\' :: 'u' :: es))

/-- The spellings of a character in a string: itself, unless it is a quotation mark, a backslash or
a control character, or an escape. -/
inductive SpellsChar (c : Char) : List Char → Prop
  | plain (hprinted : 0x20 ≤ c.toNat) (hquote : c ≠ '"') (hbackslash : c ≠ '\\') : SpellsChar c [c]
  | escape {cs : List Char} (h : SpellsEscape c cs) : SpellsChar c ('\\' :: cs)

/-- The spellings of the characters of a string one behind the other. -/
inductive SpellsString : List Char → List Char → Prop
  | nil : SpellsString [] []
  | cons {c : Char} {text cs ds : List Char} (h : SpellsChar c cs) (hs : SpellsString text ds) :
      SpellsString (c :: text) (cs ++ ds)

theorem length_of_codeUnit? {ds : List Char} {n : Nat} (h : codeUnit? ds = some n) :
    ds.length = 4 := by
  rw [codeUnit?.eq_def] at h
  split at h
  · rfl
  · cases h

/-- No code point is half of a pair. -/
theorem not_surrogate (c : Char) : c.toNat < 0xD800 ∨ 0xE000 ≤ c.toNat := by
  obtain hlow | hhigh := c.valid
  · exact .inl hlow
  · exact .inr hhigh.1

section

variable {c c' : Char} {cs cs' rest rest' : List Char}

/-- A letter behind a backslash stands for one character. -/
theorem eq_of_mem_letterEscapes {l : Char} (h : (l, c) ∈ letterEscapes)
    (h' : (l, c') ∈ letterEscapes) : c = c' := by
  have hall : ∀ e ∈ letterEscapes, ∀ e' ∈ letterEscapes, e.1 = e'.1 → e.2 = e'.2 := by decide
  exact hall _ h _ h' rfl

/-- The letter of a code point stands for nothing else. -/
theorem ne_of_mem_letterEscapes {l : Char} (h : (l, c) ∈ letterEscapes) : l ≠ 'u' := by
  have hall : ∀ e ∈ letterEscapes, e.1 ≠ 'u' := by decide
  exact hall _ h

/-- Numbers of four digits that begin at the same place are the same. -/
theorem eq_of_codeUnit?_append {ds es : List Char} {m n : Nat} (hds : codeUnit? ds = some m)
    (hes : codeUnit? es = some n) (h : ds ++ rest = es ++ rest') : m = n ∧ rest = rest' := by
  obtain ⟨rfl, hrest⟩ :=
    List.append_inj h (by rw [length_of_codeUnit? hds, length_of_codeUnit? hes])
  exact ⟨Option.some.inj (hds.symm.trans hes), hrest⟩

/-- **An escape ends where it does**, whatever stands behind it. -/
theorem SpellsEscape.eq_of_append_eq (h : SpellsEscape c cs) (h' : SpellsEscape c' cs')
    (heq : cs ++ rest = cs' ++ rest') : c = c' ∧ rest = rest' := by
  cases h with
  | letter hletter =>
    cases h' with
    | letter hletter' =>
      obtain ⟨rfl, hrest⟩ := List.cons.inj heq
      exact ⟨eq_of_mem_letterEscapes hletter hletter', hrest⟩
    | unit | pair => exact absurd (List.cons.inj heq).1 (ne_of_mem_letterEscapes hletter)
  | unit hds =>
    cases h' with
    | letter hletter' => exact absurd (List.cons.inj heq).1.symm (ne_of_mem_letterEscapes hletter')
    | unit hds' =>
      obtain ⟨hsame, hrest⟩ := eq_of_codeUnit?_append hds hds' (List.cons.inj heq).2
      exact ⟨Char.toNat_inj.mp hsame, hrest⟩
    | pair hds' _ hhigh' =>
      simp only [List.cons_append, List.append_assoc] at heq
      have hsame := (eq_of_codeUnit?_append hds hds' (List.cons.inj heq).2).1
      have hnot := not_surrogate c
      omega
  | pair hds hes hhigh hlow hc =>
    simp only [List.cons_append, List.append_assoc] at heq
    cases h' with
    | letter hletter' => exact absurd (List.cons.inj heq).1.symm (ne_of_mem_letterEscapes hletter')
    | unit hds' =>
      have hsame := (eq_of_codeUnit?_append hds hds' (List.cons.inj heq).2).1
      have hnot := not_surrogate c'
      omega
    | pair hds' hes' hhigh' hlow' hc' =>
      simp only [List.cons_append, List.append_assoc] at heq
      obtain ⟨hsame, hbehind⟩ := eq_of_codeUnit?_append hds hds' (List.cons.inj heq).2
      obtain ⟨hsame', hrest⟩ :=
        eq_of_codeUnit?_append hes hes' (List.cons.inj (List.cons.inj hbehind).2).2
      exact ⟨Char.toNat_inj.mp (by omega), hrest⟩

/-- **The spelling of a character ends where it does**, whatever stands behind it. -/
theorem SpellsChar.eq_of_append_eq (h : SpellsChar c cs) (h' : SpellsChar c' cs')
    (heq : cs ++ rest = cs' ++ rest') : c = c' ∧ rest = rest' := by
  cases h with
  | plain _ _ hbackslash =>
    cases h' with
    | plain => exact ⟨(List.cons.inj heq).1, (List.cons.inj heq).2⟩
    | escape => exact absurd (List.cons.inj heq).1 hbackslash
  | escape h =>
    cases h' with
    | plain _ _ hbackslash => exact absurd (List.cons.inj heq).1.symm hbackslash
    | escape h' => exact h.eq_of_append_eq h' (List.cons.inj heq).2

/-- No spelling begins with a quotation mark. -/
theorem SpellsChar.exists_cons (h : SpellsChar c cs) :
    ∃ first tail, cs = first :: tail ∧ first ≠ '"' := by
  cases h with
  | plain _ hquote => exact ⟨c, [], rfl, hquote⟩
  | escape => exact ⟨'\\', _, rfl, by decide⟩

end

/-- **A string ends at its first quotation mark** that is not part of a spelling. -/
theorem SpellsString.eq_of_append_eq {text text' cs cs' rest rest' : List Char}
    (h : SpellsString text cs) (h' : SpellsString text' cs')
    (heq : cs ++ '"' :: rest = cs' ++ '"' :: rest') :
    text = text' ∧ rest = rest' := by
  induction h generalizing text' cs' with
  | nil =>
    cases h' with
    | nil => exact ⟨rfl, (List.cons.inj heq).2⟩
    | cons hchar =>
      obtain ⟨first, tail, rfl, hne⟩ := hchar.exists_cons
      exact absurd (List.cons.inj heq).1.symm hne
  | cons hchar hs ih =>
    cases h' with
    | nil =>
      obtain ⟨first, tail, rfl, hne⟩ := hchar.exists_cons
      exact absurd (List.cons.inj heq).1 hne
    | cons hchar' hs' =>
      rw [List.append_assoc, List.append_assoc] at heq
      obtain ⟨rfl, hbehind⟩ := hchar.eq_of_append_eq hchar' heq
      obtain ⟨rfl, hrest⟩ := ih hs' hbehind
      exact ⟨rfl, hrest⟩

/-! ### Numbers -/

/-- An integer without a sign, and without a zero in front of other digits. -/
def IsWhole (cs : List Char) : Prop :=
  Digits.isNumeral cs = true ∧ (cs.head? = some '0' → cs = ['0'])

/-- A point with digits behind it, or nothing. -/
def IsFraction (cs : List Char) : Prop :=
  cs = [] ∨ ∃ ds, Digits.isNumeral ds = true ∧ cs = '.' :: ds

/-- An exponent of ten with its mark and an optional sign, or nothing. -/
def IsExponent (cs : List Char) : Prop :=
  cs = [] ∨ ∃ mark ∈ ['e', 'E'], ∃ sign ∈ [[], ['+'], ['-']], ∃ ds,
    Digits.isNumeral ds = true ∧ cs = mark :: (sign ++ ds)

/-- A number: an optional sign, an integer, and a fraction and an exponent if there are any. -/
inductive IsNumber : List Char → Prop
  | intro {sign whole fraction exponent : List Char} (hsign : sign ∈ [[], ['-']])
      (hwhole : IsWhole whole) (hfraction : IsFraction fraction) (hexponent : IsExponent exponent) :
      IsNumber (sign ++ whole ++ fraction ++ exponent)

theorem isWhole_zero : IsWhole ['0'] :=
  ⟨rfl, fun _ => rfl⟩

/-- A number without a sign and without an exponent. -/
theorem IsNumber.of_parts {whole fraction : List Char} (hwhole : IsWhole whole)
    (hfraction : IsFraction fraction) : IsNumber (whole ++ fraction) := by
  have hsign : ([] : List Char) ∈ [[], ['-']] := by decide
  have hnumber := IsNumber.intro hsign hwhole hfraction (.inl rfl)
  rwa [List.nil_append, List.append_nil] at hnumber

theorem IsNumber.of_whole {whole : List Char} (hwhole : IsWhole whole) : IsNumber whole := by
  have hnumber := IsNumber.of_parts hwhole (.inl rfl)
  rwa [List.append_nil] at hnumber

/-- The characters that numbers are spelled with, besides digits. -/
def numberMarks : List Char :=
  ['-', '+', '.', 'e', 'E']

/-- The characters that numbers are spelled with. -/
def IsNumberPart (c : Char) : Prop :=
  c.isDigit = true ∨ c ∈ numberMarks

instance : DecidablePred IsNumberPart := fun c =>
  inferInstanceAs (Decidable (c.isDigit = true ∨ c ∈ numberMarks))

theorem isNumberPart_of_isNumeral {cs : List Char} (h : Digits.isNumeral cs = true) :
    ∀ c ∈ cs, IsNumberPart c := fun c hc => .inl ((Digits.isNumeral_iff.mp h).2 c hc)

theorem IsFraction.isNumberPart {cs : List Char} (h : IsFraction cs) :
    ∀ c ∈ cs, IsNumberPart c := by
  obtain rfl | ⟨ds, hds, rfl⟩ := h
  · exact nofun
  · exact List.forall_mem_cons.mpr ⟨.inr (by decide), isNumberPart_of_isNumeral hds⟩

theorem IsExponent.isNumberPart {cs : List Char} (h : IsExponent cs) :
    ∀ c ∈ cs, IsNumberPart c := by
  obtain rfl | ⟨mark, hmark, sign, hsign, ds, hds, rfl⟩ := h
  · exact nofun
  · have hmarks : ['e', 'E'] ⊆ numberMarks := by decide
    have hsigns : ∀ sign ∈ [[], ['+'], ['-']], sign ⊆ numberMarks := by decide
    refine List.forall_mem_cons.mpr ⟨.inr (hmarks hmark), List.forall_mem_append.mpr ⟨?_, ?_⟩⟩
    · exact fun c hc => .inr (hsigns sign hsign hc)
    · exact isNumberPart_of_isNumeral hds

theorem IsNumber.isNumberPart {cs : List Char} (h : IsNumber cs) : ∀ c ∈ cs, IsNumberPart c := by
  obtain ⟨hsign, hwhole, hfraction, hexponent⟩ := h
  have hsigns : ∀ sign ∈ [[], ['-']], sign ⊆ numberMarks := by decide
  simp only [List.forall_mem_append]
  exact ⟨⟨⟨fun c hc => .inr (hsigns _ hsign hc), isNumberPart_of_isNumeral hwhole.1⟩,
    hfraction.isNumberPart⟩, hexponent.isNumberPart⟩

/-- A number begins with its sign or with a digit. -/
theorem IsNumber.exists_cons {cs : List Char} (h : IsNumber cs) :
    ∃ first tail, cs = first :: tail ∧ (first.isDigit = true ∨ first = '-') := by
  obtain ⟨hsign, hwhole, -, -⟩ := h
  obtain rfl | rfl := by simpa using hsign
  · obtain ⟨hne, hdigits⟩ := Digits.isNumeral_iff.mp hwhole.1
    obtain ⟨first, tail, rfl⟩ := List.exists_cons_of_ne_nil hne
    exact ⟨first, _, rfl, .inl (hdigits first List.mem_cons_self)⟩
  · exact ⟨'-', _, rfl, .inr rfl⟩

/-! ### The parts of a text -/

/-- What stands between the commas of an array or an object. -/
inductive Element where
  | item (tree : Tree)
  | member (key : List Char) (tree : Tree)

/-- The parts of a JSON text. -/
inductive Phrase where
  | value (tree : Tree)
  /-- A value with blanks around it. -/
  | padded (tree : Tree)
  | element (e : Element)
  /-- All that stands between two brackets. -/
  | list (es : List Element)

/-- The characters that may stand around values. -/
def blanks : List Char :=
  [' ', '\t', '\n', '\r']

/-- A text of nothing but blanks. -/
def IsBlank (cs : List Char) : Prop :=
  ∀ c ∈ cs, c ∈ blanks

/-- **The grammar of JSON**: the spellings of each part of a text. -/
inductive Spells : Phrase → List Char → Prop
  | null : Spells (.value .null) ['n', 'u', 'l', 'l']
  | bool (b : Bool) :
      Spells (.value (.bool b)) (if b then ['t', 'r', 'u', 'e'] else ['f', 'a', 'l', 's', 'e'])
  | number {cs : List Char} (h : IsNumber cs) : Spells (.value (.number cs)) cs
  | text {text cs : List Char} (h : SpellsString text cs) :
      Spells (.value (.text text)) ('"' :: cs ++ ['"'])
  | array {items : List Tree} {cs : List Char} (h : Spells (.list (items.map .item)) cs) :
      Spells (.value (.array items)) ('[' :: cs ++ [']'])
  | object {members : List (List Char × Tree)} {cs : List Char}
      (h : Spells (.list (members.map fun m => .member m.1 m.2)) cs) :
      Spells (.value (.object members)) ('{' :: cs ++ ['}'])
  | padded {tree : Tree} {front cs behind : List Char} (hfront : IsBlank front)
      (h : Spells (.value tree) cs) (hbehind : IsBlank behind) :
      Spells (.padded tree) (front ++ cs ++ behind)
  | item {tree : Tree} {cs : List Char} (h : Spells (.padded tree) cs) :
      Spells (.element (.item tree)) cs
  | member {key cs ds : List Char} {tree : Tree} (hkey : Spells (.padded (.text key)) cs)
      (h : Spells (.padded tree) ds) : Spells (.element (.member key tree)) (cs ++ ':' :: ds)
  | empty {cs : List Char} (h : IsBlank cs) : Spells (.list []) cs
  | single {e : Element} {cs : List Char} (h : Spells (.element e) cs) : Spells (.list [e]) cs
  | more {e : Element} {es : List Element} {cs ds : List Char} (h : Spells (.element e) cs)
      (hne : es ≠ []) (hs : Spells (.list es) ds) : Spells (.list (e :: es)) (cs ++ ',' :: ds)

/-- **A text stands for a tree**: it is a value with blanks around it. -/
def Denotes (cs : List Char) (tree : Tree) : Prop :=
  Spells (.padded tree) cs

end InverterLink.Json
