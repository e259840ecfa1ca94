import InverterLink.Proofs.Json.Grammar

/-!
# A JSON text stands for one tree

The first character of a value tells its sort, and what may stand behind a part cannot be mistaken
for more of it: no number goes on with a bracket, and no list with a comma. So two parts of one sort
that begin at the same place are the same, and end at the same place. This is proved by induction
over the grammar, with one case for each of its rules, and for whole texts it says that they stand
for at most one tree.

## Main definitions

* `Phrase.followers`: the characters that may stand behind a part.
* `Phrase.form`, `opened?`: the sorts of parts, and of the values that begin with a character.
* `IsDetermined`: a part is determined by where it begins.

## Main statements

* `Spells.isDetermined`: every part of a text is determined by where it begins.
* `Denotes.unique`: a text stands for at most one tree.
-/

namespace InverterLink.Json

/-! ### What may stand behind a part -/

/-- The brackets that may stand behind a list. -/
def closing : List Char :=
  [']', '}']

/-- The characters that may stand behind an element. -/
def afterElement : List Char :=
  ',' :: closing

/-- The characters that may stand behind a key or a value and the blanks around it. -/
def afterPadded : List Char :=
  ':' :: afterElement

/-- The characters that may stand behind a value. -/
def afterValue : List Char :=
  blanks ++ afterPadded

/-- The characters that may stand behind a part. -/
def Phrase.followers : Phrase → List Char
  | value _ => afterValue
  | padded _ => afterPadded
  | element _ => afterElement
  | list _ => closing

/-- The text is over, or goes on with one of some characters. -/
def GoesOnIn (followers rest : List Char) : Prop :=
  ∀ c ∈ rest.head?, c ∈ followers

namespace GoesOnIn

variable {followers followers' cs rest : List Char} {c : Char}

theorem nil : GoesOnIn followers [] :=
  nofun

theorem cons (h : c ∈ followers) : GoesOnIn followers (c :: rest) := fun _ hd =>
  Option.some.inj hd ▸ h

theorem mem (h : GoesOnIn followers (c :: rest)) : c ∈ followers :=
  h c rfl

theorem mono (h : GoesOnIn followers rest) (hsubset : followers ⊆ followers') :
    GoesOnIn followers' rest :=
  fun c hc => hsubset (h c hc)

/-- What may stand behind a list may stand behind its last element. -/
theorem element (h : GoesOnIn closing rest) : GoesOnIn afterElement rest :=
  h.mono (List.subset_cons_self ',' closing)

/-- What may stand behind an element may stand behind its value. -/
theorem padded (h : GoesOnIn afterElement rest) : GoesOnIn afterPadded rest :=
  h.mono (List.subset_cons_self ':' afterElement)

/-- Blanks may stand behind a value. -/
theorem append (hbehind : IsBlank cs) (h : GoesOnIn afterPadded rest) :
    GoesOnIn afterValue (cs ++ rest) := by
  cases cs with
  | nil => exact h.mono (List.subset_append_right blanks afterPadded)
  | cons c cs => exact cons (List.mem_append_left afterPadded (hbehind c List.mem_cons_self))

theorem notMem_blanks (h : GoesOnIn afterPadded rest) : ∀ c ∈ rest.head?, c ∉ blanks := by
  have hall : ∀ c ∈ afterPadded, c ∉ blanks := forall_mem_of_all (by decide)
  exact fun c hc => hall c (h c hc)

theorem not_isNumberPart (h : GoesOnIn afterValue rest) : ∀ c ∈ rest.head?, ¬ IsNumberPart c := by
  have hall : ∀ c ∈ afterValue, ¬ IsNumberPart c := forall_mem_of_all (by decide)
  exact fun c hc => hall c (h c hc)

/-- A bracket may stand behind the items of an array. -/
theorem bracket : GoesOnIn closing (']' :: rest) :=
  cons List.mem_cons_self

/-- A brace may stand behind the members of an object. -/
theorem brace : GoesOnIn closing ('}' :: rest) :=
  cons (List.mem_cons_of_mem ']' List.mem_cons_self)

/-- A comma may stand behind an element. -/
theorem comma : GoesOnIn afterElement (',' :: rest) :=
  cons List.mem_cons_self

/-- No comma may stand behind a list. -/
theorem ne_comma (h : GoesOnIn closing rest) : rest ≠ ',' :: cs := by
  rintro rfl
  exact absurd h.mem (by decide)

/-- A colon may stand behind a key. -/
theorem colon : GoesOnIn afterPadded (':' :: rest) :=
  cons List.mem_cons_self

/-- No colon may stand behind an element. -/
theorem ne_colon (h : GoesOnIn afterElement rest) : rest ≠ ':' :: cs := by
  rintro rfl
  exact absurd h.mem (by decide)

end GoesOnIn

/-! ### How a part begins -/

/-- The sorts of parts, and of values among them. -/
inductive Form where
  | null
  | bool
  | number
  | text
  | array
  | object
  | padded
  | element
  | list

/-- The sort of a value. -/
def Tree.form : Tree → Form
  | null => .null
  | bool _ => .bool
  | number _ => .number
  | text _ => .text
  | array _ => .array
  | object _ => .object

/-- The sort of a part. -/
def Phrase.form : Phrase → Form
  | value tree => tree.form
  | padded _ => .padded
  | element _ => .element
  | list _ => .list

/-- The sort of the values that begin with a character. -/
def opened? (first : Char) : Option Form :=
  if first.isDigit then some .number
  else
    match first with
    | '-' => some .number
    | 'n' => some .null
    | 't' => some .bool
    | 'f' => some .bool
    | '"' => some .text
    | '[' => some .array
    | '{' => some .object
    | _ => none

/-- No value begins with a character that may stand behind one. -/
theorem not_isSome_opened? {c : Char} (h : c ∈ afterValue) : ¬ (opened? c).isSome = true := by
  have hall : ∀ c ∈ afterValue, ¬ (opened? c).isSome = true := forall_mem_of_all (by decide)
  exact hall c h

namespace Spells

variable {tree tree' : Tree} {e : Element} {cs cs' rest rest' : List Char}

/-- The first character of a value tells its sort. -/
theorem exists_cons (h : Spells (.value tree) cs) :
    ∃ first tail, cs = first :: tail ∧ opened? first = some tree.form := by
  cases h with
  | null | text | array | object => exact ⟨_, _, rfl, rfl⟩
  | bool b => cases b <;> exact ⟨_, _, rfl, rfl⟩
  | number hnumber =>
    obtain ⟨first, tail, rfl, hdigit | rfl⟩ := hnumber.exists_cons
    · exact ⟨first, tail, rfl, if_pos hdigit⟩
    · exact ⟨'-', tail, rfl, rfl⟩

/-- Values that begin at the same place are of one sort. -/
theorem form_eq (h : Spells (.value tree) cs) (h' : Spells (.value tree') cs')
    (heq : cs ++ rest = cs' ++ rest') : tree.form = tree'.form := by
  obtain ⟨first, tail, rfl, hfirst⟩ := h.exists_cons
  obtain ⟨first', tail', rfl, hfirst'⟩ := h'.exists_cons
  rw [(List.cons.inj heq).1, hfirst'] at hfirst
  exact (Option.some.inj hfirst).symm

/-- No value begins with a blank. -/
theorem notMem_blanks (h : Spells (.value tree) cs) : ∀ c ∈ (cs ++ rest).head?, c ∉ blanks := by
  obtain ⟨first, tail, rfl, hfirst⟩ := h.exists_cons
  rintro c hc hmem
  obtain rfl := Option.some.inj hc
  exact not_isSome_opened? (List.mem_append_left afterPadded hmem) (Option.isSome_of_eq_some hfirst)

/-- Behind its blanks, a value begins with its first character. -/
theorem exists_opened_of_padded (h : Spells (.padded tree) cs) :
    ∃ front first tail, IsBlank front ∧ cs = front ++ first :: tail ∧
      (opened? first).isSome = true := by
  cases h with
  | padded hfront hvalue =>
    obtain ⟨first, tail, rfl, hfirst⟩ := hvalue.exists_cons
    exact ⟨_, first, _, hfront, List.append_assoc .., Option.isSome_of_eq_some hfirst⟩

/-- Behind its blanks, an element begins with the first character of a value. -/
theorem exists_opened (h : Spells (.element e) cs) :
    ∃ front first tail, IsBlank front ∧ cs = front ++ first :: tail ∧
      (opened? first).isSome = true := by
  cases h with
  | item h => exact h.exists_opened_of_padded
  | member hkey =>
    obtain ⟨front, first, tail, hfront, rfl, hfirst⟩ := hkey.exists_opened_of_padded
    exact ⟨front, first, _, hfront, List.append_assoc .., hfirst⟩

/-- An element is more than blanks. -/
theorem ne_append_of_isBlank (h : Spells (.element e) cs') (hblank : IsBlank cs)
    (hrest : GoesOnIn closing rest) : cs ++ rest ≠ cs' ++ rest' := by
  intro heq
  obtain ⟨front, first, tail, hfront, rfl, hfirst⟩ := h.exists_opened
  rw [List.append_assoc, List.cons_append] at heq
  have hnot : ∀ c ∈ (first :: (tail ++ rest')).head?, c ∉ blanks := fun c hc hmem =>
    not_isSome_opened? (List.mem_append_left afterPadded hmem) (Option.some.inj hc ▸ hfirst)
  obtain ⟨-, rfl⟩ := eq_of_run_append_eq hblank hfront hrest.element.padded.notMem_blanks hnot heq
  exact not_isSome_opened? (List.mem_append_right blanks hrest.element.padded.mem) hfirst

end Spells

/-! ### Unambiguity -/

/-- A part is determined by where it begins: a part of the same sort that begins at the same place
is the same and ends at the same place, if what stands behind both may stand there. -/
def IsDetermined (p : Phrase) (cs : List Char) : Prop :=
  ∀ ⦃p' : Phrase⦄ ⦃cs' rest rest' : List Char⦄, Spells p' cs' → p.form = p'.form →
    GoesOnIn p.followers rest → GoesOnIn p'.followers rest' → cs ++ rest = cs' ++ rest' →
      p = p' ∧ rest = rest'

namespace IsDetermined

variable {tree : Tree} {e : Element} {es : List Element} {cs ds : List Char}

theorem null : IsDetermined (.value .null) ['n', 'u', 'l', 'l'] := by
  intro p' cs' rest rest' h' hform _ _ heq
  cases h' with
  | null => exact ⟨rfl, List.append_cancel_left heq⟩
  | _ => cases hform

theorem bool (b : Bool) :
    IsDetermined (.value (.bool b))
      (if b then ['t', 'r', 'u', 'e'] else ['f', 'a', 'l', 's', 'e']) := by
  intro p' cs' rest rest' h' hform _ _ heq
  cases h' with
  | bool b' =>
    cases b <;> cases b'
    · exact ⟨rfl, List.append_cancel_left heq⟩
    · exact absurd (List.cons.inj heq).1 (by decide)
    · exact absurd (List.cons.inj heq).1 (by decide)
    · exact ⟨rfl, List.append_cancel_left heq⟩
  | _ => cases hform

theorem number (h : IsNumber cs) : IsDetermined (.value (.number cs)) cs := by
  intro p' cs' rest rest' h' hform hrest hrest' heq
  cases h' with
  | number h' =>
    obtain ⟨rfl, hrests⟩ :=
      eq_of_run_append_eq h.isNumberPart h'.isNumberPart hrest.not_isNumberPart
      hrest'.not_isNumberPart heq
    exact ⟨rfl, hrests⟩
  | _ => cases hform

theorem text {text : List Char} (h : SpellsString text cs) :
    IsDetermined (.value (.text text)) ('"' :: cs ++ ['"']) := by
  intro p' cs' rest rest' h' hform _ _ heq
  cases h' with
  | text h' =>
    rw [List.append_assoc, List.append_assoc] at heq
    obtain ⟨rfl, hrests⟩ := h.eq_of_append_eq h' (List.cons.inj heq).2
    exact ⟨rfl, hrests⟩
  | _ => cases hform

theorem array {items : List Tree} (h : IsDetermined (.list (items.map .item)) cs) :
    IsDetermined (.value (.array items)) ('[' :: cs ++ [']']) := by
  intro p' cs' rest rest' h' hform _ _ heq
  cases h' with
  | array h' =>
    rw [List.append_assoc, List.append_assoc] at heq
    obtain ⟨hlist, hbehind⟩ := h h' rfl .bracket .bracket (List.cons.inj heq).2
    have hitems := List.map_injective_iff.mpr (fun _ _ => Element.item.inj) (Phrase.list.inj hlist)
    exact ⟨by rw [hitems], (List.cons.inj hbehind).2⟩
  | _ => cases hform

theorem object {members : List (List Char × Tree)}
    (h : IsDetermined (.list (members.map fun m => .member m.1 m.2)) cs) :
    IsDetermined (.value (.object members)) ('{' :: cs ++ ['}']) := by
  intro p' cs' rest rest' h' hform _ _ heq
  cases h' with
  | object h' =>
    rw [List.append_assoc, List.append_assoc] at heq
    obtain ⟨hlist, hbehind⟩ := h h' rfl .brace .brace (List.cons.inj heq).2
    have hinjective : Function.Injective fun m : List Char × Tree => Element.member m.1 m.2 :=
      fun _ _ hsame => Prod.ext (Element.member.inj hsame).1 (Element.member.inj hsame).2
    have hmembers := List.map_injective_iff.mpr hinjective (Phrase.list.inj hlist)
    exact ⟨by rw [hmembers], (List.cons.inj hbehind).2⟩
  | _ => cases hform

theorem padded {front behind : List Char} (hfront : IsBlank front)
    (hvalue : Spells (.value tree) cs) (hbehind : IsBlank behind)
    (h : IsDetermined (.value tree) cs) :
    IsDetermined (.padded tree) (front ++ cs ++ behind) := by
  intro p' cs' rest rest' h' hform hrest hrest' heq
  cases h' with
  | padded hfront' hvalue' hbehind' =>
    simp only [List.append_assoc] at heq
    obtain ⟨-, hmiddle⟩ :=
      eq_of_run_append_eq hfront hfront' hvalue.notMem_blanks hvalue'.notMem_blanks heq
    obtain ⟨htree, hend⟩ := h hvalue' (hvalue.form_eq hvalue' hmiddle) (.append hbehind hrest)
      (.append hbehind' hrest') hmiddle
    obtain ⟨-, hrests⟩ :=
      eq_of_run_append_eq hbehind hbehind' hrest.notMem_blanks hrest'.notMem_blanks hend
    exact ⟨by rw [Phrase.value.inj htree], hrests⟩
  | _ => cases hform

theorem item (h : IsDetermined (.padded tree) cs) : IsDetermined (.element (.item tree)) cs := by
  intro p' cs' rest rest' h' hform hrest hrest' heq
  cases h' with
  | item h' =>
    obtain ⟨htree, hrests⟩ := h h' rfl hrest.padded hrest'.padded heq
    exact ⟨by rw [Phrase.padded.inj htree], hrests⟩
  | member hkey' =>
    rw [List.append_assoc] at heq
    exact absurd (h hkey' rfl hrest.padded .colon heq).2 hrest.ne_colon
  | _ => cases hform

theorem member {key : List Char} (hkey : IsDetermined (.padded (.text key)) cs)
    (h : IsDetermined (.padded tree) ds) :
    IsDetermined (.element (.member key tree)) (cs ++ ':' :: ds) := by
  intro p' cs' rest rest' h' hform hrest hrest' heq
  rw [List.append_assoc] at heq
  cases h' with
  | item h' => exact absurd (hkey h' rfl .colon hrest'.padded heq).2.symm hrest'.ne_colon
  | member hkey' h' =>
    rw [List.append_assoc] at heq
    obtain ⟨hkeys, hbehind⟩ := hkey hkey' rfl .colon .colon heq
    obtain ⟨htree, hrests⟩ := h h' rfl hrest.padded hrest'.padded (List.cons.inj hbehind).2
    rw [Tree.text.inj (Phrase.padded.inj hkeys), Phrase.padded.inj htree]
    exact ⟨rfl, hrests⟩
  | _ => cases hform

theorem empty (h : IsBlank cs) : IsDetermined (.list []) cs := by
  intro p' cs' rest rest' h' hform hrest hrest' heq
  cases h' with
  | empty h' =>
    obtain ⟨-, hrests⟩ := eq_of_run_append_eq h h' hrest.element.padded.notMem_blanks
      hrest'.element.padded.notMem_blanks heq
    exact ⟨rfl, hrests⟩
  | single h' => exact absurd heq (h'.ne_append_of_isBlank h hrest)
  | more h' =>
    rw [List.append_assoc] at heq
    exact absurd heq (h'.ne_append_of_isBlank h hrest)
  | _ => cases hform

theorem single (hspells : Spells (.element e) cs) (h : IsDetermined (.element e) cs) :
    IsDetermined (.list [e]) cs := by
  intro p' cs' rest rest' h' hform hrest hrest' heq
  cases h' with
  | empty hblank' => exact absurd heq.symm (hspells.ne_append_of_isBlank hblank' hrest')
  | single h' =>
    obtain ⟨helement, hrests⟩ := h h' rfl hrest.element hrest'.element heq
    exact ⟨by rw [Phrase.element.inj helement], hrests⟩
  | more h' =>
    rw [List.append_assoc] at heq
    exact absurd (h h' rfl hrest.element .comma heq).2 hrest.ne_comma
  | _ => cases hform

theorem more (hspells : Spells (.element e) cs) (h : IsDetermined (.element e) cs)
    (hs : IsDetermined (.list es) ds) : IsDetermined (.list (e :: es)) (cs ++ ',' :: ds) := by
  intro p' cs' rest rest' h' hform hrest hrest' heq
  rw [List.append_assoc] at heq
  cases h' with
  | empty hblank' => exact absurd heq.symm (hspells.ne_append_of_isBlank hblank' hrest')
  | single h' => exact absurd (h h' rfl .comma hrest'.element heq).2.symm hrest'.ne_comma
  | more h' _ hs' =>
    rw [List.append_assoc] at heq
    obtain ⟨helement, hbehind⟩ := h h' rfl .comma .comma heq
    obtain ⟨hlist, hrests⟩ := hs hs' rfl hrest hrest' (List.cons.inj hbehind).2
    rw [Phrase.element.inj helement, Phrase.list.inj hlist]
    exact ⟨rfl, hrests⟩
  | _ => cases hform

end IsDetermined

/-- **Every part of a text is determined by where it begins.** -/
theorem Spells.isDetermined {p : Phrase} {cs : List Char} (h : Spells p cs) :
    IsDetermined p cs := by
  induction h with
  | null => exact .null
  | bool b => exact .bool b
  | number h => exact .number h
  | text h => exact .text h
  | array _ ih => exact .array ih
  | object _ ih => exact .object ih
  | padded hfront hvalue hbehind ih => exact .padded hfront hvalue hbehind ih
  | item _ ih => exact .item ih
  | member _ _ ihKey ih => exact .member ihKey ih
  | empty h => exact .empty h
  | single h ih => exact .single h ih
  | more h _ _ ih ihs => exact .more h ih ihs

/-- **A text stands for at most one tree.** -/
theorem Denotes.unique {cs : List Char} {tree tree' : Tree} (h : Denotes cs tree)
    (h' : Denotes cs tree') : tree = tree' :=
  have hsame : cs ++ [] = cs ++ [] := rfl
  Phrase.padded.inj (h.isDetermined h' rfl .nil .nil hsame).1

end InverterLink.Json
