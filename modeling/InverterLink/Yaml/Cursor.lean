/-!
# Places in a YAML text

A `Cursor` is what remains of a text, together with how far reading has come. Line breaks are made
uniform before reading starts, so that each is a single character.

## Main definitions

* `normalise?`: a text with uniform line breaks, or `none` if it holds a character that may not
  occur.
* `Cursor.next`, `Cursor.skip`, `Cursor.span`: reading on.
* `foldGap`: what the blanks and line breaks between two parts of a scalar stand for.
-/

namespace InverterLink.Yaml

/-! ### Characters -/

/-- A character that ends a line, once line breaks are uniform. -/
def isBreak (c : Char) : Bool :=
  c = '\n' || c = '\u2028' || c = '\u2029'

/-- A blank or a tab. -/
def isBlank (c : Char) : Bool :=
  c = ' ' || c = '\t'

/-- A blank, a tab, or a character that ends a line. -/
def isSpace (c : Char) : Bool :=
  isBlank c || isBreak c

/-- Whether a text is at an end or a gap. -/
def startsGap (cs : List Char) : Bool :=
  cs.head?.all isSpace

/-- A character that delimits flow collections. -/
def isFlowIndicator (c : Char) : Bool :=
  [',', '[', ']', '\x7b', '\x7d'].contains c

/-- A letter, a digit, a hyphen or an underscore of ASCII. -/
def isWordChar (c : Char) : Bool :=
  c.isAlphanum || c = '-' || c = '_'

/-- Whether a character may occur in a text at all. -/
def isAllowed (c : Char) : Bool :=
  let n := c.toNat
  n = 0x09 || n = 0x0A || n = 0x0D || (0x20 ≤ n && n ≤ 0x7E) || n = 0x85 ||
    (0xA0 ≤ n && n ≤ 0xD7FF) || (0xE000 ≤ n && n ≤ 0xFFFD) || 0x10000 ≤ n

/-- Writes a line feed for a carriage return, with or without a line feed behind it, and for a next
line character. -/
def unifyBreaks : List Char → List Char
  | [] => []
  | '\r' :: '\n' :: cs => '\n' :: unifyBreaks cs
  | c :: cs => (if c = '\r' || c = '\u0085' then '\n' else c) :: unifyBreaks cs

/-- A text with uniform line breaks and without byte order marks in front, unless it holds a
character that may not occur. -/
def normalise? (cs : List Char) : Option (List Char) :=
  let text := if cs.head? = some '\uFEFF' then cs.tail else cs
  if text.all isAllowed then
    some (unifyBreaks (if text.head? = some '\uFEFF' then text.tail else text))
  else
    none

/-! ### Cursors -/

/-- A place in a text. -/
structure Cursor where
  rest : List Char
  offset : Nat := 0
  line : Nat := 0
  column : Nat := 0

namespace Cursor

/-- The place behind the next character. -/
def next (c : Cursor) : Cursor :=
  match c.rest with
  | [] => c
  | char :: rest =>
    if isBreak char then ⟨rest, c.offset + 1, c.line + 1, 0⟩
    else ⟨rest, c.offset + 1, c.line, c.column + 1⟩

/-- The place behind the next so many characters. -/
def skip : Nat → Cursor → Cursor
  | 0, c => c
  | n + 1, c => skip n c.next

/-- The next character. -/
def peek? (c : Cursor) : Option Char :=
  c.rest.head?

/-- The longest run of characters with a property, and the place behind it. -/
def span (c : Cursor) (p : Char → Bool) : List Char × Cursor :=
  let run := c.rest.takeWhile p
  (run, c.skip run.length)

/-- The place behind the longest run of characters with a property. -/
def skipWhile (c : Cursor) (p : Char → Bool) : Cursor :=
  (c.span p).2

/-- Whether a document marker of three equal characters stands here: at the start of a line, with a
gap behind it. -/
def isMarker (c : Cursor) (char : Char) : Bool :=
  c.column = 0 && [char, char, char].isPrefixOf c.rest && startsGap (c.rest.drop 3)

/-- Whether a document starts or ends here. -/
def isDocumentMarker (c : Cursor) : Bool :=
  c.isMarker '-' || c.isMarker '.'

/-- The start of the next line, if nothing but blanks and a comment comes before it. -/
def endOfLine? (c : Cursor) : Option Cursor :=
  let c := c.skipWhile isBlank
  let c := if c.peek? = some '#' then c.skipWhile (!isBreak ·) else c
  if c.peek?.all isBreak then some c.next else none

end Cursor

/-! ### Gaps -/

/-- What a gap between two parts of a scalar stands for: itself within a line, a blank in place of a
single line break, and otherwise the line breaks but the first. -/
def foldGap (gap : List Char) : List Char :=
  match gap.filter isBreak with
  | [] => gap
  | first :: breaks =>
    if first = '\n' then (if breaks.isEmpty then [' '] else breaks) else first :: breaks

/-- Whether a tab stands in the indentation of a line of the gap, which must have the given width.
The column is `none` until the first line of the gap has ended. -/
def hasTabIndent (indent : Nat) : Option Nat → List Char → Bool
  | _, [] => false
  | none, c :: gap => hasTabIndent indent (if isBreak c then some 0 else none) gap
  | some column, c :: gap =>
    (c = '\t' && column < indent) ||
      hasTabIndent indent (some (if isBreak c then 0 else column + 1)) gap

end InverterLink.Yaml
