import InverterLink.Text.Digits
import InverterLink.Text.Utf8
import InverterLink.Yaml.Scalar

/-!
# Tokens

A YAML text as a list of tokens. Where blocks begin and end is told by indentation, and a key is
known for what it is only when the colon behind it has come: `Scan` keeps the indentation of the
open blocks and the places where such a key may have started, and puts the tokens for a key and for
its block where they belong.

## Main definitions

* `Token`: the tokens.
* `Scan.step?`: reads one more token.
* `Token.ofText?`: the tokens of a text.
-/

namespace InverterLink.Yaml

/-- A unit of a YAML text. -/
inductive Token where
  | versionDirective (major minor : Nat)
  | tagDirective (handle leading : List Char)
  | documentStart
  | documentEnd
  | blockSequenceStart
  | blockMappingStart
  | blockEnd
  | flowSequenceStart
  | flowSequenceEnd
  | flowMappingStart
  | flowMappingEnd
  | blockEntry
  | flowEntry
  | key
  | value
  | alias (name : List Char)
  | anchor (name : List Char)
  | tag (handle suffix : List Char)
  | scalar (style : Style) (text : List Char)
deriving DecidableEq

/-- A place where a key may have started. -/
structure PossibleKey where
  /-- The number of tokens before the key. -/
  position : Nat
  place : Cursor
  /-- Nothing but a key can stand at the place. -/
  isRequired : Bool

/-- The scanning of a text. -/
structure Scan where
  cursor : Cursor
  tokens : List Token := []
  /-- The least column of what stands inside the innermost open block: one more than its own. -/
  floor : Nat := 0
  /-- The same for the blocks around it, from the inside. -/
  outerFloors : List Nat := []
  /-- The key that may have started in each open flow collection, from the inside, and last the one
  outside of all. -/
  keys : List (Option PossibleKey) := [none]
  /-- A key may start here. -/
  allowsKey : Bool := true

namespace Scan

/-- Whether the place is within a flow collection. -/
def inFlow (s : Scan) : Bool :=
  1 < s.keys.length

/-- Adds a token that ends at the given place. -/
def emit (s : Scan) (token : Token) (cursor : Cursor) : Scan :=
  { s with tokens := s.tokens ++ [token], cursor }

/-- Puts a token before the token at a position. -/
def insertAt (s : Scan) (position : Nat) (token : Token) : Scan :=
  { s with tokens := s.tokens.take position ++ token :: s.tokens.drop position }

/-! ### Blocks -/

/-- Closes the blocks that end before a place whose column is below `limit`. -/
def closeBlocks (limit : Nat) : List Nat → Scan → Scan
  | [], s => s
  | outer :: outers, s =>
    if limit < s.floor then
      closeBlocks limit outers
        { s with tokens := s.tokens ++ [.blockEnd], floor := outer, outerFloors := outers }
    else s

/-- Closes the blocks that are indented further than the limit. Flow collections ignore
indentation. -/
def unroll (s : Scan) (limit : Nat) : Scan :=
  if s.inFlow then s else closeBlocks limit s.outerFloors s

/-- Opens a block at a column if it is indented further than the innermost one, with its token at a
position. -/
def roll (s : Scan) (column position : Nat) (token : Token) : Scan :=
  if !s.inFlow && s.floor ≤ column then
    { s.insertAt position token with floor := column + 1, outerFloors := s.floor :: s.outerFloors }
  else s

/-! ### Keys -/

/-- The greatest number of characters of a key that no indicator announces. -/
def keyLimit : Nat := 1024

/-- Whether a key that started at a place may still end here. -/
def isCurrent (s : Scan) (key : PossibleKey) : Bool :=
  key.place.line = s.cursor.line && s.cursor.offset ≤ key.place.offset + keyLimit

/-- Gives up a key that cannot end any more, unless it is required. -/
def refresh? (s : Scan) : Option PossibleKey → Option (Option PossibleKey)
  | some key => if s.isCurrent key then some key else if key.isRequired then none else some none
  | none => some none

/-- Gives up all keys that cannot end any more. -/
def dropOldKeys? (s : Scan) : Option Scan := do
  return { s with keys := ← s.keys.mapM s.refresh? }

/-- Gives up the key of the innermost collection, unless it is required. -/
def dropKey? (s : Scan) : Option Scan :=
  match s.keys with
  | some key :: keys => if key.isRequired then none else some { s with keys := none :: keys }
  | _ => some s

/-- Notes that a key may start here. -/
def noteKey? (s : Scan) : Option Scan :=
  if s.allowsKey then do
    let s ← s.dropKey?
    let isRequired := !s.inFlow && s.floor = s.cursor.column + 1
    return { s with keys := some ⟨s.tokens.length, s.cursor, isRequired⟩ :: s.keys.tail }
  else some s

/-! ### Indicators -/

/-- Reads the start of a flow collection. -/
def openFlow? (s : Scan) (token : Token) : Option Scan := do
  let s ← s.noteKey?
  return { s.emit token s.cursor.next with keys := none :: s.keys, allowsKey := true }

/-- Reads the end of a flow collection. -/
def closeFlow? (s : Scan) (token : Token) : Option Scan := do
  let s ← s.dropKey?
  let keys := if s.inFlow then s.keys.tail else s.keys
  return { s.emit token s.cursor.next with keys, allowsKey := false }

/-- Reads the comma of a flow collection. -/
def flowEntry? (s : Scan) : Option Scan := do
  let s ← s.dropKey?
  return { s.emit .flowEntry s.cursor.next with allowsKey := true }

/-- Reads the indicator of an entry of a block sequence. -/
def blockEntry? (s : Scan) : Option Scan := do
  if !s.inFlow && !s.allowsKey then none
  let s ← (s.roll s.cursor.column s.tokens.length .blockSequenceStart).dropKey?
  return { s.emit .blockEntry s.cursor.next with allowsKey := true }

/-- Reads the indicator of a key. -/
def key? (s : Scan) : Option Scan := do
  if !s.inFlow && !s.allowsKey then none
  let s ← (s.roll s.cursor.column s.tokens.length .blockMappingStart).dropKey?
  return { s.emit .key s.cursor.next with allowsKey := !s.inFlow }

/-- Reads the colon before a value, which may make a key of what came before. -/
def value? (s : Scan) : Option Scan :=
  match s.keys with
  | some key :: keys =>
    let s := { s with keys := none :: keys, allowsKey := false }
    let s := s.insertAt key.position .key
    let s := s.roll key.place.column key.position .blockMappingStart
    some (s.emit .value s.cursor.next)
  | _ => do
    if !s.inFlow && !s.allowsKey then none
    let s := s.roll s.cursor.column s.tokens.length .blockMappingStart
    return { s.emit .value s.cursor.next with allowsKey := !s.inFlow }

/-- Reads a document marker. -/
def marker? (s : Scan) (token : Token) : Option Scan := do
  let s ← (s.unroll 0).dropKey?
  return { s.emit token (s.cursor.skip 3) with allowsKey := false }

/-! ### Names -/

/-- The characters of which one must follow the name of an anchor, unless a gap does. -/
def nameEnds : List Char :=
  ['?', ':', ',', ']', '\x7d', '%', '@', '\x60']

/-- Reads the name behind the indicator of an anchor or an alias. -/
def name? (s : Scan) (token : List Char → Token) : Option Scan := do
  let s ← s.noteKey?
  let (name, c) := s.cursor.next.span isWordChar
  if name.isEmpty || !(startsGap c.rest || c.peek?.any nameEnds.contains) then none
  return { s.emit (token name) c with allowsKey := false }

/-- Whether a character may stand in a tag. -/
def isTagChar (isWide : Bool) (c : Char) : Bool :=
  isWordChar c || [';', '/', '?', ':', '@', '&', '=', '+', '$', '.', '%', '!', '~', '*', '\'', '(',
    ')'].contains c || (isWide && [',', '[', ']'].contains c)

/-- The bytes of a tag, with `%` and two hexadecimal digits for a byte. -/
def tagBytes? : List Char → Option (List UInt8)
  | [] => some []
  | '%' :: a :: b :: cs => do
    return UInt8.ofNat (← readHex? [a, b]) :: (← tagBytes? cs)
  | c :: cs => if c = '%' then none else do return Utf8.encode [c] ++ (← tagBytes? cs)

/-- Reads a part of a tag that is not empty. -/
def tagText? (isWide : Bool) (c : Cursor) : Option (List Char × Cursor) := do
  let (text, c) := c.span (isTagChar isWide)
  if text.isEmpty then none
  return (← Utf8.decode? (← tagBytes? text), c)

/-- Reads the handle of a tag. It starts with an exclamation mark, and ends with another one if it
has a name. -/
def tagHandle (c : Cursor) : List Char × Cursor :=
  let (word, after) := c.next.span isWordChar
  if after.peek? = some '!' then ('!' :: word ++ ['!'], after.next) else ('!' :: word, after)

/-- Reads the handle and the suffix of a tag. -/
def tagParts? (c : Cursor) : Option (List Char × List Char × Cursor) :=
  if c.next.peek? = some '<' then do
    let (suffix, c) ← tagText? true (c.skip 2)
    if c.peek? = some '>' then return ([], suffix, c.next) else none
  else
    let (handle, after) := tagHandle c
    if 1 < handle.length && handle.getLast? = some '!' then do
      let (suffix, c) ← tagText? false after
      return (handle, suffix, c)
    else
      let (rest, c) := after.span (isTagChar false)
      match (tagBytes? (handle.tail ++ rest)).bind Utf8.decode? with
      | some [] => some ([], ['!'], c)
      | some suffix => some (['!'], suffix, c)
      | none => none

/-- Reads a tag. -/
def tag? (s : Scan) : Option Scan := do
  let s ← s.noteKey?
  let (handle, suffix, c) ← tagParts? s.cursor
  if !(startsGap c.rest || (s.inFlow && c.peek? = some ',')) then none
  return { s.emit (.tag handle suffix) c with allowsKey := false }

/-! ### Directives -/

/-- Reads what follows the name of a directive. -/
def directiveBody? (name : List Char) (c : Cursor) : Option (Token × Cursor) :=
  let c := c.skipWhile isBlank
  if name = ['Y', 'A', 'M', 'L'] then
    let (major, c) := c.span Char.isDigit
    let (minor, after) := c.next.span Char.isDigit
    if c.peek? != some '.' || 9 < major.length || 9 < minor.length then none
    else do return (.versionDirective (← Digits.read? major) (← Digits.read? minor), after)
  else if name = ['T', 'A', 'G'] && c.peek? = some '!' then do
    let (handle, c) := tagHandle c
    if c.peek?.all (!isBlank ·) || (1 < handle.length && handle.getLast? != some '!') then none
    let (leading, c) ← tagText? true (c.skipWhile isBlank)
    return (.tagDirective handle leading, c)
  else none

/-- Reads a directive. -/
def directive? (s : Scan) : Option Scan := do
  let s ← (s.unroll 0).dropKey?
  let (name, c) := s.cursor.next.span isWordChar
  if name.isEmpty || !startsGap c.rest then none
  let (token, c) ← directiveBody? name c
  return { s.emit token (← c.endOfLine?) with allowsKey := false }

/-! ### Scalars -/

/-- Reads a block scalar. -/
def block? (s : Scan) (isLiteral : Bool) : Option Scan := do
  let s ← s.dropKey?
  let (text, c) ← Yaml.block? isLiteral s.floor s.cursor.next
  return { s.emit (.scalar (if isLiteral then .literal else .folded) text) c with
    allowsKey := true }

/-- Reads a scalar between quotation marks. -/
def quoted? (s : Scan) (mark : Char) : Option Scan := do
  let s ← s.noteKey?
  let (text, c) ← Yaml.quoted? mark s.cursor
  return { s.emit (.scalar .quoted text) c with allowsKey := false }

/-- Reads a plain scalar. -/
def plain? (s : Scan) : Option Scan := do
  let s ← s.noteKey?
  let (text, c, allowsKey) ← Yaml.plain? s.inFlow s.floor s.cursor
  return { s.emit (.scalar .plain text) c with allowsKey }

/-- Whether a plain scalar may start with the character before the given text. -/
def startsPlain (inFlow : Bool) (c : Char) (cs : List Char) : Bool :=
  if c = '-' then cs.head?.all (!isBlank ·)
  else if c = '?' || c = ':' then !inFlow && !startsGap cs
  else !([',', '[', ']', '\x7b', '\x7d', '#', '&', '*', '!', '|', '>', '\'', '"', '%', '@',
    '\x60'].contains c)

/-! ### The whole text -/

/-- Passes over blanks, comments and line breaks. A tab may stand before a token only where no key
may start. -/
def skipGap : Nat → Scan → Scan
  | 0, s => s
  | steps + 1, s =>
    let tabs := s.inFlow || !s.allowsKey
    let c := s.cursor.skipWhile fun char => char = ' ' || (tabs && char = '\t')
    let c := if c.peek? = some '#' then c.skipWhile (!isBreak ·) else c
    if c.peek?.any isBreak then
      skipGap steps { s with cursor := c.next, allowsKey := s.allowsKey || !s.inFlow }
    else { s with cursor := c }

/-- Reads the token that starts with the character before the given text. -/
def token? (s : Scan) (c : Char) (cs : List Char) : Option Scan :=
  if s.cursor.column = 0 && c = '%' then s.directive?
  else if s.cursor.isMarker '-' then s.marker? .documentStart
  else if s.cursor.isMarker '.' then s.marker? .documentEnd
  else if c = '[' then s.openFlow? .flowSequenceStart
  else if c = '\x7b' then s.openFlow? .flowMappingStart
  else if c = ']' then s.closeFlow? .flowSequenceEnd
  else if c = '\x7d' then s.closeFlow? .flowMappingEnd
  else if c = ',' then s.flowEntry?
  else if c = '-' && startsGap cs then s.blockEntry?
  else if c = '?' && (s.inFlow || startsGap cs) then s.key?
  else if c = ':' && (s.inFlow || startsGap cs) then s.value?
  else if c = '*' then s.name? .alias
  else if c = '&' then s.name? .anchor
  else if c = '!' then s.tag?
  else if c = '|' && !s.inFlow then s.block? true
  else if c = '>' && !s.inFlow then s.block? false
  else if c = '\'' || c = '"' then s.quoted? c
  else if startsPlain s.inFlow c cs then s.plain?
  else none

/-- Reads one more token, or the end of the text, which closes all blocks. The second part of the
result tells whether the text goes on. -/
def step? (s : Scan) : Option (Scan × Bool) := do
  let s ← (skipGap (s.cursor.rest.length + 1) s).dropOldKeys?
  match s.cursor.rest with
  | [] => return (← (s.unroll 0).dropKey?, false)
  | c :: cs => return (← (s.unroll (s.cursor.column + 1)).token? c cs, true)

/-- Reads so many tokens, or fewer if the text ends. -/
def run? : Nat → Scan → Option Scan
  | 0, _ => none
  | steps + 1, s => do
    let (s, goesOn) ← s.step?
    if goesOn then run? steps s else return s

end Scan

/-- The tokens of a text, unless it is malformed. Every step but the last reads a character. -/
def Token.ofText? (text : List Char) : Option (List Token) := do
  let text ← normalise? text
  return (← Scan.run? (text.length + 1) { cursor := { rest := text } }).tokens

end InverterLink.Yaml
