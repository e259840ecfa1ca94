import InverterLink.Yaml.Cursor

/-!
# Scalars

The three ways to write a scalar: plain, in quotation marks of either kind, and as an indented block
that is kept line by line or folded. Each reader returns the text of the scalar and the place behind
it, or `none` if the scalar is malformed. The readers repeat a step until the scalar ends; the
number of characters that remain bounds the number of steps.

## Main definitions

* `plain?`, `quoted?`, `block?`: readers of scalars.
-/

namespace InverterLink.Yaml

/-- How a scalar was written. -/
inductive Style where
  | plain
  | quoted
  | literal
  | folded
deriving DecidableEq

/-! ### Plain scalars -/

/-- The characters up to the next gap or the end of a plain scalar. Within a flow collection, a
delimiter ends the scalar, and a colon must not stand right before one. -/
def plainRun? (inFlow : Bool) : List Char → Option (List Char)
  | [] => some []
  | c :: cs =>
    if isSpace c then some []
    else if inFlow && c = ':' && cs.head?.any (fun d => isFlowIndicator d || d = '?') then none
    else if c = ':' && startsGap cs then some []
    else if inFlow && isFlowIndicator c then some []
    else (plainRun? inFlow cs).map (c :: ·)

/-- Reads on from a place where `text` has been read and `gap` follows it. The last part of the
result tells whether a line has ended behind the scalar. -/
def plainFrom? (inFlow : Bool) (indent : Nat) :
    Nat → List Char → List Char → Cursor → Option (List Char × Cursor × Bool)
  | 0, _, _, _ => none
  | steps + 1, text, gap, c =>
    if c.isDocumentMarker || c.peek? = some '#' then some (text, c, gap.any isBreak)
    else do
      let run ← plainRun? inFlow c.rest
      if run.isEmpty then return (text, c, gap.any isBreak)
      let text := text ++ foldGap gap ++ run
      let (gap, c) := (c.skip run.length).span isSpace
      if gap.isEmpty then return (text, c, false)
      if hasTabIndent indent none gap then none
      if !inFlow && c.column < indent then return (text, c, gap.any isBreak)
      plainFrom? inFlow indent steps text gap c

/-- Reads a plain scalar. -/
def plain? (inFlow : Bool) (indent : Nat) (c : Cursor) : Option (List Char × Cursor × Bool) :=
  plainFrom? inFlow indent (c.rest.length + 1) [] [] c

/-! ### Scalars between quotation marks -/

/-- The number that hexadecimal digits denote. -/
def readHex? (digits : List Char) : Option Nat :=
  digits.foldlM (fun n c =>
    if c.isDigit then some (16 * n + (c.toNat - '0'.toNat))
    else if 'a' ≤ c && c ≤ 'f' then some (16 * n + (c.toNat - 'a'.toNat + 10))
    else if 'A' ≤ c && c ≤ 'F' then some (16 * n + (c.toNat - 'A'.toNat + 10))
    else none) 0

/-- The character of a code that is given by so many hexadecimal digits. -/
def codedChar? (size : Nat) (cs : List Char) : Option (Char × Nat) := do
  let digits := cs.take size
  if digits.length < size then none
  let code ← readHex? digits
  if (0xD800 ≤ code && code ≤ 0xDFFF) || 0x10FFFF < code then none
  return (Char.ofNat code, size + 1)

/-- The character that an escape stands for, and the size of what follows the backslash. -/
def escape? : List Char → Option (Char × Nat)
  | [] => none
  | c :: cs =>
    match c with
    | '0' => some ('\x00', 1)
    | 'a' => some ('\x07', 1)
    | 'b' => some ('\x08', 1)
    | 't' | '\t' => some ('\t', 1)
    | 'n' => some ('\n', 1)
    | 'v' => some ('\x0b', 1)
    | 'f' => some ('\x0c', 1)
    | 'r' => some ('\r', 1)
    | 'e' => some ('\x1b', 1)
    | ' ' => some (' ', 1)
    | '"' => some ('"', 1)
    | '/' => some ('/', 1)
    | '\\' => some ('\\', 1)
    | 'N' => some ('\u0085', 1)
    | '_' => some ('\u00a0', 1)
    | 'L' => some ('\u2028', 1)
    | 'P' => some ('\u2029', 1)
    | 'x' => codedChar? 2 cs
    | 'u' => codedChar? 4 cs
    | 'U' => codedChar? 8 cs
    | _ => none

/-- Reads up to the next gap, escaped line break or closing quotation mark. The last part of the
result tells whether an escaped line break has been read. -/
def quotedRun? (mark : Char) : Nat → List Char → Cursor → Option (List Char × Cursor × Bool)
  | 0, _, _ => none
  | steps + 1, text, c =>
    match c.rest with
    | [] => some (text, c, false)
    | char :: rest =>
      if isSpace char then some (text, c, false)
      else if char = mark then
        if mark = '\'' && rest.head? = some mark then
          quotedRun? mark steps (text ++ [mark]) (c.skip 2)
        else some (text, c, false)
      else if mark = '"' && char = '\\' then
        if rest.head?.any isBreak then some (text, c.skip 2, true)
        else do
          let (escaped, size) ← escape? rest
          quotedRun? mark steps (text ++ [escaped]) (c.skip (size + 1))
      else quotedRun? mark steps (text ++ [char]) c.next

/-- Reads on behind the opening quotation mark. -/
def quotedFrom? (mark : Char) : Nat → List Char → Cursor → Option (List Char × Cursor)
  | 0, _, _ => none
  | steps + 1, text, c =>
    if c.isDocumentMarker || c.rest.isEmpty then none
    else do
      let (text, c, isEscaped) ← quotedRun? mark (c.rest.length + 1) text c
      if c.peek? = some mark then return (text, c.next)
      let (gap, c) := c.span isSpace
      quotedFrom? mark steps (text ++ if isEscaped then gap.filter isBreak else foldGap gap) c

/-- Reads a scalar between quotation marks. -/
def quoted? (mark : Char) (c : Cursor) : Option (List Char × Cursor) :=
  quotedFrom? mark (c.rest.length + 1) [] c.next

/-! ### Blocks -/

/-- What becomes of the line breaks at the end of a block. -/
inductive Chomping where
  /-- None is kept. -/
  | strip
  /-- The first is kept. -/
  | clip
  /-- All are kept. -/
  | keep
deriving DecidableEq

/-- The chomping that a sign stands for. -/
def chomping? : Char → Option Chomping
  | '-' => some .strip
  | '+' => some .keep
  | _ => none

/-- The width that a digit other than zero stands for. -/
def increment? (c : Char) : Option Nat :=
  if c.isDigit && c != '0' then some (c.toNat - '0'.toNat) else none

/-- The meaning of the signs behind the indicator of a block. -/
def blockHeader? : List Char → Option (Chomping × Option Nat)
  | [] => some (.clip, none)
  | [c] =>
    match chomping? c with
    | some chomping => some (chomping, none)
    | none => (increment? c).map fun width => (.clip, some width)
  | [c, d] =>
    match chomping? c with
    | some chomping => (increment? d).map fun width => (chomping, some width)
    | none => do return (← chomping? d, some (← increment? c))
  | _ => none

/-- Reads empty lines and the indentation of the line behind them, as far as it belongs to the
block. Where the width of the indentation is not known, it is that of the widest line. -/
def blockBreaks? (indent? : Option Nat) :
    Nat → List Char → Nat → Cursor → Option (List Char × Nat × Cursor)
  | 0, _, _, _ => none
  | steps + 1, breaks, widest, c =>
    let blanks := (c.rest.takeWhile (· = ' ')).length
    let c := c.skip (match indent? with
      | some indent => min blanks (indent - c.column)
      | none => blanks)
    let widest := max widest c.column
    if c.peek? = some '\t' && indent?.all (c.column < ·) then none
    else
      match c.rest with
      | char :: _ =>
        if isBreak char then blockBreaks? indent? steps (breaks ++ [char]) widest c.next
        else some (breaks, widest, c)
      | [] => some (breaks, widest, c)

/-- The lines of a block as far as they have been read. -/
structure Block where
  text : List Char := []
  /-- The line break of the last line, which may still be folded. -/
  lineBreak : List Char := []
  /-- The empty lines behind the last line. -/
  breaks : List Char := []
  /-- The last line starts with a blank. -/
  startsBlank : Bool := false

/-- The line breaks before the next line. A line break between two lines that do not start with a
blank is folded, unless the block is literal. -/
def Block.gap (b : Block) (isLiteral startsBlank : Bool) : List Char :=
  if !isLiteral && b.lineBreak = ['\n'] && !b.startsBlank && !startsBlank then
    if b.breaks.isEmpty then [' '] else b.breaks
  else
    b.lineBreak ++ b.breaks

/-- Reads the lines of a block of the given indentation. -/
def blockLines? (isLiteral : Bool) (indent : Nat) : Nat → Block → Cursor → Option (Block × Cursor)
  | 0, _, _ => none
  | steps + 1, b, c =>
    if c.column = indent && !c.rest.isEmpty then do
      let startsBlank := c.peek?.any isBlank
      let (line, c) := c.span (!isBreak ·)
      let (breaks, _, next) ← blockBreaks? (some indent) (c.rest.length + 1) [] 0 c.next
      blockLines? isLiteral indent steps
        ⟨b.text ++ b.gap isLiteral startsBlank ++ line, c.rest.take 1, breaks, startsBlank⟩ next
    else some (b, c)

/-- The text of a block. -/
def Block.chomp (b : Block) : Chomping → List Char
  | .strip => b.text
  | .clip => b.text ++ b.lineBreak
  | .keep => b.text ++ b.lineBreak ++ b.breaks

/-- Reads a block behind its indicator. The content must be indented at least to the column
`floor`. -/
def block? (isLiteral : Bool) (floor : Nat) (c : Cursor) : Option (List Char × Cursor) := do
  let (signs, c) := c.span fun char => char = '+' || char = '-' || char.isDigit
  let (chomping, width?) ← blockHeader? signs
  let c ← c.endOfLine?
  let steps := c.rest.length + 1
  let (breaks, widest, c) ← blockBreaks? (width?.map (floor - 1 + ·)) steps [] 0 c
  let indent := match width? with
    | some width => floor - 1 + width
    | none => max (max widest floor) 1
  let (b, c) ← blockLines? isLiteral indent steps { breaks } c
  return (b.chomp chomping, c)

end InverterLink.Yaml
