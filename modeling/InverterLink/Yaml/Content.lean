import InverterLink.Text.Digits
import InverterLink.Yaml.Node

/-!
# What nodes hold

Readers of nodes for programs that know what to expect: fields by name, unsigned numbers, texts, and
words of a list. A reader returns `none` where the node holds something else.

## Main definitions

* `Document.fields?`, `field?`: the fields of a mapping, by name.
* `Document.number?`, `Document.text?`, `Document.optionalText?`, `Document.word?`: single values.
-/

namespace InverterLink.Yaml

/-- The texts that a plain scalar may use for nothing. -/
def nullTexts : List (List Char) :=
  ["null", "Null", "NULL", "~"].map String.toList

/-- The number that digits of a base denote, at least one of them. -/
def readBase? (base : Nat) (cs : List Char) : Option Nat :=
  if cs.isEmpty then none
  else cs.foldlM (fun n c => do
    let digit ← readHex? [c]
    if digit < base then some (base * n + digit) else none) 0

/-- The number that a plain scalar denotes: in decimal without needless zeros, or in hexadecimal,
octal or binary behind `0x`, `0o` or `0b`. A plus sign may stand in front. -/
def readUnsigned? (cs : List Char) : Option Nat :=
  match (if cs.head? = some '+' then cs.tail else cs) with
  | '0' :: 'x' :: digits => readBase? 16 digits
  | '0' :: 'o' :: digits => readBase? 8 digits
  | '0' :: 'b' :: digits => readBase? 2 digits
  | ['0'] => some 0
  | '0' :: _ => none
  | digits => readBase? 10 digits

namespace Document

/-- The text of a scalar, however it was written. -/
def text? (d : Document) (node : Node) : Option String :=
  match d.resolve node with
  | .scalar _ _ text => some (String.ofList text)
  | _ => none

/-- The fields of a mapping, each with its name. A scalar without text stands for no fields. -/
def fields? (d : Document) (node : Node) : Option (List (String × Node)) :=
  match d.resolve node with
  | .mapping _ entries => entries.mapM fun (key, value) => do return (← d.text? key, value)
  | .scalar _ _ [] => some []
  | _ => none

/-- The tag of an integer. -/
def integerTag : List Char := "tag:yaml.org,2002:int".toList

/-- The number below `bound` that a scalar denotes. The scalar must be plain, or literal with the
tag of an integer. -/
def number? (d : Document) (bound : Nat) (node : Node) : Option Nat :=
  match d.resolve node with
  | .scalar tag? style text =>
    if style = .plain || (style = .literal && tag? = some integerTag) then
      (readUnsigned? text).filter (· < bound)
    else none
  | _ => none

/-- The tag of nothing. -/
def nullTag : List Char := "tag:yaml.org,2002:null".toList

/-- The text of a scalar, or nothing where a plain scalar is empty or says so. -/
def optionalText? (d : Document) (node : Node) : Option (Option String) :=
  match d.resolve node with
  | .scalar tag? style text =>
    let shown := String.ofList text
    if style ≠ .plain then some (some shown)
    else
      match tag? with
      | none => some (if text.isEmpty || nullTexts.contains text then none else some shown)
      | some tag =>
        if tag ≠ nullTag then some (some shown)
        else if nullTexts.contains text then some none
        else none
  | _ => none

/-- Whether a node with a tag of its own holds nothing beside it. -/
def isBare (style : Style) (text : List Char) : Bool :=
  style = .plain && (text.isEmpty || nullTexts.contains text)

/-- The member of a list that a scalar names, by its text or by a tag of its own. -/
def word? {α : Type} (d : Document) (all : List α) (name : α → String) (node : Node) : Option α :=
  match d.resolve node with
  | .scalar tag? style text =>
    let word := match tag? with
      | some ('!' :: suffix) =>
        if isBare style text then some (if suffix.isEmpty then ['!'] else suffix) else none
      | _ => some text
    word.bind fun word => all.find? (name · == String.ofList word)
  | _ => none

end Document

/-- The value of a field that may be left out, but must not be repeated. -/
def field? {α : Type} (fields : List (String × Node)) (name : String) (default : α)
    (read : Node → Option α) : Option α :=
  match fields.filter (·.1 == name) with
  | [] => some default
  | [(_, node)] => read node
  | _ => none

end InverterLink.Yaml
