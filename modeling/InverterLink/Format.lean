import InverterLink.Error
import InverterLink.Json

/-!
# Rendering

What a response shows is a `Content`: a table of titled fields, a list of values, or a status. There
are four formats: a table that is aligned for reading, a simple table with one key and value per
line, and two JSON forms, of which the simple one leaves out units and shows ordinals in place of
labels.
-/

namespace InverterLink

/-- How a response is rendered. -/
inductive Format where
  | table
  | simpleTable
  | json
  | simpleJson
deriving DecidableEq

namespace Format

/-- The name of a format. -/
def name : Format → String
  | table => "table"
  | simpleTable => "simple-table"
  | json => "json"
  | simpleJson => "simple-json"

/-- Every format. -/
def all : List Format := [table, simpleTable, json, simpleJson]

/-- The format with the given name. -/
def ofName (name : String) : Except Error Format :=
  match all.find? (·.name == name) with
  | some format => .ok format
  | none => .error (.argument (.invalid "format"))

end Format

/-- What a quantity is measured in. -/
inductive Measure where
  | volt
  | ampere
  | wattHour
  | voltAmpere
  | hertz
  | percent
  | celsius
deriving DecidableEq

/-- The sign of a unit. -/
def Measure.symbol : Measure → List Char
  | volt => ['V']
  | ampere => ['A']
  | wattHour => ['W', 'h']
  | voltAmpere => ['V', 'A']
  | hertz => ['H', 'z']
  | percent => ['%']
  | celsius => ['°', 'C']

/-- A single value of a response. -/
inductive Value where
  | unsigned (n : Nat)
  /-- The quotient of a reading by its scale. -/
  | scaled (reading scale : Nat)
  | bool (b : Bool)
  | text (cs : List Char)
  /-- A member of an enumeration, by its ordinal and its label. -/
  | labelled (ordinal : Nat) (label : List Char)
deriving DecidableEq

namespace Value

/-- A reading in tenths. -/
def tenths (reading : Nat) : Value :=
  scaled reading 10

/-- The quotient of a reading by its scale as a binary64 number. A scale of zero counts as one. -/
def quotient (reading scale : Nat) : Rat :=
  Binary64.nearest ((reading : Rat) / (max scale 1 : Nat))

/-- The text of a value in a table. -/
def plain : Value → List Char
  | unsigned n => Digits.write n
  | scaled reading scale => Decimal.plain (quotient reading scale)
  | bool b => if b then ['Y', 'e', 's'] else ['N', 'o']
  | text cs => cs
  | labelled _ label => label

/-- The JSON form of a value, with the label of an enumeration or, in the simple form, its
ordinal. -/
def toJson (simple : Bool) : Value → Json
  | unsigned n => .natural n
  | scaled reading scale => .decimal (quotient reading scale)
  | bool b => .bool b
  | text cs => .text cs
  | labelled ordinal label => if simple then .natural ordinal else .text label

end Value

/-- One line of a table. -/
structure Field where
  /-- The name of the value for programs. -/
  key : List Char
  /-- The name of the value for people. -/
  title : List Char
  value : Value
  unit? : Option Measure := none
deriving DecidableEq

/-- What a response shows. -/
inductive Content where
  | table (fields : List Field)
  | list (values : List Value)
  | status (ok : Bool) (message : List Char)
deriving DecidableEq

/-! ### Tables -/

/-- Texts with line feeds between them. -/
def joinLines (lines : List (List Char)) : List Char :=
  ['\n'].intercalate lines

namespace Field

/-- The sign of the unit behind a blank, if the field has a unit. -/
def unitSuffix (field : Field) : List Char :=
  match field.unit? with
  | some unit => ' ' :: unit.symbol
  | none => []

/-- The width that the title and its colon take. -/
def titleWidth (field : Field) : Nat :=
  field.title.length + 1

/-- The line of an aligned table whose titles take the given width. -/
def alignedLine (width : Nat) (field : Field) : List Char :=
  List.rightpad width ' ' (field.title ++ [':']) ++ ' ' :: field.value.plain ++ field.unitSuffix

/-- The line of a simple table. A value that holds a blank stands between quotation marks. -/
def simpleLine (field : Field) : List Char :=
  let value := field.value.plain
  let shown := if value.contains ' ' then '"' :: value ++ ['"'] else value
  field.key ++ ' ' :: shown ++ field.unitSuffix

/-- The JSON form of the field's value: with its unit, except in the simple form. -/
def toJson (simple : Bool) (field : Field) : Json :=
  match simple, field.unit? with
  | false, some unit =>
    .object [("value".toList, field.value.toJson false), ("unit".toList, .text unit.symbol)]
  | _, _ => field.value.toJson simple

end Field

/-- The greatest width that a title takes. -/
def titleColumn (fields : List Field) : Nat :=
  fields.foldl (fun width field => max width field.titleWidth) 0

/-- The fields as an object. -/
def fieldsObject (simple : Bool) (fields : List Field) : Json :=
  .object (fields.foldl (fun object field => Json.put field.key (field.toJson simple) object) [])

/-! ### Contents -/

namespace Content

/-- The word for the outcome that a status shows. -/
def outcome (ok : Bool) : List Char :=
  if ok then "ok".toList else "error".toList

/-- The JSON form of a content. -/
def toJson (simple : Bool) : Content → Json
  | table fields =>
    .object [("result".toList, .text "ok".toList), ("data".toList, fieldsObject simple fields)]
  | list values =>
    .object [("result".toList, .text "ok".toList),
      ("data".toList, .array (values.map (·.toJson simple)))]
  | status ok message =>
    .object (("result".toList, .text (outcome ok)) ::
      (if message.isEmpty then [] else [("message".toList, .text message)]))

/-- A content in a format for people: every line of a table, every value of a list, or a status. -/
def lines (simple : Bool) : Content → List (List Char)
  | table fields =>
    if simple then fields.map Field.simpleLine
    else fields.map (Field.alignedLine (titleColumn fields))
  | list values => values.map Value.plain
  | status ok message => [outcome ok ++ (if message.isEmpty then [] else ':' :: ' ' :: message)]

/-- A content in a format. -/
def render (format : Format) (content : Content) : List Char :=
  match format with
  | .table => joinLines (content.lines false)
  | .simpleTable => joinLines (content.lines true)
  | .json => (content.toJson false).write
  | .simpleJson => (content.toJson true).write

end Content

end InverterLink
