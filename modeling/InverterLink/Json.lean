import InverterLink.Decimal.Shortest

/-!
# JSON texts

The values that rendered records consist of, and their compact written form: no blanks, the fields
of an object in the order in which they were put, and only quotation marks, backslashes and control
characters escaped.
-/

namespace InverterLink

/-- A value that can be written as JSON. -/
inductive Json where
  | natural (n : Nat)
  /-- A binary64 number that is not negative. -/
  | decimal (r : Rat)
  | bool (b : Bool)
  | text (cs : List Char)
  | array (items : List Json)
  | object (fields : List (List Char × Json))

namespace Json

/-- The written form of one character of a string. -/
def escape (c : Char) : List Char :=
  match c with
  | '"' => ['\\', '"']
  | '\\' => ['\\', '\\']
  | '\x08' => ['\\', 'b']
  | '\t' => ['\\', 't']
  | '\n' => ['\\', 'n']
  | '\x0c' => ['\\', 'f']
  | '\r' => ['\\', 'r']
  | c => if c.toNat < 0x20 then ['\\', 'u'] ++ Digits.writeHex 4 c.toNat else [c]

/-- The written form of a string. -/
def writeText (cs : List Char) : List Char :=
  '"' :: cs.flatMap escape ++ ['"']

mutual

/-- The written form of a value. -/
def write : Json → List Char
  | natural n => Digits.write n
  | decimal r => Decimal.scientific r
  | bool b => if b then ['t', 'r', 'u', 'e'] else ['f', 'a', 'l', 's', 'e']
  | text cs => writeText cs
  | array items => '[' :: writeItems items ++ [']']
  | object fields => '{' :: writeFields fields ++ ['}']

/-- The written form of the items of an array, with commas between them. -/
def writeItems : List Json → List Char
  | [] => []
  | [item] => write item
  | item :: items => write item ++ ',' :: writeItems items

/-- The written form of the fields of an object, with commas between them. -/
def writeFields : List (List Char × Json) → List Char
  | [] => []
  | [(key, value)] => writeText key ++ ':' :: write value
  | (key, value) :: fields => writeText key ++ ':' :: write value ++ ',' :: writeFields fields

end

/-- Puts a field at the end of an object, or in the place of the field that has its key. -/
def put (key : List Char) (value : Json) : List (List Char × Json) → List (List Char × Json)
  | [] => [(key, value)]
  | (k, v) :: fields => if k = key then (k, value) :: fields else (k, v) :: put key value fields

end Json

end InverterLink
