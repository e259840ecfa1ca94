import InverterLink.Error
import InverterLink.Log
import InverterLink.Record.Enumeration
import InverterLink.Text.Utf8

/-!
# The items of a payload

Most payloads are items with commas between them, and a table gives the width that each item must
have, in bytes. Items beyond the table are kept and reported, but not checked. A payload without
commas is cut at fixed offsets instead.

## Main definitions

* `split`: the items of a payload, checked against a table.
* `unexpected?`: the first item beyond the table.
* `warnings`: what is reported about it.
* `slice`: the part of a payload at a fixed offset.
* `item`, `number`, `flag`, `ordinal`: the item at a position, and what it holds.
-/

namespace InverterLink

namespace Width

/-- The width of an item of fixed size. -/
def exactly (n : Nat) : Width := ⟨n, n⟩

/-- Whether an item may have the given size. -/
def accepts (width : Width) (size : Nat) : Bool :=
  width.least ≤ size && size ≤ width.greatest

end Width

namespace Items

/-- Fails to read the record of the given name. -/
def fail {α : Type} (record : String) (cause : ParseError) : Except Error α :=
  .error (.parse record cause)

/-- Checks items against the widths of a table, the first of both having the given position. -/
def checkWidths (record : String) : Nat → List Width → List (List Char) → Except Error Unit
  | position, width :: widths, item :: items =>
    if width.accepts (Utf8.byteLength item) then
      checkWidths record (position + 1) widths items
    else
      fail record (.wrongWidth position width (Utf8.byteLength item))
  | _, _, _ => .ok ()

/-- The items of a payload, of which there must be at least `atLeast`, and which must have the
widths of the table as far as it reaches. An empty table disables every check. -/
def split (record : String) (widths : List Width) (atLeast : Nat) (payload : List Char) :
    Except Error (List (List Char)) :=
  let items := payload.splitOn ','
  if widths.isEmpty then .ok items
  else if items.length < atLeast then fail record (.tooFewItems atLeast items.length)
  else (checkWidths record 0 widths items).map fun _ => items

/-- The position of the first item beyond the table, if there is one. -/
def unexpected? (widths : List Width) (items : List (List Char)) : Option Nat :=
  if !widths.isEmpty && widths.length < items.length then some widths.length else none

/-- What is reported about a payload that passes the check: the first item beyond the table, if
there is one. -/
def warnings (record : String) (widths : List Width) (atLeast : Nat) (payload : List Char) :
    List LogEntry :=
  match split record widths atLeast payload with
  | .ok items =>
    match unexpected? widths items with
    | some index => [⟨.warn, s!"while parsing {record}: item {index} is not expected"⟩]
    | none => []
  | .error _ => []

/-- The part of a payload at a fixed offset, both in bytes. -/
def slice (record : String) (start size : Nat) (payload : List Char) : Except Error (List Char) :=
  match (Utf8.takeBytes? start payload).bind fun (_, rest) => Utf8.takeBytes? size rest with
  | some (part, _) => .ok part
  | none => fail record (.tooFewCharacters (start + size) (Utf8.byteLength payload))

/-- The numbers that items hold are below this bound. -/
def numberBound : Nat := 4294967296

/-- The number that a text denotes. -/
def readNumber (record : String) (cs : List Char) : Except Error Nat :=
  match Digits.read? cs with
  | none => fail record (.notNumeral cs)
  | some n => if n < numberBound then .ok n else fail record (.outOfRange cs)

/-- The item at a position. -/
def item (record : String) (items : List (List Char)) (index : Nat) : Except Error (List Char) :=
  match items[index]? with
  | some cs => .ok cs
  | none => fail record (.missingItem index)

/-- The number that the item at a position holds. -/
def number (record : String) (items : List (List Char)) (index : Nat) : Except Error Nat := do
  readNumber record (← item record items index)

/-- Whether the number at a position is other than zero. -/
def flag (record : String) (items : List (List Char)) (index : Nat) : Except Error Bool := do
  return 0 < (← number record items index)

/-- The ordinal at a position, which must belong to the enumeration. -/
def ordinal (record : String) (items : List (List Char)) (e : Enumeration) (index : Nat) :
    Except Error Nat := do
  let value ← number record items index
  if e.has value then return value else fail record (.unknownValue index value)

/-- The numbers that all items hold. -/
def numbers (record : String) : List (List Char) → Except Error (List Nat)
  | [] => .ok []
  | cs :: items => do
    let n ← readNumber record cs
    return n :: (← numbers record items)

end Items

end InverterLink
