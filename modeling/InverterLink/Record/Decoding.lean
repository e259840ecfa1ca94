import InverterLink.Record.Layout

/-!
# Reading records

`Record.ofPayload` reads the record of a given kind from a payload, by the layout of the kind. The
fields are read in order, and the first that cannot be read decides the error, except that the item
which a table names as read first comes before the others.
-/

namespace InverterLink

namespace Layout

/-- What the item at a position holds, by its form. -/
def readItem (record : String) (items : List (List Char)) (form : ItemForm) (index : Nat) :
    Except Error Cell :=
  match form with
  | .number => do return .number (← Items.number record items index)
  | .flag => do return .flag (← Items.flag record items index)
  | .text => do return .text (← Items.item record items index)
  | .choice e => do return .choice e (← Items.ordinal record items e index)
  | .clipped sizeAt => do
    let size ← Items.number record items sizeAt
    return .text ((← Items.item record items index).take size)

/-- Reads items in the order of their columns, the first of which has the given position, as far as
there are items. -/
def readItems (record : String) (items : List (List Char)) :
    List Column → Nat → Except Error (List Cell)
  | [], _ => .ok []
  | column :: columns, index =>
    if index < items.length then do
      let cell ← readItem record items column.form index
      return cell :: (← readItems record items columns (index + 1))
    else
      .ok []

/-- Reads one item by its column, if both are there, and forgets it. -/
def peek (record : String) (items : List (List Char)) (columns : List Column) (index : Nat) :
    Except Error Unit :=
  match columns[index]?, items[index]? with
  | some column, some _ => (readItem record items column.form index).map fun _ => ()
  | _, _ => .ok ()

/-- Reads the items of a table. -/
def readTable (record : String) (table : Table) (items : List (List Char)) :
    Except Error (List Cell) := do
  if let some index := table.readFirst? then
    peek record items table.columns index
  readItems record items table.columns 0

/-- Reads numbers of the given sizes, one behind the other from an offset. -/
def readFixed (record : String) (payload : List Char) : List Nat → Nat → Except Error (List Cell)
  | [], _ => .ok []
  | size :: sizes, start => do
    let n ← Items.readNumber record (← Items.slice record start size payload)
    return .number n :: (← readFixed record payload sizes (start + size))

/-- Reads the number of a mode. -/
def readMode (record : String) (payload : List Char) : Except Error (List Cell) := do
  let value ← Items.readNumber record (← Items.slice record 0 2 payload)
  if Enumeration.workingMode.has value then return [.choice .workingMode value]
  else Items.fail record (.unknownMode value)

/-- Reads a text behind its size. -/
def readSizedText (record : String) (payload : List Char) : Except Error (List Cell) := do
  let size ← Items.readNumber record (← Items.slice record 0 2 payload)
  return [.text (← Items.slice record 2 size payload)]

/-- The widths of two times of day. -/
def clockWidths : List Width := [.exactly 4, .exactly 4]

/-- Reads two times of day. -/
def readClocks (record : String) (payload : List Char) : Except Error (List Cell) := do
  let items ← Items.split record clockWidths 2 payload
  let start ← Items.item record items 0
  let stop ← Items.item record items 1
  return (← readFixed record start [2, 2] 0) ++ (← readFixed record stop [2, 2] 0)

/-- Reads the fields of a record from a payload. -/
def read (record : String) (payload : List Char) : Layout → Except Error (List Cell)
  | fixed sizes => readFixed record payload sizes 0
  | mode => readMode record payload
  | sizedText => readSizedText record payload
  | separated table => do
    readTable record table (← Items.split record table.widths table.required payload)
  | clocks => readClocks record payload
  | numbers => do
    return (← Items.numbers record (← Items.split record [] 0 payload)).map .number

/-- The table of widths against which the items of a layout are checked. -/
def widths : Layout → List Width
  | separated table => table.widths
  | clocks => clockWidths
  | _ => []

/-- How many items a layout requires. -/
def required : Layout → Nat
  | separated table => table.required
  | clocks => 2
  | _ => 0

end Layout

namespace Record

/-- The record of a kind that a payload holds. -/
def ofPayload (kind : RecordKind) (payload : List Char) : Except Error Record := do
  return ⟨kind, ← kind.layout.read kind.label payload⟩

/-- What is reported about the items of a payload that the table of the kind does not know. -/
def warnings (kind : RecordKind) (payload : List Char) : List LogEntry :=
  Items.warnings kind.label kind.layout.widths kind.layout.required payload

end Record

end InverterLink
