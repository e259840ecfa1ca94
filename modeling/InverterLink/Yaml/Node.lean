import InverterLink.Yaml.Token

/-!
# Nodes

What a YAML text describes: a tree of scalars, sequences and mappings, in which an alias stands for
the node with its anchor. A text must hold one document at most.

Reading follows the tokens from left to right. Each reader takes a bound of its depth, and
`Reading.root?` allows more than any list of tokens can use: at most three readers follow each other
before one of them takes a token.

## Main definitions

* `Node`: the tree.
* `Document.ofText?`: the document that a text holds, if it holds one.
* `Document.resolve`: the node that an alias stands for.
-/

namespace InverterLink.Yaml

/-- A part of a document. -/
inductive Node where
  | scalar (tag? : Option (List Char)) (style : Style) (text : List Char)
  | sequence (tag? : Option (List Char)) (items : List Node)
  | mapping (tag? : Option (List Char)) (entries : List (Node × Node))
  /-- The node with the anchor of that number. -/
  | alias (anchor : Nat)

namespace Node

/-- What stands where a node is left out. -/
def missing : Node :=
  scalar none .plain []

end Node

/-- A document. -/
structure Document where
  root : Node
  /-- The nodes with an anchor, by the number of the anchor. -/
  anchored : List (Nat × Node)

/-- The reading of nodes. -/
structure Reading where
  tokens : List Token
  /-- The handles of tags and what they stand for. -/
  handles : List (List Char × List Char)
  /-- The numbers of the anchors so far, the latest first. -/
  anchors : List (List Char × Nat) := []
  /-- The nodes with an anchor that have been read. -/
  anchored : List (Nat × Node) := []

namespace Reading

/-- The reading after the next token. -/
def next (r : Reading) : Reading :=
  { r with tokens := r.tokens.tail }

/-- The next token. -/
def peek? (r : Reading) : Option Token :=
  r.tokens.head?

/-- Whether the next token is one of the list. -/
def isBefore (r : Reading) (tokens : List Token) : Bool :=
  r.peek?.any tokens.contains

/-- What a tag stands for. -/
def resolveTag? (r : Reading) (handle suffix : List Char) : Option (List Char) :=
  if handle.isEmpty then some suffix
  else (r.handles.lookup handle).map (· ++ suffix)

/-- The anchor and the tag before a node, in either order. -/
def properties? (r : Reading) : Option (Option (List Char) × Option (List Char) × Reading) :=
  match r.tokens with
  | .anchor name :: .tag handle suffix :: rest | .tag handle suffix :: .anchor name :: rest => do
    return (some name, some (← r.resolveTag? handle suffix), { r with tokens := rest })
  | .anchor name :: rest => some (some name, none, { r with tokens := rest })
  | .tag handle suffix :: rest => do
    return (none, some (← r.resolveTag? handle suffix), { r with tokens := rest })
  | _ => some (none, none, r)

/-- Gives an anchor the next number. -/
def bind (r : Reading) : Option (List Char) → Reading
  | some name => { r with anchors := (name, r.anchors.length) :: r.anchors }
  | none => r

/-- Notes the node that an anchor of the given number belongs to. -/
def record (r : Reading) (isAnchored : Bool) (number : Nat) (node : Node) : Node × Reading :=
  (node, if isAnchored then { r with anchored := (number, node) :: r.anchored } else r)

/-- An empty node, which must have an anchor or a tag. -/
def emptyNode? (anchor? tag? : Option (List Char)) (r : Reading) : Option (Node × Reading) :=
  if anchor?.isSome || tag?.isSome then some (.scalar tag? .plain [], r) else none

/-- Reads the comma before an item of a flow collection, unless it is the first one. -/
def flowSeparator? (isFirst : Bool) (r : Reading) : Option Reading :=
  if isFirst then some r
  else if r.peek? = some .flowEntry then some r.next
  else none

mutual

/-- Reads a node. Block collections may start only where `inBlock` holds, and a sequence that is not
indented further than its key only where `atKey` holds. -/
def node? (inBlock atKey : Bool) : Nat → Reading → Option (Node × Reading)
  | 0, _ => none
  | depth + 1, r =>
    match r.tokens with
    | .alias name :: _ => do return (.alias (← r.anchors.lookup name), r.next)
    | _ => do
      let (anchor?, tag?, r) ← r.properties?
      let number := r.anchors.length
      let bound := r.bind anchor?
      let (node, r) ← (match r.peek? with
        | some (.scalar style text) => some (Node.scalar tag? style text, bound.next)
        | some .flowSequenceStart => do
          let (items, r) ← flowItems? depth true bound.next
          return (.sequence tag? items, r)
        | some .flowMappingStart => do
          let (entries, r) ← flowEntries? depth true bound.next
          return (.mapping tag? entries, r)
        | some .blockEntry =>
          if atKey then do
            let (items, r) ← looseItems? depth bound
            return (.sequence tag? items, r)
          else emptyNode? anchor? tag? bound
        | some .blockSequenceStart =>
          if inBlock then do
            let (items, r) ← blockItems? depth bound.next
            return (.sequence tag? items, r)
          else emptyNode? anchor? tag? bound
        | some .blockMappingStart =>
          if inBlock then do
            let (entries, r) ← blockEntries? depth bound.next
            return (.mapping tag? entries, r)
          else emptyNode? anchor? tag? bound
        | _ => emptyNode? anchor? tag? bound)
      return r.record anchor?.isSome number node

/-- Reads a node, unless it is left out before one of the tokens. -/
def optional? (inBlock atKey : Bool) (ends : List Token) : Nat → Reading → Option (Node × Reading)
  | 0, _ => none
  | depth + 1, r =>
    if r.isBefore ends then some (.missing, r) else node? inBlock atKey depth r

/-- Reads the items of a block sequence up to its end. -/
def blockItems? : Nat → Reading → Option (List Node × Reading)
  | 0, _ => none
  | depth + 1, r =>
    match r.peek? with
    | some .blockEntry => do
      let (item, r) ← optional? true false [.blockEntry, .blockEnd] depth r.next
      let (items, r) ← blockItems? depth r
      return (item :: items, r)
    | some .blockEnd => some ([], r.next)
    | _ => none

/-- Reads the items of a block sequence that has no end of its own. -/
def looseItems? : Nat → Reading → Option (List Node × Reading)
  | 0, _ => none
  | depth + 1, r =>
    match r.peek? with
    | some .blockEntry => do
      let (item, r) ← optional? true false [.blockEntry, .key, .value, .blockEnd] depth r.next
      let (items, r) ← looseItems? depth r
      return (item :: items, r)
    | _ => some ([], r)

/-- Reads the entries of a block mapping up to its end. -/
def blockEntries? : Nat → Reading → Option (List (Node × Node) × Reading)
  | 0, _ => none
  | depth + 1, r =>
    match r.peek? with
    | some .key => do
      let (key, r) ← optional? true true [.key, .value, .blockEnd] depth r.next
      let (value, r) ← valueAfterKey? true [.key, .value, .blockEnd] depth r
      let (entries, r) ← blockEntries? depth r
      return ((key, value) :: entries, r)
    | some .blockEnd => some ([], r.next)
    | _ => none

/-- Reads the value that belongs to a key, or nothing if there is none. -/
def valueAfterKey? (inBlock : Bool) (ends : List Token) : Nat → Reading → Option (Node × Reading)
  | 0, _ => none
  | depth + 1, r =>
    if r.peek? = some .value then optional? inBlock inBlock ends depth r.next
    else some (.missing, r)

/-- Reads the items of a flow sequence up to its end. An item with a key is a mapping of one
entry. -/
def flowItems? : Nat → Bool → Reading → Option (List Node × Reading)
  | 0, _, _ => none
  | depth + 1, isFirst, r =>
    if r.peek? = some .flowSequenceEnd then some ([], r.next)
    else do
      let r ← flowSeparator? isFirst r
      if r.peek? = some .flowSequenceEnd then return ([], r.next)
      let (item, r) ← (if r.peek? = some .key then do
          let (key, r) ←
            optional? false false [.value, .flowEntry, .flowSequenceEnd] depth r.next
          let (value, r) ← valueAfterKey? false [.flowEntry, .flowSequenceEnd] depth r
          return (.mapping none [(key, value)], r)
        else node? false false depth r)
      let (items, r) ← flowItems? depth false r
      return (item :: items, r)

/-- Reads the entries of a flow mapping up to its end. An entry without an indicator is a key whose
value is left out. -/
def flowEntries? : Nat → Bool → Reading → Option (List (Node × Node) × Reading)
  | 0, _, _ => none
  | depth + 1, isFirst, r =>
    if r.peek? = some .flowMappingEnd then some ([], r.next)
    else do
      let r ← flowSeparator? isFirst r
      if r.peek? = some .flowMappingEnd then return ([], r.next)
      let (entry, r) ← (if r.peek? = some .key then do
          let (key, r) ← optional? false false [.value, .flowEntry, .flowMappingEnd] depth r.next
          let (value, r) ← valueAfterKey? false [.flowEntry, .flowMappingEnd] depth r
          return ((key, value), r)
        else do
          let (key, r) ← node? false false depth r
          return ((key, .missing), r))
      let (entries, r) ← flowEntries? depth false r
      return (entry :: entries, r)

end

/-! ### Documents -/

/-- The handles that need no directive. -/
def commonHandles : List (List Char × List Char) :=
  [("!".toList, "!".toList), ("!!".toList, "tag:yaml.org,2002:".toList)]

/-- Reads the directives before a document: the version once at most, which must be a known one, and
each handle once at most. -/
def directives? : Bool → List (List Char × List Char) → List Token →
    Option (List (List Char × List Char) × List Token)
  | hasVersion, handles, .versionDirective major minor :: tokens =>
    if hasVersion || major ≠ 1 || (minor ≠ 1 && minor ≠ 2) then none
    else directives? true handles tokens
  | hasVersion, handles, .tagDirective handle leading :: tokens =>
    if (handles.lookup handle).isSome then none
    else directives? hasVersion ((handle, leading) :: handles) tokens
  | _, handles, tokens => some (handles, tokens)

/-- Reads the start of a document and tells whether it is marked. -/
def start? (tokens : List Token) : Option (Bool × Reading) := do
  let (handles, rest) ← directives? false [] tokens
  let handles := handles ++ commonHandles
  match rest with
  | .documentStart :: content => return (true, ⟨content, handles, [], []⟩)
  | _ => if rest.length < tokens.length then none else return (false, ⟨rest, handles, [], []⟩)

/-- The root of a document. It may be left out where the start of the document is marked. -/
def root? (isMarked : Bool) (r : Reading) : Option (Node × Reading) :=
  match isMarked, r.tokens with
  | true, [] | true, .documentEnd :: _ => some (.missing, r)
  | _, _ => node? true false (4 * r.tokens.length + 4) r

end Reading

namespace Document

/-- A document that holds nothing. -/
def empty : Document :=
  ⟨.missing, []⟩

/-- The document that a list of tokens describes. Nothing but markers of its end may follow it. -/
def ofTokens? (tokens : List Token) : Option Document :=
  if tokens.isEmpty then some empty
  else do
    let (isMarked, r) ← Reading.start? tokens
    let (root, r) ← Reading.root? isMarked r
    if r.tokens.all (· = .documentEnd) then return ⟨root, r.anchored⟩ else none

/-- The document that a text holds. -/
def ofText? (text : List Char) : Option Document := do
  ofTokens? (← Token.ofText? text)

/-- The node that an alias stands for, or the node itself. -/
def resolve (d : Document) : Node → Node
  | .alias anchor => (d.anchored.lookup anchor).getD .missing
  | node => node

end Document

end InverterLink.Yaml
