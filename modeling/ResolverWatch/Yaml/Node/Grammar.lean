import ResolverWatch.Yaml.Node
import ResolverWatch.Yaml.Token

/-!
# The grammar of a document

`Graph.ofTokens` reads the nodes of a document off its tokens. There is one function for each place
in which a node or an entry can stand; each looks at the next token only. The `fuel` of these
functions bounds their depth, which the number of tokens bounds in turn.
-/

namespace ResolverWatch.Yaml

/-- The state of reading: the tokens left and the fault that is met after them, the nodes so far, the
nodes that have an anchor, and the expansions of handles. -/
structure Composer where
  tokens : List Token
  ending : Fault
  graph : Graph := #[]
  anchors : List (String × Nat) := []
  handles : List (String × String) := []

/-- Reading parts of a document. -/
abbrev Compose := StateT Composer (Except Fault)

namespace Compose

/-- The document is ill-formed. -/
def fail {α : Type} : Compose α :=
  throw .invalid

/-- The next token. -/
def peek : Compose Token := do
  match (← get).tokens with
  | t :: _ => return t
  | [] => throw (← get).ending

/-- Moves behind the next token. -/
def advance : Compose Unit :=
  modify fun s => { s with tokens := s.tokens.tail }

/-- Moves behind the next token if it is the given one; whether it is. -/
def accept (t : Token) : Compose Bool := do
  if (← peek) = t then
    advance
    return true
  return false

/-- Moves behind a token that has to be next. -/
def expect (t : Token) : Compose Unit := do
  if !(← accept t) then fail

/-- Adds a node. -/
def add (n : Node) : Compose Nat := do
  let s ← get
  set { s with graph := s.graph.push n }
  return s.graph.size

/-- Fills in a node that was added before its parts. -/
def fill (id : Nat) (n : Node) : Compose Unit :=
  modify fun s => { s with graph := s.graph.setIfInBounds id n }

/-- A node that is not written. -/
def empty : Compose Nat :=
  add (.scalar .null [])

/-- Gives a node an anchor, which no other node may have. -/
def bind (anchor : Option String) (id : Nat) : Compose Unit := do
  match anchor with
  | some name =>
    if ((← get).anchors.lookup name).isSome then fail
    modify fun s => { s with anchors := (name, id) :: s.anchors }
  | none => return

/-- The anchor and the tag in front of a node, in any order. -/
def properties : Compose (Option String × Option (Option String × String)) := do
  match ← peek with
  | .anchor name =>
    advance
    match ← peek with
    | .tag handle suffix =>
      advance
      return (some name, some (handle, suffix))
    | _ => return (some name, none)
  | .tag handle suffix =>
    advance
    match ← peek with
    | .anchor name =>
      advance
      return (some name, some (handle, suffix))
    | _ => return (none, some (handle, suffix))
  | _ => return (none, none)

/-- The tag that is written in front of a node. A lone exclamation mark is none; it makes a scalar count
as a plain one. -/
def resolve : Option (Option String × String) → Compose (Option Tag)
  | none => return none
  | some (handle, suffix) => do
    let name ← match handle with
      | none => pure suffix
      | some handle =>
        match (← get).handles.lookup handle with
        | some expansion => pure (expansion ++ suffix)
        | none => fail
    return if name = "!" then none else some (Tag.ofName name)

/-- A scalar. -/
def scalar (anchor : Option String) (n : Node) : Compose Nat := do
  let id ← add n
  bind anchor id
  return id

/-- A sequence whose items are read by `items`. Its anchor may be referred to from inside. -/
def sequence (anchor : Option String) (tag : Option Tag) (items : Compose (List Nat)) : Compose Nat := do
  let tag := tag.getD .sequence
  let id ← add (.sequence tag [])
  bind anchor id
  let parts ← items
  fill id (.sequence tag parts)
  return id

/-- A mapping whose entries are read by `entries`. Its anchor may be referred to from inside. -/
def mapping (anchor : Option String) (tag : Option Tag) (entries : Compose (List (Nat × Nat))) :
    Compose Nat := do
  let tag := tag.getD .mapping
  let id ← add (.mapping tag [])
  bind anchor id
  let parts ← entries
  fill id (.mapping tag parts)
  return id

/-- The next token is one of the given ones. -/
def isNext (ts : List Token) : Compose Bool := do
  return ts.contains (← peek)

/-- A node that is missing when one of the given tokens is next. -/
def unlessNext (ts : List Token) (node : Compose Nat) : Compose Nat := do
  if ← isNext ts then empty else node

/-- The value of an entry, which is missing without a colon or before one of the given tokens. -/
def valueUnless (ts : List Token) (node : Compose Nat) : Compose Nat := do
  if ← accept .value then unlessNext ts node else empty

mutual

/-- A node. In a block it may be a block; in a mapping it may be a sequence whose dashes stand at the
mapping's column. -/
def node : Nat → (inBlock indentless : Bool) → Compose Nat
  | 0, _, _ => fail
  | fuel + 1, inBlock, indentless => do
    if let .alias name := ← peek then
      advance
      match (← get).anchors.lookup name with
      | some id => return id
      | none => fail
    let (anchor, written) ← properties
    let tag ← resolve written
    let next ← peek
    match next with
    | .scalar text plain =>
      advance
      scalar anchor (.scalar (tag.getD (if plain || written.isSome then .ofPlain text.chars else .text)) text)
    | .flowSequence =>
      advance
      sequence anchor tag (flowItems fuel true)
    | .flowMapping =>
      advance
      mapping anchor tag (flowEntries fuel true)
    | _ =>
      if next = .blockEntry && indentless then
        sequence anchor tag (indentlessItems fuel)
      else if next = .blockSequence && inBlock then
        advance
        sequence anchor tag (blockItems fuel)
      else if next = .blockMapping && inBlock then
        advance
        mapping anchor tag (blockEntries fuel)
      else if anchor.isSome || written.isSome then
        scalar anchor (.scalar (tag.getD .null) [])
      else fail

/-- The items of a sequence in brackets. An item may be a mapping of one entry. -/
def flowItems : Nat → (first : Bool) → Compose (List Nat)
  | 0, _ => fail
  | fuel + 1, first => do
    if ← accept .flowSequenceEnd then return []
    if !first then expect .flowEntry
    if ← accept .flowSequenceEnd then return []
    let id ← if ← accept .key then
        mapping none none do
          let k ← unlessNext [.value, .flowEntry, .flowSequenceEnd] (node fuel false false)
          let v ← valueUnless [.flowEntry, .flowSequenceEnd] (node fuel false false)
          return [(k, v)]
      else node fuel false false
    return id :: (← flowItems fuel false)

/-- The entries of a mapping in braces. -/
def flowEntries : Nat → (first : Bool) → Compose (List (Nat × Nat))
  | 0, _ => fail
  | fuel + 1, first => do
    if ← accept .flowMappingEnd then return []
    if !first then expect .flowEntry
    if ← accept .flowMappingEnd then return []
    let entry ← if ← accept .key then
        let k ← unlessNext [.value, .flowEntry, .flowMappingEnd] (node fuel false false)
        let v ← valueUnless [.flowEntry, .flowMappingEnd] (node fuel false false)
        pure (k, v)
      else
        let k ← node fuel false false
        let v ← empty
        pure (k, v)
    return entry :: (← flowEntries fuel false)

/-- The items of a sequence that is a block of its own. -/
def blockItems : Nat → Compose (List Nat)
  | 0 => fail
  | fuel + 1 => do
    if ← accept .blockEntry then
      let id ← unlessNext [.blockEntry, .blockEnd] (node fuel true false)
      return id :: (← blockItems fuel)
    expect .blockEnd
    return []

/-- The items of a sequence at the column of the mapping around it. -/
def indentlessItems : Nat → Compose (List Nat)
  | 0 => fail
  | fuel + 1 => do
    if ← accept .blockEntry then
      let id ← unlessNext [.blockEntry, .key, .value, .blockEnd] (node fuel true false)
      return id :: (← indentlessItems fuel)
    return []

/-- The entries of a mapping that is a block. -/
def blockEntries : Nat → Compose (List (Nat × Nat))
  | 0 => fail
  | fuel + 1 => do
    if ← accept .key then
      let k ← unlessNext [.key, .value, .blockEnd] (node fuel true true)
      let v ← valueUnless [.key, .value, .blockEnd] (node fuel true true)
      return (k, v) :: (← blockEntries fuel)
    expect .blockEnd
    return []

end

/-- The handles that need no declaration. -/
def standardHandles : List (String × String) :=
  [("!", "!"), ("!!", Tag.standard)]

/-- The directives in front of a document: the version, which has to be 1, at most once, and each
handle at most once. Whether there are any. -/
def directives : Nat → (versioned : Bool) → List (String × String) → Compose Unit
  | 0, _, _ => fail
  | fuel + 1, versioned, handles => do
    match ← peek with
    | .version major =>
      if versioned || major ≠ 1 then fail
      advance
      directives fuel true handles
    | .tagHandle handle expansion =>
      if (handles.lookup handle).isSome then fail
      advance
      directives fuel versioned ((handle, expansion) :: handles)
    | .directive =>
      advance
      directives fuel versioned handles
    | _ => modify fun s => { s with handles := handles ++ standardHandles }

/-- The token is a directive. -/
def isDirective : Token → Bool
  | .version _ | .tagHandle .. | .directive => true
  | _ => false

/-- Moves behind the marks that end a document. -/
def skipEnds : Nat → Compose Unit
  | 0 => return
  | fuel + 1 => do
    if ← accept .documentEnd then skipEnds fuel

/-- The document, with or without a mark that starts it. -/
def document (fuel : Nat) : Compose Nat := do
  let next ← peek
  directives fuel false []
  if isDirective next || next = .documentStart then
    expect .documentStart
    let next ← peek
    if isDirective next then empty
    else unlessNext [.documentStart, .documentEnd, .streamEnd] (node fuel true false)
  else node fuel true false

/-- The root of the only document of a text, if there is one. -/
def root (fuel : Nat) : Compose (Option Nat) := do
  if ← isNext [.streamEnd] then return none
  let id ← document fuel
  skipEnds fuel
  if ← isNext [.streamEnd] then return some id
  directives fuel false []
  expect .documentStart
  fail

end Compose

/-- The nodes of a document and the root, if the document is not empty. -/
def Graph.ofTokens (tokens : List Token) (ending : Fault) : Except Fault (Option Nat × Graph) := do
  let (root, s) ← (Compose.root (4 * tokens.length + 8)).run { tokens := tokens, ending := ending }
  return (root, s.graph)

end ResolverWatch.Yaml
