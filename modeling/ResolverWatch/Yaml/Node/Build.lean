import ResolverWatch.Yaml.Node
import ResolverWatch.Yaml.Scalar.Base64
import ResolverWatch.Yaml.Value

/-!
# Values of nodes

What a node stands for depends on its tag. `Graph.scalar` makes the value of a node that has no
parts, `Graph.entries` the entries of a mapping with those of the mappings it merges, and
`Graph.check` makes every value of a document once: a collection first takes its place, and its
parts are made when those of the collections before it have been. The order matters since the
first fault that is met counts. `Graph.view` shows what was made.
-/

namespace ResolverWatch.Yaml

namespace Graph

/-- The tag of a node. -/
def tag (g : Graph) (id : Nat) : Tag :=
  match g[id]? with
  | some n => n.tag
  | none => .unknown

/-- The text of a scalar. A mapping with a default entry stands for the value of that entry. -/
def text (g : Graph) : Nat → Nat → Except Fault Text.Points
  | 0, _ => .error .invalid
  | fuel + 1, id =>
    match g[id]? with
    | some (.scalar _ text) => .ok text
    | some (.mapping _ entries) =>
      match entries.find? fun e => g.tag e.1 == .default with
      | some e => text g fuel e.2
      | none => .error .invalid
    | _ => .error .invalid

/-- The truth values by word, in any case. -/
def truth (cs : List Char) : Except Fault Bool :=
  let cs := Text.lower cs
  let word := String.ofList cs
  if ["yes", "true", "on"].contains word then .ok true
  else if ["no", "false", "off"].contains word then .ok false
  else .error (.truthText cs)

/-- The bytes of a text that spells them in base 64. The text is ASCII. -/
def binary (cs : List Char) : Except Fault (List UInt8) :=
  if cs.all (·.toNat < 0x80) then
    match Base64.bytes? cs with
    | some bs => .ok bs
    | none => .error .invalid
  else .error .invalid

/-- The moment that a node spells. Here a mapping is no substitute for a text. -/
def moment (g : Graph) (id : Nat) (cs : List Char) : Except Fault Calendar.Moment :=
  match g[id]? with
  | some (.scalar ..) => Timestamp.read cs
  | _ => .error .timestampNode

/-- The value of a node by a tag for nodes without parts. Only a text may hold halves of pairs. -/
def scalarAs (g : Graph) (id : Nat) (tag : Tag) : Except Fault Scalar := do
  if tag.isCollection || tag == .merge || tag == .default || tag == .unknown then throw .invalid
  let text ← g.text (g.size + 1) id
  let cs := text.chars
  match tag with
  | .null => return .null
  | .bool => return .bool (← truth cs)
  | .int => return .int (← Number.whole cs)
  | .real => return .real (← Number.real cs)
  | .binary => return .bytes (← binary cs)
  | .timestamp => return .moment (← g.moment id cs)
  | _ => return .text text

/-- The value of a node without parts. -/
def scalar (g : Graph) (id : Nat) : Except Fault Scalar :=
  g.scalarAs id (g.tag id)

/-- The value of a key of a mapping. The key of a default entry is a text. -/
def key (g : Graph) (id : Nat) : Except Fault Scalar :=
  g.scalarAs id (if g.tag id = .default then .text else g.tag id)

/-- The mappings that a merge key's value names: itself, or its items, the first of which counts most
and so comes last. -/
def merged (g : Graph) (id : Nat) : List Nat :=
  match g[id]? with
  | some (.sequence _ items) => items.reverse
  | _ => [id]

/-- The entries of a mapping: first those of the mappings that it merges, then its own. A mapping that
is merged into itself, inside the mappings `opened`, adds its own entries. -/
def entriesFrom (g : Graph) : Nat → (opened : List Nat) → Nat → Except Fault (List (Nat × Nat))
  | 0, _, _ => .error .invalid
  | fuel + 1, opened, id =>
    match g[id]? with
    | some (.mapping _ entries) => do
      let isMerge (e : Nat × Nat) : Bool := g.tag e.1 == .merge
      let own := entries.filter fun e => !isMerge e
      if opened.contains id then return own
      let sources := (entries.filter isMerge).flatMap fun e => g.merged e.2
      let parts ← sources.mapM (entriesFrom g fuel (id :: opened))
      return parts.flatten ++ own
    | _ => .error .invalid

/-- The entries of a mapping with those of the mappings that it merges. -/
def entries (g : Graph) (id : Nat) : Except Fault (List (Nat × Nat)) :=
  g.entriesFrom (g.size + 1) [] id

/-- The items of a sequence. -/
def items (g : Graph) (id : Nat) : Except Fault (List Nat) :=
  match g[id]? with
  | some (.sequence _ items) => .ok items
  | _ => .error .invalid

/-- What is made in turn for a collection: the value of a node, the key of an entry, or, since the
collection is ill-formed there, nothing. -/
inductive Part
  | value (id : Nat)
  | key (id : Nat)
  | missing
  deriving DecidableEq, Repr

/-- The parts of an item of an ordered mapping, which is a mapping of one entry. -/
def pairParts (g : Graph) (id : Nat) : List Part :=
  match g[id]? with
  | some (.mapping _ [(k, v)]) => [.value k, .value v]
  | _ => [.missing]

/-- The parts of a collection, in the order in which they are made. -/
def parts (g : Graph) (id : Nat) : Except Fault (List Part) :=
  match g.tag id with
  | .mapping | .set => (g.entries id).map fun es => es.flatMap fun e => [.key e.1, .value e.2]
  | .orderedMap | .pairs => (g.items id).map fun is => is.flatMap g.pairParts
  | _ => (g.items id).map fun is => is.map .value

/-- The nodes that were made, and the collections among them whose parts still have to be, in order. -/
structure Progress where
  made : List Nat
  waiting : List Nat

/-- Makes a part, unless it is made already. A key may not be a collection. -/
def make (g : Graph) (p : Progress) : Part → Except Fault Progress
  | .missing => .error .invalid
  | .key id => do
    if (g.tag id).isCollection then throw .invalid
    if p.made.contains id then return p
    let _ ← g.key id
    return { p with made := id :: p.made }
  | .value id => do
    if p.made.contains id then return p
    if (g.tag id).isCollection then return ⟨id :: p.made, p.waiting ++ [id]⟩
    let _ ← g.scalar id
    return { p with made := id :: p.made }

/-- Makes the parts of the collections that wait, one after the other. -/
def makeAll (g : Graph) : Nat → Progress → Except Fault Unit
  | 0, _ => .ok ()
  | fuel + 1, p =>
    match p.waiting with
    | [] => .ok ()
    | id :: waiting => do
      let parts ← g.parts id
      let p ← parts.foldlM g.make { p with waiting := waiting }
      makeAll g fuel p

/-- Makes every value of the document with the given root. Each node waits at most once. -/
def check (g : Graph) (root : Nat) : Except Fault Unit := do
  let p ← g.make ⟨[], []⟩ (.value root)
  g.makeAll (g.size + 1) p

/-- The value of a node, of which mappings are shown down to the given depth. -/
def view (g : Graph) : Nat → Nat → Except Fault Value
  | depth, id =>
    match g.tag id with
    | .mapping =>
      match depth with
      | 0 => .ok (.mapping [])
      | depth + 1 => do
        let entries ← (← g.entries id).mapM fun e => do
          return (← g.key e.1, ← view g depth e.2)
        return .ofEntries entries
    | .sequence | .set | .orderedMap | .pairs => .ok .sequence
    | _ => (g.scalar id).map .scalar

end Graph

end ResolverWatch.Yaml
