import ResolverWatch.Yaml.Token.Block
import ResolverWatch.Yaml.Token.Plain
import ResolverWatch.Yaml.Token.Property
import ResolverWatch.Yaml.Token.Quoted

/-!
# Cutting a document into tokens

Indentation opens and closes blocks. A key needs no mark of its own: what stands before a colon on
one line is one, so every token that may turn out to be a key is a `Candidate` until the line
ends, and the colon puts the tokens that open a mapping in front of it. A candidate at the
column of its block has to become a key.
-/

namespace ResolverWatch.Yaml

/-- A token that may turn out to be a key: how many brackets and braces are open around it, its
number, and its place. -/
structure Candidate where
  depth : Nat
  token : Nat
  index : Nat
  line : Nat
  column : Nat
  required : Bool
  deriving DecidableEq, Repr

/-- A candidate is given up after this many characters. -/
def longestKey : Nat :=
  1024

/-- The state of a scan: the tokens so far, the number of open brackets and braces, the columns of
the open blocks (innermost first, the document itself being at −1), and whether a key may start at
the cursor. -/
structure Scan where
  cursor : Cursor
  tokens : Array Token := #[]
  depth : Nat := 0
  indent : Int := -1
  outer : List Int := []
  keyAllowed : Bool := true
  candidates : List Candidate := []

namespace Scan

/-- Adds a token. -/
def emit (s : Scan) (t : Token) : Scan :=
  { s with tokens := s.tokens.push t }

/-- Puts tokens in front of the token of a given number. -/
def insertAt (s : Scan) (n : Nat) (ts : List Token) : Scan :=
  { s with tokens := s.tokens.extract 0 n ++ ts.toArray ++ s.tokens.extract n s.tokens.size }

/-- The candidate can no longer become a key. -/
def isStale (s : Scan) (k : Candidate) : Bool :=
  k.line != s.cursor.line || decide (longestKey < s.cursor.index - k.index)

/-- Gives up the candidates that can no longer become keys; none of them may be required. -/
def dropStale (s : Scan) : Except Fault Scan :=
  let (stale, kept) := s.candidates.partition s.isStale
  if stale.any (·.required) then .error .invalid else .ok { s with candidates := kept }

/-- The candidate inside the innermost brackets. -/
def candidate? (s : Scan) : Option Candidate :=
  s.candidates.find? (·.depth == s.depth)

/-- Forgets the candidate inside the innermost brackets. -/
def forget (s : Scan) : Scan :=
  { s with candidates := s.candidates.filter (·.depth != s.depth) }

/-- Gives up the candidate inside the innermost brackets, which may not be required. -/
def drop (s : Scan) : Except Fault Scan :=
  if s.candidate?.any (·.required) then .error .invalid else .ok s.forget

/-- Makes the token to come a candidate, if a key may start here. -/
def offer (s : Scan) : Except Fault Scan := do
  if !s.keyAllowed then return s
  let s ← s.drop
  let c := s.cursor
  let required := s.depth == 0 && s.indent == (c.column : Int)
  return { s with candidates := ⟨s.depth, s.tokens.size, c.index, c.line, c.column, required⟩ :: s.candidates }

/-- Closes the blocks whose column is greater than the given one. -/
def closeFrom (column : Int) : List Int → Int → Array Token → Array Token × Int × List Int
  | [], indent, tokens => (tokens, indent, [])
  | o :: outer, indent, tokens =>
    if column < indent then closeFrom column outer o (tokens.push .blockEnd) else (tokens, indent, o :: outer)

/-- Closes blocks at a column, unless brackets or braces are open. -/
def close (s : Scan) (column : Int) : Scan :=
  if s.depth ≠ 0 then s
  else
    let (tokens, indent, outer) := closeFrom column s.outer s.indent s.tokens
    { s with tokens := tokens, indent := indent, outer := outer }

/-- Opens a block at a column, if it is deeper than the innermost one. -/
def openBlock (s : Scan) (column : Nat) : Scan × Bool :=
  if s.indent < column then ({ s with outer := s.indent :: s.outer, indent := column }, true) else (s, false)

/-- The cursor behind the spaces, comments and breaks that follow; whether there is a break. -/
def skipBlank : Nat → Bool → Cursor → Cursor × Bool
  | 0, broken, c => (c, broken)
  | fuel + 1, broken, c =>
    match c.skipComment.takeBreak with
    | ([], c) => (c, broken)
    | (_, c) => skipBlank fuel true c

/-- Moves on to the next token. A byte order mark at the start of the text is skipped. -/
def advance (s : Scan) : Scan :=
  let start := if s.cursor.index = 0 ∧ s.cursor.peek = some byteOrderMark then s.cursor.next else s.cursor
  let (c, broken) := skipBlank (start.rest.length + 1) false start
  { s with cursor := c, keyAllowed := s.keyAllowed || (broken && s.depth == 0) }

/-- A mark of one character. -/
def mark (s : Scan) (t : Token) (keyAllowed : Bool) : Scan :=
  { s.emit t with cursor := s.cursor.next, keyAllowed := keyAllowed }

/-- The end of all blocks, at the end of a document or of the text. -/
def closeAll (s : Scan) : Except Fault Scan := do
  let s ← (s.close (-1)).drop
  return { s with keyAllowed := false }

/-- The end of the text. -/
def finish (s : Scan) : Except Fault Scan := do
  let s ← s.closeAll
  return s.emit .streamEnd

/-- A directive. -/
def directive (s : Scan) : Except Fault Scan := do
  let s ← s.closeAll
  let (t, c) ← Property.directive s.cursor
  return { s.emit t with cursor := c }

/-- A mark that separates documents. -/
def separator (s : Scan) (t : Token) : Except Fault Scan := do
  let s ← s.closeAll
  return { s.emit t with cursor := s.cursor.skip 3 }

/-- An opening bracket or brace. -/
def openFlow (s : Scan) (t : Token) : Except Fault Scan := do
  let s ← s.offer
  return { s.mark t true with depth := s.depth + 1 }

/-- A closing bracket or brace. Without an open one it is a token that no document has. -/
def closeFlow (s : Scan) (t : Token) : Except Fault Scan := do
  let s ← s.drop
  return { s.mark t false with depth := s.depth - 1 }

/-- A comma inside brackets or braces, or outside, where no document has one. -/
def flowEntry (s : Scan) : Except Fault Scan := do
  let s ← s.drop
  return s.mark .flowEntry true

/-- Opens a block at the cursor for a mark that starts an entry. -/
def openEntry (s : Scan) (t : Token) : Except Fault Scan :=
  if s.depth ≠ 0 then .ok s
  else if !s.keyAllowed then .error .invalid
  else
    let (s, opened) := s.openBlock s.cursor.column
    .ok (if opened then s.emit t else s)

/-- A dash before an entry of a sequence. -/
def blockEntry (s : Scan) : Except Fault Scan := do
  let s ← s.openEntry .blockSequence
  let s ← s.drop
  return s.mark .blockEntry true

/-- A question mark before a key. -/
def key (s : Scan) : Except Fault Scan := do
  let s ← s.openEntry .blockMapping
  let s ← s.drop
  return s.mark .key (s.depth == 0)

/-- A colon before a value. If there is a candidate, it is the key. -/
def value (s : Scan) : Except Fault Scan :=
  match s.candidate? with
  | some k =>
    let s := s.forget
    let (s, opened) := if s.depth = 0 then s.openBlock k.column else (s, false)
    let s := s.insertAt k.token (if opened then [.blockMapping, .key] else [.key])
    .ok (s.mark .value false)
  | none => do
    let s ← s.openEntry .blockMapping
    let s ← s.drop
    return s.mark .value (s.depth == 0)

/-- A token that may be a key, by the function that reads it. -/
def keyLike (s : Scan) (read : Cursor → Except Fault (Token × Cursor)) : Except Fault Scan := do
  let s ← s.offer
  let (t, c) ← read s.cursor
  return { s.emit t with cursor := c, keyAllowed := false }

/-- A block scalar. -/
def blockScalar (s : Scan) (folded : Bool) : Except Fault Scan := do
  let s ← s.drop
  let (text, c) ← Block.read folded s.indent s.cursor
  return { s.emit (.scalar (Text.pointsOf text) false) with cursor := c, keyAllowed := true }

/-- A plain scalar. -/
def plain (s : Scan) : Except Fault Scan := do
  let s ← s.offer
  let (text, c, broken) := Plain.read (s.depth ≠ 0) (s.indent + 1) s.cursor
  return { s.emit (.scalar (Text.pointsOf text) true) with cursor := c, keyAllowed := broken }

/-- A plain scalar starts with `c` when `after` follows it. -/
def startsPlain (flow : Bool) (c : Char) (after : Option Char) : Bool :=
  !(isGap c || isBreak c || "-?:,[]\x7b\x7d#&*!|>'\"%@\x60".contains c) ||
    (!endsWord after && (c = '-' || (!flow && (c = '?' || c = ':'))))

/-- Reads the token that starts with the character `ch` at the cursor. -/
def token (s : Scan) (ch : Char) : Except Fault Scan :=
  let after := s.cursor.ahead 1
  let atStart := s.cursor.column == 0
  let flow := s.depth ≠ 0
  if atStart && ch = '%' then s.directive
  else if atStart && s.cursor.startsWord ['-', '-', '-'] then s.separator .documentStart
  else if atStart && s.cursor.startsWord ['.', '.', '.'] then s.separator .documentEnd
  else if ch = '[' then s.openFlow .flowSequence
  else if ch = '{' then s.openFlow .flowMapping
  else if ch = ']' then s.closeFlow .flowSequenceEnd
  else if ch = '}' then s.closeFlow .flowMappingEnd
  else if ch = ',' then s.flowEntry
  else if ch = '-' && endsWord after then s.blockEntry
  else if ch = '?' && (flow || endsWord after) then s.key
  else if ch = ':' && (flow || endsWord after) then s.value
  else if ch = '*' then s.keyLike fun c => (Property.anchor c.next).map fun (n, c) => (.alias n, c)
  else if ch = '&' then s.keyLike fun c => (Property.anchor c.next).map fun (n, c) => (.anchor n, c)
  else if ch = '!' then s.keyLike Property.tag
  else if ch = '|' && !flow then s.blockScalar false
  else if ch = '>' && !flow then s.blockScalar true
  else if ch = '\'' then s.keyLike fun c => (Quoted.read false c).map fun (t, c) => (.scalar t false, c)
  else if ch = '"' then s.keyLike fun c => (Quoted.read true c).map fun (t, c) => (.scalar t false, c)
  else if startsPlain flow ch after then s.plain
  else .error .invalid

/-- Reads the next token; whether it is the last. -/
def step (s : Scan) : Except Fault (Scan × Bool) := do
  let s ← s.advance.dropStale
  let s := s.close s.cursor.column
  match s.cursor.peek with
  | none => return (← s.finish, true)
  | some ch => return (← s.token ch, false)

/-- The tokens that are settled when a scan cannot go on: those before the first candidate. -/
def settled (s : Scan) : List Token :=
  let n := s.candidates.foldl (fun n k => if s.isStale k then n else min n k.token) s.tokens.size
  s.tokens.toList.take n

/-- The tokens from a state on, and why there are no more if a fault ends the scan. -/
def run : Nat → Scan → List Token × Fault
  | 0, s => (s.settled, .invalid)
  | fuel + 1, s =>
    match s.step with
    | .ok (s, true) => (s.tokens.toList, .invalid)
    | .ok (s, false) => run fuel s
    | .error f => (s.settled, f)

end Scan

/-- The tokens of a text, and the fault that is met by whoever asks for more. Every token takes a
character, so the scan ends. -/
def Token.scan (text : List Char) : List Token × Fault :=
  Scan.run (text.length + 1) { cursor := { rest := text } }

end ResolverWatch.Yaml
