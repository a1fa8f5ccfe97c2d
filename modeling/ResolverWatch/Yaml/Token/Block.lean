import ResolverWatch.Yaml.Cursor
import ResolverWatch.Yaml.Fault

/-!
# Block scalars

A block scalar is the lines below its mark that are indented deeper than what surrounds it. Its
header may tell how deep they are, and what becomes of the breaks behind the last line: one is
kept unless the header asks for none or for all. A folded block joins neighbouring lines that
start with no space.
-/

namespace ResolverWatch.Yaml.Block

/-- What becomes of the breaks at the end of a block. -/
inductive Chomp
  | strip
  | clip
  | keep
  deriving DecidableEq, Repr

/-- What the sign of a header means. -/
def chomp? : Option Char → Option Chomp
  | some '+' => some .keep
  | some '-' => some .strip
  | _ => none

/-- The depth that a header gives, if it gives one; zero is none. -/
def depth? (c : Cursor) : Except Fault (Option Nat × Cursor) :=
  match c.peek with
  | some ch =>
    if ch = '0' then .error .invalid
    else if ch.isDigit then .ok (some (ch.toNat - '0'.toNat), c.next)
    else .ok (none, c)
  | none => .ok (none, c)

/-- A header from behind its mark: the sign and the depth in any order. -/
def header (c : Cursor) : Except Fault (Chomp × Option Nat × Cursor) := do
  match chomp? c.peek with
  | some chomp =>
    let (depth, c) ← depth? c.next
    return (chomp, depth, c)
  | none =>
    let (depth, c) ← depth? c
    match depth, chomp? c.peek with
    | some _, some chomp => return (chomp, depth, c.next)
    | _, _ => return (.clip, depth, c)

/-- The end of a header line: spaces and a comment, which a space or the header itself precedes. -/
def headerEnd (c : Cursor) : Except Fault Cursor :=
  if !endsField c.peek then .error .invalid
  else
    let c := c.skipComment
    if endsLine c.peek then .ok c.takeBreak.2 else .error .invalid

/-- The breaks of empty lines before a block, and the depth of the deepest of them or of the first
line that is not empty. -/
def leadingBreaks : Nat → Nat → Cursor → List Char × Nat × Cursor
  | 0, deepest, c => ([], deepest, c)
  | fuel + 1, deepest, c =>
    let c := c.skipWhile (· = ' ')
    let deepest := max deepest c.column
    match c.takeBreak with
    | ([], c) => ([], deepest, c)
    | (b, c) =>
      let (more, deepest, c) := leadingBreaks fuel deepest c
      (b ++ more, deepest, c)

/-- The cursor behind at most as many spaces as lead to the column `indent`. -/
def skipIndent (indent : Nat) (c : Cursor) : Cursor :=
  c.skip (min (indent - c.column) (c.rest.takeWhile (· = ' ')).length)

/-- The breaks of empty lines inside a block of the given depth. -/
def breaks (indent : Nat) : Nat → Cursor → List Char × Cursor
  | 0, c => ([], c)
  | fuel + 1, c =>
    match (skipIndent indent c).takeBreak with
    | ([], c) => ([], c)
    | (b, c) =>
      let (more, c) := breaks indent fuel c
      (b ++ more, c)

/-- A line of a block is next. -/
def atLine (indent : Nat) (c : Cursor) : Bool :=
  c.column == indent && c.peek.isSome

/-- A line that starts with a space, which is not folded. -/
def startsGap (c : Cursor) : Bool :=
  c.peek.any isGap

/-- What stands between two lines of a block: the breaks, or what they fold to. -/
def joint (folded : Bool) (lineBreak more : List Char) (gapBefore gapAfter : Bool) : List Char :=
  if folded && lineBreak == ['\n'] && !gapBefore && !gapAfter then
    if more.isEmpty then [' '] else more
  else lineBreak ++ more

/-- The lines of a block from the cursor on, after the breaks `before`. -/
def lines (folded : Bool) (chomp : Chomp) (indent : Nat) : Nat → Cursor → List Char × Cursor
  | 0, c => ([], c)
  | fuel + 1, c =>
    let gapBefore := startsGap c
    let (text, c) := c.span fun ch => !isBreak ch
    let (lineBreak, c) := c.takeBreak
    let (more, c) := breaks indent (c.rest.length + 1) c
    if atLine indent c then
      let between := joint folded lineBreak more gapBefore (startsGap c)
      let (tail, c) := lines folded chomp indent fuel c
      (text ++ between ++ tail, c)
    else match chomp with
      | .strip => (text, c)
      | .clip => (text ++ lineBreak, c)
      | .keep => (text ++ lineBreak ++ more, c)

/-- The text of a block scalar from its mark on, inside a block whose column is `outer`. -/
def read (folded : Bool) (outer : Int) (c : Cursor) : Except Fault (List Char × Cursor) := do
  let (chomp, depth, c) ← header c.next
  let c ← headerEnd c
  let least := max 1 (outer + 1).toNat
  let (before, indent, c) := match depth with
    | some n =>
      let (before, c) := breaks (least + n - 1) (c.rest.length + 1) c
      (before, least + n - 1, c)
    | none =>
      let (before, deepest, c) := leadingBreaks (c.rest.length + 1) 0 c
      (before, max least deepest, c)
  if atLine indent c then
    let (text, c) := lines folded chomp indent (c.rest.length + 1) c
    return (before ++ text, c)
  return (if chomp == .keep then before else [], c)

end ResolverWatch.Yaml.Block
