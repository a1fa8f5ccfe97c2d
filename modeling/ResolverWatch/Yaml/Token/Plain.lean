import ResolverWatch.Yaml.Cursor

/-!
# Plain scalars

A plain scalar is written without quotes. It ends before a colon that ends a word, before a
comment, at a line that is not indented enough, and inside brackets or braces at any of the marks
that are special there. Its lines are folded.
-/

namespace ResolverWatch.Yaml.Plain

/-- The character `c` does not belong to a plain scalar when `after` follows it; `flow` says whether
it stands inside brackets or braces. -/
def stopsAt (flow : Bool) (c : Char) (after : Option Char) : Bool :=
  isGap c || isBreak c || (c = ':' && (if flow then endsFlowColon after else endsWord after)) ||
    (flow && isFlowIndicator c)

/-- The characters of a plain scalar up to the next space. -/
def chunk (flow : Bool) : List Char → List Char
  | [] => []
  | c :: cs => if stopsAt flow c cs.head? then [] else c :: chunk flow cs

/-- The breaks at the cursor and the spaces between them, or nothing if a mark that separates
documents follows one. -/
def breaks : Nat → Cursor → Option (List Char) × Cursor
  | 0, c => (none, c)
  | fuel + 1, c =>
    if c.atSeparator then (none, c)
    else match (c.skipWhile (· = ' ')).takeBreak with
      | ([], c) => (some [], c)
      | (b, c) =>
        let (more, c) := breaks fuel c
        (more.map (b ++ ·), c)

/-- What the spaces and breaks at the cursor stand for, and whether there are breaks. The scalar
ends if they stand for nothing. -/
def gap (c : Cursor) : List Char × Cursor × Bool :=
  let (spaces, c) := c.span (· = ' ')
  match c.takeBreak with
  | ([], c) => (spaces, c, false)
  | (first, c) =>
    match breaks (c.rest.length + 1) c with
    | (some more, c) => (foldBreaks first more, c, true)
    | (none, c) => ([], c, true)

/-- The rest of a scalar after a gap that stands for `spaces`, in lines that are indented by at least
`indent`. The last part of the result says whether a break is behind the scalar. -/
def body (flow : Bool) (indent : Int) : Nat → List Char → Bool → Cursor → List Char × Cursor × Bool
  | 0, _, broken, c => ([], c, broken)
  | fuel + 1, spaces, broken, c =>
    let text := chunk flow c.rest
    if c.peek = some '#' || text.isEmpty then ([], c, broken)
    else
      let (more, c, broken) := gap (c.skip text.length)
      if more.isEmpty || c.peek = some '#' || (!flow && decide (c.column < indent)) then
        (spaces ++ text, c, broken)
      else
        let (tail, c, broken) := body flow indent fuel more broken c
        (spaces ++ text ++ tail, c, broken)

/-- The text of a plain scalar that starts at the cursor, and whether a break is behind it. -/
def read (flow : Bool) (indent : Int) (c : Cursor) : List Char × Cursor × Bool :=
  body flow indent (c.rest.length + 1) [] false c

end ResolverWatch.Yaml.Plain
