import ResolverWatch.Yaml.Character

/-!
# Places in a YAML document

A cursor is the rest of a text together with its place: the number of characters read, the line,
and the column, on which the structure of a document depends.
-/

namespace ResolverWatch.Yaml

/-- The rest of a text and where it starts. -/
structure Cursor where
  rest : List Char
  index : Nat := 0
  line : Nat := 0
  column : Nat := 0
  deriving DecidableEq, Repr

namespace Cursor

/-- The next character. -/
def peek (c : Cursor) : Option Char :=
  c.rest.head?

/-- The character `n` places behind the next one. -/
def ahead (c : Cursor) (n : Nat) : Option Char :=
  c.rest[n]?

/-- The cursor behind the next character. A byte order mark takes no column. -/
def next (c : Cursor) : Cursor :=
  match c.rest with
  | [] => c
  | ch :: rest =>
    if isBreak ch then ⟨rest, c.index + 1, c.line + 1, 0⟩
    else ⟨rest, c.index + 1, c.line, if ch = byteOrderMark then c.column else c.column + 1⟩

/-- The cursor behind the next `n` characters. -/
def skip (c : Cursor) : Nat → Cursor
  | 0 => c
  | n + 1 => c.next.skip n

/-- The longest run of characters of a class, and the cursor behind it. -/
def span (p : Char → Bool) (c : Cursor) : List Char × Cursor :=
  let run := c.rest.takeWhile p
  (run, c.skip run.length)

/-- The cursor behind the longest run of characters of a class. -/
def skipWhile (p : Char → Bool) (c : Cursor) : Cursor :=
  (c.span p).2

/-- The cursor behind the spaces and the comment that follow. -/
def skipComment (c : Cursor) : Cursor :=
  let c := c.skipWhile (· = ' ')
  if c.peek = some '#' then c.skipWhile fun ch => !isBreak ch else c

/-- The break at the cursor, if there is one, and the cursor behind it. A next-line character reads
as a line feed. -/
def takeBreak (c : Cursor) : List Char × Cursor :=
  match c.peek with
  | some ch => if isBreak ch then ([if ch = '\u0085' then '\n' else ch], c.next) else ([], c)
  | none => ([], c)

/-- Three characters and the end of a word are next. -/
def startsWord (mark : List Char) (c : Cursor) : Bool :=
  c.rest.take 3 == mark && endsWord (c.ahead 3)

/-- A mark that separates documents is next. It only counts as one at the start of a line. -/
def atSeparator (c : Cursor) : Bool :=
  c.startsWord ['-', '-', '-'] || c.startsWord ['.', '.', '.']

end Cursor

/-- The text that stands for the breaks between two lines of a folded text: a single line feed is
a space, and after a line feed further breaks stand for themselves. -/
def foldBreaks (first more : List Char) : List Char :=
  if first ≠ ['\n'] then first ++ more else if more.isEmpty then [' '] else more

end ResolverWatch.Yaml
