import ResolverWatch.Decimal.Literal
import ResolverWatch.Text.Utf8
import ResolverWatch.Yaml.Cursor
import ResolverWatch.Yaml.Fault
import ResolverWatch.Yaml.Token

/-!
# Directives, anchors and tags

The parts of a document that are names: what a directive declares, the anchors of nodes and the
aliases that refer to them, and tags, which may be shortened by a handle.
-/

namespace ResolverWatch.Yaml.Property

open Text Decimal

/-- A name of at least one character, and the cursor behind it. -/
def name (c : Cursor) : Except Fault (String × Cursor) :=
  match c.span isNameChar with
  | ([], _) => .error .invalid
  | (cs, c) => .ok (String.ofList cs, c)

/-- An anchor or an alias ends before a space or one of these. -/
def endsAnchor : Option Char → Bool
  | none => true
  | some c => isGap c || isBreak c || "?:,]\x7d%@\x60".contains c

/-- The name of an anchor or an alias, from behind its mark. -/
def anchor (c : Cursor) : Except Fault (String × Cursor) := do
  let (s, c) ← name c
  if endsAnchor c.peek then return (s, c)
  throw .invalid

/-- The bytes that escapes of two hexadecimal digits stand for. -/
def escapedBytes : Nat → Cursor → Except Fault (List UInt8 × Cursor)
  | 0, c => .ok ([], c)
  | fuel + 1, c =>
    if c.peek = some '%' then
      match c.rest with
      | _ :: a :: b :: _ =>
        match hexNumber? [a, b] with
        | some n => do
          let (more, c) ← escapedBytes fuel (c.skip 3)
          return (n.toUInt8 :: more, c)
        | none => .error .invalid
      | _ => .error .invalid
    else .ok ([], c)

/-- The characters of a tag. Escapes next to each other are one piece of UTF-8. -/
def uriChars : Nat → Cursor → Except Fault (List Char × Cursor)
  | 0, c => .ok ([], c)
  | fuel + 1, c =>
    match c.peek with
    | none => .ok ([], c)
    | some ch =>
      if ch = '%' then do
        let (bytes, c) ← escapedBytes (c.rest.length + 1) c
        let cs ← (Utf8.decode bytes).mapError fun _ => .invalid
        let (more, c) ← uriChars fuel c
        return (cs ++ more, c)
      else if isUriChar ch then do
        let (more, c) ← uriChars fuel c.next
        return (ch :: more, c)
      else .ok ([], c)

/-- A tag's suffix or an expansion, of at least one character. -/
def uri (c : Cursor) : Except Fault (String × Cursor) := do
  match ← uriChars (c.rest.length + 1) c with
  | ([], _) => throw .invalid
  | (cs, c) => return (String.ofList cs, c)

/-- A handle: a name between two exclamation marks, or one mark alone. One mark before a space is
a whole handle. -/
def handle (c : Cursor) : Except Fault (String × Cursor) :=
  if c.peek ≠ some '!' then .error .invalid
  else if c.ahead 1 = some ' ' then .ok ("!", c.next)
  else
    let (cs, c) := c.next.span isNameChar
    if c.peek = some '!' then .ok (String.ofList ('!' :: cs ++ ['!']), c.next) else .error .invalid

/-- The handle and the suffix of a tag at its exclamation mark. -/
def tagParts (c : Cursor) : Except Fault (Option String × String × Cursor) :=
  if c.ahead 1 = some '<' then do
    let (suffix, c) ← uri (c.skip 2)
    if c.peek = some '>' then return (none, suffix, c.next)
    throw .invalid
  else if endsWord (c.ahead 1) then .ok (none, "!", c.next)
  else do
    let word := c.next.rest.takeWhile fun ch => !endsField (some ch)
    let (handle, c) ← if word.contains '!' then handle c else pure ("!", c.next)
    let (suffix, c) ← uri c
    return (some handle, suffix, c)

/-- A tag, which a space or the end of the line follows. -/
def tag (c : Cursor) : Except Fault (Token × Cursor) := do
  let (handle, suffix, c) ← tagParts c
  if endsField c.peek then return (.tag handle suffix, c)
  throw .invalid

/-- A number in the version of a document. -/
def versionNumber (c : Cursor) : Except Fault (Nat × Cursor) :=
  let (ds, _) := spanDigits asciiDigitValue? c.rest
  if ds.isEmpty then .error .invalid
  else if longestDecimal < ds.length then .error (.wholeDigits ds.length)
  else .ok (ofDigits 10 ds, c.skip ds.length)

/-- What a directive that tells the version of a document declares. -/
def version (c : Cursor) : Except Fault (Token × Cursor) := do
  let (major, c) ← versionNumber (c.skipWhile (· = ' '))
  if c.peek ≠ some '.' then throw .invalid
  let (_, c) ← versionNumber c.next
  if endsField c.peek then return (.version major, c)
  throw .invalid

/-- What a directive that declares a handle says. -/
def tagHandle (c : Cursor) : Except Fault (Token × Cursor) := do
  let (handle, c) ← handle (c.skipWhile (· = ' '))
  if c.peek ≠ some ' ' then throw .invalid
  let (expansion, c) ← uri (c.skipWhile (· = ' '))
  if endsField c.peek then return (.tagHandle handle expansion, c)
  throw .invalid

/-- What a directive of a given name declares; unknown ones declare nothing. -/
def declaration (name : String) (c : Cursor) : Except Fault (Token × Cursor) :=
  if name = "YAML" then version c
  else if name = "TAG" then tagHandle c
  else .ok (.directive, c.skipWhile fun ch => !isBreak ch)

/-- A directive, from its percent sign to the end of its line. -/
def directive (c : Cursor) : Except Fault (Token × Cursor) := do
  let (name, c) ← name c.next
  if !endsField c.peek then throw .invalid
  let (token, c) ← declaration name c
  let c := c.skipComment
  if endsLine c.peek then return (token, c.takeBreak.2)
  throw .invalid

end ResolverWatch.Yaml.Property
