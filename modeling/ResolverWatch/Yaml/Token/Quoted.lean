import ResolverWatch.Text.Points
import ResolverWatch.Yaml.Cursor
import ResolverWatch.Yaml.Fault

/-!
# Quoted scalars

A quoted scalar may run over several lines, which are folded. In single quotes a quote is written
twice and nothing else is special; in double quotes a backslash starts an escape, and before a
break it joins the lines.
-/

namespace ResolverWatch.Yaml.Quoted

open Text

/-- The character that a one-letter escape stands for. -/
def escape? : Char → Option Char
  | '0' => some '\x00'
  | 'a' => some '\x07'
  | 'b' => some '\x08'
  | 't' | '\t' => some '\t'
  | 'n' => some '\n'
  | 'v' => some '\x0b'
  | 'f' => some '\x0c'
  | 'r' => some '\r'
  | 'e' => some '\x1b'
  | ' ' => some ' '
  | '"' => some '"'
  | '/' => some '/'
  | '\\' => some '\\'
  | 'N' => some '\u0085'
  | '_' => some '\u00a0'
  | 'L' => some '\u2028'
  | 'P' => some '\u2029'
  | _ => none

/-- The number of hexadecimal digits after an escape that takes some. -/
def escapeWidth? : Char → Option Nat
  | 'x' => some 2
  | 'u' => some 4
  | 'U' => some 8
  | _ => none

/-- The code point of a code. -/
def pointOfCode (code : Nat) : Except Fault Point :=
  if lastCharCode < code then .error (.charCode code) else .ok (.ofNat code)

/-- The breaks at the cursor and the spaces between them. No mark that separates documents may
follow a break. -/
def breaks : Nat → Cursor → Except Fault (List Char × Cursor)
  | 0, _ => .error .invalid
  | fuel + 1, c =>
    if c.atSeparator then .error .invalid
    else match (c.skipWhile isGap).takeBreak with
      | ([], c) => .ok ([], c)
      | (b, c) => do
        let (more, c) ← breaks fuel c
        return (b ++ more, c)

/-- What the spaces and breaks at the cursor stand for. -/
def gap (c : Cursor) : Except Fault (List Char × Cursor) :=
  let (spaces, c) := c.span isGap
  match c.takeBreak with
  | ([], c) => .ok (spaces, c)
  | (first, c) => do
    let (more, c) ← breaks (c.rest.length + 1) c
    return (foldBreaks first more, c)

/-- What an escape stands for, from behind its backslash. -/
def escape (c : Cursor) : Except Fault (Points × Cursor) :=
  match c.peek with
  | none => .error .invalid
  | some ch =>
    match escape? ch, escapeWidth? ch with
    | some e, _ => .ok ([.char e], c.next)
    | none, some width =>
      let digits := c.next.rest.take width
      match hexNumber? digits with
      | some code =>
        if digits.length = width then (pointOfCode code).map fun p => ([p], c.next.skip width)
        else .error .invalid
      | none => .error .invalid
    | none, none =>
      if isBreak ch then (breaks (c.rest.length + 1) c.takeBreak.2).map fun (text, c) => (pointsOf text, c)
      else .error .invalid

/-- The next part of a scalar, or nothing at the closing quote; the cursor behind it. -/
def part (double : Bool) (c : Cursor) : Except Fault (Option Points × Cursor) :=
  let plain (ch : Char) : Option Points := some [.char ch]
  match c.peek with
  | none => .error .invalid
  | some ch =>
    if isGap ch || isBreak ch then (gap c).map fun (text, c) => (some (pointsOf text), c)
    else if double then
      if ch = '"' then .ok (none, c.next)
      else if ch = '\\' then (escape c.next).map fun (text, c) => (some text, c)
      else .ok (plain ch, c.next)
    else if ch = '\'' then
      if c.ahead 1 = some '\'' then .ok (plain ch, c.skip 2) else .ok (none, c.next)
    else .ok (plain ch, c.next)

/-- The rest of a scalar behind its opening quote. -/
def body (double : Bool) : Nat → Cursor → Except Fault (Points × Cursor)
  | 0, _ => .error .invalid
  | fuel + 1, c => do
    match ← part double c with
    | (none, c) => return ([], c)
    | (some text, c) =>
      let (more, c) ← body double fuel c
      return (text ++ more, c)

/-- The text of a quoted scalar, from its opening quote on. -/
def read (double : Bool) (c : Cursor) : Except Fault (Points × Cursor) :=
  body double (c.rest.length + 1) c.next

end ResolverWatch.Yaml.Quoted
