/-!
# Characters of a YAML document

The classes of characters that separate the parts of a document. The end of the text ends a line
and a word as a break does, so classes of the next character are stated for an optional one.
Carriage returns are not among the breaks, for line ends are unified before a document is read.
-/

namespace ResolverWatch.Yaml

/-- A document may hold tabs, line feeds and printable characters. -/
def isAllowed (c : Char) : Bool :=
  let n := c.toNat
  n == 0x9 || n == 0xa || n == 0x85 || (0x20 ≤ n && n ≤ 0x7e) || (0xa0 ≤ n && n ≤ 0xd7ff) ||
    (0xe000 ≤ n && n ≤ 0xfffd) || 0x10000 ≤ n

/-- A line break. -/
def isBreak (c : Char) : Bool :=
  c = '\n' || c = '\u0085' || c = '\u2028' || c = '\u2029'

/-- A space or a tab. -/
def isGap (c : Char) : Bool :=
  c = ' ' || c = '\t'

/-- The byte order mark. -/
def byteOrderMark : Char :=
  '\ufeff'

/-- A line ends before the next character. -/
def endsLine : Option Char → Bool
  | none => true
  | some c => isBreak c

/-- A space, a break or the end of the text is next. -/
def endsField : Option Char → Bool
  | none => true
  | some c => c = ' ' || isBreak c

/-- A space, a tab, a break or the end of the text is next. -/
def endsWord : Option Char → Bool
  | none => true
  | some c => isGap c || isBreak c

/-- A character of a directive's name, an anchor or a tag's handle. -/
def isNameChar (c : Char) : Bool :=
  c.isAlphanum || c = '-' || c = '_'

/-- A character of a tag or a tag's expansion. -/
def isUriChar (c : Char) : Bool :=
  c.isAlphanum || "-;/?:@&=+$,_.!~*'()[]%".contains c

/-- The value of a hexadecimal digit. -/
def hexValue? (c : Char) : Option Nat :=
  if c.isDigit then some (c.toNat - '0'.toNat)
  else if 'a' ≤ c ∧ c ≤ 'f' then some (c.toNat - 'a'.toNat + 10)
  else if 'A' ≤ c ∧ c ≤ 'F' then some (c.toNat - 'A'.toNat + 10)
  else none

/-- The number that hexadecimal digits spell, if all are such digits. -/
def hexNumber? (cs : List Char) : Option Nat :=
  (cs.mapM hexValue?).map fun ds => ds.foldl (fun n d => n * 16 + d) 0

/-- Inside brackets or braces, a character that ends a plain text. -/
def isFlowIndicator (c : Char) : Bool :=
  ",?[]\x7b\x7d".contains c

/-- Inside brackets or braces, a character before which a colon ends a plain text. -/
def endsFlowColon : Option Char → Bool
  | none => true
  | some c => isGap c || isBreak c || ",[]\x7b\x7d".contains c

end ResolverWatch.Yaml
