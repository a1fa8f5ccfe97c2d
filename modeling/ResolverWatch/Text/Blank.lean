import ResolverWatch.Text.Range

/-!
# White space

Lines and settings are trimmed of white space before they are read. `isSpace` is the Unicode
property White_Space; `isBlank` adds the four information separators, which end a word in a
metrics line as white space does. `trimBy` cuts a class of characters off both ends.
-/

namespace ResolverWatch.Text

/-- The code points with the property White_Space, in increasing order. -/
def spaceRanges : List (Nat × Nat) :=
  [
    (0x9, 0xe), (0x20, 0x21), (0x85, 0x86), (0xa0, 0xa1), (0x1680, 0x1681), (0x2000, 0x200b),
    (0x2028, 0x202a), (0x202f, 0x2030), (0x205f, 0x2060), (0x3000, 0x3001)
  ]

/-- White space proper. -/
def isSpace (c : Char) : Bool :=
  inRanges spaceRanges c.toNat

/-- White space or an information separator (U+001C to U+001F). -/
def isBlank (c : Char) : Bool :=
  isSpace c || (decide (0x1c ≤ c.toNat) && decide (c.toNat < 0x20))

/-- The text without the characters of class `p` at its end. -/
def trimEndBy (p : Char → Bool) (cs : List Char) : List Char :=
  (cs.reverse.dropWhile p).reverse

/-- The text without the characters of class `p` at either end. -/
def trimBy (p : Char → Bool) (cs : List Char) : List Char :=
  trimEndBy p (cs.dropWhile p)

/-- The text without blanks at either end. -/
def trim (cs : List Char) : List Char :=
  trimBy isBlank cs

theorem trimEndBy_append_of_all {p : Char → Bool} {cs tail : List Char} (all : ∀ c ∈ tail, p c = true) :
    trimEndBy p (cs ++ tail) = trimEndBy p cs := by
  simp only [trimEndBy, List.reverse_append]
  rw [List.dropWhile_append_of_pos (by simpa using all)]

end ResolverWatch.Text
