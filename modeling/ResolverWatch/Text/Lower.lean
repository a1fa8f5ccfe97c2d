import ResolverWatch.Text.CaseTable

/-!
# Lower case

Full lower-casing as Unicode defines it: most characters map to one other, the dotted capital I
becomes two, and a capital sigma takes its final form at the end of a word. Because of the last
rule the lower-case form of a text is not the concatenation of those of its parts.
-/

namespace ResolverWatch.Text

/-- The runs that hold `n` say what to add to it; all other code points are their own lower case. -/
def lowerCode : List LowerRun → Nat → Nat
  | [], n => n
  | r :: rs, n =>
    if n < r.first then n
    else if n ≤ r.last && (n - r.first) % r.step == 0 then (n + r.shift).toNat
    else lowerCode rs n

/-- A character with a case that the sigma rule does not look through. -/
def isCased (c : Char) : Bool :=
  inRanges casedRanges c.toNat

/-- A character that the sigma rule looks through, such as an accent or an apostrophe. -/
def isCaseIgnorable (c : Char) : Bool :=
  inRanges caseIgnorableRanges c.toNat

/-- Looking through ignorable characters, the text starts with a cased one. -/
def startsCased (cs : List Char) : Bool :=
  (cs.dropWhile isCaseIgnorable).head?.any isCased

/-- The lower-case form of a character, given the reversed text before it and the text after it. -/
def lowerAt (before : List Char) (c : Char) (after : List Char) : List Char :=
  if c = 'Σ' then [if startsCased before && !startsCased after then 'ς' else 'σ']
  else if c = 'İ' then ['i', '\u0307']
  else [Char.ofNat (lowerCode lowerRuns c.toNat)]

/-- Lower-cases a text that follows the reversed text `before`. -/
def lowerFrom (before : List Char) : List Char → List Char
  | [] => []
  | c :: rest => lowerAt before c rest ++ lowerFrom (c :: before) rest

/-- The lower-case form of a text. -/
def lower (cs : List Char) : List Char :=
  lowerFrom [] cs

theorem lowerAt_ne_nil (before : List Char) (c : Char) (after : List Char) :
    lowerAt before c after ≠ [] := by
  unfold lowerAt; split
  · simp
  · split <;> simp

end ResolverWatch.Text
