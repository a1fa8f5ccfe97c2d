import ResolverWatch.Text.Word

/-!
# Label blocks

The block of labels of a sample is searched for `key="value"` pairs; whatever stands between them
is passed over, and the last value of a repeated key counts. A value runs to the next quote, so
a pair whose value is not closed ends the search, and one pass over the characters is enough.
-/

namespace ResolverWatch

open Text

/-- Labels by key; a key occurs once. -/
abbrev Labels := List (String × String)

/-- Sets a label, in the place of an earlier one with the same key. -/
def Labels.put : Labels → String → String → Labels
  | [], key, value => [(key, value)]
  | (k, v) :: rest, key, value =>
    if k = key then (k, value) :: rest else (k, v) :: Labels.put rest key value

/-- The value of a label. -/
def Labels.get? (labels : Labels) (key : String) : Option String :=
  labels.lookup key

/-- Labels from pairs in order; the last value of a repeated key counts. -/
def Labels.ofPairs (pairs : List (String × String)) : Labels :=
  pairs.foldl (fun labels p => Labels.put labels p.1 p.2) []

/-- How far a search for pairs has come: nowhere, in a key, behind the equals sign after it, or in
the quoted value. Texts are held last character first. -/
inductive Labels.Search
  | between
  | inKey (key : List Char)
  | afterEquals (key : List Char)
  | inValue (key value : List Char)
  deriving DecidableEq, Repr

/-- The pairs in the rest of a label block. -/
def Labels.pairsFrom : Labels.Search → List Char → List (String × String)
  | _, [] => []
  | .between, c :: cs => pairsFrom (if isWord c then .inKey [c] else .between) cs
  | .inKey key, c :: cs =>
    pairsFrom (if isWord c then .inKey (c :: key) else if c = '=' then .afterEquals key else .between) cs
  | .afterEquals key, c :: cs =>
    pairsFrom (if c = '"' then .inValue key [] else if isWord c then .inKey [c] else .between) cs
  | .inValue key value, c :: cs =>
    if c = '"' then
      (String.ofList key.reverse, String.ofList value.reverse) :: pairsFrom .between cs
    else pairsFrom (.inValue key (c :: value)) cs

/-- The labels of a block. -/
def Labels.ofBlock (block : List Char) : Labels :=
  Labels.ofPairs (pairsFrom .between block)

@[simp] theorem Labels.get?_put_self (labels : Labels) (key value : String) :
    (labels.put key value).get? key = some value := by
  induction labels with
  | nil => simp [Labels.put, Labels.get?]
  | cons p rest ih =>
    obtain ⟨k, v⟩ := p
    unfold Labels.put
    split
    · next same => simp [Labels.get?, same]
    · next differs =>
      have other : (key == k) = false := by simpa using fun same => differs same.symm
      simpa [Labels.get?, List.lookup_cons, other] using ih

theorem Labels.get?_put_of_ne (labels : Labels) {key other : String} (value : String) (differs : other ≠ key) :
    (labels.put key value).get? other = labels.get? other := by
  have unequal : (other == key) = false := by simpa using differs
  induction labels with
  | nil => simp [Labels.put, Labels.get?, List.lookup_cons, unequal]
  | cons p rest ih =>
    obtain ⟨k, v⟩ := p
    unfold Labels.put
    split
    · next same => subst same; simp [Labels.get?, List.lookup_cons, unequal]
    · simp only [Labels.get?, List.lookup_cons] at ih ⊢
      rw [ih]

end ResolverWatch
