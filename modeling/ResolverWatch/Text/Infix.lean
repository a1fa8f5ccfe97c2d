/-!
# Substrings

`occursIn needle text` decides whether `needle` stands somewhere in `text`, that is whether
`text = a ++ needle ++ b` for some `a` and `b` (`occursIn_iff`).
-/

namespace ResolverWatch.Text

/-- The text `needle` stands somewhere in the given text. -/
def occursIn (needle : List Char) : List Char → Bool
  | [] => needle.isEmpty
  | c :: cs => needle.isPrefixOf (c :: cs) || occursIn needle cs

theorem occursIn_iff {needle text : List Char} :
    occursIn needle text = true ↔ ∃ a b, text = a ++ needle ++ b := by
  induction text with
  | nil =>
    cases needle with
    | nil => exact ⟨fun _ => ⟨[], [], rfl⟩, fun _ => rfl⟩
    | cons n ns => simp [occursIn]
  | cons c cs ih =>
    simp only [occursIn, Bool.or_eq_true, List.isPrefixOf_iff_prefix, ih]
    constructor
    · rintro (⟨b, hb⟩ | ⟨a, b, hb⟩)
      · exact ⟨[], b, by simp [hb]⟩
      · exact ⟨c :: a, b, by simp [hb]⟩
    · rintro ⟨a, b, h⟩
      cases a with
      | nil => exact .inl ⟨b, by simpa using h.symm⟩
      | cons x xs =>
        simp only [List.cons_append, List.cons.injEq] at h
        exact .inr ⟨xs, b, h.2⟩

end ResolverWatch.Text
