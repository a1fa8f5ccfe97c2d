import Mathlib.Data.List.Basic
import ResolverWatch.Text.Newline

/-!
# Lines inside a text

Unifying the line ends of a text leaves a line without line ends as it is, and acts on the texts before
and behind a line feed by themselves; so does cutting a text into its lines.
-/

namespace ResolverWatch.Text

theorem unifyNewlines_cons_of_ne {c : Char} (plain : c ≠ '\r') (rest : List Char) :
    unifyNewlines (c :: rest) = c :: unifyNewlines rest := by
  rw [unifyNewlines]
  · exact fun _ same _ => plain same
  · exact plain

theorem unifyNewlines_return {c : Char} (plain : c ≠ '\n') (rest : List Char) :
    unifyNewlines ('\r' :: c :: rest) = '\n' :: unifyNewlines (c :: rest) := by
  rw [unifyNewlines]
  intro cs same
  exact plain (List.cons.inj same).1

theorem unifyNewlines_append_of_not_mem {line : List Char} (plain : '\r' ∉ line) (rest : List Char) :
    unifyNewlines (line ++ rest) = line ++ unifyNewlines rest := by
  induction line with
  | nil => rfl
  | cons c cs ih =>
    obtain ⟨other, plain⟩ : '\r' ≠ c ∧ '\r' ∉ cs := by simpa using plain
    rw [List.cons_append, unifyNewlines_cons_of_ne other.symm, ih plain, List.cons_append]

theorem unifyNewlines_of_not_mem {cs : List Char} (plain : '\r' ∉ cs) : unifyNewlines cs = cs := by
  simpa [unifyNewlines] using unifyNewlines_append_of_not_mem plain []

/-- A line feed ends what precedes it, also a carriage return. -/
theorem exists_unifyNewlines_append_newline (as : List Char) :
    ∃ bs, ∀ rest, unifyNewlines (as ++ '\n' :: rest) = bs ++ '\n' :: unifyNewlines rest := by
  induction as using unifyNewlines.induct with
  | case1 => exact ⟨[], fun _ => rfl⟩
  | case2 as ih =>
    obtain ⟨bs, unified⟩ := ih
    exact ⟨'\n' :: bs, fun rest => congrArg ('\n' :: ·) (unified rest)⟩
  | case3 as notBefore ih =>
    cases as with
    | nil => exact ⟨[], fun _ => rfl⟩
    | cons c cs =>
      have plain : c ≠ '\n' := fun same => notBefore cs (by rw [same])
      obtain ⟨bs, unified⟩ := ih
      refine ⟨'\n' :: bs, fun rest => ?_⟩
      have later := unified rest
      rw [List.cons_append] at later
      rw [List.cons_append, List.cons_append, unifyNewlines_return plain, later, List.cons_append]
  | case4 c as _ plain ih =>
    obtain ⟨bs, unified⟩ := ih
    refine ⟨c :: bs, fun rest => ?_⟩
    rw [List.cons_append, unifyNewlines_cons_of_ne plain, unified rest, List.cons_append]

theorem splitLines_append_newline (as bs : List Char) :
    splitLines (as ++ '\n' :: bs) = splitLines as ++ splitLines bs := by
  simp only [splitLines_eq_splitOn, List.splitOn_append_cons_self]

theorem splitLines_of_not_mem {line : List Char} (plain : '\n' ∉ line) : splitLines line = [line] := by
  induction line with
  | nil => rfl
  | cons c cs ih =>
    obtain ⟨other, plain⟩ : '\n' ≠ c ∧ '\n' ∉ cs := by simpa using plain
    rw [splitLines, if_neg other.symm, ih plain]

end ResolverWatch.Text
