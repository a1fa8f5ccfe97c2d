/-!
# Sets of code points as sorted ranges

A character class is a list of half-open ranges of code points in increasing order.
`inRanges` stops at the first range that starts above the code point, and on a sorted
list that answers membership in any of them (`inRanges_iff`).
-/

namespace ResolverWatch.Text

/-- Membership of a code point in sorted half-open ranges. -/
def inRanges : List (Nat × Nat) → Nat → Bool
  | [], _ => false
  | (lo, hi) :: rest, n => if n < lo then false else if n < hi then true else inRanges rest n

/-- Each range starts at or after the end of the one before. -/
def RangesSorted (rs : List (Nat × Nat)) : Prop :=
  rs.Pairwise fun a b => a.2 ≤ b.1

theorem inRanges_iff {rs : List (Nat × Nat)} (sorted : RangesSorted rs) (ordered : ∀ r ∈ rs, r.1 ≤ r.2)
    {n : Nat} : inRanges rs n = true ↔ ∃ r ∈ rs, r.1 ≤ n ∧ n < r.2 := by
  induction rs with
  | nil => simp [inRanges]
  | cons r rest ih =>
    obtain ⟨lo, hi⟩ := r
    obtain ⟨first, later⟩ := List.pairwise_cons.1 sorted
    obtain ⟨here, others⟩ := List.forall_mem_cons.1 ordered
    dsimp only at first here
    unfold inRanges
    by_cases before : n < lo
    · rw [if_pos before]
      simp only [Bool.false_eq_true, false_iff, not_exists, not_and, List.mem_cons, forall_eq_or_imp]
      refine ⟨by omega, fun r mem above => ?_⟩
      have behind := first r mem
      omega
    · rw [if_neg before]
      by_cases within : n < hi
      · rw [if_pos within]
        exact iff_of_true rfl ⟨(lo, hi), List.mem_cons_self, Nat.le_of_not_lt before, within⟩
      · rw [if_neg within, ih later others]
        constructor
        · rintro ⟨r, mem, inside⟩
          exact ⟨r, List.mem_cons_of_mem _ mem, inside⟩
        · rintro ⟨r, mem, inside⟩
          rcases List.mem_cons.1 mem with rfl | mem
          · exact absurd inside.2 within
          · exact ⟨r, mem, inside⟩

end ResolverWatch.Text
