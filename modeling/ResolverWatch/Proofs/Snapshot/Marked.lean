import ResolverWatch.Proofs.Float.Sum
import ResolverWatch.Proofs.Text.Lower
import ResolverWatch.Snapshot.Basic

/-!
# Marked reasons

The responses that are counted as blocked are those whose reason holds the marker, both in lower case. A reason that
holds the marker as it is written is among them, unless the marker has a capital sigma whose form depends on what stands
around the marker (`mem_marked_iff`).
-/

namespace ResolverWatch.Breakdown

open Text

/-- The counts whose key holds the marker, both in lower case. -/
def marked (b : Breakdown) (marker : String) : Breakdown :=
  b.filter fun p => occursIn (lower marker.toList) (lower p.1.toList)

/-- The marked counts are summed, and no other ones. -/
theorem sumMarked_eq (b : Breakdown) (marker : String) :
    b.sumMarked marker = Double.sum ((b.marked marker).map Prod.snd) := by
  unfold sumMarked marked Double.sum
  rw [List.foldl_map, List.foldl_filter]

/-- The marked counts are those that are summed. The count of every reason that holds the marker as it is written is one
of them, whatever else the breakdown holds, iff the marker settles its capital sigmas; a marker without a capital sigma
does. -/
theorem mem_marked_iff (marker : String) :
    (∀ b : Breakdown, b.sumMarked marker = Double.sum ((b.marked marker).map Prod.snd)) ∧
    ((∀ before after : String, ∀ count, ∀ b : Breakdown, (before ++ marker ++ after, count) ∈ b →
        (before ++ marker ++ after, count) ∈ b.marked marker) ↔ SigmasSettled marker.toList) ∧
    ('Σ' ∉ marker.toList → SigmasSettled marker.toList) := by
  refine ⟨fun b => sumMarked_eq b marker, ?_, sigmasSettled_of_not_mem⟩
  rw [← occursIn_lower_iff]
  constructor
  · intro counted before after
    have mem := counted (String.ofList before) (String.ofList after) 0.0 [(_, 0.0)] (List.mem_singleton_self _)
    simpa using (List.mem_filter.1 mem).2
  · intro occurs before after count b mem
    refine List.mem_filter.2 ⟨mem, ?_⟩
    simpa using occurs before.toList after.toList

/-- A capital sigma at the end of a word is lowered to another letter than a single one. -/
theorem sumMarked_finalSigma :
    "ΟΔΟΣ" = "ΟΔΟ" ++ "Σ" ++ "" ∧ Breakdown.marked [("ΟΔΟΣ", 1.0)] "Σ" = [] ∧
      Breakdown.sumMarked [("ΟΔΟΣ", 1.0)] "Σ" = 0.0 := by
  decide +kernel

end ResolverWatch.Breakdown
