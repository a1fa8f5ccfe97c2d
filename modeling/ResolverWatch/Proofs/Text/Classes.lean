import Mathlib.Data.List.Basic
import ResolverWatch.Text.Blank
import ResolverWatch.Text.Digit
import ResolverWatch.Text.Word

/-!
# Classes of characters that exclude each other

No blank is a word character or a digit, so the end of a word or of a number is forced where a blank follows. What is
left of a text when it is trimmed is told by its first and its last character (`trim_append`).
-/

namespace ResolverWatch.Text

/-! ## Blanks -/

/-- The code points of blanks. -/
def blanks : List Nat :=
  (spaceRanges ++ [(0x1c, 0x20)]).flatMap fun (r : Nat × Nat) => List.range' r.1 (r.2 - r.1)

theorem mem_blanks {c : Char} (blank : isBlank c = true) : c.toNat ∈ blanks := by
  have sorted : RangesSorted spaceRanges := by
    unfold RangesSorted spaceRanges
    decide
  have range : ∃ r ∈ spaceRanges ++ [((0x1c : Nat), (0x20 : Nat))], r.1 ≤ c.toNat ∧ c.toNat < r.2 := by
    rcases (Bool.or_eq_true _ _).mp blank with space | separator
    · obtain ⟨r, mem, bounds⟩ := (inRanges_iff sorted (by decide)).1 space
      exact ⟨r, List.mem_append_left _ mem, bounds⟩
    · rw [Bool.and_eq_true, decide_eq_true_eq, decide_eq_true_eq] at separator
      exact ⟨_, List.mem_append_right _ (List.mem_singleton.2 rfl), separator⟩
  obtain ⟨r, mem, least, most⟩ := range
  exact List.mem_flatMap.2 ⟨r, mem, List.mem_range'_1.2 ⟨least, by omega⟩⟩

theorem classes_of_mem_blanks : ∀ n ∈ blanks, inRanges wordRanges n = false ∧ digitValueFrom digitZeros n = none ∧
    n ∉ ['{', '"', '+', '-', '.', 'e', 'E'].map Char.toNat := by
  decide +kernel

section Blank

variable {c : Char} (blank : isBlank c = true)
include blank

theorem isWord_of_isBlank : isWord c = false :=
  (classes_of_mem_blanks _ (mem_blanks blank)).1

theorem digitValue?_of_isBlank : digitValue? c = none :=
  (classes_of_mem_blanks _ (mem_blanks blank)).2.1

theorem ne_of_isBlank : c ∉ ['{', '"', '+', '-', '.', 'e', 'E'] :=
  fun mem => (classes_of_mem_blanks _ (mem_blanks blank)).2.2 (List.mem_map_of_mem mem)

end Blank

/-! ## Trimming -/

section Trim

variable {p : Char → Bool} {text : List Char}

theorem dropWhile_eq_self (starts : ∀ c ∈ text.head?, p c = false) : text.dropWhile p = text := by
  cases text with
  | nil => rfl
  | cons c cs => exact List.dropWhile_cons_of_neg (by rw [starts c rfl]; exact Bool.false_ne_true)

/-- A run of a class is cut off where a character of another class follows. -/
theorem takeWhile_append_of_stop {cs rest : List Char} (all : ∀ c ∈ cs, p c = true)
    (stop : ∀ c ∈ rest.head?, p c = false) : (cs ++ rest).takeWhile p = cs ∧ (cs ++ rest).dropWhile p = rest := by
  have none : rest.takeWhile p = [] := by
    cases rest with
    | nil => rfl
    | cons c rest => exact List.takeWhile_cons_of_neg (by rw [stop c rfl]; exact Bool.false_ne_true)
  rw [List.takeWhile_append_of_pos all, List.dropWhile_append_of_pos all, none, dropWhile_eq_self stop]
  exact ⟨List.append_nil cs, rfl⟩

theorem trimBy_append {lead trail : List Char} (before : ∀ c ∈ lead, p c = true) (after : ∀ c ∈ trail, p c = true)
    (nonempty : text ≠ []) (starts : ∀ c ∈ text.head?, p c = false) (ends : ∀ c ∈ text.getLast?, p c = false) :
    trimBy p (lead ++ text ++ trail) = text := by
  have dropped : (lead ++ text ++ trail).dropWhile p = text ++ trail := by
    rw [List.append_assoc, List.dropWhile_append_of_pos before]
    refine dropWhile_eq_self ?_
    rw [List.head?_append_of_ne_nil _ nonempty]
    exact starts
  have reversed : text.reverse.dropWhile p = text.reverse := by
    refine dropWhile_eq_self ?_
    rw [List.head?_reverse]
    exact ends
  unfold trimBy
  rw [dropped, trimEndBy_append_of_all after]
  unfold trimEndBy
  rw [reversed, List.reverse_reverse]

theorem trim_append {lead trail : List Char} (before : ∀ c ∈ lead, isBlank c = true)
    (after : ∀ c ∈ trail, isBlank c = true) (nonempty : text ≠ []) (starts : ∀ c ∈ text.head?, isBlank c = false)
    (ends : ∀ c ∈ text.getLast?, isBlank c = false) : trim (lead ++ text ++ trail) = text :=
  trimBy_append before after nonempty starts ends

end Trim

end ResolverWatch.Text
