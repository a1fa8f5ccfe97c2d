import Mathlib.Data.List.Infix
import ResolverWatch.Proofs.Storage.Reading

/-!
# Files that can be appended to

A file is made with all directories on the way to it. This goes well iff no file stands on the way, no directory stands
at its end, and each name that is missing can be given (`touch_makeDirectories_iff`).
-/

namespace ResolverWatch.Storage

/-- There can be an entry at the place: its name is allowed. -/
def Nameable (p : Place) : Prop :=
  p.getLast?.bind nameFault? = none

/-- A directory is at the place, or can be made there. -/
def Enterable (s : Storage) (p : Place) : Prop :=
  s.get? p = some .directory ∨ s.get? p = none ∧ Nameable p

/-- A file is at the place, or can be made there once the directories on the way are. -/
structure Appendable (s : Storage) (p : Place) : Prop where
  way : ∀ q, q ≠ [] → q ≠ p → q <+: p → s.Enterable q
  goal : (∃ bytes, s.get? p = some (.file bytes)) ∨ s.get? p = none ∧ Nameable p

theorem nameable_concat {here : Place} {name : String} : Nameable (here ++ [name]) ↔ nameFault? name = none := by
  unfold Nameable
  rw [List.getLast?_append_of_ne_nil _ (List.cons_ne_nil _ _)]
  rfl

theorem enterable_put {s : Storage} {p q : Place} (other : q ≠ p) (e : Entry) :
    (s.put p e).Enterable q ↔ s.Enterable q := by
  unfold Enterable
  rw [get?_put_of_ne other]

/-- The ways on from a place are its next name alone, or the next name with the ways on from there. -/
theorem forall_prefix_cons {P : Place → Prop} {here : Place} {name : String} {rest : List String} :
    (∀ q, q ≠ [] → q <+: name :: rest → P (here ++ q)) ↔
      P (here ++ [name]) ∧ ∀ q, q ≠ [] → q <+: rest → P (here ++ [name] ++ q) := by
  constructor
  · intro all
    refine ⟨all [name] (List.cons_ne_nil _ _) (List.prefix_cons_inj name |>.2 (List.nil_prefix)), ?_⟩
    intro q _ ahead
    have longer := all (name :: q) (List.cons_ne_nil _ _) ((List.prefix_cons_inj name).2 ahead)
    rwa [List.append_assoc]
  · rintro ⟨first, later⟩ q nonempty ahead
    rcases List.prefix_cons_iff.1 ahead with rfl | ⟨rest', rfl, further⟩
    · contradiction
    · by_cases last : rest' = []
      · rw [last]
        exact first
      · have longer := later rest' last further
        rwa [List.append_assoc] at longer

/-- Directories are made iff each place on the way is one or can be made one. -/
theorem makeFrom_snd_eq_none_iff (s : Storage) (here : Place) (names : List String) :
    (s.makeFrom here names).2 = none ↔ ∀ q, q ≠ [] → q <+: names → s.Enterable (here ++ q) := by
  induction names generalizing s here with
  | nil =>
    refine iff_of_true rfl fun q nonempty ahead => ?_
    exact absurd (List.prefix_nil.1 ahead) nonempty
  | cons name rest ih =>
    rw [forall_prefix_cons (P := s.Enterable)]
    unfold makeFrom
    dsimp only
    split
    · next found =>
      rw [ih]
      exact (and_iff_right (.inl found)).symm
    · next found =>
      refine iff_of_false (Option.some_ne_none _) fun ⟨enterable, _⟩ => ?_
      rw [Enterable, found] at enterable
      rcases enterable with directory | ⟨missing, -⟩
      · nomatch directory
      · contradiction
    · next missing fault =>
      refine iff_of_false (Option.some_ne_none _) fun ⟨enterable, _⟩ => ?_
      rw [Enterable, missing, nameable_concat, fault] at enterable
      rcases enterable with directory | ⟨-, allowed⟩
      · contradiction
      · contradiction
    · next missing allowed =>
      have enterable : s.Enterable (here ++ [name]) := .inr ⟨missing, nameable_concat.2 allowed⟩
      rw [ih, and_iff_right enterable]
      -- The directory that was made is none of those further on.
      refine forall_congr' fun q => forall_congr' fun nonempty => forall_congr' fun _ => enterable_put ?_ _
      intro same
      exact nonempty (List.append_right_eq_self.1 same)

/-- Nothing is made beyond the last of the directories. -/
theorem get?_makeFrom_of_length_lt (s : Storage) (here : Place) (names : List String) {p : Place}
    (beyond : here.length + names.length < p.length) : (s.makeFrom here names).1.get? p = s.get? p := by
  induction names generalizing s here with
  | nil => rfl
  | cons name rest ih =>
    rw [List.length_cons] at beyond
    have further : (here ++ [name]).length + rest.length < p.length := by
      rw [List.length_append, List.length_singleton]
      omega
    unfold makeFrom
    dsimp only
    split
    · exact ih s _ further
    · rfl
    · rfl
    · rw [ih _ _ further]
      apply get?_put_of_ne
      rintro rfl
      rw [List.length_append, List.length_singleton] at beyond
      omega

theorem exists_touch_iff (s : Storage) (p : Place) :
    (∃ t, s.touch p = .ok t) ↔ (∃ bytes, s.get? p = some (.file bytes)) ∨ s.get? p = none ∧ Nameable p := by
  unfold touch Nameable
  split
  · next bytes found => exact iff_of_true ⟨s, rfl⟩ (.inl ⟨bytes, found⟩)
  · next found => simp [found]
  · next missing =>
    rw [missing]
    cases p.getLast?.bind nameFault? with
    | some f => simp
    | none => simp

/-- A file is made, or there, iff it can be appended to. -/
theorem touch_makeDirectories_iff (s : Storage) (p : Place) :
    ((s.makeDirectories p.dropLast).2 = none ∧ ∃ t, (s.makeDirectories p.dropLast).1.touch p = .ok t) ↔
      s.Appendable p := by
  rcases List.eq_nil_or_concat p with rfl | ⟨way, name, rfl⟩
  · refine iff_of_false (fun ⟨_, t, touched⟩ => ?_) fun appendable => ?_
    · contradiction
    · rcases appendable.goal with ⟨bytes, found⟩ | ⟨missing, -⟩
      · nomatch found
      · contradiction
  · rw [List.concat_eq_append, List.dropLast_concat, exists_touch_iff]
    unfold makeDirectories
    have beyond : ([] : Place).length + way.length < (way ++ [name]).length := by simp
    rw [makeFrom_snd_eq_none_iff, get?_makeFrom_of_length_lt s [] way beyond]
    constructor
    · rintro ⟨enterable, goal⟩
      refine ⟨fun q nonempty other ahead => ?_, goal⟩
      exact enterable q nonempty ((List.prefix_concat_iff.1 ahead).resolve_left other)
    · rintro ⟨enterable, goal⟩
      refine ⟨fun q nonempty ahead => ?_, goal⟩
      apply enterable q nonempty ?_ (ahead.trans (List.prefix_append _ _))
      rintro rfl
      have short := ahead.length_le
      rw [List.length_append, List.length_singleton] at short
      omega

end ResolverWatch.Storage
