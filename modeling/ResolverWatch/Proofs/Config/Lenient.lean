import Mathlib.Tactic.SplitIfs
import ResolverWatch.Config.Lenient
import ResolverWatch.Proofs.Config.Readings

/-!
# What the lenient validator does

It checks mappings entry by entry (`entryWise_lenient`), holds values to their bounds (`keepsBounds_lenient`), and
takes a value of the declared type as it is (`keepsTyped_lenient`).
-/

namespace ResolverWatch.Config

open Text Yaml

/-! ## Gathering -/

section Gather

variable {σ : Type} {results : List (Except (List Detail) σ)}

theorem gather_eq_ok_iff {xs : List σ} : gather results = .ok xs ↔ results = xs.map .ok := by
  induction results generalizing xs with
  | nil => simp [gather, eq_comm]
  | cons r rest ih =>
    cases r with
    | ok x =>
      constructor
      · intro gathered
        obtain ⟨ys, others, rfl⟩ := exists_of_map_eq_ok gathered
        rw [ih.1 others]
        rfl
      · intro good
        cases xs with
        | nil => simp at good
        | cons y ys =>
          obtain ⟨same, others⟩ := List.cons.inj good
          obtain rfl := Except.ok.inj same
          show (gather rest).map (x :: ·) = .ok (x :: ys)
          rw [ih.2 others]
          rfl
    | error own =>
      refine iff_of_false ?_ (by cases xs <;> simp)
      unfold gather
      cases gather rest <;> simp

/-- What is reported is all that is wrong. -/
theorem mem_of_gather_eq_error {details : List Detail} (failed : gather results = .error details) (d : Detail) :
    d ∈ details ↔ ∃ own, .error own ∈ results ∧ d ∈ own := by
  induction results generalizing details with
  | nil => simp [gather] at failed
  | cons r rest ih =>
    cases r with
    | ok x =>
      have later : gather rest = .error details := by
        cases gathered : gather rest with
        | ok xs => simp [gather, gathered, Except.map] at failed
        | error others => simpa [gather, gathered, Except.map] using failed
      simpa using ih later
    | error own =>
      cases gathered : gather rest with
      | ok xs =>
        obtain rfl : own = details := by simpa [gather, gathered] using failed
        have fine := (eq_map_ok_iff.1 (gather_eq_ok_iff.1 gathered)).1
        simp [fine]
      | error others =>
        obtain rfl : own ++ others = details := by simpa [gather, gathered] using failed
        simp [ih gathered]

end Gather

/-! ## The three statements -/

theorem readModel_of_plain {σ : Type} (kind : String) (fields : String → Option (Value → Except (List Detail) σ))
    {entries : List (Scalar × Value)} (plain : ∀ e ∈ entries, isBrokenKey e = false) :
    readModel kind fields (.mapping entries) = gather (entries.map (outcome fields)) := by
  have none : entries.any isBrokenKey = false := by simpa using plain
  simp [readModel, none]

theorem readModel_of_broken {σ : Type} (kind : String) (fields : String → Option (Value → Except (List Detail) σ))
    {entries : List (Scalar × Value)} {e : Scalar × Value} (among : e ∈ entries) (half : isBrokenKey e = true) :
    readModel kind fields (.mapping entries) = .error [⟨[], .notUnicode⟩] :=
  if_pos (List.any_eq_true.2 ⟨e, among, half⟩)

/-- An entry whose key holds a half of a pair is not accepted. -/
theorem outcome_of_broken {σ : Type} (fields : String → Option (Value → Except (List Detail) σ)) {e : Scalar × Value}
    (half : isBrokenKey e = true) : outcome fields e = .error [⟨[], .notUnicode⟩] := by
  obtain ⟨key, v⟩ := e
  cases key with
  | text key =>
    have spelled : key.string? = none := by simpa [isBrokenKey] using half
    simp [outcome, spelled]
  | null | bool | int | real | bytes | moment => simp [isBrokenKey] at half

theorem entryWise_lenient : Validator.EntryWise where
  accepted kind fields entries xs := by
    show readModel kind fields (.mapping entries) = .ok xs ↔ _
    by_cases broken : ∃ e ∈ entries, isBrokenKey e = true
    · obtain ⟨e, among, half⟩ := broken
      rw [readModel_of_broken kind fields among half]
      refine iff_of_false nofun fun all => (eq_map_ok_iff.1 all).1 [⟨[], .notUnicode⟩] ?_
      exact List.mem_map.2 ⟨e, among, outcome_of_broken fields half⟩
    · rw [readModel_of_plain kind fields (by simpa using broken)]
      exact gather_eq_ok_iff
  refused kind fields entries plain details failed := by
    have gathered : readModel kind fields (.mapping entries) = .error details := failed
    rw [readModel_of_plain kind fields plain] at gathered
    exact mem_of_gather_eq_error gathered
  broken kind fields entries e among half := readModel_of_broken kind fields among half
  other kind fields v unmapped := by
    cases v with
    | mapping entries => exact absurd rfl (unmapped entries)
    | scalar | sequence => rfl

theorem keepsBounds_lenient : Validator.KeepsBounds where
  text least s t := by
    show longEnough least s = .ok t ↔ _
    unfold longEnough
    cases spelled : s.string? with
    | none =>
      refine iff_of_false nofun ?_
      rintro ⟨rfl, -⟩
      simp at spelled
    | some u =>
      obtain rfl := Points.string?_eq_some_iff.1 spelled
      have same : (u : Points) = t ↔ u = t := ⟨Spelled.points_inj, congrArg _⟩
      rw [same]
      by_cases long : least ≤ u.length
      · simp only [if_pos long, Except.ok.injEq]
        constructor
        · rintro rfl
          exact ⟨rfl, long⟩
        · exact And.left
      · simp only [if_neg long]
        refine iff_of_false nofun ?_
        rintro ⟨rfl, enough⟩
        exact long enough
  whole least n m := by
    show wholeAtLeast least n = .ok m ↔ _
    unfold wholeAtLeast
    split_ifs with enough <;> simp [enough]
  number least x y := by
    show numberAtLeast least x = .ok y ↔ _
    unfold numberAtLeast
    split_ifs with enough <;> simp [enough]

theorem keepsTyped_lenient : Validator.KeepsTyped where
  text _ := rfl
  optionalText _ := rfl
  noText := rfl
  truth _ := rfl
  whole _ := rfl
  number _ := rfl

end ResolverWatch.Config
