import Mathlib.Tactic.SplitIfs
import ResolverWatch.Decimal.Layout

/-!
# The characters of numbers

The text of a finite double is made of digits, points, signs and the mark of a power
(`numberMark_of_mem_floatText`). The other doubles are written in letters: the names of infinity and of
the undefined value.
-/

namespace ResolverWatch.Decimal

/-- A character of the text of a finite number. -/
def NumberMark (c : Char) : Prop :=
  c.isDigit = true ∨ c ∈ ['.', 'e', '+', '-']

instance : DecidablePred NumberMark := fun c =>
  inferInstanceAs (Decidable (c.isDigit = true ∨ c ∈ ['.', 'e', '+', '-']))

theorem numberMark_of_mem_natDigits {n : Nat} {c : Char} (mem : c ∈ natDigits n) : NumberMark c :=
  .inl (Nat.isDigit_of_mem_toDigits (by decide) (by decide) mem)

theorem numberMark_of_mem_zeros {n : Nat} {c : Char} (mem : c ∈ List.replicate n '0') : NumberMark c := by
  rw [List.eq_of_mem_replicate mem]
  exact .inl (by decide)

section Digits

variable {ds : List Char} (digits : ∀ d ∈ ds, NumberMark d) {c : Char}
include digits

theorem numberMark_of_mem_fixedDigits {point : Int} (mem : c ∈ fixedDigits ds point) : NumberMark c := by
  unfold fixedDigits at mem
  dsimp only at mem
  split_ifs at mem
  · simp only [List.cons_append, List.mem_cons, List.mem_append] at mem
    rcases mem with rfl | rfl | zero | digit
    · exact .inl (by decide)
    · exact .inr (by decide)
    · exact numberMark_of_mem_zeros zero
    · exact digits c digit
  · simp only [List.mem_append, List.mem_cons, List.not_mem_nil, or_false] at mem
    rcases mem with (digit | zero) | rfl | rfl
    · exact digits c digit
    · exact numberMark_of_mem_zeros zero
    · exact .inr (by decide)
    · exact .inl (by decide)
  · simp only [List.mem_append, List.mem_cons] at mem
    rcases mem with digit | rfl | digit
    · exact digits c (List.mem_of_mem_take digit)
    · exact .inr (by decide)
    · exact digits c (List.mem_of_mem_drop digit)

theorem numberMark_of_mem_scientificDigits {exponent : Int} (mem : c ∈ scientificDigits ds exponent) :
    NumberMark c := by
  unfold scientificDigits at mem
  simp only [List.append_assoc, List.cons_append, List.mem_append, List.mem_cons] at mem
  rcases mem with mantissa | rfl | sign | zero | power
  · rcases ds with _ | ⟨d, _ | ⟨e, rest⟩⟩
    · simp at mantissa
    · exact digits c mantissa
    · simp only [List.mem_cons] at mantissa
      rcases mantissa with rfl | rfl | rfl | later
      · exact digits c (by simp)
      · exact .inr (by decide)
      · exact digits c (by simp)
      · exact digits c (by simp [later])
  · exact .inr (by decide)
  · rw [sign]
    split_ifs <;> exact .inr (by decide)
  · exact numberMark_of_mem_zeros zero
  · exact numberMark_of_mem_natDigits power

end Digits

theorem numberMark_of_mem_signText {s : Float.Model.UnpackedFloat.Sign} {c : Char} (mem : c ∈ signText s) :
    NumberMark c := by
  cases s with
  | positive => simp [signText] at mem
  | negative => exact .inr (by simp_all [signText])

/-- A finite double is written with digits, a point, signs and the mark of the power. -/
theorem numberMark_of_mem_floatText {layout : Layout} {x : Float} (finite : x.isFinite = true) {c : Char}
    (mem : c ∈ floatText layout x) : NumberMark c := by
  change x.toModel.unpack.isFinite = true at finite
  unfold floatText at mem
  revert finite mem
  cases x.toModel.unpack with
  | notANumber | infinity => exact nofun
  | zero s =>
    intro mem _
    rcases List.mem_append.1 mem with sign | digit
    · exact numberMark_of_mem_signText sign
    · simp only [List.mem_cons, List.not_mem_nil, or_false] at digit
      rcases digit with rfl | rfl | rfl
      · exact .inl (by decide)
      · exact .inr (by decide)
      · exact .inl (by decide)
  | finite s m q pos =>
    intro mem _
    rcases List.mem_append.1 mem with sign | digit
    · exact numberMark_of_mem_signText sign
    · unfold Scaled.text at digit
      dsimp only at digit
      split_ifs at digit
      · exact numberMark_of_mem_fixedDigits (fun _ => numberMark_of_mem_natDigits) digit
      · exact numberMark_of_mem_scientificDigits (fun _ => numberMark_of_mem_natDigits) digit

theorem floatText_of_isInf {x : Float} (infinite : x.isInf = true) :
    ∃ s, floatText .document x = signText s ++ "Infinity".toList := by
  change x.toModel.unpack.isInf = true at infinite
  unfold floatText
  revert infinite
  cases x.toModel.unpack with
  | infinity s => exact fun _ => ⟨s, rfl⟩
  | notANumber | zero | finite => exact nofun

theorem floatText_of_isNaN {x : Float} (undefined : x.isNaN = true) : floatText .document x = "NaN".toList := by
  change x.toModel.unpack.isNaN = true at undefined
  unfold floatText
  revert undefined
  cases x.toModel.unpack with
  | notANumber => exact fun _ => rfl
  | infinity | zero | finite => exact nofun

/-- A double is finite, infinite or undefined. -/
theorem isFinite_or (x : Float) : x.isFinite = true ∨ x.isInf = true ∨ x.isNaN = true := by
  show x.toModel.unpack.isFinite = true ∨ x.toModel.unpack.isInf = true ∨ x.toModel.unpack.isNaN = true
  cases x.toModel.unpack with
  | notANumber => exact .inr (.inr rfl)
  | infinity => exact .inr (.inl rfl)
  | zero | finite => exact .inl rfl

/-- What a character in the text of a double is part of. -/
theorem mem_floatText_cases {x : Float} {c : Char} (mem : c ∈ floatText .document x) :
    NumberMark c ∨ (x.isInf = true ∧ c ∈ "Infinity".toList) ∨ (x.isNaN = true ∧ c ∈ "NaN".toList) := by
  rcases isFinite_or x with finite | infinite | undefined
  · exact .inl (numberMark_of_mem_floatText finite mem)
  · obtain ⟨s, written⟩ := floatText_of_isInf infinite
    rw [written] at mem
    rcases List.mem_append.1 mem with sign | letter
    · exact .inl (numberMark_of_mem_signText sign)
    · exact .inr (.inl ⟨infinite, letter⟩)
  · rw [floatText_of_isNaN undefined] at mem
    exact .inr (.inr ⟨undefined, mem⟩)

theorem quote_not_mem_floatText (x : Float) : '"' ∉ floatText .document x := by
  intro mem
  rcases mem_floatText_cases mem with mark | ⟨-, letter⟩ | ⟨-, letter⟩
  · exact absurd mark (by decide)
  · exact absurd letter (by decide)
  · exact absurd letter (by decide)

theorem isInf_of_mem_floatText {x : Float} (mem : 'I' ∈ floatText .document x) : x.isInf = true := by
  rcases mem_floatText_cases mem with mark | ⟨infinite, -⟩ | ⟨-, letter⟩
  · exact absurd mark (by decide)
  · exact infinite
  · exact absurd letter (by decide)

theorem isNaN_of_mem_floatText {x : Float} (mem : 'N' ∈ floatText .document x) : x.isNaN = true := by
  rcases mem_floatText_cases mem with mark | ⟨-, letter⟩ | ⟨undefined, -⟩
  · exact absurd mark (by decide)
  · exact absurd letter (by decide)
  · exact undefined

end ResolverWatch.Decimal
