import ResolverWatch.Decimal.Literal
import ResolverWatch.Proofs.Float.Unique

/-!
# Literals are read as the nearest double
-/

namespace ResolverWatch.Decimal

/-- The number that a literal spells. -/
def Literal.value (l : Literal) : ℚ :=
  (if l.negative then -1 else 1) * (l.digits * 10 ^ l.exponent)

/-- A literal is read as the double nearest to its number. -/
theorem nearest_toFloat (l : Literal) : Double.Nearest l.toFloat l.negative l.value := by
  obtain ⟨negative, digits, exponent⟩ := l
  have nearest := Double.nearest_ofScientific digits (decide (exponent < 0)) exponent.natAbs
  have power : (if decide (exponent < 0) then -(exponent.natAbs : ℤ) else exponent.natAbs) = exponent := by
    split_ifs with below <;> rw [decide_eq_true_eq] at below <;> omega
  rw [power] at nearest
  unfold Literal.toFloat Literal.value
  cases negative with
  | false => simpa using nearest
  | true => simpa using nearest.neg

/-- The double that is read is the only nearest one. -/
theorem nearest_iff (l : Literal) (x : Float) : Double.Nearest x l.negative l.value ↔ x = l.toFloat := by
  constructor
  · intro nearest
    exact nearest.unique (nearest_toFloat l)
  · rintro rfl
    exact nearest_toFloat l

/-- The double nearest to the literal is finite. -/
def Literal.IsFinite (l : Literal) : Prop :=
  ∃ x, Double.Nearest x l.negative l.value ∧ x.isFinite = true

theorem isFinite_toFloat_iff (l : Literal) : l.toFloat.isFinite = true ↔ l.IsFinite := by
  constructor
  · intro finite
    exact ⟨l.toFloat, nearest_toFloat l, finite⟩
  · rintro ⟨x, nearest, finite⟩
    rwa [(nearest_iff l x).1 nearest] at finite

end ResolverWatch.Decimal
