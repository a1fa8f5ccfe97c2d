import Mathlib

/-!
# Sums of doubles that leave the finite range

A sum of two finite doubles is a number or an infinity, never undefined, and once a running sum is
infinite it stays so. Hence a sum of finite doubles, taken from the left, is never undefined
(`isNaN_sum`), and it is finite iff all its running sums are (`isFinite_sum_iff`).
-/

namespace ResolverWatch.Double

open Float.Model

/-! ## Rounding -/

theorem unpack_pack_infinity (s : UnpackedFloat.Sign) : (pack (.infinity s)).unpack = .infinity s := by
  cases s <;> rfl

theorem isNaN_of_isFinite_unpacked {a : UnpackedFloat} (finite : a.isFinite = true) : a.isNaN = false := by
  cases a with
  | notANumber => exact absurd finite Bool.false_ne_true
  | infinity | zero | finite => rfl

/-- Only the greatest exponent is left to infinities and the undefined value. -/
theorem isFinite_unpack_of_exponent {b : BitVec Format.binary64.numBits}
    (finite : UnpackedFloat.unpackExponent b ≠ -1#_) : (UnpackedFloat.unpack Format.binary64 b).isFinite = true := by
  unfold UnpackedFloat.unpack
  dsimp only
  rw [if_neg finite]
  split_ifs <;> rfl

/-- Packing a number gives a number, or an infinity if the exponent is too great. -/
theorem unpack_pack_finite (s : UnpackedFloat.Sign) (m : Nat) (e : Int) (pos : 0 < m) :
    (971 < e ∧ (pack (.finite s m e pos)).unpack = .infinity s) ∨
      (pack (.finite s m e pos)).unpack.isFinite = true := by
  by_cases overflow :
      2 ^ Format.binary64.exponentBits ≤
        (e + Format.binary64.exponentBias + Format.binary64.mantissaBitsWithoutImplicit).toNat + 1
  · refine .inl ⟨?exponent, ?infinite⟩
    case exponent =>
      have number : 2 ^ 11 ≤ (e + 1023 + 52).toNat + 1 := overflow
      omega
    case infinite =>
      rw [← unpack_pack_infinity]
      show UnpackedFloat.unpack Format.binary64 (UnpackedFloat.pack Format.binary64 (.finite s m e pos)) = _
      unfold UnpackedFloat.pack
      dsimp only
      rw [if_pos overflow]
      rfl
  · refine .inr (isFinite_unpack_of_exponent ?_)
    show UnpackedFloat.unpackExponent (UnpackedFloat.pack Format.binary64 (.finite s m e pos)) ≠ _
    unfold UnpackedFloat.pack
    dsimp only
    rw [if_neg overflow]
    split_ifs
    · rw [UnpackedFloat.unpackExponent_packComponents]
      intro greatest
      apply overflow
      have number := congrArg BitVec.toNat greatest
      simp [Format.binary64] at number ⊢
      omega
    · rw [UnpackedFloat.unpackExponent_packComponents]
      decide

theorem isNaN_unpack_pack_finite (s : UnpackedFloat.Sign) (m : Nat) (e : Int) (pos : 0 < m) :
    (pack (.finite s m e pos)).unpack.isNaN = false := by
  rcases unpack_pack_finite s m e pos with ⟨-, infinite⟩ | finite
  · rw [infinite]
    rfl
  · exact isNaN_of_isFinite_unpacked finite

/-! ## One addition -/

theorem isFinite_round (s : UnpackedFloat.Sign) (m : Nat) (e : Int) :
    (UnpackedFloat.round Format.binary64 s m e).isFinite = true := by
  unfold UnpackedFloat.round UnpackedFloat.roundWithAccuracy
  dsimp only
  split <;> rfl

theorem isFinite_normalize (m e : Int) (s : UnpackedFloat.Sign) :
    (UnpackedFloat.normalize Format.binary64 m e s).isFinite = true := by
  unfold UnpackedFloat.normalize
  split
  · exact isFinite_round ..
  · rfl
  · exact isFinite_round ..

/-- The exact sum of numbers is a number; only packing it may overflow. -/
theorem isFinite_unpacked_add {a b : UnpackedFloat} (left : a.isFinite = true) (right : b.isFinite = true) :
    (UnpackedFloat.add Format.binary64 a b).isFinite = true := by
  cases a with
  | notANumber | infinity => exact absurd left Bool.false_ne_true
  | zero s =>
    cases b with
    | notANumber | infinity => exact absurd right Bool.false_ne_true
    | zero t => cases s <;> cases t <;> rfl
    | finite t n f pos => rfl
  | finite s m e pos =>
    cases b with
    | notANumber | infinity => exact absurd right Bool.false_ne_true
    | zero t => rfl
    | finite t n f pos' => exact isFinite_normalize ..

theorem unpack_add (x y : Float) :
    (x + y).toModel.unpack = (pack (UnpackedFloat.add Format.binary64 x.toModel.unpack y.toModel.unpack)).unpack :=
  rfl

theorem isNaN_add {x y : Float} (left : x.isFinite = true) (right : y.isFinite = true) : (x + y).isNaN = false := by
  have exact : (UnpackedFloat.add Format.binary64 x.toModel.unpack y.toModel.unpack).isFinite = true :=
    isFinite_unpacked_add left right
  show (x + y).toModel.unpack.isNaN = false
  rw [unpack_add]
  revert exact
  cases UnpackedFloat.add Format.binary64 x.toModel.unpack y.toModel.unpack with
  | notANumber | infinity => exact nofun
  | zero s => exact fun _ => by cases s <;> rfl
  | finite s m e pos => exact fun _ => isNaN_unpack_pack_finite s m e pos

/-- An infinity absorbs what is added to it. -/
theorem isInf_add {x y : Float} (left : x.isInf = true) (right : y.isFinite = true) : (x + y).isInf = true := by
  change x.toModel.unpack.isInf = true at left
  change y.toModel.unpack.isFinite = true at right
  show (x + y).toModel.unpack.isInf = true
  rw [unpack_add]
  revert left right
  cases x.toModel.unpack with
  | notANumber | zero | finite => exact nofun
  | infinity s =>
    cases y.toModel.unpack with
    | notANumber | infinity => exact nofun
    | zero | finite =>
      intro _ _
      show (pack (.infinity s)).unpack.isInf = true
      rw [unpack_pack_infinity]
      rfl

theorem isInf_iff (x : Float) : x.isInf = true ↔ x.isFinite = false ∧ x.isNaN = false := by
  have other : x.isInf = (!x.isFinite && !x.isNaN) := by
    show x.toModel.unpack.isInf = (!x.toModel.unpack.isFinite && !x.toModel.unpack.isNaN)
    cases x.toModel.unpack <;> rfl
  simp [other]

theorem isNaN_of_isFinite {x : Float} (finite : x.isFinite = true) : x.isNaN = false :=
  isNaN_of_isFinite_unpacked finite

/-! ## Sums from the left -/

/-- The sum of doubles, first to last, from zero. -/
def sum (xs : List Float) : Float :=
  xs.foldl (· + ·) 0.0

theorem sum_concat (xs : List Float) (x : Float) : sum (xs ++ [x]) = sum xs + x := by
  simp [sum]

section Finite

variable {xs : List Float} (finite : ∀ x ∈ xs, x.isFinite = true)
include finite

theorem isNaN_sum : (sum xs).isNaN = false := by
  induction xs using List.reverseRecOn with
  | nil => decide +kernel
  | append_singleton xs x ih =>
    have last : x.isFinite = true := finite x (by simp)
    rw [sum_concat]
    cases before : (sum xs).isFinite with
    | true => exact isNaN_add before last
    | false =>
      have infinite := (isInf_iff (sum xs)).2 ⟨before, ih fun y mem => finite y (by simp [mem])⟩
      exact ((isInf_iff _).1 (isInf_add infinite last)).2

/-- A sum is finite iff none of its running sums left the finite range. -/
theorem isFinite_sum_iff : (sum xs).isFinite = true ↔ ∀ n, (sum (xs.take n)).isFinite = true := by
  constructor
  · induction xs using List.reverseRecOn with
    | nil => simp
    | append_singleton xs x ih =>
      intro total n
      have earlier : ∀ y ∈ xs, y.isFinite = true := fun y mem => finite y (by simp [mem])
      rcases Nat.lt_or_ge xs.length n with all | short
      · rwa [List.take_of_length_le (by simp; omega)]
      · rw [List.take_append_of_le_length short]
        refine ih earlier ?_ n
        -- Had the sum without the last one overflowed, adding it would not have mended this.
        by_contra overflown
        have infinite := (isInf_iff (sum xs)).2 ⟨by simpa using overflown, isNaN_sum earlier⟩
        rw [sum_concat] at total
        have absorbed := ((isInf_iff _).1 (isInf_add infinite (finite x (by simp)))).1
        rw [total] at absorbed
        contradiction
  · intro running
    simpa using running xs.length

end Finite

end ResolverWatch.Double
