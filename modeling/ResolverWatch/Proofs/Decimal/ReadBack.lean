import ResolverWatch.Proofs.Decimal.Grammar
import ResolverWatch.Proofs.Decimal.Interval
import ResolverWatch.Proofs.Decimal.Marks

/-!
# The text of a double reads back

However the digits of a decimal are laid out, they spell a literal with its value (`exists_literal_text`). The
shortest decimal of a double lies in the interval of the numbers that are read as the double, so each double is read
back from its text (`float?_floatText`).
-/

namespace ResolverWatch.Decimal

open Text Float.Model.UnpackedFloat

/-! ## Digits -/

theorem asciiDigitValue?_marks : ∀ c ∈ ['+', '-', '.', 'e', 'E'], asciiDigitValue? c = none := by
  simp [asciiDigitValue?]

theorem ofDigits_append (xs ys : List Nat) :
    ofDigits 10 (xs ++ ys) = ofDigits 10 xs * 10 ^ ys.length + ofDigits 10 ys := by
  induction ys using List.reverseRecOn with
  | nil => simp [ofDigits]
  | append_singleton ys d ih =>
    have last (zs : List Nat) : ofDigits 10 (zs ++ [d]) = ofDigits 10 zs * 10 + d := List.foldl_concat ..
    rw [← List.append_assoc, last, last, ih, List.length_append, List.length_singleton]
    ring

theorem ofDigits_zeros (n : Nat) : ofDigits 10 (List.replicate n 0) = 0 := by
  induction n with
  | zero => rfl
  | succ n ih => rw [List.replicate_succ', ofDigits_append, ih]; rfl

theorem Digits.append {value : Char → Option Nat} {cs cs' : List Char} {ds ds' : List Nat} (digits : Digits value cs ds)
    (digits' : Digits value cs' ds') : Digits value (cs ++ cs') (ds ++ ds') :=
  List.rel_append digits digits'

theorem digits_zeros (n : Nat) : Digits asciiDigitValue? (List.replicate n '0') (List.replicate n 0) := by
  induction n with
  | zero => exact .nil
  | succ n ih => exact .cons rfl ih

/-- A number is spelled by its digits. -/
theorem exists_digits_natDigits (n : Nat) :
    ∃ ds, Digits asciiDigitValue? (natDigits n) ds ∧ ofDigits 10 ds = n := by
  have digit : ∀ d < 10, asciiDigitValue? (Nat.digitChar d) = some d := by decide
  unfold natDigits
  induction n using Nat.strongRecOn with
  | ind n ih =>
    rcases Nat.lt_or_ge n 10 with single | several
    · rw [Nat.toDigits_of_lt_base single]
      exact ⟨[n], .cons (digit n single) .nil, by simp [ofDigits]⟩
    · rw [Nat.toDigits_of_base_le (by decide) several]
      obtain ⟨ds, digits, number⟩ := ih (n / 10) (by omega)
      refine ⟨ds ++ [n % 10], digits.append (.cons (digit _ (Nat.mod_lt n (by decide))) .nil), ?_⟩
      rw [ofDigits_append, number]
      show n / 10 * 10 ^ 1 + (0 * 10 + n % 10) = n
      omega

/-! ## Layouts -/

/-- A text without a sign spells the decimal `n · 10 ^ k`. -/
def SpellsDecimal (text : List Char) (n : Nat) (k : Int) : Prop :=
  ∃ digits ds j power e, Pointed asciiDigitValue? digits ds j ∧ Powered asciiDigitValue? power e ∧
    text = digits ++ power ∧ (ofDigits 10 ds : ℚ) * 10 ^ (e - j) = n * 10 ^ k

section Layout

variable {cs : List Char} {ds : List Nat} (digits : Digits asciiDigitValue? cs ds) (nonempty : cs ≠ [])
include digits nonempty

theorem spellsDecimal_fixedDigits (point : Int) :
    SpellsDecimal (fixedDigits cs point) (ofDigits 10 ds) (point - cs.length) := by
  have length : cs.length = ds.length := digits.length_eq
  unfold fixedDigits
  dsimp only
  split_ifs with small long
  · -- A zero, the point, zeros and all digits.
    have zero : Digits asciiDigitValue? ['0'] [0] := .cons rfl .nil
    have fraction := (digits_zeros (-point).toNat).append digits
    refine ⟨_, _, _, [], 0, .pointed zero (by simp) fraction, .absent, by simp, ?_⟩
    rw [ofDigits_append, ofDigits_append, ofDigits_zeros]
    simp only [ofDigits, List.foldl, Nat.zero_mul, Nat.zero_add, List.length_append, List.length_replicate]
    congr 2
    omega
  · -- All digits, zeros, the point and a zero.
    have zero : Digits asciiDigitValue? ['0'] [0] := .cons rfl .nil
    have whole := digits.append (digits_zeros (point.toNat - cs.length))
    refine ⟨_, _, _, [], 0, .pointed whole (by simp [nonempty]) zero, .absent, by simp, ?_⟩
    obtain ⟨n, size⟩ : ∃ n : ℕ, point - cs.length = n := ⟨(point - cs.length).toNat, by omega⟩
    have zeros : point.toNat - cs.length = n := by omega
    have last : ofDigits 10 [0] = 0 := rfl
    have tenth : (10 : ℚ) ^ ((0 : ℤ) - (1 : Nat)) = 1 / 10 := by norm_num
    rw [ofDigits_append, ofDigits_append, ofDigits_zeros, last, size, zeros, List.length_replicate,
      List.length_singleton, tenth, zpow_natCast]
    push_cast
    ring
  · -- The point stands between the digits.
    have parts : cs.take point.toNat ++ cs.drop point.toNat = cs := List.take_append_drop ..
    have whole : Digits asciiDigitValue? (cs.take point.toNat) (ds.take point.toNat) := List.forall₂_take _ digits
    have fraction : Digits asciiDigitValue? (cs.drop point.toNat) (ds.drop point.toNat) := List.forall₂_drop _ digits
    have some : cs.take point.toNat ≠ [] := by
      simp only [ne_eq, List.take_eq_nil_iff, nonempty, or_false]
      omega
    refine ⟨_, _, _, [], 0, .pointed whole some fraction, .absent, by simp, ?_⟩
    rw [List.take_append_drop, List.length_drop]
    congr 2
    omega

theorem spellsDecimal_scientificDigits (exponent : Int) :
    SpellsDecimal (scientificDigits cs exponent) (ofDigits 10 ds) (exponent + 1 - cs.length) := by
  have power : Powered asciiDigitValue? ('e' :: (if exponent < 0 then '-' else '+') ::
      (List.replicate (2 - (natDigits exponent.natAbs).length) '0' ++ natDigits exponent.natAbs)) exponent := by
    obtain ⟨es, exponents, number⟩ := exists_digits_natDigits exponent.natAbs
    have all := (digits_zeros (2 - (natDigits exponent.natAbs).length)).append exponents
    have some : List.replicate (2 - (natDigits exponent.natAbs).length) '0' ++ natDigits exponent.natAbs ≠ [] := by
      simp [natDigits, Nat.toDigits_ne_nil]
    have value : ofDigits 10 (List.replicate (2 - (natDigits exponent.natAbs).length) 0 ++ es) = exponent.natAbs := by
      rw [ofDigits_append, ofDigits_zeros, number, Nat.zero_mul, Nat.zero_add]
    split_ifs with negative
    · have powered := Powered.power (.inl rfl) .minus all some
      rw [value] at powered
      have same : (if true then -(exponent.natAbs : Int) else exponent.natAbs) = exponent := by
        rw [if_pos rfl]
        omega
      rwa [same] at powered
    · have powered := Powered.power (.inl rfl) .plus all some
      rw [value] at powered
      have same : (if false then -(exponent.natAbs : Int) else exponent.natAbs) = exponent := by
        rw [if_neg (by decide)]
        omega
      rwa [same] at powered
  cases digits with
  | nil => contradiction
  | @cons d n cs ds digit rest =>
    cases rest with
    | nil =>
      refine ⟨[d], [n], 0, _, exponent, .whole (.cons digit .nil) (by simp), power, rfl, ?_⟩
      congr 2
      simp
    | @cons e n' cs ds digit' rest =>
      have whole : Digits asciiDigitValue? [d] [n] := .cons digit .nil
      refine ⟨_, _, _, _, exponent, .pointed whole (by simp) (.cons digit' rest), power, by simp [scientificDigits], ?_⟩
      rw [List.singleton_append]
      congr 2
      have length : cs.length = ds.length := rest.length_eq
      simp only [List.length_cons]
      omega

end Layout

/-- The text of a decimal spells a literal with its value. -/
theorem exists_literal_text (layout : Layout) (d : Scaled) (s : Sign) :
    ∃ l, literal? asciiDigitValue? (signText s ++ d.text layout) = some l ∧ l.negative = (s == .negative) ∧
      (l.digits : ℚ) * 10 ^ l.exponent = d.digits * 10 ^ d.exponent := by
  have signed : Signed (signText s) (s == .negative) := by
    cases s with
    | positive => exact .absent
    | negative => exact .minus
  have spelled : SpellsDecimal (d.text layout) d.digits d.exponent := by
    obtain ⟨ds, digits, number⟩ := exists_digits_natDigits d.digits
    have some : natDigits d.digits ≠ [] := Nat.toDigits_ne_nil
    have fixed := spellsDecimal_fixedDigits digits some (d.exponent + (natDigits d.digits).length - 1 + 1)
    have scientific := spellsDecimal_scientificDigits digits some (d.exponent + (natDigits d.digits).length - 1)
    have exponent : d.exponent + (natDigits d.digits).length - 1 + 1 - (natDigits d.digits).length = d.exponent := by
      omega
    rw [number, exponent] at fixed scientific
    unfold Scaled.text
    dsimp only
    split_ifs
    · exact fixed
    · exact scientific
  obtain ⟨digits, ds, j, power, e, pointed, powered, text, value⟩ := spelled
  rw [text]
  exact ⟨_, (literal?_eq_some_iff asciiDigitValue?_marks).2 (.spells signed pointed powered), rfl, value⟩

/-! ## Doubles -/

/-- A finite double is what its text is read as. -/
theorem read_floatText {x : Float} (finite : x.isFinite = true) (layout : Layout) :
    (literal? asciiDigitValue? (floatText layout x)).map Literal.toFloat = some x := by
  have range := Double.inRange_unpack x
  change x.toModel.unpack.isFinite = true at finite
  unfold floatText
  cases unpacked : x.toModel.unpack with
  | notANumber | infinity =>
    rw [unpacked] at finite
    contradiction
  | zero s =>
    have read : literal? asciiDigitValue? (signText s ++ ['0', '.', '0']) = some ⟨s == .negative, 0, -1⟩ := by
      cases s <;> decide +kernel
    have value : Literal.value ⟨s == .negative, 0, -1⟩ = Double.signed s 0 := by
      cases s <;> simp [Literal.value, Double.signed]
    have nearest := Double.nearest_zero le_rfl (Double.two_zpow_pos _) unpacked
    rw [← value] at nearest
    dsimp only
    rw [read, Option.map_some, ← (nearest_iff ⟨s == .negative, 0, -1⟩ x).1 nearest]
  | finite s m q pos =>
    rw [unpacked] at range
    obtain ⟨l, read, sign, value⟩ := exists_literal_text layout (shortest m q) s
    have contains := contains_shortest pos range.2
    rw [← value] at contains
    dsimp only
    rw [read, Option.map_some, ← eq_toFloat_of_contains unpacked sign contains]

theorem toLower_of_numberMark {c : Char} (mark : NumberMark c) : c.toLower = c := by
  apply Char.toLower_eq_of_not_isUpper
  rcases mark with digit | other
  · obtain ⟨-, most⟩ : '0'.toNat ≤ c.toNat ∧ c.toNat ≤ '9'.toNat := by
      simpa [Char.isDigit, UInt32.le_iff_toNat_le] using digit
    have nine : '9'.toNat < 'A'.toNat := by decide
    simp only [Char.isUpper, UInt32.le_iff_toNat_le, decide_eq_true_eq, not_and]
    intro least
    exact absurd (most.trans_lt nine) (not_lt.2 least)
  · have lower : ∀ d ∈ ['.', 'e', '+', '-'], ¬ d.isUpper = true := by simp [Char.isUpper]
    exact lower c other

/-- The text of a finite number is no name. -/
theorem special?_of_marks {cs : List Char} (marks : ∀ c ∈ cs, NumberMark c) : special? cs = none := by
  obtain ⟨sign, -, split⟩ := signed_splitSign cs
  have unnamed {name : String} (letter : 'n' ∈ name.toList) :
      String.ofList ((splitSign cs).2.map Char.toLower) ≠ name := by
    rintro rfl
    rw [String.toList_ofList] at letter
    obtain ⟨c, among, small⟩ := List.mem_map.1 letter
    have mark : NumberMark c := marks c (by rw [split]; exact List.mem_append_right _ among)
    rw [toLower_of_numberMark mark] at small
    rw [small] at mark
    exact absurd mark (by decide)
  unfold special?
  dsimp only
  rw [if_neg, if_neg]
  · exact unnamed (by decide)
  · rintro (same | same)
    · exact unnamed (by decide) same
    · exact unnamed (by decide) same

theorem float?_of_name {x : Float} (name : String) (y : Float) (named : special? name.toList = some y)
    (same : x.toModel.unpack = y.toModel.unpack) : float? asciiDigitValue? name.toList = some x := by
  unfold float?
  rw [named, Option.some_or, Double.eq_of_unpack same]

/-- Each double is what its text is read as. -/
theorem float?_floatText (x : Float) : float? asciiDigitValue? (floatText .document x) = some x := by
  by_cases finite : x.isFinite = true
  · unfold float?
    rw [special?_of_marks fun _ => numberMark_of_mem_floatText finite, Option.none_or]
    exact read_floatText finite .document
  · change ¬ x.toModel.unpack.isFinite = true at finite
    unfold floatText
    cases unpacked : x.toModel.unpack with
    | zero | finite =>
      rw [unpacked] at finite
      exact absurd rfl finite
    | notANumber => exact float?_of_name "NaN" (0.0 / 0.0) rfl unpacked
    | infinity s =>
      cases s with
      | positive => exact float?_of_name "Infinity" (1.0 / 0.0) rfl unpacked
      | negative => exact float?_of_name "-Infinity" (-1.0 / 0.0) rfl unpacked

end ResolverWatch.Decimal
