import Mathlib.Data.List.Basic
import ResolverWatch.Text.Infix
import ResolverWatch.Text.Lower

/-!
# Lower case within a text

A part of a text is lowered on its own, except for the capital sigmas in it: the form of a sigma depends on the
nearest characters on both sides that are not looked through, and these may lie beyond the part. A part that settles all
its sigmas itself (`SigmasSettled`) has one lower-case form, wherever it stands; any other part has a text around it in
whose lower-case form that of the part does not occur (`occursIn_lower_iff`).
-/

namespace ResolverWatch.Text

/-- The lower-case form of a part, given the reversed text before it and the text after it. -/
def lowerWithin (before : List Char) : List Char → List Char → List Char
  | [], _ => []
  | c :: cs, after => lowerAt before c (cs ++ after) ++ lowerWithin (c :: before) cs after

/-- Whether a capital sigma is final is settled by the reversed text before it and the text after it, whatever stands
beyond: a cased character follows; or it is known what comes before and, if that is cased, what follows. -/
def SigmaSettled (before after : List Char) : Prop :=
  startsCased after = true ∨
    before.all isCaseIgnorable = false ∧ (startsCased before = true → after.all isCaseIgnorable = false)

/-- The text settles all its capital sigmas. -/
def SigmasSettled (cs : List Char) : Prop :=
  ∀ before after, cs = before ++ 'Σ' :: after → SigmaSettled before.reverse after

/-! ## Parts of a text -/

theorem lowerFrom_append (before cs after : List Char) :
    lowerFrom before (cs ++ after) = lowerWithin before cs after ++ lowerFrom (cs.reverse ++ before) after := by
  induction cs generalizing before with
  | nil => rfl
  | cons c cs ih =>
    rw [List.cons_append, lowerFrom, ih, lowerWithin, List.append_assoc, List.reverse_cons, List.append_assoc]
    rfl

theorem lower_eq_lowerWithin (cs : List Char) : lower cs = lowerWithin [] cs [] := by
  have whole := lowerFrom_append [] cs []
  rwa [List.append_nil, lowerFrom, List.append_nil] at whole

/-- The lower-case form of a text is that of its parts, each within the others. -/
theorem lower_parts (before cs after : List Char) :
    lower (before ++ cs ++ after) =
      lowerWithin [] before (cs ++ after) ++ lowerWithin before.reverse cs after ++
        lowerFrom (cs.reverse ++ before.reverse) after := by
  rw [lower, List.append_assoc, lowerFrom_append, lowerFrom_append, List.append_nil, List.append_assoc]

theorem lower_ne_nil {cs : List Char} (nonempty : cs ≠ []) : lower cs ≠ [] := by
  cases cs with
  | nil => contradiction
  | cons c cs => exact List.append_ne_nil_of_left_ne_nil (lowerAt_ne_nil [] c cs) _

theorem length_lowerAt (before : List Char) (c : Char) (after : List Char) :
    (lowerAt before c after).length = if c = 'İ' then 2 else 1 := by
  unfold lowerAt
  by_cases sigma : c = 'Σ'
  · subst sigma
    rfl
  · rw [if_neg sigma]
    split_ifs <;> rfl

theorem length_lowerWithin (before before' cs after after' : List Char) :
    (lowerWithin before cs after).length = (lowerWithin before' cs after').length := by
  induction cs generalizing before before' with
  | nil => rfl
  | cons c cs ih =>
    rw [lowerWithin, lowerWithin, List.length_append, List.length_append, length_lowerAt, length_lowerAt, ih]

/-- Two texts around a part lower it alike iff they do so at each of its capital sigmas. -/
theorem lowerWithin_eq_iff {before before' cs after after' : List Char} :
    lowerWithin before cs after = lowerWithin before' cs after' ↔
      ∀ front back, cs = front ++ 'Σ' :: back →
        lowerAt (front.reverse ++ before) 'Σ' (back ++ after) =
          lowerAt (front.reverse ++ before') 'Σ' (back ++ after') := by
  induction cs generalizing before before' with
  | nil =>
    refine iff_of_true rfl ?_
    intro front back split
    simp at split
  | cons c cs ih =>
    have length : (lowerAt before c (cs ++ after)).length = (lowerAt before' c (cs ++ after')).length := by
      rw [length_lowerAt, length_lowerAt]
    rw [lowerWithin, lowerWithin]
    constructor
    · intro same front back split
      obtain ⟨first, rest⟩ := List.append_inj same length
      cases front with
      | nil =>
        obtain ⟨rfl, rfl⟩ : c = 'Σ' ∧ cs = back := by simpa using split
        exact first
      | cons d front =>
        obtain ⟨rfl, same⟩ : c = d ∧ cs = front ++ 'Σ' :: back := by simpa using split
        simpa using ih.1 rest front back same
    · intro sigmas
      have first : lowerAt before c (cs ++ after) = lowerAt before' c (cs ++ after') := by
        by_cases sigma : c = 'Σ'
        · subst sigma
          exact sigmas [] cs rfl
        · -- No other character looks around.
          unfold lowerAt
          rw [if_neg sigma, if_neg sigma]
      have rest : lowerWithin (c :: before) cs after = lowerWithin (c :: before') cs after' := by
        refine ih.2 fun front back same => ?_
        subst same
        simpa using sigmas (c :: front) back rfl
      rw [first, rest]

/-! ## One sigma -/

theorem startsCased_append (cs more : List Char) :
    startsCased (cs ++ more) = if cs.all isCaseIgnorable then startsCased more else startsCased cs := by
  induction cs with
  | nil => rfl
  | cons c cs ih =>
    unfold startsCased at ih ⊢
    cases ignorable : isCaseIgnorable c with
    | true => simpa [ignorable] using ih
    | false => simp [ignorable]

theorem startsCased_of_all_ignorable {cs : List Char} (ignorable : cs.all isCaseIgnorable = true) :
    startsCased cs = false := by
  have nothing := startsCased_append cs []
  rwa [List.append_nil, ignorable, if_pos rfl] at nothing

theorem lowerAt_sigma_eq_iff (before before' after after' : List Char) :
    lowerAt before 'Σ' after = lowerAt before' 'Σ' after' ↔
      (startsCased before && !startsCased after) = (startsCased before' && !startsCased after') := by
  unfold lowerAt
  rw [if_pos rfl, if_pos rfl]
  cases startsCased before && !startsCased after <;> cases startsCased before' && !startsCased after' <;> decide

theorem SigmaSettled.lowerAt_append {before after : List Char} (settled : SigmaSettled before after)
    (before' after' : List Char) : lowerAt (before ++ before') 'Σ' (after ++ after') = lowerAt before 'Σ' after := by
  rw [lowerAt_sigma_eq_iff, startsCased_append, startsCased_append]
  rcases settled with cased | ⟨known, follows⟩
  · have known : after.all isCaseIgnorable = false := by
      by_contra ignorable
      rw [startsCased_of_all_ignorable (by simpa using ignorable)] at cased
      contradiction
    simp [known, cased]
  · rw [known, if_neg Bool.false_ne_true]
    cases cased : startsCased before with
    | false => rfl
    | true => rw [follows cased, if_neg Bool.false_ne_true]

/-- Any letter on one of its sides changes a sigma that is not settled. -/
theorem changes_of_not_sigmaSettled {before after : List Char} (unsettled : ¬ SigmaSettled before after) :
    (∀ x, startsCased [x] = true → lowerAt (before ++ [x]) 'Σ' after ≠ lowerAt before 'Σ' after) ∨
      ∀ x, startsCased [x] = true → lowerAt before 'Σ' (after ++ [x]) ≠ lowerAt before 'Σ' after := by
  simp only [ne_eq, lowerAt_sigma_eq_iff, startsCased_append]
  unfold SigmaSettled at unsettled
  push Not at unsettled
  obtain ⟨uncased, unknown⟩ := unsettled
  have uncased : startsCased after = false := by simpa using uncased
  cases ignorable : before.all isCaseIgnorable with
  | true =>
    left
    intro x letter
    simp [letter, uncased, startsCased_of_all_ignorable ignorable]
  | false =>
    right
    intro x letter
    obtain ⟨cased, ignorable'⟩ := unknown ignorable
    simp [letter, cased, uncased, ignorable']

/-! ## Texts around a part -/

/-- A letter whose lower-case form is not a given character. -/
theorem exists_letter (other : Option Char) :
    ∃ x y, startsCased [x] = true ∧ (∀ before after, lowerAt before x after = [y]) ∧ other ≠ some y := by
  have lowered (before after : List Char) :
      lowerAt before 'A' after = ['a'] ∧ lowerAt before 'B' after = ['b'] := by
    constructor <;> rfl
  by_cases taken : other = some 'a'
  · exact ⟨'B', 'b', by decide +kernel, fun before after => (lowered before after).2, by simp [taken]⟩
  · exact ⟨'A', 'a', by decide +kernel, fun before after => (lowered before after).1, taken⟩

/-- A text of the same length occurs behind one character only as that text, or with that character as its first. -/
theorem occursIn_cons_of_length {needle body : List Char} {c : Char} (length : body.length = needle.length)
    (occurs : occursIn needle (c :: body) = true) : body = needle ∨ needle = [] ∨ needle.head? = some c := by
  obtain ⟨a, b, split⟩ := occursIn_iff.1 occurs
  have count := congrArg List.length split
  simp only [List.length_cons, List.length_append] at count
  cases a with
  | nil =>
    cases needle with
    | nil => exact .inr (.inl rfl)
    | cons d needle =>
      obtain ⟨rfl, -⟩ : c = d ∧ _ := by simpa using split
      exact .inr (.inr rfl)
  | cons d a =>
    obtain ⟨rfl, same⟩ : c = d ∧ body = a ++ (needle ++ b) := by simpa using split
    obtain rfl : a = [] := List.eq_nil_of_length_eq_zero (by simp at count; omega)
    obtain rfl : b = [] := List.eq_nil_of_length_eq_zero (by simp at count; omega)
    exact .inl (by simpa using same)

theorem occursIn_concat_of_length {needle body : List Char} {c : Char} (length : body.length = needle.length)
    (occurs : occursIn needle (body ++ [c]) = true) : body = needle ∨ needle = [] ∨ needle.getLast? = some c := by
  obtain ⟨a, b, split⟩ := occursIn_iff.1 occurs
  have reversed : occursIn needle.reverse (c :: body.reverse) = true := by
    refine occursIn_iff.2 ⟨b.reverse, a.reverse, ?_⟩
    simpa using congrArg List.reverse split
  simpa using occursIn_cons_of_length (by simp [length]) reversed

/-- Between any texts, the part is lowered as on its own iff it settles its sigmas. -/
theorem SigmasSettled.lowerWithin_eq {cs : List Char} (settled : SigmasSettled cs) (before after : List Char) :
    lowerWithin before cs after = lower cs := by
  rw [lower_eq_lowerWithin, lowerWithin_eq_iff]
  intro front back split
  rw [(settled front back split).lowerAt_append, List.append_nil, List.append_nil]

/-- A part is lowered to another text where one of its sigmas is. -/
theorem lowerWithin_ne {before cs after front back : List Char} (split : cs = front ++ 'Σ' :: back)
    (changed : lowerAt (front.reverse ++ before) 'Σ' (back ++ after) ≠ lowerAt front.reverse 'Σ' back) :
    lowerWithin before cs after ≠ lower cs := by
  rw [lower_eq_lowerWithin, ne_eq, lowerWithin_eq_iff]
  intro same
  apply changed
  simpa using same front back split

theorem length_lowerWithin_eq (before cs after : List Char) :
    (lowerWithin before cs after).length = (lower cs).length := by
  rw [lower_eq_lowerWithin, length_lowerWithin]

/-- If letters before a part change one of its sigmas, some letter there hides it: one whose lower-case form is not what
that of the part starts with. -/
theorem exists_hidden_after {cs front back : List Char} (split : cs = front ++ 'Σ' :: back)
    (changes : ∀ x, startsCased [x] = true → lowerAt (front.reverse ++ [x]) 'Σ' back ≠ lowerAt front.reverse 'Σ' back) :
    ∃ x, occursIn (lower cs) (lower ([x] ++ cs ++ [])) ≠ true := by
  obtain ⟨x, y, letter, lowered, other⟩ := exists_letter (lower cs).head?
  refine ⟨x, fun found => ?_⟩
  have around : lower ([x] ++ cs ++ []) = y :: lowerWithin [x] cs [] := by
    rw [lower_parts, lowerWithin, lowered, lowerWithin, lowerFrom]
    simp
  rw [around] at found
  rcases occursIn_cons_of_length (length_lowerWithin_eq ..) found with same | empty | first
  · exact lowerWithin_ne split (by simpa using changes x letter) same
  · exact lower_ne_nil (by simp [split]) empty
  · exact other first

theorem exists_hidden_before {cs front back : List Char} (split : cs = front ++ 'Σ' :: back)
    (changes : ∀ x, startsCased [x] = true → lowerAt front.reverse 'Σ' (back ++ [x]) ≠ lowerAt front.reverse 'Σ' back) :
    ∃ x, occursIn (lower cs) (lower ([] ++ cs ++ [x])) ≠ true := by
  obtain ⟨x, y, letter, lowered, other⟩ := exists_letter (lower cs).getLast?
  refine ⟨x, fun found => ?_⟩
  have around : lower ([] ++ cs ++ [x]) = lowerWithin [] cs [x] ++ [y] := by
    rw [lower_parts, lowerWithin, lowerFrom, lowered, lowerFrom]
    simp
  rw [around] at found
  rcases occursIn_concat_of_length (length_lowerWithin_eq ..) found with same | empty | last
  · exact lowerWithin_ne split (by simpa using changes x letter) same
  · exact lower_ne_nil (by simp [split]) empty
  · exact other last

/-- A part has its lower-case form in that of every text around it iff it settles its sigmas. -/
theorem occursIn_lower_iff (cs : List Char) :
    (∀ before after, occursIn (lower cs) (lower (before ++ cs ++ after)) = true) ↔ SigmasSettled cs := by
  constructor
  · intro occurs front back split
    by_contra unsettled
    rcases changes_of_not_sigmaSettled unsettled with changes | changes
    · obtain ⟨x, hidden⟩ := exists_hidden_after split changes
      exact hidden (occurs [x] [])
    · obtain ⟨x, hidden⟩ := exists_hidden_before split changes
      exact hidden (occurs [] [x])
  · intro settled before after
    rw [lower_parts, settled.lowerWithin_eq]
    exact occursIn_iff.2 ⟨_, _, rfl⟩

/-- A text without a capital sigma has none to settle. -/
theorem sigmasSettled_of_not_mem {cs : List Char} (none : 'Σ' ∉ cs) : SigmasSettled cs := by
  rintro front back rfl
  exact absurd (by simp) none

end ResolverWatch.Text
