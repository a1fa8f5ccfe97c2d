import Mathlib.Data.List.Forall2
import ResolverWatch.Decimal.Literal

/-!
# The grammar of literals

A literal is spelled by an optional sign, digits with an optional point, and an optional power of ten (`Spells`). The
reader accepts exactly the texts of the grammar, each as the literal that the grammar gives it
(`literal?_eq_some_iff`), so that no text spells two literals.
-/

namespace ResolverWatch.Decimal

/-- Characters that are the given digits. -/
def Digits (value : Char → Option Nat) (cs : List Char) (ds : List Nat) : Prop :=
  List.Forall₂ (fun c d => value c = some d) cs ds

/-- An optional sign, and whether it is a minus. -/
inductive Signed : List Char → Bool → Prop
  | absent : Signed [] false
  | plus : Signed ['+'] false
  | minus : Signed ['-'] true

/-- Digits with an optional point behind one of them, or a point before them, and how many of them follow the point. -/
inductive Pointed (value : Char → Option Nat) : List Char → List Nat → Nat → Prop
  | whole {cs ds} (digits : Digits value cs ds) (nonempty : cs ≠ []) : Pointed value cs ds 0
  | pointed {cs ds cs' fs} (digits : Digits value cs ds) (nonempty : cs ≠ []) (fraction : Digits value cs' fs) :
    Pointed value (cs ++ '.' :: cs') (ds ++ fs) fs.length
  | fraction {cs fs} (digits : Digits value cs fs) (nonempty : cs ≠ []) : Pointed value ('.' :: cs) fs fs.length

/-- An optional power of ten. -/
inductive Powered (value : Char → Option Nat) : List Char → Int → Prop
  | absent : Powered value [] 0
  | power {mark sign negative cs ds} (marked : mark = 'e' ∨ mark = 'E') (signed : Signed sign negative)
    (digits : Digits value cs ds) (nonempty : cs ≠ []) :
    Powered value (mark :: (sign ++ cs)) (if negative then -(ofDigits 10 ds : Int) else ofDigits 10 ds)

/-- The text spells the literal. -/
inductive Spells (value : Char → Option Nat) : List Char → Literal → Prop
  | spells {sign negative digits ds k power e} (signed : Signed sign negative) (pointed : Pointed value digits ds k)
    (powered : Powered value power e) : Spells value (sign ++ (digits ++ power)) ⟨negative, ofDigits 10 ds, e - k⟩

section

variable {value : Char → Option Nat}

/-! ## Runs of digits and signs -/

theorem digits_spanDigits (value : Char → Option Nat) (cs : List Char) :
    ∃ ws, cs = ws ++ (spanDigits value cs).2 ∧ Digits value ws (spanDigits value cs).1 ∧
      ∀ c ∈ (spanDigits value cs).2.head?, value c = none := by
  induction cs with
  | nil => exact ⟨[], rfl, .nil, fun _ mem => absurd mem (Option.not_mem_none _)⟩
  | cons c cs ih =>
    unfold spanDigits
    cases digit : value c with
    | none =>
      refine ⟨[], rfl, .nil, fun d mem => ?_⟩
      obtain rfl : c = d := Option.some.inj mem
      exact digit
    | some d =>
      obtain ⟨ws, split, digits, ends⟩ := ih
      exact ⟨c :: ws, congrArg (c :: ·) split, .cons digit digits, ends⟩

theorem spanDigits_append {ws rest : List Char} {ds : List Nat} (digits : Digits value ws ds)
    (ends : ∀ c ∈ rest.head?, value c = none) : spanDigits value (ws ++ rest) = (ds, rest) := by
  induction digits with
  | nil =>
    cases rest with
    | nil => rfl
    | cons c rest =>
      show spanDigits value (c :: rest) = _
      unfold spanDigits
      rw [ends c rfl]
  | cons digit _ ih =>
    rw [List.cons_append]
    unfold spanDigits
    rw [digit, ih]

theorem Digits.isEmpty {cs : List Char} {ds : List Nat} (digits : Digits value cs ds) : ds.isEmpty = cs.isEmpty := by
  cases digits <;> rfl

theorem signed_splitSign (cs : List Char) :
    ∃ sign, Signed sign (splitSign cs).1 ∧ cs = sign ++ (splitSign cs).2 := by
  unfold splitSign
  split
  · exact ⟨_, .minus, rfl⟩
  · exact ⟨_, .plus, rfl⟩
  · exact ⟨_, .absent, rfl⟩

theorem splitSign_append {sign rest : List Char} {negative : Bool} (signed : Signed sign negative)
    (unsigned : ∀ c ∈ rest.head?, c ≠ '+' ∧ c ≠ '-') : splitSign (sign ++ rest) = (negative, rest) := by
  cases signed with
  | plus | minus => rfl
  | absent =>
    show splitSign rest = _
    unfold splitSign
    split
    · exact absurd rfl (unsigned _ rfl).2
    · exact absurd rfl (unsigned _ rfl).1
    · rfl

/-! ## The characters of a literal -/

/-- A character that a literal may hold. -/
def IsMark (value : Char → Option Nat) (c : Char) : Prop :=
  (value c).isSome = true ∨ c ∈ ['+', '-', '.', 'e', 'E']

theorem Digits.marks {cs : List Char} {ds : List Nat} (digits : Digits value cs ds) : ∀ c ∈ cs, IsMark value c := by
  intro c mem
  obtain ⟨i, below, rfl⟩ := List.mem_iff_getElem.1 mem
  have digit := List.forall₂_iff_get.1 digits
  exact .inl (Option.isSome_iff_exists.2 ⟨_, digit.2 i below (digit.1 ▸ below)⟩)

theorem Signed.marks {cs : List Char} {negative : Bool} (signed : Signed cs negative) : ∀ c ∈ cs, IsMark value c := by
  intro c mem
  cases signed with
  | absent => contradiction
  | plus | minus =>
    obtain rfl := List.mem_singleton.1 mem
    exact .inr (by decide)

theorem Pointed.marks {cs : List Char} {ds : List Nat} {k : Nat} (pointed : Pointed value cs ds k) :
    ∀ c ∈ cs, IsMark value c := by
  have point : IsMark value '.' := .inr (by decide)
  cases pointed with
  | whole digits => exact digits.marks
  | pointed digits _ fraction =>
    exact List.forall_mem_append.2 ⟨digits.marks, List.forall_mem_cons.2 ⟨point, fraction.marks⟩⟩
  | fraction digits => exact List.forall_mem_cons.2 ⟨point, digits.marks⟩

theorem Powered.marks {cs : List Char} {e : Int} (powered : Powered value cs e) : ∀ c ∈ cs, IsMark value c := by
  cases powered with
  | absent => exact fun _ mem => absurd mem List.not_mem_nil
  | power marked signed digits =>
    refine List.forall_mem_cons.2 ⟨.inr ?_, List.forall_mem_append.2 ⟨signed.marks, digits.marks⟩⟩
    rcases marked with rfl | rfl <;> decide

theorem Spells.marks {cs : List Char} {l : Literal} (spells : Spells value cs l) : ∀ c ∈ cs, IsMark value c := by
  obtain ⟨signed, pointed, powered⟩ := spells
  exact List.forall_mem_append.2 ⟨signed.marks, List.forall_mem_append.2 ⟨pointed.marks, powered.marks⟩⟩

/-! ## The parts of a literal -/

section Parts

variable (marks : ∀ c ∈ ['+', '-', '.', 'e', 'E'], value c = none)
include marks

theorem Digits.unsigned {cs : List Char} {ds : List Nat} (digits : Digits value cs ds) :
    ∀ c ∈ cs.head?, c ≠ '+' ∧ c ≠ '-' := by
  intro c mem
  cases digits with
  | nil => exact absurd mem (Option.not_mem_none _)
  | cons digit _ =>
    obtain rfl := Option.some.inj mem
    constructor <;> rintro rfl
    · exact absurd ((marks '+' (by decide)).symm.trans digit) (Option.some_ne_none _).symm
    · exact absurd ((marks '-' (by decide)).symm.trans digit) (Option.some_ne_none _).symm

theorem exponent?_eq_some_iff {cs : List Char} {e : Int} : exponent? value cs = some e ↔ Powered value cs e := by
  constructor
  · intro read
    cases cs with
    | nil =>
      obtain rfl := Option.some.inj read
      exact .absent
    | cons mark cs =>
      obtain ⟨sign, signed, rest⟩ := signed_splitSign cs
      obtain ⟨ws, whole, digits, -⟩ := digits_spanDigits value (splitSign cs).2
      unfold exponent? at read
      dsimp only at read
      generalize (splitSign cs).1 = negative at signed read
      generalize (splitSign cs).2 = unsigned at rest whole digits read
      generalize (spanDigits value unsigned).1 = ds at digits read
      by_cases marked : mark = 'e' ∨ mark = 'E'
      · rw [if_pos marked] at read
        obtain ⟨complete, same⟩ := Option.ite_none_left_eq_some.1 read
        obtain rfl := Option.some.inj same
        rw [Bool.or_eq_true, not_or, Bool.not_eq_true, Bool.not_eq_true, Bool.not_eq_false', List.isEmpty_iff]
          at complete
        obtain ⟨nonempty, all⟩ := complete
        rw [all, List.append_nil] at whole
        rw [digits.isEmpty, List.isEmpty_eq_false_iff] at nonempty
        rw [rest, whole]
        exact .power marked signed digits nonempty
      · rw [if_neg marked] at read
        contradiction
  · intro powered
    cases powered with
    | absent => rfl
    | @power mark sign negative cs ds marked signed digits nonempty =>
      have span : spanDigits value (cs ++ []) = (ds, []) :=
        spanDigits_append digits fun _ mem => absurd mem (Option.not_mem_none _)
      rw [List.append_nil] at span
      have some : ds.isEmpty = false := by
        rw [digits.isEmpty, List.isEmpty_eq_false_iff]
        exact nonempty
      unfold exponent?
      dsimp only
      rw [if_pos marked, splitSign_append signed (digits.unsigned marks)]
      dsimp only
      rw [span, some]
      rfl

/-- A power of ten goes on with no digit and no point. -/
theorem Powered.ends {cs : List Char} {e : Int} (powered : Powered value cs e) :
    ∀ c ∈ cs.head?, value c = none ∧ c ≠ '.' := by
  intro c mem
  cases powered with
  | absent => exact absurd mem (Option.not_mem_none _)
  | power marked =>
    obtain rfl := Option.some.inj mem
    rcases marked with rfl | rfl
    · exact ⟨marks 'e' (by decide), by decide⟩
    · exact ⟨marks 'E' (by decide), by decide⟩

theorem unsigned?_eq_some_iff {negative : Bool} {cs : List Char} {l : Literal} :
    unsigned? value negative cs = some l ↔
      ∃ digits ds k power e, Pointed value digits ds k ∧ Powered value power e ∧ cs = digits ++ power ∧
        l = ⟨negative, ofDigits 10 ds, e - k⟩ := by
  constructor
  · intro read
    obtain ⟨ws, split, digits, -⟩ := digits_spanDigits value cs
    unfold unsigned? at read
    dsimp only at read
    generalize (spanDigits value cs).1 = ds at digits read
    generalize (spanDigits value cs).2 = rest at split read
    subst split
    split at read
    · next rest =>
      obtain ⟨fs, split', fraction, -⟩ := digits_spanDigits value rest
      generalize (spanDigits value rest).1 = ds' at fraction read
      generalize (spanDigits value rest).2 = power at split' read
      subst split'
      rw [digits.isEmpty, fraction.isEmpty] at read
      split_ifs at read with some
      obtain ⟨e, powered, rfl⟩ := Option.map_eq_some_iff.1 read
      rw [exponent?_eq_some_iff marks] at powered
      by_cases whole : ws = []
      · subst whole
        obtain rfl := List.forall₂_nil_left_iff.1 digits
        have nonempty : fs ≠ [] := by simpa using some
        exact ⟨'.' :: fs, ds', _, power, e, .fraction fraction nonempty, powered, rfl, rfl⟩
      · exact ⟨ws ++ '.' :: fs, ds ++ ds', _, power, e, .pointed digits whole fraction, powered, by simp, rfl⟩
    · rw [digits.isEmpty, List.isEmpty_nil, Bool.and_true] at read
      split_ifs at read with some
      obtain ⟨e, powered, rfl⟩ := Option.map_eq_some_iff.1 read
      rw [exponent?_eq_some_iff marks] at powered
      have nonempty : ws ≠ [] := by simpa using some
      exact ⟨ws, ds, 0, rest, e, .whole digits nonempty, powered, rfl, by simp⟩
  · rintro ⟨text, ds, k, power, e, pointed, powered, rfl, rfl⟩
    have ends := powered.ends marks
    have read := (exponent?_eq_some_iff marks).2 powered
    have point (rest : List Char) : ∀ c ∈ ('.' :: rest).head?, value c = none := by
      rintro c ⟨⟩
      exact marks '.' (by decide)
    unfold unsigned?
    cases pointed with
    | whole digits nonempty =>
      rw [spanDigits_append digits fun c mem => (ends c mem).1]
      dsimp only
      split
      · exact absurd rfl (ends '.' rfl).2
      · rw [digits.isEmpty, List.isEmpty_eq_false_iff.2 nonempty, read]
        simp
    | pointed digits nonempty fraction =>
      rw [List.append_assoc, List.cons_append, spanDigits_append digits (point _)]
      simp only [spanDigits_append fraction fun c mem => (ends c mem).1]
      rw [digits.isEmpty, List.isEmpty_eq_false_iff.2 nonempty, read]
      rfl
    | @fraction cs _ digits nonempty =>
      have none : spanDigits value ('.' :: (cs ++ power)) = ([], '.' :: (cs ++ power)) :=
        spanDigits_append .nil (point (cs ++ power))
      rw [List.cons_append, none]
      simp only [spanDigits_append digits fun c mem => (ends c mem).1]
      rw [digits.isEmpty, List.isEmpty_eq_false_iff.2 nonempty, read]
      rfl

/-- The number of a literal goes on with no sign. -/
theorem Pointed.unsigned {cs : List Char} {ds : List Nat} {k : Nat} (pointed : Pointed value cs ds k) :
    cs ≠ [] ∧ ∀ c ∈ cs.head?, c ≠ '+' ∧ c ≠ '-' := by
  cases pointed with
  | whole digits nonempty => exact ⟨nonempty, digits.unsigned marks⟩
  | pointed digits nonempty =>
    refine ⟨by simp, ?_⟩
    rw [List.head?_append_of_ne_nil _ nonempty]
    exact digits.unsigned marks
  | fraction =>
    refine ⟨List.cons_ne_nil _ _, ?_⟩
    rintro c ⟨⟩
    decide

/-- The reader accepts the texts of the grammar, and no text spells two literals. -/
theorem literal?_eq_some_iff {cs : List Char} {l : Literal} : literal? value cs = some l ↔ Spells value cs l := by
  constructor
  · intro read
    obtain ⟨sign, signed, rest⟩ := signed_splitSign cs
    change unsigned? value (splitSign cs).1 (splitSign cs).2 = some l at read
    generalize (splitSign cs).1 = negative at signed read
    generalize (splitSign cs).2 = unsigned at rest read
    obtain ⟨digits, ds, k, power, e, pointed, powered, rfl, rfl⟩ := (unsigned?_eq_some_iff marks).1 read
    rw [rest]
    exact .spells signed pointed powered
  · rintro ⟨signed, pointed, powered⟩
    have unsigned := pointed.unsigned marks
    unfold literal?
    rw [splitSign_append signed]
    · exact (unsigned?_eq_some_iff marks).2 ⟨_, _, _, _, _, pointed, powered, rfl, rfl⟩
    · rw [List.head?_append_of_ne_nil _ unsigned.1]
      exact unsigned.2

end Parts

end

end ResolverWatch.Decimal
