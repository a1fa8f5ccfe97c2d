import Mathlib.Data.List.Basic
import ResolverWatch.Json.Render
import ResolverWatch.Proofs.Decimal.Marks
import ResolverWatch.Text.Infix

/-!
# What a JSON text holds outside its strings

`bare` leaves out what stands between quotes. What is left of the text of a value are the marks of its
structure, the words for truth and for nothing, and its numbers. So the names of infinity and of the
undefined value, which JSON has not, occur there iff a number of the value is infinite or undefined
(`occursIn_infinity_iff`, `occursIn_undefined_iff`).
-/

namespace ResolverWatch.Json

open Text Decimal

/-! ## Leaving out strings -/

/-- Between strings, inside one, or behind a backslash inside one. -/
inductive Reading
  | outside
  | inside
  | escaped

/-- A text without what its strings hold, of which only the quotes stay. -/
def bareFrom : Reading → List Char → List Char
  | _, [] => []
  | .outside, c :: cs => c :: bareFrom (if c = '"' then .inside else .outside) cs
  | .inside, c :: cs =>
    if c = '"' then c :: bareFrom .outside cs else bareFrom (if c = '\\' then .escaped else .inside) cs
  | .escaped, _ :: cs => bareFrom .inside cs

/-- A text without what its strings hold. -/
def bare (cs : List Char) : List Char :=
  bareFrom .outside cs

/-- What follows a text is outside strings, too. -/
def Closed (cs : List Char) : Prop :=
  ∀ rest, bare (cs ++ rest) = bare cs ++ bare rest

theorem bare_of_not_mem {cs : List Char} (plain : '"' ∉ cs) (rest : List Char) :
    bare (cs ++ rest) = cs ++ bare rest := by
  induction cs with
  | nil => rfl
  | cons c cs ih =>
    obtain ⟨other, plain⟩ : '"' ≠ c ∧ '"' ∉ cs := by simpa using plain
    show c :: bareFrom (if c = '"' then .inside else .outside) (cs ++ rest) = _
    rw [if_neg other.symm]
    exact congrArg (c :: ·) (ih plain)

theorem bare_eq_of_not_mem {cs : List Char} (plain : '"' ∉ cs) : bare cs = cs := by
  simpa [bare, bareFrom] using bare_of_not_mem plain []

theorem closed_of_not_mem {cs : List Char} (plain : '"' ∉ cs) : Closed cs := fun rest => by
  rw [bare_of_not_mem plain, bare_eq_of_not_mem plain]

theorem Closed.append {as bs : List Char} (left : Closed as) (right : Closed bs) : Closed (as ++ bs) := fun rest => by
  rw [List.append_assoc, left, right, left bs, List.append_assoc]

/-! ## Strings -/

theorem bareFrom_inside_of_plain {cs : List Char} (plain : ∀ c ∈ cs, c ≠ '"' ∧ c ≠ '\\') (rest : List Char) :
    bareFrom .inside (cs ++ rest) = bareFrom .inside rest := by
  induction cs with
  | nil => rfl
  | cons c cs ih =>
    obtain ⟨noQuote, noBackslash⟩ := plain c List.mem_cons_self
    rw [List.cons_append, bareFrom, if_neg noQuote, if_neg noBackslash,
      ih fun d mem => plain d (List.mem_cons_of_mem _ mem)]

theorem bareFrom_inside_unitEscape (n : Nat) (rest : List Char) :
    bareFrom .inside (unitEscape n ++ rest) = bareFrom .inside rest := by
  have plain : ∀ d < 16, Nat.digitChar d ≠ '"' ∧ Nat.digitChar d ≠ '\\' := by decide
  exact bareFrom_inside_of_plain (forall_mem_hexDigits plain 4 n) rest

/-- The text of a character in a string does not end the string. -/
theorem bareFrom_inside_stringChar (c : Char) (rest : List Char) :
    bareFrom .inside (stringChar c ++ rest) = bareFrom .inside rest := by
  unfold stringChar
  dsimp only
  -- A short escape is a backslash and one character, which are passed over together; the others hold no quote.
  split_ifs with quote backslash
  all_goals first
    | rfl
    | exact bareFrom_inside_unitEscape _ rest
    | rw [List.append_assoc, bareFrom_inside_unitEscape, bareFrom_inside_unitEscape]
    | exact bareFrom_inside_of_plain (by simp [quote, backslash]) rest

/-- The text of a code point in a string does not end the string. -/
theorem bareFrom_inside_stringPoint (p : Point) (rest : List Char) :
    bareFrom .inside (stringPoint p ++ rest) = bareFrom .inside rest := by
  cases p with
  | char c => exact bareFrom_inside_stringChar c rest
  | half n => exact bareFrom_inside_unitEscape _ rest

theorem bare_renderString (s : Points) (rest : List Char) :
    bare (renderString s ++ rest) = '"' :: '"' :: bare rest := by
  have body : bareFrom .inside (s.flatMap stringPoint ++ '"' :: rest) = '"' :: bare rest := by
    induction s with
    | nil => rfl
    | cons p ps ih => rw [List.flatMap_cons, List.append_assoc, bareFrom_inside_stringPoint, ih]
  show '"' :: bareFrom .inside (s.flatMap stringPoint ++ ['"'] ++ rest) = _
  rw [List.append_assoc, List.singleton_append, body]

theorem closed_renderString (s : Points) : Closed (renderString s) := fun rest => by
  have alone := bare_renderString s []
  rw [List.append_nil] at alone
  rw [bare_renderString, alone]
  rfl

/-! ## Values -/

mutual

/-- The doubles of a value, in order. -/
def reals : Json → List Float
  | .real x => [x]
  | .array items => realsOfItems items
  | .object members => realsOfMembers members
  | _ => []

/-- The doubles of the items of an array. -/
def realsOfItems : List Json → List Float
  | [] => []
  | v :: vs => reals v ++ realsOfItems vs

/-- The doubles of the members of an object. -/
def realsOfMembers : List (Points × Json) → List Float
  | [] => []
  | (_, v) :: rest => reals v ++ realsOfMembers rest

end

theorem mem_realsOfMembers {x : Float} {members : List (Points × Json)} :
    x ∈ realsOfMembers members ↔ ∃ p ∈ members, x ∈ reals p.2 := by
  induction members with
  | nil => simp [realsOfMembers]
  | cons p rest ih => simp [realsOfMembers, ih]

theorem realsOfMembers_append (as bs : List (Points × Json)) :
    realsOfMembers (as ++ bs) = realsOfMembers as ++ realsOfMembers bs := by
  induction as with
  | nil => rfl
  | cons p as ih => simp [realsOfMembers, ih]

mutual

/-- Sorting the keys moves doubles and changes none. -/
theorem mem_reals_sortKeys (x : Float) : ∀ v : Json, x ∈ reals (sortKeys v) ↔ x ∈ reals v
  | .null | .bool _ | .int _ | .real _ | .text _ => Iff.rfl
  | .array items => mem_reals_sortItems x items
  | .object members => by
    show x ∈ realsOfMembers (sortMembers (sortEntries members)) ↔ x ∈ realsOfMembers members
    rw [← mem_reals_sortEntries x members]
    simp only [mem_realsOfMembers, sortMembers, List.mem_mergeSort]

theorem mem_reals_sortItems (x : Float) : ∀ items : List Json,
    x ∈ realsOfItems (sortItems items) ↔ x ∈ realsOfItems items
  | [] => Iff.rfl
  | v :: vs => by
    simp only [sortItems, realsOfItems, List.mem_append, mem_reals_sortKeys x v, mem_reals_sortItems x vs]

theorem mem_reals_sortEntries (x : Float) : ∀ members : List (Points × Json),
    x ∈ realsOfMembers (sortEntries members) ↔ x ∈ realsOfMembers members
  | [] => Iff.rfl
  | (_, v) :: rest => by
    simp only [sortEntries, realsOfMembers, List.mem_append, mem_reals_sortKeys x v, mem_reals_sortEntries x rest]

end

/-- Outside its strings a text shows the given doubles, and the letters I and N for them only. -/
structure Shows (cs : List Char) (xs : List Float) : Prop where
  closed : Closed cs
  shown : ∀ x ∈ xs, floatText .document x <:+: bare cs
  named : ∀ c ∈ bare cs, c = 'I' ∨ c = 'N' → ∃ x ∈ xs, c ∈ floatText .document x

namespace Shows

theorem append {as bs : List Char} {xs ys : List Float} (left : Shows as xs) (right : Shows bs ys) :
    Shows (as ++ bs) (xs ++ ys) where
  closed := left.closed.append right.closed
  shown := by
    rw [left.closed]
    intro x mem
    rcases List.mem_append.1 mem with mem | mem
    · exact (left.shown x mem).trans (List.prefix_append _ _).isInfix
    · exact (right.shown x mem).trans (List.suffix_append _ _).isInfix
  named := by
    rw [left.closed]
    intro c mem letter
    rcases List.mem_append.1 mem with mem | mem
    · obtain ⟨x, among, named⟩ := left.named c mem letter
      exact ⟨x, List.mem_append_left _ among, named⟩
    · obtain ⟨x, among, named⟩ := right.named c mem letter
      exact ⟨x, List.mem_append_right _ among, named⟩

theorem of_plain {cs : List Char} (plain : '"' ∉ cs ∧ 'I' ∉ cs ∧ 'N' ∉ cs) : Shows cs [] := by
  obtain ⟨quote, noI, noN⟩ := plain
  refine ⟨closed_of_not_mem quote, by simp, ?_⟩
  rw [bare_eq_of_not_mem quote]
  rintro c mem (rfl | rfl)
  · exact absurd mem noI
  · exact absurd mem noN

theorem of_numberMarks {cs : List Char} (marks : ∀ c ∈ cs, NumberMark c) : Shows cs [] := by
  have other {c : Char} (noMark : ¬ NumberMark c) : c ∉ cs := fun mem => noMark (marks c mem)
  exact of_plain ⟨other (by decide), other (by decide), other (by decide)⟩

theorem renderInt (n : Int) : Shows (renderInt n) [] := by
  have digits : ∀ c ∈ natDigits n.natAbs, NumberMark c := fun _ => numberMark_of_mem_natDigits
  refine of_numberMarks fun c mem => ?_
  unfold Json.renderInt at mem
  split_ifs at mem
  · rcases List.mem_cons.1 mem with rfl | digit
    · exact .inr (by decide)
    · exact digits c digit
  · exact digits c mem

theorem renderString (s : Points) : Shows (renderString s) [] where
  closed := closed_renderString s
  shown := by simp
  named := by
    have quotes : bare (Json.renderString s) = ['"', '"'] := by simpa [bare, bareFrom] using bare_renderString s []
    simp [quotes]

theorem floatText (x : Float) : Shows (floatText .document x) [x] where
  closed := closed_of_not_mem (quote_not_mem_floatText x)
  shown := by simp [bare_eq_of_not_mem (quote_not_mem_floatText x)]
  named := by
    rw [bare_eq_of_not_mem (quote_not_mem_floatText x)]
    exact fun c mem _ => ⟨x, List.mem_singleton_self x, mem⟩

theorem commaJoin_cons {t : List Char} {ts : List (List Char)} {xs ys : List Float} (first : Shows t xs)
    (others : Shows (commaJoin ts) ys) : Shows (commaJoin (t :: ts)) (xs ++ ys) := by
  have comma : Shows [','] [] := of_plain (by decide)
  cases ts with
  | nil => simpa [commaJoin] using first.append others
  | cons u us => exact first.append (comma.append others)

/-- Brackets around a text add no doubles. -/
theorem between {cs : List Char} {xs : List Float} (inner : Shows cs xs) {a b : Char} (opening : Shows [a] [])
    (closing : Shows [b] []) : Shows (a :: cs ++ [b]) xs := by
  simpa using (opening.append inner).append closing

end Shows

mutual

/-- The text of a value shows its doubles. -/
theorem shows_render : ∀ v : Json, Shows (render v) (reals v)
  | .null => .of_plain (by decide)
  | .bool true => .of_plain (by decide)
  | .bool false => .of_plain (by decide)
  | .int n => .renderInt n
  | .real x => .floatText x
  | .text s => .renderString s
  | .array items =>
    have opening : Shows ['['] [] := .of_plain (by decide)
    have closing : Shows [']'] [] := .of_plain (by decide)
    (shows_renderItems items).between opening closing
  | .object members =>
    have opening : Shows ['{'] [] := .of_plain (by decide)
    have closing : Shows ['}'] [] := .of_plain (by decide)
    (shows_renderMembers members).between opening closing

theorem shows_renderItems : ∀ items : List Json, Shows (commaJoin (renderItems items)) (realsOfItems items)
  | [] => .of_plain (by decide)
  | v :: vs => (shows_render v).commaJoin_cons (shows_renderItems vs)

theorem shows_renderMembers : ∀ members : List (Points × Json),
    Shows (commaJoin (renderMembers members)) (realsOfMembers members)
  | [] => .of_plain (by decide)
  | (k, v) :: rest =>
    have colon : Shows [':'] [] := .of_plain (by decide)
    have member : Shows (renderString k ++ ':' :: render v) (reals v) :=
      (Shows.renderString k).append (colon.append (shows_render v))
    member.commaJoin_cons (shows_renderMembers rest)

end

/-! ## The names of infinity and of the undefined value -/

theorem occursIn_of_infix {needle piece text : List Char} (occurs : occursIn needle piece) (within : piece <:+: text) :
    occursIn needle text := by
  obtain ⟨as, bs, rfl⟩ := within
  obtain ⟨cs, ds, rfl⟩ := occursIn_iff.1 occurs
  exact occursIn_iff.2 ⟨as ++ cs, ds ++ bs, by simp⟩

theorem mem_of_occursIn {needle text : List Char} (occurs : occursIn needle text) {c : Char} (mem : c ∈ needle) :
    c ∈ text := by
  obtain ⟨as, bs, rfl⟩ := occursIn_iff.1 occurs
  simp [mem]

/-- The text of a value names infinity outside its strings iff one of its doubles is infinite. -/
theorem occursIn_infinity_iff (v : Json) :
    occursIn "Infinity".toList (bare (render v)) = true ↔ ∃ x ∈ reals v, x.isInf = true := by
  constructor
  · intro occurs
    obtain ⟨x, among, mem⟩ := (shows_render v).named 'I' (mem_of_occursIn occurs (by decide)) (.inl rfl)
    exact ⟨x, among, isInf_of_mem_floatText mem⟩
  · rintro ⟨x, among, infinite⟩
    refine occursIn_of_infix ?_ ((shows_render v).shown x among)
    obtain ⟨s, written⟩ := floatText_of_isInf infinite
    exact occursIn_iff.2 ⟨signText s, [], by simp [written]⟩

/-- The text of a value names the undefined value outside its strings iff one of its doubles is undefined. -/
theorem occursIn_undefined_iff (v : Json) :
    occursIn "NaN".toList (bare (render v)) = true ↔ ∃ x ∈ reals v, x.isNaN = true := by
  constructor
  · intro occurs
    obtain ⟨x, among, mem⟩ := (shows_render v).named 'N' (mem_of_occursIn occurs (by decide)) (.inr rfl)
    exact ⟨x, among, isNaN_of_mem_floatText mem⟩
  · rintro ⟨x, among, undefined⟩
    refine occursIn_of_infix ?_ ((shows_render v).shown x among)
    rw [floatText_of_isNaN undefined]
    decide

end ResolverWatch.Json
