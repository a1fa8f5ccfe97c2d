import ResolverWatch.Proofs.Decimal.ReadBack
import ResolverWatch.Proofs.Json.Line
import ResolverWatch.Proofs.Json.Strings
import ResolverWatch.Proofs.Text.Classes

/-!
# What the text of a value tells

A value without quotes and brackets is read back from its text (`scalar?_render`), which ends at the first mark of the
structure. From the way that a text starts it is seen which kind of value it is the text of, and so the text of any
value tells where it ends and what the value is, but for the pairs of halves in its strings (`told_render`).
-/

namespace ResolverWatch.Json

open Text Decimal

/-! ## Texts and what follows them -/

/-- What follows a value: nothing, a comma, or a closing bracket. -/
def Ended (rest : List Char) : Prop :=
  ∀ c ∈ rest.head?, c ∈ [',', ']', '}']

/-- A text is told from what follows it, and tells so much of what it is the text of. -/
def Told {α β : Type} (text : α → List Char) (view : α → β) (a : α) : Prop :=
  ∀ b rest rest', Ended rest → Ended rest' → text a ++ rest = text b ++ rest' → view a = view b ∧ rest = rest'

/-- What follows the first of some texts with commas between them, up to a closing bracket and beyond. -/
def following (close : Char) (rest : List Char) : List (List Char) → List Char
  | [] => close :: rest
  | t :: ts => ',' :: (commaJoin (t :: ts) ++ close :: rest)

theorem commaJoin_cons_append (t : List Char) (ts : List (List Char)) (close : Char) (rest : List Char) :
    commaJoin (t :: ts) ++ close :: rest = t ++ following close rest ts := by
  cases ts with
  | nil => rfl
  | cons u us => simp [commaJoin, following]

section Join

variable {close : Char} (closes : close ∈ [']', '}'])
include closes

theorem ended_following (rest : List Char) (ts : List (List Char)) : Ended (following close rest ts) := by
  intro c mem
  cases ts with
  | nil =>
    obtain rfl := Option.some.inj mem
    exact List.mem_cons_of_mem _ closes
  | cons t ts =>
    obtain rfl := Option.some.inj mem
    exact List.mem_cons_self

theorem commaJoin_eq_of_following {ts us : List (List Char)} {rest rest' : List Char}
    (same : following close rest ts = following close rest' us) :
    commaJoin ts ++ close :: rest = commaJoin us ++ close :: rest' := by
  have other : close ≠ ',' := by
    rintro rfl
    exact absurd closes (by decide)
  cases ts with
  | nil =>
    cases us with
    | nil => exact same
    | cons u us => exact absurd (List.cons.inj same).1 other
  | cons t ts =>
    cases us with
    | nil => exact absurd (List.cons.inj same).1.symm other
    | cons u us => exact (List.cons.inj same).2

/-- Texts with commas between them tell what they are the texts of, if each of them does. -/
theorem eq_of_commaJoin {α β : Type} {text : α → List Char} {view : α → β}
    (starts : ∀ a, ∃ c cs, text a = c :: cs ∧ c ∉ [',', ']', '}']) {as bs : List α}
    (told : ∀ a ∈ as, Told text view a) {rest rest' : List Char}
    (same : commaJoin (as.map text) ++ close :: rest = commaJoin (bs.map text) ++ close :: rest') :
    as.map view = bs.map view ∧ rest = rest' := by
  have closed (a : α) (ts : List (List Char)) (r s : List Char) :
      close :: r ≠ commaJoin (text a :: ts) ++ close :: s := by
    obtain ⟨c, cs, written, other⟩ := starts a
    rw [commaJoin_cons_append, written]
    intro same
    rw [← (List.cons.inj same).1] at other
    exact other (List.mem_cons_of_mem _ closes)
  induction as generalizing bs with
  | nil =>
    cases bs with
    | nil => exact ⟨rfl, (List.cons.inj same).2⟩
    | cons b bs => exact absurd same (closed b _ _ _)
  | cons a as ih =>
    cases bs with
    | nil => exact absurd same.symm (closed a _ _ _)
    | cons b bs =>
      obtain ⟨first, later⟩ := List.forall_mem_cons.1 told
      rw [List.map_cons, List.map_cons, commaJoin_cons_append, commaJoin_cons_append] at same
      obtain ⟨one, others⟩ := first b _ _ (ended_following closes _ _) (ended_following closes _ _) same
      obtain ⟨more, rest⟩ := ih later (commaJoin_eq_of_following closes others)
      rw [List.map_cons, List.map_cons, one, more]
      exact ⟨rfl, rest⟩

end Join

/-! ## Values without quotes and brackets -/

/-- A value that is written without quotes and brackets. -/
def isScalar : Json → Bool
  | .null | .bool _ | .int _ | .real _ => true
  | .text _ | .array _ | .object _ => false

/-- The marks of the structure of a text. -/
def structural : List Char :=
  [',', ']', '}', '[', '{', '"']

theorem not_structural_of_numberMark {c : Char} (mark : NumberMark c) : c ∉ structural := by
  have marks : ∀ d ∈ structural, ¬ NumberMark d := by simp [structural, NumberMark]
  exact fun mem => marks c mem mark

theorem not_structural_of_mem_render {v : Json} (scalar : v.isScalar = true) {c : Char} (mem : c ∈ render v) :
    c ∉ structural := by
  have words : ∀ word ∈ ["null", "true", "false", "Infinity", "NaN"], ∀ d ∈ word.toList, d ∉ structural := by
    simp [structural]
  cases v with
  | text | array | object => exact absurd scalar Bool.false_ne_true
  | null => exact words "null" (by simp) c mem
  | bool b =>
    cases b with
    | true => exact words "true" (by simp) c mem
    | false => exact words "false" (by simp) c mem
  | int n =>
    rcases digit_or_minus_of_mem_renderInt mem with digit | minus
    · exact not_structural_of_numberMark (.inl digit)
    · exact not_structural_of_numberMark (.inr (by simp [minus]))
  | real x =>
    rcases mem_floatText_cases mem with mark | ⟨-, letter⟩ | ⟨-, letter⟩
    · exact not_structural_of_numberMark mark
    · exact words "Infinity" (by simp) c letter
    · exact words "NaN" (by simp) c letter

/-- An integer is read back from its text. -/
theorem literal?_renderInt (n : Int) :
    literal? asciiDigitValue? (renderInt n) = some ⟨decide (n < 0), n.natAbs, 0⟩ := by
  obtain ⟨ds, digits, number⟩ := exists_digits_natDigits n.natAbs
  have pointed : Pointed asciiDigitValue? (natDigits n.natAbs) ds 0 := .whole digits Nat.toDigits_ne_nil
  rw [← number, literal?_eq_some_iff asciiDigitValue?_marks]
  unfold renderInt
  split_ifs with negative
  · rw [decide_eq_true negative]
    simpa using Spells.spells .minus pointed .absent
  · rw [decide_eq_false negative]
    simpa using Spells.spells .absent pointed .absent

theorem mem_fixedDigits (ds : List Char) (point : Int) : '.' ∈ fixedDigits ds point := by
  unfold fixedDigits
  dsimp only
  split_ifs <;> simp

theorem mem_scientificDigits (ds : List Char) (exponent : Int) : 'e' ∈ scientificDigits ds exponent := by
  unfold scientificDigits
  simp

/-- A double is not written like an integer. -/
theorem exists_mark_floatText (x : Float) : ∃ c ∈ floatText .document x, c ∈ ['.', 'e', 'I', 'N'] := by
  unfold floatText
  cases x.toModel.unpack with
  | notANumber => exact ⟨'N', by simp [Layout.document], by decide⟩
  | infinity s => exact ⟨'I', by simp [Layout.document], by decide⟩
  | zero s => exact ⟨'.', by simp, by decide⟩
  | finite s m q pos =>
    dsimp only
    unfold Scaled.text
    dsimp only
    split_ifs
    · exact ⟨'.', List.mem_append_right _ (mem_fixedDigits _ _), by decide⟩
    · exact ⟨'e', List.mem_append_right _ (mem_scientificDigits _ _), by decide⟩

/-- The value that a text without quotes and brackets is the text of. -/
def scalar? (cs : List Char) : Option Json :=
  if cs = "null".toList then some .null
  else if cs = "true".toList then some (.bool true)
  else if cs = "false".toList then some (.bool false)
  else if ∃ c ∈ cs, c ∈ ['.', 'e', 'I', 'N'] then (float? asciiDigitValue? cs).map .real
  else (literal? asciiDigitValue? cs).map fun l => .int (if l.negative then -l.digits else l.digits)

theorem scalar?_of_number {cs : List Char} (unnamed : 'u' ∉ cs ∧ 's' ∉ cs) :
    scalar? cs = if ∃ c ∈ cs, c ∈ ['.', 'e', 'I', 'N'] then (float? asciiDigitValue? cs).map .real
      else (literal? asciiDigitValue? cs).map fun l => .int (if l.negative then -l.digits else l.digits) := by
  have other (word : String) (named : 'u' ∈ word.toList ∨ 's' ∈ word.toList) : cs ≠ word.toList := by
    rintro rfl
    exact named.elim unnamed.1 unnamed.2
  unfold scalar?
  rw [if_neg (other "null" (by decide)), if_neg (other "true" (by decide)), if_neg (other "false" (by decide))]

/-- A value without quotes and brackets is read back from its text. -/
theorem scalar?_render {v : Json} (scalar : v.isScalar = true) : scalar? (render v) = some v := by
  cases v with
  | text | array | object => exact absurd scalar Bool.false_ne_true
  | null => rfl
  | bool b =>
    cases b with
    | true => rfl
    | false => rfl
  | int n =>
    have other (c : Char) (letter : ¬ (c.isDigit = true ∨ c = '-')) : c ∉ renderInt n :=
      fun mem => letter (digit_or_minus_of_mem_renderInt mem)
    have whole : ¬ ∃ c ∈ renderInt n, c ∈ ['.', 'e', 'I', 'N'] := by
      rintro ⟨c, mem, mark⟩
      have marks : ∀ c ∈ ['.', 'e', 'I', 'N'], ¬ (c.isDigit = true ∨ c = '-') := by simp
      exact marks c mark (digit_or_minus_of_mem_renderInt mem)
    show scalar? (renderInt n) = _
    rw [scalar?_of_number ⟨other 'u' (by decide), other 's' (by decide)⟩, if_neg whole, literal?_renderInt]
    have value : (if decide (n < 0) = true then -(n.natAbs : Int) else n.natAbs) = n := by
      split_ifs with negative <;> rw [decide_eq_true_eq] at negative <;> omega
    exact congrArg (fun n => some (Json.int n)) value
  | real x =>
    have other (c : Char) (letter : ¬ NumberMark c) (unnamed : c ∉ "Infinity".toList ∧ c ∉ "NaN".toList) :
        c ∉ floatText .document x := by
      intro mem
      rcases mem_floatText_cases mem with mark | ⟨-, mem⟩ | ⟨-, mem⟩
      · exact letter mark
      · exact unnamed.1 mem
      · exact unnamed.2 mem
    show scalar? (floatText .document x) = _
    rw [scalar?_of_number ⟨other 'u' (by decide) (by decide), other 's' (by decide) (by decide)⟩,
      if_pos (exists_mark_floatText x), float?_floatText]
    rfl

/-! ## Pairs of halves -/

mutual

/-- A value with the character in the place of each pair of halves in its strings. -/
def joined : Json → Json
  | .text s => .text s.joined
  | .array items => .array (joinedItems items)
  | .object members => .object (joinedMembers members)
  | v => v

/-- The items of an array with their pairs of halves joined. -/
def joinedItems : List Json → List Json
  | [] => []
  | v :: vs => joined v :: joinedItems vs

/-- The members of an object with their pairs of halves joined. -/
def joinedMembers : List (Points × Json) → List (Points × Json)
  | [] => []
  | (k, v) :: rest => (k.joined, joined v) :: joinedMembers rest

end

/-- A member of an object with its pairs of halves joined. -/
def joinedMember (p : Points × Json) : Points × Json :=
  (p.1.joined, joined p.2)

theorem joinedItems_eq_map (items : List Json) : joinedItems items = items.map joined := by
  induction items with
  | nil => rfl
  | cons v vs ih => exact congrArg (joined v :: ·) ih

theorem joinedMembers_eq_map (members : List (Points × Json)) : joinedMembers members = members.map joinedMember := by
  induction members with
  | nil => rfl
  | cons p rest ih => exact congrArg (joinedMember p :: ·) ih

/-! ## All values -/

/-- The mark that the text of a value with quotes or brackets starts with. -/
def opening? : Json → Option Char
  | .text _ => some '"'
  | .array _ => some '['
  | .object _ => some '{'
  | _ => none

/-- The mark that a text starts with, if it is a quote or an opening bracket. -/
def openingOf? (c : Char) : Option Char :=
  if c ∈ ['"', '[', '{'] then some c else none

/-- How the text of a value starts. -/
theorem exists_start_render (v : Json) :
    ∃ c cs, render v = c :: cs ∧ c ∉ [',', ']', '}'] ∧ openingOf? c = opening? v := by
  have plain (scalar : v.isScalar = true) (none : opening? v = none) :
      ∃ c cs, render v = c :: cs ∧ c ∉ [',', ']', '}'] ∧ openingOf? c = opening? v := by
    have read := scalar?_render scalar
    have marks (c : Char) (mem : c ∈ render v) : c ∉ structural := not_structural_of_mem_render scalar mem
    cases written : render v with
    | nil =>
      rw [written, scalar?_of_number (by simp), if_neg (by simp)] at read
      exact absurd read (Option.some_ne_none _).symm
    | cons c cs =>
      rw [written] at marks
      obtain ⟨first, -⟩ := List.forall_mem_cons.1 marks
      simp only [structural, List.mem_cons, not_or, List.not_mem_nil, not_false_eq_true, and_true] at first
      refine ⟨c, cs, rfl, by simp [first], ?_⟩
      rw [none]
      exact if_neg (by simp [first])
  cases v with
  | null | bool | int | real => exact plain rfl rfl
  | text | array | object => exact ⟨_, _, rfl, by simp, rfl⟩

/-- Texts that start alike are those of values of one kind. -/
theorem opening?_eq {v w : Json} {rest rest' : List Char} (same : render v ++ rest = render w ++ rest') :
    opening? v = opening? w := by
  obtain ⟨c, cs, written, -, kind⟩ := exists_start_render v
  obtain ⟨d, ds, written', -, kind'⟩ := exists_start_render w
  rw [written, written'] at same
  rw [← kind, ← kind', (List.cons.inj same).1]

theorem told_of_isScalar {v : Json} (scalar : v.isScalar = true) : Told render joined v := by
  intro w rest rest' ended ended' same
  have kind := opening?_eq same
  have scalar' : w.isScalar = true := by
    cases v with
    | text | array | object => exact absurd scalar Bool.false_ne_true
    | null | bool | int | real =>
      cases w with
      | null | bool | int | real => rfl
      | text | array | object => exact absurd kind (Option.some_ne_none _).symm
  -- The text goes on to the first mark of structure, or to the end.
  have stop {r : List Char} (ended : Ended r) : ∀ c ∈ r.head?, decide (c ∉ structural) = false := by
    intro c mem
    have mark : c ∈ structural := List.mem_append_left ['[', '{', '"'] (ended c mem)
    simp [mark]
  have all {v : Json} (scalar : v.isScalar = true) : ∀ c ∈ render v, decide (c ∉ structural) = true :=
    fun c mem => decide_eq_true (not_structural_of_mem_render scalar mem)
  obtain ⟨text, after⟩ := takeWhile_append_of_stop (all scalar) (stop ended)
  obtain ⟨text', after'⟩ := takeWhile_append_of_stop (all scalar') (stop ended')
  rw [same] at text after
  have read := scalar?_render scalar
  rw [← text, text', scalar?_render scalar'] at read
  obtain rfl : w = v := Option.some.inj read
  exact ⟨rfl, after.symm.trans after'⟩

theorem told_text (s : Points) : Told render joined (.text s) := by
  intro w rest rest' _ _ same
  have kind := opening?_eq same
  cases w with
  | null | bool | int | real => exact absurd kind (Option.some_ne_none _)
  | array | object => exact absurd (Option.some.inj kind) (by decide)
  | text t =>
    obtain ⟨text, rest⟩ := renderString_append_inj same
    exact ⟨congrArg Json.text text, rest⟩

/-- The text of a member of an object. -/
def memberText (p : Points × Json) : List Char :=
  renderString p.1 ++ ':' :: render p.2

theorem renderItems_eq_map (items : List Json) : renderItems items = items.map render := by
  induction items with
  | nil => rfl
  | cons v vs ih => exact congrArg (render v :: ·) ih

theorem renderMembers_eq_map (members : List (Points × Json)) : renderMembers members = members.map memberText := by
  induction members with
  | nil => rfl
  | cons p rest ih => exact congrArg (memberText p :: ·) ih

theorem told_member {k : Points} {v : Json} (told : Told render joined v) : Told memberText joinedMember (k, v) := by
  rintro ⟨l, w⟩ rest rest' ended ended' same
  have whole : renderString k ++ (':' :: (render v ++ rest)) = renderString l ++ (':' :: (render w ++ rest')) := by
    simpa [memberText] using same
  obtain ⟨keys, values⟩ := renderString_append_inj whole
  obtain ⟨value, rest⟩ := told w rest rest' ended ended' (List.cons.inj values).2
  exact ⟨Prod.ext keys value, rest⟩

theorem told_array {items : List Json} (told : ∀ v ∈ items, Told render joined v) :
    Told render joined (.array items) := by
  intro w rest rest' _ _ same
  have kind := opening?_eq same
  cases w with
  | null | bool | int | real => exact absurd kind (Option.some_ne_none _)
  | text | object => exact absurd (Option.some.inj kind) (by decide)
  | array items' =>
    have inner : commaJoin (items.map render) ++ ']' :: rest = commaJoin (items'.map render) ++ ']' :: rest' := by
      simpa [render, renderItems_eq_map] using same
    have starts (v : Json) : ∃ c cs, render v = c :: cs ∧ c ∉ [',', ']', '}'] := by
      obtain ⟨c, cs, written, other, -⟩ := exists_start_render v
      exact ⟨c, cs, written, other⟩
    obtain ⟨views, rest⟩ := eq_of_commaJoin (by decide) starts told inner
    exact ⟨by rw [joined, joined, joinedItems_eq_map, joinedItems_eq_map, views], rest⟩

theorem told_object {members : List (Points × Json)} (told : ∀ p ∈ members, Told memberText joinedMember p) :
    Told render joined (.object members) := by
  intro w rest rest' _ _ same
  have kind := opening?_eq same
  cases w with
  | null | bool | int | real => exact absurd kind (Option.some_ne_none _)
  | text | array => exact absurd (Option.some.inj kind) (by decide)
  | object members' =>
    have inner : commaJoin (members.map memberText) ++ '}' :: rest =
        commaJoin (members'.map memberText) ++ '}' :: rest' := by
      simpa [render, renderMembers_eq_map] using same
    have starts (p : Points × Json) : ∃ c cs, memberText p = c :: cs ∧ c ∉ [',', ']', '}'] :=
      ⟨'"', _, rfl, by decide⟩
    obtain ⟨views, rest⟩ := eq_of_commaJoin (by decide) starts told inner
    exact ⟨by rw [joined, joined, joinedMembers_eq_map, joinedMembers_eq_map, views], rest⟩

mutual

/-- The text of a value tells the value but for its pairs of halves, and where it ends. -/
theorem told_render : ∀ v : Json, Told render joined v
  | .null => told_of_isScalar rfl
  | .bool _ => told_of_isScalar rfl
  | .int _ => told_of_isScalar rfl
  | .real _ => told_of_isScalar rfl
  | .text s => told_text s
  | .array items => told_array (told_of_mem_items items)
  | .object members => told_object (told_of_mem_members members)

theorem told_of_mem_items : ∀ items : List Json, ∀ v ∈ items, Told render joined v
  | [] => by simp
  | v :: vs => by
    intro w mem
    rcases List.mem_cons.1 mem with same | later
    · rw [same]
      exact told_render v
    · exact told_of_mem_items vs w later

theorem told_of_mem_members : ∀ members : List (Points × Json), ∀ p ∈ members, Told memberText joinedMember p
  | [] => by simp
  | (k, v) :: rest => by
    intro p mem
    rcases List.mem_cons.1 mem with same | later
    · rw [same]
      exact told_member (told_render v)
    · exact told_of_mem_members rest p later

end

/-- Values with the same text differ in pairs of halves at most. -/
theorem joined_eq_of_toText_eq {v w : Json} (same : v.toText = w.toText) : v.joined = w.joined := by
  have texts : render v = render w := String.ofList_injective same
  have ended : Ended [] := fun _ mem => absurd mem (Option.not_mem_none _)
  exact (told_render v w [] [] ended ended (by rw [texts])).1

end ResolverWatch.Json
