import Mathlib.Data.Option.Basic
import ResolverWatch.Proofs.Decimal.Grammar
import ResolverWatch.Proofs.Decimal.Nearest
import ResolverWatch.Proofs.Text.Classes
import ResolverWatch.Sample

/-!
# How a sample is written

A sample is written as a name, an optional block of labels in braces, blanks, a number, and an optional time behind
further blanks (`Writing`). Each part ends where the class of the next character excludes it, so a text can be written
in one way only, and the line reader finds that way (`parse?_eq_some_iff`).
-/

namespace ResolverWatch.Sample

open Text Decimal

/-- Nothing, or braces around a text that holds no closing brace. -/
inductive Braced : List Char → List Char → Prop
  | absent : Braced [] []
  | braces {inner} (unclosed : '}' ∉ inner) : Braced ('{' :: (inner ++ ['}'])) inner

/-- Nothing, or blanks and a whole number with an optional minus. -/
inductive Timed : List Char → Prop
  | absent : Timed []
  | time {gap sign digits} (apart : gap ≠ []) (blank : ∀ c ∈ gap, isBlank c = true) (signed : sign = [] ∨ sign = ['-'])
    (nonempty : digits ≠ []) (digital : ∀ c ∈ digits, isDigit c = true) : Timed (gap ++ (sign ++ digits))

/-- The parts that a text is written of as a sample. -/
@[ext] structure Writing (text : List Char) where
  name : List Char
  block : List Char
  /-- The text between the braces. -/
  inner : List Char
  gap : List Char
  number : List Char
  literal : Literal
  time : List Char
  split : text = name ++ (block ++ (gap ++ (number ++ time)))
  named : name ≠ [] ∧ ∀ c ∈ name, isWord c = true
  braced : Braced block inner
  apart : gap ≠ [] ∧ ∀ c ∈ gap, isBlank c = true
  spelled : Spells digitValue? number literal
  timed : Timed time

/-- The sample that is written. -/
def Writing.sample {text : List Char} (w : Writing text) : Sample :=
  ⟨String.ofList w.name, Labels.ofBlock w.inner, w.literal.toFloat⟩

/-! ## Reading the parts -/

theorem digitValue?_marks : ∀ c ∈ ['+', '-', '.', 'e', 'E'], digitValue? c = none := by
  simp only [List.forall_mem_cons]
  exact ⟨rfl, rfl, rfl, rfl, rfl, fun _ mem => absurd mem List.not_mem_nil⟩

theorem isBlank_of_isMark {c : Char} (mark : IsMark digitValue? c) : isBlank c = false := by
  rw [← Bool.not_eq_true]
  intro blank
  rcases mark with digit | mark
  · rw [digitValue?_of_isBlank blank] at digit
    contradiction
  · exact ne_of_isBlank blank (List.mem_cons_of_mem _ (List.mem_cons_of_mem _ mark))

theorem ne_nil_of_spells {number : List Char} {literal : Literal} (spelled : Spells digitValue? number literal) :
    number ≠ [] := by
  intro empty
  have none : literal? digitValue? [] = none := rfl
  rw [empty, ← literal?_eq_some_iff digitValue?_marks, none] at spelled
  contradiction

theorem splitBlock?_append {block inner rest : List Char} (braced : Braced block inner)
    (stop : block = [] → ∀ c ∈ rest.head?, c ≠ '{') : splitBlock? (block ++ rest) = some (inner, rest) := by
  cases braced with
  | absent =>
    rw [List.nil_append]
    unfold splitBlock?
    split
    · exact absurd rfl (stop rfl '{' rfl)
    · rfl
  | @braces inner unclosed =>
    have inside : ∀ c ∈ inner, decide (c ≠ '}') = true :=
      fun c mem => decide_eq_true fun same => unclosed (same ▸ mem)
    have closing : ∀ c ∈ ('}' :: rest).head?, decide (c ≠ '}') = false := by
      rintro c ⟨⟩
      rfl
    have stopped := takeWhile_append_of_stop inside closing
    show splitBlock? ('{' :: (inner ++ ['}'] ++ rest)) = _
    rw [List.append_assoc]
    unfold splitBlock?
    simp only [List.cons_append, List.nil_append, stopped.1, stopped.2]

theorem braced_of_splitBlock? {cs inner rest : List Char} (found : splitBlock? cs = some (inner, rest)) :
    ∃ block, Braced block inner ∧ cs = block ++ rest := by
  unfold splitBlock? at found
  split at found
  · next cs =>
    split at found
    · next closing rest' dropped =>
      obtain ⟨rfl, rfl⟩ := Prod.mk.inj (Option.some.inj found)
      have closed : closing = '}' := by
        have stop := List.head?_dropWhile_not (fun c => decide (c ≠ '}')) cs
        rw [dropped] at stop
        simpa using stop
      have whole := List.takeWhile_append_dropWhile (p := fun c => decide (c ≠ '}')) (l := cs)
      rw [dropped, closed] at whole
      refine ⟨_, .braces fun mem => ?_, ?_⟩
      · have open' := List.mem_takeWhile_imp mem
        simp at open'
      · rw [List.cons_append, List.append_assoc]
        exact congrArg _ whole.symm
    · contradiction
  · obtain ⟨rfl, rfl⟩ := Prod.mk.inj (Option.some.inj found)
    exact ⟨[], .absent, rfl⟩

/-- A time is read where the text ends or goes on with a blank. -/
theorem timed_iff {cs : List Char} : Timed cs ↔ isTimeTail cs = true ∧ ∀ c ∈ cs.head?, isBlank c = true := by
  constructor
  · intro timed
    cases timed with
    | absent => exact ⟨rfl, fun _ mem => absurd mem (Option.not_mem_none _)⟩
    | @time gap sign digits apart blank signed nonempty digital =>
      have shown : ∀ c ∈ digits.head?, isBlank c = false ∧ c ≠ '-' := by
        intro c mem
        have digit := digital c (List.mem_of_mem_head? mem)
        exact ⟨isBlank_of_isMark (.inl digit), by rintro rfl; exact absurd digit Bool.false_ne_true⟩
      have stop : ∀ c ∈ (sign ++ digits).head?, isBlank c = false := by
        rcases signed with rfl | rfl
        · exact fun c mem => (shown c mem).1
        · rintro c ⟨⟩
          rfl
      have dropped := (takeWhile_append_of_stop blank stop).2
      have whole : (!digits.isEmpty && digits.all isDigit) = true := by
        rw [List.isEmpty_eq_false_iff.2 nonempty, List.all_eq_true.2 digital]
        rfl
      constructor
      · unfold isTimeTail
        rw [dropped, Bool.or_eq_true]
        refine .inr ?_
        rcases signed with rfl | rfl
        · dsimp only [List.nil_append]
          split
          · exact absurd rfl (shown '-' rfl).2
          · exact whole
        · exact whole
      · rw [List.head?_append_of_ne_nil _ apart]
        exact fun c mem => blank c (List.mem_of_mem_head? mem)
  · rintro ⟨tail, starts⟩
    cases cs with
    | nil => exact .absent
    | cons c cs =>
      have first : isBlank c = true := starts c rfl
      have apart : (c :: cs).takeWhile isBlank ≠ [] := by
        rw [List.takeWhile_cons_of_pos first]
        exact List.cons_ne_nil _ _
      have blank : ∀ d ∈ (c :: cs).takeWhile isBlank, isBlank d = true := fun d mem => List.mem_takeWhile_imp mem
      rw [← List.takeWhile_append_dropWhile (p := isBlank) (l := c :: cs)]
      unfold isTimeTail at tail
      rw [List.isEmpty_cons, Bool.false_or] at tail
      generalize (c :: cs).takeWhile isBlank = gap at apart blank
      generalize (c :: cs).dropWhile isBlank = rest at tail
      have number {digits : List Char} (whole : (!digits.isEmpty && digits.all isDigit) = true) :
          digits ≠ [] ∧ ∀ d ∈ digits, isDigit d = true := by
        rw [Bool.and_eq_true, Bool.not_eq_true', List.isEmpty_eq_false_iff, List.all_eq_true] at whole
        exact whole
      dsimp only at tail
      split at tail
      · obtain ⟨nonempty, digital⟩ := number tail
        exact .time apart blank (.inr rfl) nonempty digital
      · obtain ⟨nonempty, digital⟩ := number tail
        exact .time apart blank (.inl rfl) nonempty digital

/-! ## Reading the whole -/

namespace Writing

variable {text : List Char} (w : Writing text)

theorem starts_gap {rest : List Char} : ∀ c ∈ (w.gap ++ rest).head?, isBlank c = true := by
  rw [List.head?_append_of_ne_nil _ w.apart.1]
  exact fun c mem => w.apart.2 c (List.mem_of_mem_head? mem)

theorem starts_block : ∀ c ∈ (w.block ++ (w.gap ++ (w.number ++ w.time))).head?, isWord c = false := by
  have braced := w.braced
  generalize w.block = block at braced
  generalize w.inner = inner at braced
  cases braced with
  | absent => exact fun c mem => isWord_of_isBlank (w.starts_gap c mem)
  | braces =>
    rintro c ⟨⟩
    rfl

theorem name_eq : text.takeWhile isWord = w.name ∧
    text.dropWhile isWord = w.block ++ (w.gap ++ (w.number ++ w.time)) := by
  have cut := takeWhile_append_of_stop w.named.2 w.starts_block
  rwa [← w.split] at cut

theorem block_eq : splitBlock? (w.block ++ (w.gap ++ (w.number ++ w.time))) =
    some (w.inner, w.gap ++ (w.number ++ w.time)) := by
  refine splitBlock?_append w.braced fun _ c mem same => ?_
  subst same
  exact absurd (w.starts_gap _ mem) Bool.false_ne_true

theorem starts_number {rest : List Char} : ∀ c ∈ (w.number ++ rest).head?, isBlank c = false := by
  rw [List.head?_append_of_ne_nil _ (ne_nil_of_spells w.spelled)]
  exact fun c mem => isBlank_of_isMark (w.spelled.marks c (List.mem_of_mem_head? mem))

theorem gap_eq : (w.gap ++ (w.number ++ w.time)).takeWhile isBlank = w.gap ∧
    (w.gap ++ (w.number ++ w.time)).dropWhile isBlank = w.number ++ w.time :=
  takeWhile_append_of_stop w.apart.2 w.starts_number

theorem number_eq : (w.number ++ w.time).takeWhile (fun c => !isBlank c) = w.number ∧
    (w.number ++ w.time).dropWhile (fun c => !isBlank c) = w.time := by
  apply takeWhile_append_of_stop
  · intro c mem
    rw [isBlank_of_isMark (w.spelled.marks c mem)]
    rfl
  · intro c mem
    rw [(timed_iff.1 w.timed).2 c mem]
    rfl

end Writing

/-- What is written on a line is read, unless its number is too great for a double. -/
theorem parse?_of_writing {line text : List Char} (trimmed : trim line = text) (w : Writing text) :
    parse? line = if w.literal.toFloat.isFinite then some w.sample else none := by
  have named : w.name.isEmpty = false := List.isEmpty_eq_false_iff.2 w.named.1
  have gapped : (w.gap ++ (w.number ++ w.time)).head?.any isBlank = true := by
    obtain ⟨c, cs, cons⟩ := List.exists_cons_of_ne_nil w.apart.1
    rw [cons]
    exact w.apart.2 c (cons ▸ List.mem_cons_self)
  have timed := (timed_iff.1 w.timed).1
  have spelled := (literal?_eq_some_iff digitValue?_marks).2 w.spelled
  unfold parse?
  dsimp only
  rw [trimmed, w.name_eq.1, w.name_eq.2, named, w.block_eq]
  simp only [Option.bind_eq_bind, Option.bind_some]
  rw [gapped, w.gap_eq.2, w.number_eq.2, timed, w.number_eq.1, spelled]
  by_cases finite : w.literal.toFloat.isFinite = true
  · rw [if_pos finite]
    simp [guard, finite, Writing.sample]
  · rw [if_neg finite]
    simp [guard, finite]

/-- A line that is read is written as a sample. -/
theorem exists_writing {line : List Char} {s : Sample} (parsed : parse? line = some s) :
    Nonempty (Writing (trim line)) := by
  unfold parse? at parsed
  simp only [Option.bind_eq_bind, Option.bind_eq_some_iff, Option.guard_eq_some', Option.pure_def] at parsed
  obtain ⟨_, named, ⟨inner, rest⟩, found, _, gapped, _, tail, literal, read, -⟩ := parsed
  obtain ⟨block, braced, behind⟩ := braced_of_splitBlock? found
  rw [Bool.not_eq_true', List.isEmpty_eq_false_iff] at named
  rw [literal?_eq_some_iff digitValue?_marks] at read
  dsimp only at gapped tail read
  have gap : rest.takeWhile isBlank ≠ [] := by
    obtain ⟨c, first, blank⟩ := (Option.any_eq_true _ _).1 gapped
    obtain ⟨cs, rfl⟩ := List.head?_eq_some_iff.1 first
    rw [List.takeWhile_cons_of_pos blank]
    exact List.cons_ne_nil _ _
  have time : Timed ((rest.dropWhile isBlank).dropWhile fun c => !isBlank c) := by
    refine timed_iff.2 ⟨tail, fun c first => ?_⟩
    have stop := List.head?_dropWhile_not (fun c => !isBlank c) (rest.dropWhile isBlank)
    rw [Option.mem_def.1 first] at stop
    simpa using stop
  refine ⟨_, block, inner, _, _, literal, _, ?_, ⟨named, fun c mem => List.mem_takeWhile_imp mem⟩, braced,
    ⟨gap, fun c mem => List.mem_takeWhile_imp mem⟩, read, time⟩
  rw [List.takeWhile_append_dropWhile, List.takeWhile_append_dropWhile, ← behind, List.takeWhile_append_dropWhile]

/-- A text can be written as a sample in one way only. -/
theorem Writing.unique {text : List Char} (w v : Writing text) : w = v := by
  have name := w.name_eq.1.symm.trans v.name_eq.1
  have rest := w.name_eq.2.symm.trans v.name_eq.2
  have found := w.block_eq
  rw [rest, v.block_eq] at found
  obtain ⟨inner, rest'⟩ := Prod.mk.inj (Option.some.inj found)
  have block : w.block = v.block := by
    rw [rest'] at rest
    exact List.append_cancel_right rest
  have gap : w.gap = v.gap := by rw [← w.gap_eq.1, ← v.gap_eq.1, rest']
  have rest'' : w.number ++ w.time = v.number ++ v.time := by rw [← w.gap_eq.2, ← v.gap_eq.2, rest']
  have number : w.number = v.number := by rw [← w.number_eq.1, ← v.number_eq.1, rest'']
  have time : w.time = v.time := by rw [← w.number_eq.2, ← v.number_eq.2, rest'']
  have spelled := (literal?_eq_some_iff digitValue?_marks).2 w.spelled
  rw [number, (literal?_eq_some_iff digitValue?_marks).2 v.spelled] at spelled
  exact Writing.ext name block inner.symm gap number (Option.some.inj spelled).symm time

/-- A line is read as a sample iff it is written as that sample with a number that is not too great for a double. -/
theorem parse?_eq_some_iff {line : List Char} {s : Sample} :
    parse? line = some s ↔ ∃ w : Writing (trim line), w.literal.toFloat.isFinite = true ∧ s = w.sample := by
  constructor
  · intro parsed
    obtain ⟨w⟩ := exists_writing parsed
    rw [parse?_of_writing rfl w] at parsed
    obtain ⟨finite, same⟩ := Option.ite_none_right_eq_some.1 parsed
    exact ⟨w, finite, (Option.some.inj same).symm⟩
  · rintro ⟨w, finite, rfl⟩
    rw [parse?_of_writing rfl w, if_pos finite]

/-- A line is read iff, trimmed, it is written as a sample whose number has a finite double. It is written so in at
most one way, and what is read has its name and, as its value, the one double that is nearest to its number. -/
theorem read_iff_written (line : List Char) :
    ((parse? line).isSome = true ↔ ∃ w : Writing (trim line), w.literal.IsFinite) ∧
      Subsingleton (Writing (trim line)) ∧
      ∀ (w : Writing (trim line)) (s : Sample), parse? line = some s →
        s.name = String.ofList w.name ∧ ∀ x, Double.Nearest x w.literal.negative w.literal.value ↔ x = s.value := by
  refine ⟨?_, ⟨Writing.unique⟩, ?_⟩
  · constructor
    · intro read
      obtain ⟨s, parsed⟩ := Option.isSome_iff_exists.1 read
      obtain ⟨w, finite, -⟩ := parse?_eq_some_iff.1 parsed
      exact ⟨w, (isFinite_toFloat_iff _).1 finite⟩
    · rintro ⟨w, finite⟩
      exact Option.isSome_iff_exists.2 ⟨_, parse?_eq_some_iff.2 ⟨w, (isFinite_toFloat_iff _).2 finite, rfl⟩⟩
  · intro w s parsed
    obtain ⟨v, -, rfl⟩ := parse?_eq_some_iff.1 parsed
    obtain rfl := v.unique w
    exact ⟨rfl, nearest_iff _⟩

theorem read_iff_written_up :
    ∃ s, parse? " up\x7bjob=\"a b\"\x7d\t-2.5e3 17\n".toList = some s ∧ s.name = "up" ∧
      Double.Nearest s.value true (-2500) := by
  have spelled : Spells digitValue? "-2.5e3".toList ⟨true, 25, 2⟩ :=
    (literal?_eq_some_iff digitValue?_marks).1 (by decide +kernel)
  have finite : Literal.IsFinite ⟨true, 25, 2⟩ := (isFinite_toFloat_iff _).1 (by decide +kernel)
  let w : Writing (trim " up\x7bjob=\"a b\"\x7d\t-2.5e3 17\n".toList) :=
    { name := "up".toList, block := '{' :: ("job=\"a b\"".toList ++ ['}']), inner := "job=\"a b\"".toList
      gap := ['\t'], number := "-2.5e3".toList, literal := ⟨true, 25, 2⟩, time := " 17".toList
      split := by decide +kernel
      named := ⟨by decide, List.all_eq_true.1 rfl⟩
      braced := .braces (by decide +kernel)
      apart := ⟨by decide, List.all_eq_true.1 rfl⟩
      spelled := spelled
      timed := timed_iff.2 ⟨rfl, by rintro c ⟨⟩; rfl⟩ }
  obtain ⟨accepted, -, read⟩ := read_iff_written " up\x7bjob=\"a b\"\x7d\t-2.5e3 17\n".toList
  obtain ⟨s, parsed⟩ := Option.isSome_iff_exists.1 (accepted.2 ⟨w, finite⟩)
  obtain ⟨name, nearest⟩ := read w s parsed
  refine ⟨s, parsed, name, ?_⟩
  have value : Literal.value ⟨true, 25, 2⟩ = -2500 := by norm_num [Literal.value]
  exact value ▸ (nearest s.value).2 rfl

end ResolverWatch.Sample
