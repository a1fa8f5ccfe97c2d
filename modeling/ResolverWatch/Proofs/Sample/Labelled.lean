import ResolverWatch.Proofs.Sample.Writing

/-!
# Lines with label pairs

A line that is written with label pairs, in braces and between commas, is read back as its name, its labels and its
number (`read_written_pairs`). A value may hold whatever does not close it, even what looks like another label or like
the end of the line, except for a closing brace: that one ends the block, and the line is not read at all.
-/

namespace ResolverWatch

open Text Decimal

/-! ## Label pairs -/

namespace Labels

/-- A pair as it stands in a block. -/
def pairText (p : String × String) : List Char :=
  p.1.toList ++ '=' :: '"' :: (p.2.toList ++ ['"'])

/-- Pairs as they stand in a block. -/
def blockText : List (String × String) → List Char
  | [] => []
  | [p] => pairText p
  | p :: q :: ps => pairText p ++ ',' :: blockText (q :: ps)

/-- A pair that can be read back: its key is a word, and its value does not close itself. -/
structure Quotable (p : String × String) : Prop where
  nonempty : p.1.toList ≠ []
  word : ∀ c ∈ p.1.toList, isWord c = true
  unquoted : '"' ∉ p.2.toList

theorem pairsFrom_inKey {cs : List Char} (word : ∀ c ∈ cs, isWord c = true) (key rest : List Char) :
    pairsFrom (.inKey key) (cs ++ rest) = pairsFrom (.inKey (cs.reverse ++ key)) rest := by
  induction cs generalizing key with
  | nil => rfl
  | cons c cs ih =>
    rw [List.forall_mem_cons] at word
    rw [List.cons_append, pairsFrom, if_pos word.1, ih word.2, List.reverse_cons, List.append_assoc]
    rfl

theorem pairsFrom_inValue {cs : List Char} (unquoted : '"' ∉ cs) (key value rest : List Char) :
    pairsFrom (.inValue key value) (cs ++ '"' :: rest) =
      (String.ofList key.reverse, String.ofList (value.reverse ++ cs)) :: pairsFrom .between rest := by
  induction cs generalizing value with
  | nil =>
    rw [List.nil_append, pairsFrom, if_pos rfl, List.append_nil]
  | cons c cs ih =>
    rw [List.mem_cons, not_or] at unquoted
    rw [List.cons_append, pairsFrom, if_neg (Ne.symm unquoted.1), ih unquoted.2, List.reverse_cons, List.append_assoc]
    rfl

/-- A pair is found where the search stands before it, and the search goes on behind it. -/
theorem pairsFrom_pairText {p : String × String} (quotable : Quotable p) (rest : List Char) :
    pairsFrom .between (pairText p ++ rest) = p :: pairsFrom .between rest := by
  obtain ⟨nonempty, word, unquoted⟩ := quotable
  obtain ⟨key, value⟩ := p
  dsimp only at nonempty word unquoted
  obtain ⟨c, cs, cons⟩ := List.exists_cons_of_ne_nil nonempty
  have split : pairText (key, value) ++ rest = c :: (cs ++ '=' :: '"' :: (value.toList ++ '"' :: rest)) := by
    simp [pairText, cons]
  have equals : isWord '=' = false := rfl
  have same : (cs.reverse ++ [c]).reverse = key.toList := by simp [cons]
  rw [cons, List.forall_mem_cons] at word
  rw [split, pairsFrom, if_pos word.1, pairsFrom_inKey word.2, pairsFrom, equals, if_neg Bool.false_ne_true,
    if_pos rfl, pairsFrom, if_pos rfl, pairsFrom_inValue unquoted, same]
  simp

/-- The pairs of a block are found in their order. -/
theorem pairsFrom_blockText {pairs : List (String × String)} (quotable : ∀ p ∈ pairs, Quotable p) :
    pairsFrom .between (blockText pairs) = pairs := by
  induction pairs with
  | nil => rfl
  | cons p ps ih =>
    rw [List.forall_mem_cons] at quotable
    cases ps with
    | nil =>
      have found := pairsFrom_pairText quotable.1 []
      rw [List.append_nil] at found
      exact found
    | cons q ps =>
      rw [blockText, pairsFrom_pairText quotable.1, pairsFrom]
      exact congrArg (p :: ·) (ih quotable.2)

/-- The last value of a repeated key counts. -/
theorem get?_ofPairs (pairs : List (String × String)) (key : String) :
    (ofPairs pairs).get? key = pairs.reverse.lookup key := by
  induction pairs using List.reverseRecOn with
  | nil => rfl
  | append_singleton ps p ih =>
    have put : ofPairs (ps ++ [p]) = (ofPairs ps).put p.1 p.2 := by
      unfold ofPairs
      rw [List.foldl_append]
      rfl
    rw [put, List.reverse_append, List.reverse_singleton, List.singleton_append]
    obtain ⟨k, v⟩ := p
    by_cases same : key = k
    · rw [same, get?_put_self, List.lookup_cons_self]
    · rw [get?_put_of_ne _ _ same, ih, List.lookup_cons, beq_false_of_ne same]

theorem get?_ofBlock_blockText {pairs : List (String × String)} (quotable : ∀ p ∈ pairs, Quotable p) (key : String) :
    (ofBlock (blockText pairs)).get? key = pairs.reverse.lookup key := by
  unfold ofBlock
  rw [pairsFrom_blockText quotable, get?_ofPairs]

/-- A closing brace stands in a block iff it stands in a value. -/
theorem brace_mem_blockText_iff {pairs : List (String × String)} (quotable : ∀ p ∈ pairs, Quotable p) :
    '}' ∈ blockText pairs ↔ ∃ p ∈ pairs, '}' ∈ p.2.toList := by
  have pair {p : String × String} (quotable : Quotable p) : '}' ∈ pairText p ↔ '}' ∈ p.2.toList := by
    have word : '}' ∉ p.1.toList := fun mem => absurd (quotable.word _ mem) Bool.false_ne_true
    simp [pairText, word]
  induction pairs with
  | nil => simp [blockText]
  | cons p ps ih =>
    rw [List.forall_mem_cons] at quotable
    cases ps with
    | nil => simp [blockText, pair quotable.1]
    | cons q ps =>
      have rest := ih quotable.2
      rw [List.exists_mem_cons_iff, ← pair quotable.1, ← rest.eq, blockText, List.mem_append, List.mem_cons]
      simp

end Labels

/-! ## Lines -/

namespace Sample

theorem starts_name {name : List Char} (named : name ≠ [] ∧ ∀ c ∈ name, isWord c = true) (rest : List Char) :
    ∀ c ∈ (name ++ rest).head?, isBlank c = false := by
  intro c mem
  rw [List.head?_append_of_ne_nil _ named.1] at mem
  rw [← Bool.not_eq_true]
  intro blank
  have word := named.2 c (List.mem_of_mem_head? mem)
  rw [isWord_of_isBlank blank] at word
  contradiction

/-- A number and a time end with no blank. -/
theorem ends_number {number time : List Char} {literal : Literal} (spelled : Spells digitValue? number literal)
    (timed : Timed time) (front : List Char) : ∀ c ∈ (front ++ (number ++ time)).getLast?, isBlank c = false := by
  have nonempty : number ≠ [] := ne_nil_of_spells spelled
  rw [List.getLast?_append_of_ne_nil _ (List.append_ne_nil_of_left_ne_nil nonempty _)]
  intro c mem
  -- The last character is that of the time, or of the number where there is no time.
  cases timed with
  | absent =>
    rw [List.append_nil] at mem
    exact isBlank_of_isMark (spelled.marks c (List.mem_of_getLast? mem))
  | @time gap sign digits _ _ _ some digital =>
    rw [← List.append_assoc, ← List.append_assoc, List.getLast?_append_of_ne_nil _ some] at mem
    exact isBlank_of_isMark (.inl (digital c (List.mem_of_getLast? mem)))

/-- The parts of a line with label pairs. -/
structure Written where
  lead : List Char
  name : List Char
  pairs : List (String × String)
  gap : List Char
  number : List Char
  literal : Literal
  time : List Char
  trail : List Char
  blank : (∀ c ∈ lead, isBlank c = true) ∧ ∀ c ∈ trail, isBlank c = true
  named : name ≠ [] ∧ ∀ c ∈ name, isWord c = true
  quotable : ∀ p ∈ pairs, Labels.Quotable p
  apart : gap ≠ [] ∧ ∀ c ∈ gap, isBlank c = true
  spelled : Spells digitValue? number literal
  timed : Timed time

namespace Written

variable (w : Written)

/-- The line without the blanks around it. -/
def text : List Char :=
  w.name ++ ('{' :: (Labels.blockText w.pairs ++ '}' :: (w.gap ++ (w.number ++ w.time))))

def line : List Char :=
  w.lead ++ w.text ++ w.trail

theorem text_ne_nil : w.text ≠ [] := by
  unfold text
  exact List.append_ne_nil_of_left_ne_nil w.named.1 _

theorem starts_text : ∀ c ∈ w.text.head?, isBlank c = false :=
  starts_name w.named _

theorem ends_text : ∀ c ∈ w.text.getLast?, isBlank c = false := by
  have split : w.text = (w.name ++ ('{' :: (Labels.blockText w.pairs ++ '}' :: w.gap))) ++ (w.number ++ w.time) := by
    simp [text]
  rw [split]
  exact ends_number w.spelled w.timed _

theorem trim_line : trim w.line = w.text :=
  trim_append w.blank.1 w.blank.2 w.text_ne_nil w.starts_text w.ends_text

/-- Without a closing brace in a value, the line is written as a sample of its parts. -/
def writing (unclosed : '}' ∉ Labels.blockText w.pairs) : Writing w.text where
  name := w.name
  block := '{' :: (Labels.blockText w.pairs ++ ['}'])
  inner := Labels.blockText w.pairs
  gap := w.gap
  number := w.number
  literal := w.literal
  time := w.time
  split := by simp [text]
  named := w.named
  braced := .braces unclosed
  apart := w.apart
  spelled := w.spelled
  timed := w.timed

end Written

/-- Behind the block of labels stands no closing brace. -/
theorem Writing.brace_not_mem {text : List Char} (w : Writing text) : '}' ∉ w.gap ++ (w.number ++ w.time) := by
  have digit : isDigit '}' = false := rfl
  have number : ¬ IsMark digitValue? '}' := by
    rintro (mark | mark)
    · exact absurd mark (by decide)
    · exact absurd mark (by decide)
  have blank : isBlank '}' = false := rfl
  have time : '}' ∉ w.time := by
    have timed := w.timed
    generalize w.time = time at timed
    cases timed with
    | absent => exact List.not_mem_nil
    | time _ gap signed _ digital =>
      rw [List.mem_append, List.mem_append, not_or, not_or]
      refine ⟨fun mem => absurd (gap _ mem) ?_, fun mem => ?_, fun mem => absurd (digital _ mem) ?_⟩
      · rw [blank]
        exact Bool.false_ne_true
      · rcases signed with rfl | rfl
        · contradiction
        · exact absurd mem (by decide)
      · rw [digit]
        exact Bool.false_ne_true
  rw [List.mem_append, List.mem_append, not_or, not_or]
  refine ⟨fun mem => absurd (w.apart.2 _ mem) ?_, fun mem => number (w.spelled.marks _ mem), time⟩
  rw [blank]
  exact Bool.false_ne_true

/-- A closing brace in a value ends the block too early, so that the text is not written as a sample. -/
theorem Written.not_writing {w : Written} (closed : '}' ∈ Labels.blockText w.pairs) (v : Writing w.text) : False := by
  have stop : ∀ rest : List Char, ∀ c ∈ ('{' :: rest).head?, isWord c = false := by
    rintro rest c ⟨⟩
    rfl
  have rest := (takeWhile_append_of_stop w.named.2 (stop _)).2.symm.trans v.name_eq.2
  obtain ⟨inner, behind, split, unclosed⟩ := List.eq_append_cons_of_mem closed
  have found : splitBlock? ('{' :: (inner ++ ['}']) ++ (behind ++ '}' :: (w.gap ++ (w.number ++ w.time)))) =
      some (inner, behind ++ '}' :: (w.gap ++ (w.number ++ w.time))) :=
    splitBlock?_append (.braces unclosed) fun empty => absurd empty (List.cons_ne_nil _ _)
  have same : '{' :: (inner ++ ['}']) ++ (behind ++ '}' :: (w.gap ++ (w.number ++ w.time))) =
      v.block ++ (v.gap ++ (v.number ++ v.time)) := by
    rw [← rest, split]
    simp
  rw [same, v.block_eq] at found
  have tail := (Prod.mk.inj (Option.some.inj found)).2
  refine v.brace_not_mem ?_
  rw [tail]
  exact List.mem_append_right _ List.mem_cons_self

/-- A line with label pairs is read back as its name, its labels, the last value of a repeated key, and the one double
that is nearest to its number, unless a value holds a closing brace: then it is not read. -/
theorem read_written_pairs (w : Written) (finite : w.literal.IsFinite) :
    ((∀ p ∈ w.pairs, '}' ∉ p.2.toList) →
      ∃ s, parse? w.line = some s ∧ s.name = String.ofList w.name ∧
        (∀ key, s.labels.get? key = w.pairs.reverse.lookup key) ∧
        ∀ x, Double.Nearest x w.literal.negative w.literal.value ↔ x = s.value) ∧
      ((∃ p ∈ w.pairs, '}' ∈ p.2.toList) → parse? w.line = none) := by
  have braces := Labels.brace_mem_blockText_iff w.quotable
  constructor
  · intro open'
    have unclosed : '}' ∉ Labels.blockText w.pairs := by
      rw [braces]
      rintro ⟨p, mem, closed⟩
      exact open' p mem closed
    have parsed : parse? w.line = some (w.writing unclosed).sample := by
      rw [parse?_of_writing w.trim_line (w.writing unclosed)]
      exact if_pos ((isFinite_toFloat_iff _).2 finite)
    exact ⟨_, parsed, rfl, Labels.get?_ofBlock_blockText w.quotable, nearest_iff w.literal⟩
  · intro closed
    rw [Option.eq_none_iff_forall_ne_some]
    intro s parsed
    obtain ⟨v, -, -⟩ := parse?_eq_some_iff.1 parsed
    rw [w.trim_line] at v
    exact Written.not_writing (braces.2 closed) v

theorem read_written_pairs_up :
    (∃ s, parse? "up\x7ba=\"x, b=\",a=\" 1 2\"\x7d 7\n".toList = some s ∧ s.labels.get? "a" = some " 1 2" ∧
      Double.Nearest s.value false 7) ∧
      parse? "up\x7ba=\"x, b=\",a=\" 1\x7d 2\"\x7d 7\n".toList = none := by
  have spelled : Spells digitValue? "7".toList ⟨false, 7, 0⟩ :=
    (literal?_eq_some_iff digitValue?_marks).1 (by decide +kernel)
  have finite : Literal.IsFinite ⟨false, 7, 0⟩ := (isFinite_toFloat_iff _).1 (by decide +kernel)
  have first : Labels.Quotable ("a", "x, b=") := ⟨by decide, List.all_eq_true.1 rfl, by decide⟩
  let w (last : String × String) (quotable : Labels.Quotable last) : Written :=
    { lead := [], name := "up".toList, pairs := [("a", "x, b="), last], gap := [' '], number := "7".toList
      literal := ⟨false, 7, 0⟩, time := [], trail := ['\n']
      blank := ⟨List.all_eq_true.1 rfl, List.all_eq_true.1 rfl⟩
      named := ⟨by decide, List.all_eq_true.1 rfl⟩
      quotable := by simp [first, quotable]
      apart := ⟨by decide, List.all_eq_true.1 rfl⟩
      spelled := spelled
      timed := .absent }
  have value : Literal.value ⟨false, 7, 0⟩ = 7 := by norm_num [Literal.value]
  have unclosed : ∀ p ∈ [("a", "x, b="), ("a", " 1 2")], '}' ∉ p.2.toList := by decide
  have closed : ∃ p ∈ [("a", "x, b="), ("a", " 1\x7d 2")], '}' ∈ p.2.toList := by decide
  constructor
  · obtain ⟨s, parsed, -, labels, nearest⟩ :=
      (read_written_pairs (w ("a", " 1 2") ⟨by decide, List.all_eq_true.1 rfl, by decide⟩) finite).1 unclosed
    exact ⟨s, parsed, labels "a", value ▸ (nearest s.value).2 rfl⟩
  · exact (read_written_pairs (w ("a", " 1\x7d 2") ⟨by decide, List.all_eq_true.1 rfl, by decide⟩) finite).2 closed

end Sample

end ResolverWatch
