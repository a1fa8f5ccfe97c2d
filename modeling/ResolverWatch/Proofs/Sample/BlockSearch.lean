import ResolverWatch.Proofs.Sample.Labelled

/-!
# What is found in a block of labels

Any text without a closing brace can stand between the braces of a line. It is searched for pairs from left to right,
and whatever is not one is passed over (`Labels.found_iff`). So a block that lists pairs gives these, but no block makes
a line unreadable, and in a block of another kind what is found is taken for its labels (`Sample.read_found`).
-/

namespace ResolverWatch

open Text Decimal

namespace Labels

/-! ## The leftmost pairs -/

/-- The text starts with a pair. -/
def StartsPair (cs : List Char) : Prop :=
  ∃ p rest, Quotable p ∧ cs = pairText p ++ rest

/-- The pairs that a search from left to right finds: the first one that stands anywhere in the text, then those that
are found behind it. -/
inductive Found : List Char → List (String × String) → Prop
  | none {cs} (nowhere : ∀ before rest, cs = before ++ rest → ¬ StartsPair rest) : Found cs []
  | pair {cs p rest ps} (before : List Char) (quotable : Quotable p) (split : cs = before ++ (pairText p ++ rest))
    (leftmost : ∀ front back, before = front ++ back → back ≠ [] → ¬ StartsPair (back ++ (pairText p ++ rest)))
    (later : Found rest ps) : Found cs (p :: ps)

/-- The text that a search has read and not yet passed over. -/
def Search.pending : Search → List Char
  | .between => []
  | .inKey key => key.reverse
  | .afterEquals key => key.reverse ++ ['=']
  | .inValue key value => key.reverse ++ '=' :: '"' :: value.reverse

/-- A search holds a key that is a word, and a value without a quote. -/
def Search.Sound : Search → Prop
  | .between => True
  | .inKey key | .afterEquals key => key ≠ [] ∧ ∀ c ∈ key, isWord c = true
  | .inValue key value => (key ≠ [] ∧ ∀ c ∈ key, isWord c = true) ∧ '"' ∉ value

/-! ## Where no pair starts -/

theorem isWord_of_startsPair {c : Char} {cs : List Char} (starts : StartsPair (c :: cs)) : isWord c = true := by
  obtain ⟨p, rest, quotable, split⟩ := starts
  obtain ⟨d, key, cons⟩ := List.exists_cons_of_ne_nil quotable.nonempty
  rw [pairText, cons] at split
  obtain rfl : c = d := (List.cons.inj split).1
  exact quotable.word c (cons ▸ List.mem_cons_self)

/-- Behind a word at the start of a pair stands an equals sign and a quote. -/
theorem StartsPair.behind_word {key rest : List Char} (word : ∀ c ∈ key, isWord c = true)
    (stop : ∀ c ∈ rest.head?, isWord c = false) (starts : StartsPair (key ++ rest)) :
    ∃ more, rest = '=' :: '"' :: more := by
  obtain ⟨p, behind, quotable, split⟩ := starts
  have equals : ∀ c ∈ ('=' :: '"' :: (p.2.toList ++ '"' :: behind)).head?, isWord c = false := by
    rintro c ⟨⟩
    rfl
  have whole : key ++ rest = p.1.toList ++ '=' :: '"' :: (p.2.toList ++ '"' :: behind) := by
    simpa [pairText] using split
  have left := (takeWhile_append_of_stop word stop).2
  rw [whole, (takeWhile_append_of_stop quotable.word equals).2] at left
  exact ⟨_, left.symm⟩

theorem two_le_count_of_startsPair {cs : List Char} (starts : StartsPair cs) : 2 ≤ cs.count '"' := by
  obtain ⟨p, rest, -, rfl⟩ := starts
  simp [pairText]
  omega

/-! ## Passing over -/

theorem Found.cons {c : Char} {cs : List Char} {ps : List (String × String)} (starts : ¬ StartsPair (c :: cs))
    (found : Found cs ps) : Found (c :: cs) ps := by
  cases found with
  | none nowhere =>
    refine .none fun before rest split => ?_
    cases before with
    | nil => rwa [← show c :: cs = rest from split]
    | cons d before => exact nowhere before rest (List.cons.inj split).2
  | pair before quotable split leftmost later =>
    refine .pair (c :: before) quotable (by rw [split, List.cons_append]) ?_ later
    intro front back same nonempty
    cases front with
    | nil =>
      obtain rfl : c :: before = back := same
      rwa [List.cons_append, ← split]
    | cons d front => exact leftmost front back (List.cons.inj same).2 nonempty

/-- A word is passed over with what follows if that does not make it a key. -/
theorem Found.word {key : List Char} {rest : List Char} {ps : List (String × String)}
    (word : ∀ c ∈ key, isWord c = true) (stop : ∀ c ∈ rest.head?, isWord c = false)
    (other : ∀ more, rest ≠ '=' :: '"' :: more) (found : Found rest ps) : Found (key ++ rest) ps := by
  induction key with
  | nil => exact found
  | cons c key ih =>
    apply Found.cons
    · intro starts
      obtain ⟨more, same⟩ := StartsPair.behind_word word stop starts
      exact other more same
    · exact ih (List.forall_mem_cons.1 word).2

theorem Found.nonWord {c : Char} {cs : List Char} {ps : List (String × String)} (nonWord : isWord c = false)
    (found : Found cs ps) : Found (c :: cs) ps :=
  .cons (fun starts => Bool.false_ne_true (nonWord.symm.trans (isWord_of_startsPair starts))) found

/-! ## The search -/

/-- A search has read no pair that it did not find: at most one quote is pending. -/
theorem Search.Sound.nowhere {s : Search} (sound : s.Sound) (before rest : List Char)
    (split : s.pending = before ++ rest) : ¬ StartsPair rest := by
  intro starts
  have quotes : (before ++ rest).count '"' ≤ 1 := by
    rw [← split]
    have word {key : List Char} (word : ∀ c ∈ key, isWord c = true) : key.count '"' = 0 :=
      List.count_eq_zero.2 fun mem => absurd (word _ mem) Bool.false_ne_true
    cases s with
    | between => exact Nat.zero_le 1
    | inKey key | afterEquals key => simp [pending, word sound.2]
    | inValue key value => simp [pending, word sound.1.2, List.count_eq_zero.2 sound.2]
  have two := two_le_count_of_startsPair starts
  rw [List.count_append] at quotes
  omega

/-- What a search finds in the rest of a text are the leftmost pairs of what is pending and of the rest. -/
theorem found_pairsFrom {s : Search} (sound : s.Sound) (cs : List Char) : Found (s.pending ++ cs) (pairsFrom s cs) := by
  have equals : isWord '=' = false := rfl
  induction cs generalizing s with
  | nil =>
    rw [List.append_nil, pairsFrom]
    exact .none sound.nowhere
  | cons c cs ih =>
    have fresh : Found (c :: cs) (pairsFrom (if isWord c then .inKey [c] else .between) cs) := by
      split_ifs with word
      · exact ih (s := .inKey [c]) ⟨by simp, by simpa using word⟩
      · exact (ih (s := .between) trivial).nonWord (by simpa using word)
    cases s with
    | between => exact fresh
    | inKey key =>
      have reversed : ∀ d ∈ key.reverse, isWord d = true := fun d mem => sound.2 d (List.mem_reverse.1 mem)
      rw [pairsFrom]
      split_ifs with word equal
      · have longer : (Search.inKey (c :: key)).Sound := ⟨by simp, List.forall_mem_cons.2 ⟨word, sound.2⟩⟩
        simpa [Search.pending] using ih longer
      · subst equal
        simpa [Search.pending] using ih (s := .afterEquals key) sound
      · have nonWord : ∀ d ∈ (c :: cs).head?, isWord d = false := by
          rintro d ⟨⟩
          simpa using word
        rw [if_neg word] at fresh
        exact fresh.word reversed nonWord fun more same => equal (List.cons.inj same).1
    | afterEquals key =>
      have reversed : ∀ d ∈ key.reverse, isWord d = true := fun d mem => sound.2 d (List.mem_reverse.1 mem)
      have nonWord : ∀ d ∈ ('=' :: c :: cs).head?, isWord d = false := by
        rintro d ⟨⟩
        exact equals
      rw [pairsFrom]
      by_cases quote : c = '"'
      · subst quote
        simpa [Search.pending] using ih (s := .inValue key []) ⟨sound, List.not_mem_nil⟩
      · rw [if_neg quote, Search.pending, List.append_assoc]
        exact (fresh.nonWord equals).word reversed nonWord fun more same =>
          quote (List.cons.inj (List.cons.inj same).2).1
    | inValue key value =>
      rw [pairsFrom]
      split_ifs with quote
      · subst quote
        have quotable : Quotable (String.ofList key.reverse, String.ofList value.reverse) :=
          ⟨by simpa using sound.1.1, by simpa using sound.1.2, by simpa using sound.2⟩
        refine .pair [] quotable (by simp [Search.pending, pairText]) ?_ (ih (s := .between) trivial)
        intro front back nothing nonempty
        exact absurd (List.append_eq_nil_iff.1 nothing.symm).2 nonempty
      · have longer : (Search.inValue key (c :: value)).Sound := ⟨sound.1, by simp [sound.2, Ne.symm quote]⟩
        simpa [Search.pending] using ih longer

/-- Of two places where a pair starts, with none that starts before it, neither is before the other. -/
theorem leftmost_inj {before before' cs cs' : List Char} (split : before ++ cs = before' ++ cs')
    (leftmost : ∀ front back, before = front ++ back → back ≠ [] → ¬ StartsPair (back ++ cs))
    (leftmost' : ∀ front back, before' = front ++ back → back ≠ [] → ¬ StartsPair (back ++ cs'))
    (starts : StartsPair cs) (starts' : StartsPair cs') : before = before' := by
  rcases List.append_eq_append_iff.1 split with ⟨back, ahead, behind⟩ | ⟨back, ahead, behind⟩
  · have nothing : back = [] := by
      by_contra nonempty
      exact leftmost' _ _ ahead nonempty (behind ▸ starts)
    rw [ahead, nothing, List.append_nil]
  · have nothing : back = [] := by
      by_contra nonempty
      exact leftmost _ _ ahead nonempty (behind ▸ starts')
    rw [ahead, nothing, List.append_nil]

/-- A text has one row of leftmost pairs. -/
theorem Found.unique {cs : List Char} {ps qs : List (String × String)} (first : Found cs ps) (second : Found cs qs) :
    ps = qs := by
  induction first generalizing qs with
  | none nowhere =>
    cases second with
    | none => rfl
    | pair before quotable split => exact absurd ⟨_, _, quotable, rfl⟩ (nowhere _ _ split)
  | @pair cs p rest ps before quotable split leftmost later ih =>
    cases second with
    | none nowhere => exact absurd ⟨_, _, quotable, rfl⟩ (nowhere _ _ split)
    | @pair _ p' rest' qs before' quotable' split' leftmost' later' =>
      obtain rfl : before = before' := leftmost_inj (split.symm.trans split') leftmost leftmost'
        ⟨_, _, quotable, rfl⟩ ⟨_, _, quotable', rfl⟩
      have same : pairText p ++ rest = pairText p' ++ rest' := List.append_cancel_left (split.symm.trans split')
      have pairs := congrArg (pairsFrom .between) same
      rw [pairsFrom_pairText quotable, pairsFrom_pairText quotable'] at pairs
      obtain rfl : p = p' := (List.cons.inj pairs).1
      obtain rfl : rest = rest' := List.append_cancel_left same
      rw [ih later']

/-- The search over a block finds its leftmost pairs. -/
theorem found_iff {block : List Char} {pairs : List (String × String)} :
    Found block pairs ↔ pairsFrom .between block = pairs := by
  have found : Found block (pairsFrom .between block) := found_pairsFrom (s := .between) trivial block
  constructor
  · exact found.unique
  · rintro rfl
    exact found

/-! ## Blocks that list pairs -/

/-- A block is nothing, or lists pairs between commas, with any blanks around each and with or without a comma behind
the last. -/
inductive Listing : List (String × String) → List Char → Prop
  | nothing {gap} (blank : ∀ c ∈ gap, isBlank c = true) : Listing [] gap
  | last {lead p trail} (before : ∀ c ∈ lead, isBlank c = true) (quotable : Quotable p)
    (after : ∀ c ∈ trail, isBlank c = true) : Listing [p] (lead ++ (pairText p ++ trail))
  | item {lead p trail ps rest} (before : ∀ c ∈ lead, isBlank c = true) (quotable : Quotable p)
    (after : ∀ c ∈ trail, isBlank c = true) (more : Listing ps rest) :
    Listing (p :: ps) (lead ++ (pairText p ++ (trail ++ ',' :: rest)))

theorem Listing.blank_of_nil {block : List Char} (listing : Listing [] block) : ∀ c ∈ block, isBlank c = true := by
  cases listing with
  | nothing blank => exact blank

theorem pairsFrom_nonWord {gap : List Char} (nonWord : ∀ c ∈ gap, isWord c = false) (rest : List Char) :
    pairsFrom .between (gap ++ rest) = pairsFrom .between rest := by
  induction gap with
  | nil => rfl
  | cons c gap ih =>
    obtain ⟨first, later⟩ := List.forall_mem_cons.1 nonWord
    rw [List.cons_append, pairsFrom, first, if_neg Bool.false_ne_true, ih later]

/-- In a block that lists pairs these are found. -/
theorem Listing.found {pairs : List (String × String)} {block : List Char} (listing : Listing pairs block) :
    Found block pairs := by
  have blanks {gap : List Char} (blank : ∀ c ∈ gap, isBlank c = true) (rest : List Char) :
      pairsFrom .between (gap ++ rest) = pairsFrom .between rest :=
    pairsFrom_nonWord (fun c mem => isWord_of_isBlank (blank c mem)) rest
  have ending {gap : List Char} (blank : ∀ c ∈ gap, isBlank c = true) : pairsFrom .between gap = [] := by
    simpa [pairsFrom] using blanks blank []
  rw [found_iff]
  induction listing with
  | nothing blank => exact ending blank
  | last before quotable after => rw [blanks before, pairsFrom_pairText quotable, ending after]
  | item before quotable after _ ih =>
    have comma (rest : List Char) : pairsFrom .between (',' :: rest) = pairsFrom .between rest := rfl
    rw [blanks before, pairsFrom_pairText quotable, blanks after, comma, ih]

end Labels

/-! ## Lines -/

namespace Sample

/-- The text with another block of labels. -/
def Writing.withBlock {text : List Char} (w : Writing text) (block : List Char) : List Char :=
  w.name ++ ('{' :: (block ++ '}' :: (w.gap ++ (w.number ++ w.time))))

theorem Writing.trim_withBlock {text : List Char} (w : Writing text) (block : List Char) :
    trim (w.withBlock block) = w.withBlock block := by
  have nonempty : w.withBlock block ≠ [] := List.append_ne_nil_of_left_ne_nil w.named.1 _
  have ends : ∀ c ∈ (w.withBlock block).getLast?, isBlank c = false := by
    have split : w.withBlock block = (w.name ++ ('{' :: (block ++ '}' :: w.gap))) ++ (w.number ++ w.time) := by
      simp [withBlock]
    rw [split]
    exact ends_number w.spelled w.timed _
  have trimmed : trim ([] ++ w.withBlock block ++ []) = w.withBlock block :=
    trim_append (by simp) (by simp) nonempty (starts_name w.named _) ends
  rwa [List.nil_append, List.append_nil] at trimmed

/-- The block of labels has no part in whether a line is read. -/
theorem parse?_withBlock {line : List Char} (w : Writing (trim line)) {block : List Char} (unclosed : '}' ∉ block) :
    parse? (w.withBlock block) = (parse? line).map fun s => { s with labels := Labels.ofBlock block } := by
  let v : Writing (w.withBlock block) :=
    { w with
      block := '{' :: (block ++ ['}'])
      inner := block
      split := by simp [Writing.withBlock]
      braced := .braces unclosed }
  rw [parse?_of_writing (w.trim_withBlock block) v, parse?_of_writing rfl w]
  show (if w.literal.toFloat.isFinite = true then some v.sample else none) = _
  split_ifs <;> rfl

/-- A line is read iff it is written as a sample with a finite number, and its labels are the pairs that are found in
its block from left to right, the last value of a repeated key. A block that lists pairs has these found, and any other
block has some pairs found or none. So the line is read whatever stands in the block, as long as that is no closing
brace: with another block it has the same name and value, and the labels that are found there. -/
theorem read_found (line : List Char) :
    (∀ s, parse? line = some s ↔ ∃ (w : Writing (trim line)) (found : List (String × String)),
      w.literal.IsFinite ∧ Labels.Found w.inner found ∧
        s = ⟨String.ofList w.name, Labels.ofPairs found, w.literal.toFloat⟩) ∧
    (∀ block, ∃! found, Labels.Found block found) ∧
    (∀ found key, (Labels.ofPairs found).get? key = found.reverse.lookup key) ∧
    (∀ pairs block, Labels.Listing pairs block → Labels.Found block pairs) ∧
    ∀ (w : Writing (trim line)) (block : List Char) (found : List (String × String)), '}' ∉ block →
      Labels.Found block found →
      parse? (w.withBlock block) = (parse? line).map fun s => { s with labels := Labels.ofPairs found } := by
  refine ⟨?read, fun block => ⟨_, Labels.found_iff.2 rfl, fun found => ?_⟩, Labels.get?_ofPairs,
    fun pairs block listing => listing.found, ?other⟩
  case read =>
    intro s
    rw [parse?_eq_some_iff]
    constructor
    · rintro ⟨w, finite, rfl⟩
      exact ⟨w, _, (isFinite_toFloat_iff _).1 finite, Labels.found_iff.2 rfl, rfl⟩
    · rintro ⟨w, found, finite, search, rfl⟩
      refine ⟨w, (isFinite_toFloat_iff _).2 finite, ?_⟩
      rw [Writing.sample, Labels.ofBlock, Labels.found_iff.1 search]
  · exact fun search => (Labels.found_iff.1 search).symm
  case other =>
    intro w block found unclosed search
    rw [parse?_withBlock w unclosed, Labels.ofBlock, Labels.found_iff.1 search]

/-- A value without quotes is passed over, and the line counts without its label. -/
theorem read_unquoted :
    (parse? "blocky_query_total\x7bclient=a\x7d 3".toList).map (fun s => (s.name, s.labels, s.value)) =
        some ("blocky_query_total", [], 3.0) ∧
      ∀ (w : Writing (trim "blocky_query_total\x7bclient=a\x7d 3".toList)) (pairs : List (String × String)),
        ¬ Labels.Listing pairs w.inner := by
  constructor
  · decide +kernel
  · intro w pairs listing
    have cut : splitBlock? ((trim "blocky_query_total\x7bclient=a\x7d 3".toList).dropWhile isWord) =
        some ("client=a".toList, " 3".toList) := by decide +kernel
    rw [w.name_eq.2, w.block_eq] at cut
    obtain ⟨inner, -⟩ := Prod.mk.inj (Option.some.inj cut)
    rw [inner] at listing
    obtain rfl : [] = pairs := (show Labels.pairsFrom .between "client=a".toList = [] by decide +kernel).symm.trans
      (Labels.found_iff.1 listing.found)
    exact absurd (listing.blank_of_nil 'c' (by decide)) (by decide)

end Sample

end ResolverWatch
