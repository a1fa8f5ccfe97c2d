import Mathlib.Data.List.Forall2
import Mathlib.Data.List.TakeWhile
import ResolverWatch.Config.Lenient
import ResolverWatch.Proofs.Scrape.Locality
import ResolverWatch.Yaml.Document

/-!
# Line ends do not matter

A line is trimmed before anything is read from it, so a carriage return in front of each line feed of a payload is
not seen. In a file all line ends are turned into line feeds, and no lossy decoding of half a character reaches over
one, be it a line feed, a carriage return, or both. So a payload says the same however its lines end, and the program
prints the same line for it (`lineEnds_irrelevant`).
-/

namespace ResolverWatch

open Text

/-! ## Texts and bytes with other line ends -/

namespace Text

/-- A text in which each line feed is written in another way. -/
def relined {α : Type} [DecidableEq α] (feed : α) (ending text : List α) : List α :=
  text.flatMap fun a => if a = feed then ending else [a]

section Relined

variable {α : Type} [DecidableEq α] {feed : α} {ending : List α}

theorem relined_cons_feed (rest : List α) :
    relined feed ending (feed :: rest) = ending ++ relined feed ending rest := by
  rw [relined, List.flatMap_cons, if_pos rfl, relined]

theorem relined_cons_of_ne {a : α} (other : a ≠ feed) (rest : List α) :
    relined feed ending (a :: rest) = a :: relined feed ending rest := by
  rw [relined, List.flatMap_cons, if_neg other, relined, List.singleton_append]

theorem relined_append (text rest : List α) :
    relined feed ending (text ++ rest) = relined feed ending text ++ relined feed ending rest :=
  List.flatMap_append

theorem relined_of_not_mem {text : List α} (plain : feed ∉ text) : relined feed ending text = text := by
  induction text with
  | nil => rfl
  | cons a rest ih =>
    obtain ⟨other, later⟩ : feed ≠ a ∧ feed ∉ rest := by simpa using plain
    rw [relined_cons_of_ne other.symm, ih later]

/-- What stands in a text with other line ends stood in it before, or stands in the line ends. -/
theorem mem_of_mem_relined {text : List α} {a : α} (mem : a ∈ relined feed ending text) :
    a ∈ ending ∨ a ∈ text ∧ a ≠ feed := by
  obtain ⟨b, among, shown⟩ := List.mem_flatMap.1 mem
  split_ifs at shown with isFeed
  · exact .inl shown
  · obtain rfl := List.mem_singleton.1 shown
    exact .inr ⟨among, isFeed⟩

end Relined

theorem unifyNewlines_relined_returnFeed {text : List Char} (plain : '\r' ∉ text) :
    unifyNewlines (relined '\n' ['\r', '\n'] text) = text := by
  induction text with
  | nil => rfl
  | cons c rest ih =>
    obtain ⟨other, later⟩ : '\r' ≠ c ∧ '\r' ∉ rest := by simpa using plain
    by_cases isFeed : c = '\n'
    · subst isFeed
      rw [relined_cons_feed, List.cons_append, List.singleton_append, unifyNewlines, ih later]
    · rw [relined_cons_of_ne isFeed, unifyNewlines_cons_of_ne other.symm, ih later]

theorem unifyNewlines_relined_return {text : List Char} (plain : '\r' ∉ text) :
    unifyNewlines (relined '\n' ['\r'] text) = text := by
  induction text with
  | nil => rfl
  | cons c rest ih =>
    obtain ⟨other, later⟩ : '\r' ≠ c ∧ '\r' ∉ rest := by simpa using plain
    by_cases isFeed : c = '\n'
    · subst isFeed
      -- No line feed is left that the carriage return could be joined with.
      have alone : ∀ d ∈ (relined '\n' ['\r'] rest).head?, d ≠ '\n' := by
        rintro d first rfl
        rcases mem_of_mem_relined (List.mem_of_head? first) with ending | ⟨-, kept⟩
        · simp at ending
        · exact kept rfl
      rw [relined_cons_feed, List.singleton_append]
      nth_rewrite 2 [← ih later]
      cases front : relined '\n' ['\r'] rest with
      | nil => rfl
      | cons d ds => exact unifyNewlines_return (alone d (by rw [front]; rfl)) ds
    · rw [relined_cons_of_ne isFeed, unifyNewlines_cons_of_ne other.symm, ih later]

/-- Bytes of ASCII at the start of a text are read as they are. -/
theorem Utf8.decodeLossy_ascii_append {front : List UInt8} (ascii : ∀ b ∈ front, b.toNat < 0x80) (rest : List UInt8) :
    decodeLossy (front ++ rest) = (front.map fun b => Char.ofNat b.toNat) ++ decodeLossy rest := by
  induction front with
  | nil => rfl
  | cons b bs ih =>
    obtain ⟨first, later⟩ := List.forall_mem_cons.1 ascii
    have read := decodeLossy_append_ascii first [] (bs ++ rest)
    rw [ih later] at read
    exact read

/-- A line feed ends what is read before it, and so does each way to write it in ASCII. -/
theorem Utf8.decodeLossy_relined {ending : List UInt8} (ascii : ∀ b ∈ ending, b.toNat < 0x80) (nonempty : ending ≠ [])
    (bytes : List UInt8) :
    decodeLossy (relined 0x0a ending bytes) =
      relined '\n' (ending.map fun b => Char.ofNat b.toNat) (decodeLossy bytes) := by
  -- The bytes are cut at any line feed, and both parts have fewer of them.
  induction size : bytes.length using Nat.strongRecOn generalizing bytes with
  | ind n ih =>
    by_cases mem : 0x0a ∈ bytes
    · obtain ⟨before, after, rfl⟩ := List.append_of_mem mem
      rw [List.length_append, List.length_cons] at size
      obtain ⟨b, bs, rfl⟩ := List.exists_cons_of_ne_nil nonempty
      obtain ⟨first, later⟩ := List.forall_mem_cons.1 ascii
      rw [relined_append, relined_cons_feed, List.cons_append, decodeLossy_append_ascii first,
        decodeLossy_ascii_append later, ih before.length (by omega) before rfl, ih after.length (by omega) after rfl,
        decodeLossy_append_newline, relined_append, relined_cons_feed]
      rfl
    · have plain : '\n' ∉ decodeLossy bytes := fun read => mem (mem_of_mem_decodeLossy read (by decide) (by decide))
      rw [relined_of_not_mem mem, relined_of_not_mem plain]

/-- The ways to end a line besides a line feed. -/
def otherEnds : List (List UInt8) :=
  [[0x0d, 0x0a], [0x0d]]

/-- A file without carriage returns is read as the same text when its lines end with one, alone or before a line
feed. -/
theorem unifyNewlines_decodeLossy_relined {bytes ending : List UInt8} (plain : 0x0d ∉ bytes)
    (other : ending ∈ otherEnds) :
    unifyNewlines (Utf8.decodeLossy (relined 0x0a ending bytes)) = unifyNewlines (Utf8.decodeLossy bytes) := by
  have plainText : '\r' ∉ Utf8.decodeLossy bytes :=
    fun read => plain (Utf8.mem_of_mem_decodeLossy read (by decide) (by decide))
  rw [unifyNewlines_of_not_mem plainText]
  simp only [otherEnds, List.mem_cons, List.not_mem_nil, or_false] at other
  obtain rfl | rfl := other
  · rw [Utf8.decodeLossy_relined (by simp) (by simp)]
    exact unifyNewlines_relined_returnFeed plainText
  · rw [Utf8.decodeLossy_relined (by simp) (by simp)]
    exact unifyNewlines_relined_return plainText

/-! ## Lines with a carriage return at their ends -/

theorem trimBy_append_of_all {p : Char → Bool} {trail : List Char} (all : ∀ c ∈ trail, p c = true) (line : List Char) :
    trimBy p (line ++ trail) = trimBy p line := by
  unfold trimBy
  rw [List.dropWhile_append]
  split_ifs with empty
  · rw [List.isEmpty_iff.1 empty, List.dropWhile_eq_nil_iff.2 all]
  · exact trimEndBy_append_of_all all

/-- The pieces of a text whose line feeds stand behind carriage returns are its own, some with a carriage return at
their ends. -/
theorem forall₂_splitLines_relined (text : List Char) :
    List.Forall₂ (fun line line' => line' = line ∨ line' = line ++ ['\r']) (splitLines text)
      (splitLines (relined '\n' ['\r', '\n'] text)) := by
  induction text with
  | nil => exact .cons (.inl rfl) .nil
  | cons c rest ih =>
    by_cases isFeed : c = '\n'
    · subst isFeed
      have ended : splitLines ('\r' :: '\n' :: relined '\n' ['\r', '\n'] rest) =
          ['\r'] :: splitLines (relined '\n' ['\r', '\n'] rest) :=
        splitLines_append_newline ['\r'] _
      rw [relined_cons_feed, List.cons_append, List.singleton_append, ended, splitLines_cons_newline]
      exact .cons (.inr rfl) ih
    · rw [relined_cons_of_ne isFeed, splitLines, splitLines, if_neg isFeed, if_neg isFeed]
      generalize splitLines rest = own at ih
      generalize splitLines (relined '\n' ['\r', '\n'] rest) = others at ih
      cases ih with
      | nil => exact .cons (.inl rfl) .nil
      | cons first later =>
        refine .cons ?_ later
        rcases first with rfl | rfl
        · exact .inl rfl
        · exact .inr rfl

end Text

/-- What a line is does not depend on a carriage return at its end. -/
theorem Line.read_append_return (line : List Char) : Line.read (line ++ ['\r']) = Line.read line := by
  have trimmed : trim (line ++ ['\r']) = trim line :=
    trimBy_append_of_all (List.forall_mem_singleton.2 (by decide)) line
  unfold Line.read Sample.parse?
  rw [trimmed]

theorem Scrape.read_relined (text : List Char) :
    Scrape.read (relined '\n' ['\r', '\n'] text) = Scrape.read text := by
  have same : (splitLines (relined '\n' ['\r', '\n'] text)).map Line.read = (splitLines text).map Line.read := by
    have lines := forall₂_splitLines_relined text
    generalize splitLines (relined '\n' ['\r', '\n'] text) = others at lines ⊢
    generalize splitLines text = own at lines ⊢
    induction lines with
    | nil => rfl
    | cons first _ ih =>
      rw [List.map_cons, List.map_cons, ih]
      rcases first with rfl | rfl
      · rfl
      · rw [Line.read_append_return]
  unfold Scrape.read
  rw [same]

/-! ## Files -/

namespace Machine

section Loading

variable [Yaml.Reader] [Config.Validator]

/-- Without a configuration nothing stands between the file of a payload and what is printed of it. -/
theorem run_parse_of_read {m : Machine} {arguments : List String} {path : String} {bytes : List UInt8}
    (accepted : Command.Invocation.ofArguments arguments = .ok ⟨none, .parse path⟩) (file : path ≠ "-")
    (read : m.journal.storage.read path = .ok bytes) :
    (m.run arguments).2 =
      .exit 0 ((Scrape.read (unifyNewlines (Utf8.decodeLossy bytes))).snapshot.toText ++ "\n") := by
  have fine : m.journal.setUp ({} : Config).logging = ((m.journal.setUp ({} : Config).logging).1, none) := rfl
  have scraped := scrape_of_read (m := { m with journal := (m.journal.setUp ({} : Config).logging).1 }) file read
  unfold run
  rw [accepted]
  show (m.work {} (.parse path)).2 = _
  unfold work
  rw [fine]
  unfold perform
  dsimp only
  rw [scraped]

/-- A payload says the same when its line feeds stand behind carriage returns, and the numbers of its samples and of
its malformed lines are the same. A file without carriage returns is printed the same when its lines end with one,
alone or before a line feed. -/
theorem lineEnds_irrelevant :
    (∀ text, Scrape.read (relined '\n' ['\r', '\n'] text) = Scrape.read text) ∧
      ∀ {m n : Machine} {arguments : List String} {path : String} {bytes : List UInt8},
        Command.Invocation.ofArguments arguments = .ok ⟨none, .parse path⟩ → path ≠ "-" → 0x0d ∉ bytes →
        m.journal.storage.read path = .ok bytes →
        (∃ ending ∈ otherEnds, n.journal.storage.read path = .ok (relined 0x0a ending bytes)) →
        ∃ line, (m.run arguments).2 = .exit 0 line ∧ (n.run arguments).2 = .exit 0 line := by
  refine ⟨Scrape.read_relined, ?_⟩
  rintro m n arguments path bytes accepted file plain read ⟨ending, other, reread⟩
  refine ⟨_, run_parse_of_read accepted file read, ?_⟩
  rw [run_parse_of_read accepted file reread, unifyNewlines_decodeLossy_relined plain other]

end Loading

/-- Half a character at the end of a line is cut off by a lone carriage return as it is by a line feed. -/
theorem lineEnds_irrelevant_cutCharacter :
    let bytes := "blocky_query_total 5\n".toUTF8.data.toList ++ [0xe2, 0x0a] ++ "blocky_error_total 2".toUTF8.data.toList
    let returns := relined 0x0a [0x0d] bytes
    0x0a ∉ returns ∧ ∃ line, ((Report.machineWith bytes).run ["parse", "metrics"]).2 = .exit 0 line ∧
      ((Report.machineWith returns).run ["parse", "metrics"]).2 = .exit 0 line := by
  intro bytes returns
  have accepted : Command.Invocation.ofArguments ["parse", "metrics"] = .ok ⟨none, .parse "metrics"⟩ := by rfl
  have plain : 0x0d ∉ bytes := by decide +kernel
  have other : ∃ ending ∈ otherEnds,
      (Report.machineWith returns).journal.storage.read "metrics" = .ok (relined 0x0a ending bytes) :=
    ⟨[0x0d], by decide, Report.read_machineWith returns⟩
  refine ⟨by decide +kernel, ?_⟩
  exact lineEnds_irrelevant.2 accepted (by decide) plain (Report.read_machineWith bytes) other

end Machine

end ResolverWatch
