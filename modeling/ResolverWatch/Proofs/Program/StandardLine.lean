import ResolverWatch.Proofs.History.Finite
import ResolverWatch.Proofs.Json.Standard
import ResolverWatch.Proofs.Program.Exit
import ResolverWatch.Proofs.Scrape.Overflow

/-!
# When the printed line is a JSON text

The line that a run prints is a JSON text exactly when all doubles in it are finite
(`standard_line_iff_isFinite`). They are if no sum of a payload leaves the finite range and, for a replay, the time of
no scrape does. The interval of a replay is not checked, so one that is infinite times the scrapes infinitely late, and
the line names infinity (`not_standard_line_infiniteInterval`).
-/

namespace ResolverWatch

open Json Text

/-! ## Payloads -/

namespace Report

/-- No sum of a payload that its snapshot reports leaves the finite range. -/
structure Contained (text : String) : Prop where
  figures : ∀ f x, (Scrape.read text.toList).snapshot.figure f = some x → f.isSum = true →
    ¬ Overflows (of f.metric (samples text))
  counts : ∀ b counts, (Scrape.read text.toList).snapshot.split b = some counts → ∀ p ∈ counts,
    ¬ Overflows (carrying b.label p.1 (of b.metric (samples text)))

theorem isFinite_iff_not_isInf {x : Float} (number : x.isNaN = false) : x.isFinite = true ↔ ¬ x.isInf = true := by
  rw [Double.isInf_iff, number]
  simp

/-- The document of a payload has finite doubles only iff no sum overflows. -/
theorem contained_iff (text : String) :
    Contained text ↔ ∀ x ∈ reals (Scrape.read text.toList).snapshot.toJson, x.isFinite = true := by
  constructor
  · intro contained x mem
    rcases mem_reals_toJson.1 mem with ⟨f, reported⟩ | ⟨b, counts, reported, p, among, rfl⟩
    · obtain ⟨number, infinite⟩ := isInf_figure_iff reported
      rw [isFinite_iff_not_isInf number, infinite]
      rintro ⟨isSum, overflows⟩
      exact contained.figures f x reported isSum overflows
    · obtain ⟨number, infinite⟩ := isInf_split_iff reported among
      rw [isFinite_iff_not_isInf number, infinite]
      exact contained.counts b counts reported p among
  · intro finite
    refine ⟨fun f x reported isSum overflows => ?_, fun b counts reported p among overflows => ?_⟩
    · obtain ⟨number, infinite⟩ := isInf_figure_iff reported
      have member : x.isFinite = true := finite x (mem_reals_toJson.2 (.inl ⟨f, reported⟩))
      rw [isFinite_iff_not_isInf number, infinite] at member
      exact member ⟨isSum, overflows⟩
    · obtain ⟨number, infinite⟩ := isInf_split_iff reported among
      have member : p.2.isFinite = true := finite p.2 (mem_reals_toJson.2 (.inr ⟨b, counts, reported, p, among, rfl⟩))
      rw [isFinite_iff_not_isInf number, infinite] at member
      exact member overflows

end Report

/-! ## Tasks -/

namespace Command.Task

/-- Nothing that a task prints leaves the finite range: no sum of the payload, or no count and no time of the payloads
that are replayed. -/
def Contained (task : Command.Task) (c : Config) (start : Float) (texts : List (List Char)) : Prop :=
  match task with
  | .parse _ => Report.Contained (String.ofList (texts.headD []))
  | .replay _ given =>
    (∀ i < texts.length, (start + Float.ofInt i * given.getD c.interval).isFinite = true) ∧
      ∀ text ∈ texts, (orZero (Scrape.read text).snapshot.queries).isFinite = true ∧
        ((Scrape.read text).snapshot.blocked c.marker).isFinite = true

variable {task : Command.Task} {c : Config} {start : Float} {texts : List (List Char)}

theorem isFinite_of_contained (contained : task.Contained c start texts) {x : Float}
    (mem : x ∈ reals (task.document c start texts)) : x.isFinite = true := by
  cases task with
  | parse file =>
    have finite := (Report.contained_iff _).1 contained
    rw [String.toList_ofList] at finite
    exact finite x mem
  | replay files given =>
    obtain ⟨times, counts⟩ := contained
    refine History.isFinite_of_mem_reals (fun e among => ?_) mem
    -- What is kept was pushed, and what was pushed is the scrape of one of the texts.
    obtain ⟨-, marker, kept⟩ := History.pushAll_spec (History.create c.capacity c.marker)
      (texts.zipIdx.map (scrapeAt start (given.getD c.interval)))
    rw [kept] at among
    rw [marker]
    obtain ⟨⟨text, i⟩, member, rfl⟩ := List.mem_map.1 (List.mem_of_mem_drop among)
    obtain ⟨-, within, same⟩ := List.mem_zipIdx member
    have listed : text ∈ texts := same ▸ List.getElem_mem _
    obtain ⟨queries, blocked⟩ := counts text listed
    exact ⟨times i (by omega), queries, blocked, nonneg_queries_read text, nonneg_blocked_read text _⟩

end Command.Task

/-! ## Runs -/

namespace Machine

theorem now_prepared (m : Machine) (path : Option String) (c : Config) : (m.prepared path c).now = m.now := by
  cases path <;> rfl

/-- The line that is printed is a JSON text iff all doubles in it are finite. They are if nothing that the task prints
leaves the finite range; those of a single payload are only then. -/
theorem standard_line_iff_isFinite [Yaml.Reader] [Config.Validator] {m : Machine} {arguments : List String}
    {i : Command.Invocation} {output : String} (accepted : Command.Invocation.ofArguments arguments = .ok i)
    (exited : (m.run arguments).2 = .exit 0 output) :
    ∃ c texts, Config.load m.journal.storage i.config = .ok c ∧
      List.Forall₂ (m.prepared i.config c).Reads i.task.inputs texts ∧
      output = (i.task.document c m.now texts).toText ++ "\n" ∧
      (Standard (i.task.document c m.now texts).toText.toList ↔
        ∀ x ∈ reals (i.task.document c m.now texts), x.isFinite = true) ∧
      (i.task.Contained c m.now texts → Standard (i.task.document c m.now texts).toText.toList) ∧
      ∀ file, i.task = .parse file → Standard (i.task.document c m.now texts).toText.toList →
        i.task.Contained c m.now texts := by
  rcases run_exit accepted exited with ⟨r, -, code, -⟩ | ⟨c, loaded, exits⟩
  · contradiction
  · cases exits with
    | printed texts reads =>
      have standard : Standard (i.task.document c m.now texts).toText.toList ↔
          ∀ x ∈ reals (i.task.document c m.now texts), x.isFinite = true := by
        rw [Json.toText, String.toList_ofList]
        exact standard_render_iff _
      refine ⟨c, texts, loaded, reads, by rw [now_prepared], standard, ?contained, ?single⟩
      case contained =>
        intro contained
        rw [standard]
        exact fun x => Command.Task.isFinite_of_contained contained
      case single =>
        intro file isParse
        rw [standard, isParse]
        intro finite
        refine (Report.contained_iff _).2 ?_
        rw [String.toList_ofList]
        exact finite

/-- A machine with two payloads, of which the later one has eight more queries. -/
def twoCounts : Machine where
  journal :=
    { storage := ⟨["12", "20"].zipWith (fun count name =>
        ([name], .file ("blocky_query_total " ++ count).toUTF8.data.toList)) ["a", "b"], [], [], []⟩ }
  input := []
  now := 1000.0

/-- What a replay of the two payloads prints, with the time of the later one as it is written. -/
def twoCountsLine (time : String) : String :=
  "\x7b\"activity\":[\x7b\"timestamp\":" ++ time ++ ",\"total\":8.0,\"blocked\":0.0\x7d]," ++
    "\"queries_per_interval\":8.0,\"blocked_per_interval\":0.0\x7d"

/-- With ten seconds between the scrapes the line is a JSON text. -/
theorem standard_line_iff_isFinite_tenSeconds :
    (twoCounts.run ["replay", "a", "b", "--interval", "10"]).2 = .exit 0 (twoCountsLine "1010.0" ++ "\n") ∧
      Standard (twoCountsLine "1010.0").toList := by
  have accepted : Command.Invocation.ofArguments ["replay", "a", "b", "--interval", "10"] =
      .ok ⟨none, .replay ["a", "b"] (some 10.0)⟩ := by rfl
  have exited : (twoCounts.run ["replay", "a", "b", "--interval", "10"]).2 =
      .exit 0 (twoCountsLine "1010.0" ++ "\n") := by decide +kernel
  refine ⟨exited, ?_⟩
  obtain ⟨c, texts, -, -, printed, standard, -⟩ := standard_line_iff_isFinite accepted exited
  have same := (String.append_left_inj "\n").1 printed
  have unnamed : 'I' ∉ bare (twoCountsLine "1010.0").toList ∧ 'N' ∉ bare (twoCountsLine "1010.0").toList := by
    decide +kernel
  rw [same, standard]
  rw [same, Json.toText, String.toList_ofList] at unnamed
  exact fun x => isFinite_of_unnamed unnamed

/-- With infinitely many seconds between the scrapes the line is no JSON text. -/
theorem not_standard_line_infiniteInterval :
    (twoCounts.run ["replay", "a", "b", "--interval", "inf"]).2 = .exit 0 (twoCountsLine "Infinity" ++ "\n") ∧
      ¬ Standard (twoCountsLine "Infinity").toList := by
  refine ⟨by decide +kernel, fun standard => ?_⟩
  have named : 'I' ∈ bare (twoCountsLine "Infinity").toList := by decide +kernel
  exact (unnamed_of_standard standard).1 named

end Machine

end ResolverWatch
