import Mathlib.Data.List.Perm.Basic
import Mathlib.Data.Option.Basic
import ResolverWatch.Proofs.Json.Injective
import ResolverWatch.Proofs.Scrape.Keys
import ResolverWatch.Snapshot.Document

/-!
# The text of a snapshot tells what it reports

Two snapshots have one text iff they report the same parts with the same values, where a breakdown counts as the map
that it is, whatever the order of its keys (`toText_canonical`). For this no key may occur twice in a breakdown, which
holds of all snapshots that are read from a payload (`Scrape.keysDistinct_read`). Besides, no text may hold a high half
with a low one behind it, for these are written as the character that they are the pair of
(`toText_pairOfHalves`); what else two snapshots with one text report is the same even then.
-/

namespace ResolverWatch

open Text

/-! ## Sorted members -/

namespace Json

theorem sortEntries_eq_map (members : List (Points × Json)) :
    sortEntries members = members.map fun p => (p.1, sortKeys p.2) := by
  induction members with
  | nil => rfl
  | cons p rest ih => exact congrArg ((p.1, sortKeys p.2) :: ·) ih

theorem sortMembers_perm (members : List (Points × Json)) : (sortMembers members).Perm members :=
  List.mergeSort_perm ..

theorem member_inj {name other : String} {v w : Json} : member name v = member other w ↔ name = other ∧ v = w := by
  simp only [member, Prod.mk.injEq]
  exact ⟨fun same => ⟨Spelled.points_inj same.1, same.2⟩, fun same => ⟨congrArg Spelled.points same.1, same.2⟩⟩

/-- The names of the parts hold no halves. -/
theorem joinedMember_member (name : String) (v : Json) : joinedMember (member name v) = member name v.joined :=
  Prod.ext (Points.joined_of_unpaired (Points.unpaired_pointsOf name.toList)) rfl

/-- Sorted members that look alike belong to members that look alike. -/
theorem perm_of_joined_eq {ms ns : List (Points × Json)}
    (same : joined (.object (sortMembers ms)) = joined (.object (sortMembers ns))) :
    (ms.map joinedMember).Perm (ns.map joinedMember) := by
  rw [joined, joined, Json.object.injEq, joinedMembers_eq_map, joinedMembers_eq_map] at same
  exact ((sortMembers_perm ms).map _).symm.trans (same ▸ (sortMembers_perm ns).map _)

theorem before_trans {as bs cs : Points} (first : as.before bs = true) (second : bs.before cs = true) :
    as.before cs = true :=
  decide_eq_true (List.le_trans (of_decide_eq_true first) (of_decide_eq_true second))

theorem before_total (as bs : Points) : (as.before bs || bs.before as) = true := by
  rw [Bool.or_eq_true]
  exact (List.le_total (as.map Point.toNat) (bs.map Point.toNat)).imp decide_eq_true decide_eq_true

theorem before_antisymm {as bs : Points} (first : as.before bs = true) (second : bs.before as = true) : as = bs :=
  (List.map_inj_right fun _ _ => Point.toNat_inj).1
    (List.le_antisymm (of_decide_eq_true first) (of_decide_eq_true second))

theorem pairwise_sortMembers (members : List (Points × Json)) :
    (sortMembers members).Pairwise fun a b => a.1.before b.1 = true := by
  unfold sortMembers
  apply List.pairwise_mergeSort
  · exact fun _ _ _ => before_trans
  · exact fun _ _ => before_total _ _

/-- Sorting forgets the order of members with different keys. -/
theorem sortMembers_eq_of_perm {ms ns : List (Points × Json)} (perm : ms.Perm ns)
    (distinct : (ms.map Prod.fst).Nodup) : sortMembers ms = sortMembers ns := by
  have all : (sortMembers ms).Perm (sortMembers ns) :=
    (sortMembers_perm ms).trans (perm.trans (sortMembers_perm ns).symm)
  refine List.Perm.eq_of_pairwise ?_ (pairwise_sortMembers ms) (pairwise_sortMembers ns) all
  intro a b mem mem' le ge
  have among : a ∈ ms := (sortMembers_perm ms).subset mem
  have among' : b ∈ ms := perm.symm.subset ((sortMembers_perm ns).subset mem')
  exact List.inj_on_of_nodup_map distinct among among' (before_antisymm le ge)

end Json

open Json

/-! ## Breakdowns and builds -/

section Parts

variable {κ : Type} [Spelled κ]

/-- What a text is the same as when pairs of halves are joined. -/
def told (a : κ) : Points :=
  (Spelled.points a).joined

namespace Breakdown

/-- Two breakdowns give the same counts to the same keys. -/
def Same {κ : Type} (b c : Breakdown κ) : Prop :=
  ∀ key x, (key, x) ∈ b ↔ (key, x) ∈ c

/-- A breakdown with its pairs of halves joined. -/
def joined (b : Breakdown κ) : Breakdown Points :=
  b.map fun p => (told p.1, p.2)

theorem sortKeys_toJson (b : Breakdown κ) :
    sortKeys b.toJson = .object (sortMembers (b.map fun p => (Spelled.points p.1, Json.real p.2))) := by
  unfold toJson sortKeys
  rw [sortEntries_eq_map, List.map_map]
  rfl

theorem same_of_joined_eq {b c : Breakdown κ} (same : (sortKeys b.toJson).joined = (sortKeys c.toJson).joined) :
    b.joined.Same c.joined := by
  rw [sortKeys_toJson, sortKeys_toJson] at same
  have perm := perm_of_joined_eq same
  rw [List.map_map, List.map_map] at perm
  have injective : Function.Injective fun p : Points × Float => (p.1, Json.real p.2) := by
    rintro ⟨k, x⟩ ⟨l, y⟩ same
    simpa using same
  have shown (b : Breakdown κ) : b.map (joinedMember ∘ fun p => (Spelled.points p.1, Json.real p.2)) =
      b.joined.map fun p => (p.1, Json.real p.2) := by
    rw [joined, List.map_map]
    rfl
  rw [shown, shown] at perm
  intro key x
  have mem := perm.mem_iff (a := (key, Json.real x))
  rwa [List.mem_map_of_injective injective (a := (key, x)), List.mem_map_of_injective injective (a := (key, x))] at mem

theorem sortKeys_eq_of_same {b c : Breakdown κ} (distinct : b.KeysDistinct) (distinct' : c.KeysDistinct)
    (same : b.Same c) : sortKeys b.toJson = sortKeys c.toJson := by
  have perm : List.Perm b c :=
    (List.perm_ext_iff_of_nodup (List.Nodup.of_map _ distinct) (List.Nodup.of_map _ distinct')).2
      fun p => same p.1 p.2
  have keys : (b.map fun p => (Spelled.points p.1, Json.real p.2)).map Prod.fst =
      (b.map Prod.fst).map Spelled.points := by
    rw [List.map_map, List.map_map]
    rfl
  rw [sortKeys_toJson, sortKeys_toJson, sortMembers_eq_of_perm (perm.map _)]
  rw [keys]
  exact List.Nodup.map (fun _ _ => Spelled.points_inj) distinct

end Breakdown

namespace Build

/-- A build with its pairs of halves joined. -/
def joined (b : Build κ) : Build Points :=
  ⟨told b.version, told b.time⟩

theorem sortKeys_toJson (b : Build κ) :
    sortKeys b.toJson =
      .object [member "build_time" (.text (Spelled.points b.time)),
        member "version" (.text (Spelled.points b.version))] := by
  have sorted (v w : Json) : sortMembers [member "version" v, member "build_time" w] =
      [member "build_time" w, member "version" v] := by
    have names : ([member "version" v, member "build_time" w].map Prod.fst).Nodup :=
      show [Spelled.points "version", Spelled.points "build_time"].Nodup by decide
    rw [sortMembers_eq_of_perm (List.Perm.swap (member "build_time" w) (member "version" v) []) names]
    apply List.mergeSort_of_pairwise
    have order : (Spelled.points "build_time").before (Spelled.points "version") = true := by decide
    simpa [member] using order
  exact congrArg Json.object (sorted ..)

theorem joined_eq {b c : Build κ} (same : (sortKeys b.toJson).joined = (sortKeys c.toJson).joined) :
    b.joined = c.joined := by
  rw [sortKeys_toJson, sortKeys_toJson, Json.joined, Json.joined, Json.object.injEq] at same
  simp only [joinedMembers, member, Json.joined, List.cons.injEq, Prod.mk.injEq, true_and, and_true,
    Json.text.injEq] at same
  obtain ⟨sameTime, sameVersion⟩ := same
  rw [joined, joined, told, told, told, told, sameVersion, sameTime]

end Build

end Parts

/-! ## The members of a snapshot -/

theorem Figure.name_injective : Function.Injective Figure.name := by
  intro f g same
  have found := Figure.ofName?_name f
  rw [same, Figure.ofName?_name] at found
  exact (Option.some.inj found).symm

theorem Split.name_injective : Function.Injective Split.name := by
  intro f g same
  have found := Split.ofName?_name f
  rw [same, Split.ofName?_name] at found
  exact (Option.some.inj found).symm

theorem Split.name_ne_buildInfo (f : Split) : f.name ≠ "build_info" := by
  cases f <;> decide

theorem Figure.mem_all (f : Figure) : f ∈ Figure.all := by
  cases f <;> decide

theorem Split.mem_all (f : Split) : f ∈ Split.all := by
  cases f <;> decide

namespace Snapshot

section Members

variable {κ : Type} [Spelled κ]

/-- A member of a snapshot is a number, a breakdown, the truth value or the build. -/
theorem mem_members_iff {s : Snapshot κ} {m : Points × Json} :
    m ∈ s.members ↔
      (∃ f x, s.figure f = some x ∧ m = member f.name (.real x)) ∨
        (∃ f b, s.split f = some b ∧ m = member f.name b.toJson) ∨
          (∃ b, s.blockingEnabled = some b ∧ m = member "blocking_enabled" (.bool b)) ∨
            ∃ b, s.build = some b ∧ m = member "build_info" b.toJson := by
  simp only [members, List.append_assoc, List.mem_append, List.mem_filterMap, Figure.mem_all, Split.mem_all, true_and,
    Option.mem_toList, Option.map_eq_some_iff, @eq_comm _ m]

/-- The members of a snapshot, with sorted members of their own. -/
def shown (s : Snapshot κ) : List (Points × Json) :=
  sortEntries s.members

theorem toJson_eq (s : Snapshot κ) : s.toJson = .object (sortMembers s.shown) := rfl

/-- What the text of a snapshot tells: its members with their pairs of halves joined. -/
def told (s : Snapshot κ) : List (Points × Json) :=
  s.shown.map joinedMember

theorem mem_told_iff {s : Snapshot κ} {m : Points × Json} :
    m ∈ s.told ↔
      (∃ f x, s.figure f = some x ∧ m = member f.name (.real x)) ∨
        (∃ f b, s.split f = some b ∧ m = member f.name (sortKeys b.toJson).joined) ∨
          (∃ b, s.blockingEnabled = some b ∧ m = member "blocking_enabled" (.bool b)) ∨
            ∃ b, s.build = some b ∧ m = member "build_info" (sortKeys b.toJson).joined := by
  have each (name : String) (v : Json) : joinedMember ((member name v).1, sortKeys (member name v).2) =
      member name (sortKeys v).joined := joinedMember_member name (sortKeys v)
  rw [told, shown, sortEntries_eq_map, List.map_map, List.mem_map]
  constructor
  · rintro ⟨n, mem, rfl⟩
    rcases mem_members_iff.1 mem with ⟨f, x, found, rfl⟩ | ⟨f, b, found, rfl⟩ | ⟨b, found, rfl⟩ | ⟨b, found, rfl⟩
    · exact .inl ⟨f, x, found, each ..⟩
    · exact .inr (.inl ⟨f, b, found, each ..⟩)
    · exact .inr (.inr (.inl ⟨b, found, each ..⟩))
    · exact .inr (.inr (.inr ⟨b, found, each ..⟩))
  · rintro (⟨f, x, found, rfl⟩ | ⟨f, b, found, rfl⟩ | ⟨b, found, rfl⟩ | ⟨b, found, rfl⟩)
    · exact ⟨_, mem_members_iff.2 (.inl ⟨f, x, found, rfl⟩), each ..⟩
    · exact ⟨_, mem_members_iff.2 (.inr (.inl ⟨f, b, found, rfl⟩)), each ..⟩
    · exact ⟨_, mem_members_iff.2 (.inr (.inr (.inl ⟨b, found, rfl⟩))), each ..⟩
    · exact ⟨_, mem_members_iff.2 (.inr (.inr (.inr ⟨b, found, rfl⟩))), each ..⟩

/-- What is told of a breakdown and of a build is an object. -/
theorem exists_object_breakdown (b : Breakdown κ) : ∃ ms, (sortKeys b.toJson).joined = .object ms := by
  rw [b.sortKeys_toJson, Json.joined]
  exact ⟨_, rfl⟩

theorem exists_object_build (b : Build κ) : ∃ ms, (sortKeys b.toJson).joined = .object ms := by
  rw [b.sortKeys_toJson, Json.joined]
  exact ⟨_, rfl⟩

theorem figure_mem_told_iff {s : Snapshot κ} {f : Figure} {x : Float} :
    member f.name (.real x) ∈ s.told ↔ s.figure f = some x := by
  rw [mem_told_iff]
  constructor
  · rintro (⟨g, y, found, same⟩ | ⟨g, b, -, same⟩ | ⟨b, -, same⟩ | ⟨b, -, same⟩)
    · obtain ⟨name, value⟩ := member_inj.1 same
      obtain rfl := Figure.name_injective name
      obtain rfl := Json.real.inj value
      exact found
    · obtain ⟨ms, object⟩ := exists_object_breakdown b
      rw [object] at same
      exact absurd (member_inj.1 same).2 nofun
    · exact absurd (member_inj.1 same).2 nofun
    · obtain ⟨ms, object⟩ := exists_object_build b
      rw [object] at same
      exact absurd (member_inj.1 same).2 nofun
  · exact fun found => .inl ⟨f, x, found, rfl⟩

theorem blockingEnabled_mem_told_iff {s : Snapshot κ} {b : Bool} :
    member "blocking_enabled" (.bool b) ∈ s.told ↔ s.blockingEnabled = some b := by
  rw [mem_told_iff]
  constructor
  · rintro (⟨g, y, -, same⟩ | ⟨g, c, -, same⟩ | ⟨c, found, same⟩ | ⟨c, -, same⟩)
    · exact absurd (member_inj.1 same).2 nofun
    · obtain ⟨ms, object⟩ := exists_object_breakdown c
      rw [object] at same
      exact absurd (member_inj.1 same).2 nofun
    · obtain rfl := Json.bool.inj (member_inj.1 same).2
      exact found
    · obtain ⟨ms, object⟩ := exists_object_build c
      rw [object] at same
      exact absurd (member_inj.1 same).2 nofun
  · exact fun found => .inr (.inr (.inl ⟨b, found, rfl⟩))

theorem split_mem_told_iff {s : Snapshot κ} {f : Split} {ms : List (Points × Json)} :
    member f.name (.object ms) ∈ s.told ↔ ∃ b, s.split f = some b ∧ (sortKeys b.toJson).joined = .object ms := by
  rw [mem_told_iff]
  constructor
  · rintro (⟨g, y, -, same⟩ | ⟨g, b, found, same⟩ | ⟨b, -, same⟩ | ⟨b, -, same⟩)
    · exact absurd (member_inj.1 same).2 nofun
    · obtain ⟨name, value⟩ := member_inj.1 same
      obtain rfl := Split.name_injective name
      exact ⟨b, found, value.symm⟩
    · exact absurd (member_inj.1 same).2 nofun
    · exact absurd (member_inj.1 same).1 f.name_ne_buildInfo
  · rintro ⟨b, found, object⟩
    exact .inr (.inl ⟨f, b, found, by rw [object]⟩)

theorem build_mem_told_iff {s : Snapshot κ} {ms : List (Points × Json)} :
    member "build_info" (.object ms) ∈ s.told ↔ ∃ b, s.build = some b ∧ (sortKeys b.toJson).joined = .object ms := by
  rw [mem_told_iff]
  constructor
  · rintro (⟨g, y, -, same⟩ | ⟨g, b, -, same⟩ | ⟨b, -, same⟩ | ⟨b, found, same⟩)
    · exact absurd (member_inj.1 same).2 nofun
    · exact absurd (member_inj.1 same).1.symm g.name_ne_buildInfo
    · exact absurd (member_inj.1 same).2 nofun
    · exact ⟨b, found, (member_inj.1 same).2.symm⟩
  · rintro ⟨b, found, object⟩
    exact .inr (.inr (.inr ⟨b, found, by rw [object]⟩))

end Members

/-! ## The text of a snapshot -/

section Text

variable {κ : Type}

/-- Two snapshots report the same parts with the same values. -/
structure Same (s t : Snapshot κ) : Prop where
  figures : ∀ f, s.figure f = t.figure f
  splits : ∀ f, Option.Rel Breakdown.Same (s.split f) (t.split f)
  blockingEnabled : s.blockingEnabled = t.blockingEnabled
  build : s.build = t.build

variable [Spelled κ]

/-- The same parts, but for pairs of halves, which count as the characters that they are the pairs of. -/
structure Alike (s t : Snapshot κ) : Prop where
  figures : ∀ f, s.figure f = t.figure f
  splits : ∀ f, Option.Rel Breakdown.Same ((s.split f).map Breakdown.joined) ((t.split f).map Breakdown.joined)
  blockingEnabled : s.blockingEnabled = t.blockingEnabled
  build : s.build.map Build.joined = t.build.map Build.joined

/-- No text of the snapshot, be it a key or of the build, holds a high half with a low one behind it. -/
structure Unpaired (s : Snapshot κ) : Prop where
  keys : ∀ f b, s.split f = some b → ∀ p ∈ b, (Spelled.points p.1).Unpaired
  build : ∀ b, s.build = some b → (Spelled.points b.version).Unpaired ∧ (Spelled.points b.time).Unpaired

/-- Snapshots of which the same is told report the same, but for pairs of halves. -/
theorem alike_of_told {s t : Snapshot κ} (same : ∀ m, m ∈ s.told ↔ m ∈ t.told) : s.Alike t := by
  refine ⟨fun f => ?_, fun f => ?_, ?_, ?_⟩
  · apply Option.ext
    intro x
    rw [← figure_mem_told_iff, same, figure_mem_told_iff]
  · have found {s t : Snapshot κ} (same : ∀ m, m ∈ s.told ↔ m ∈ t.told) {b : Breakdown κ} (found : s.split f = some b) :
        ∃ c, t.split f = some c ∧ (sortKeys c.toJson).joined = (sortKeys b.toJson).joined := by
      obtain ⟨ms, object⟩ := exists_object_breakdown b
      rw [object]
      exact split_mem_told_iff.1 ((same _).1 (split_mem_told_iff.2 ⟨b, found, object⟩))
    cases first : s.split f with
    | none =>
      cases second : t.split f with
      | none => exact .none
      | some c =>
        obtain ⟨b, other, -⟩ := found (fun m => (same m).symm) second
        rw [first] at other
        contradiction
    | some b =>
      obtain ⟨c, second, alike⟩ := found same first
      rw [second]
      exact .some (Breakdown.same_of_joined_eq alike.symm)
  · apply Option.ext
    intro b
    rw [← blockingEnabled_mem_told_iff, same, blockingEnabled_mem_told_iff]
  · have found {s t : Snapshot κ} (same : ∀ m, m ∈ s.told ↔ m ∈ t.told) {b : Build Points}
        (found : s.build.map Build.joined = some b) : t.build.map Build.joined = some b := by
      obtain ⟨c, reported, rfl⟩ := Option.map_eq_some_iff.1 found
      obtain ⟨ms, object⟩ := exists_object_build c
      obtain ⟨d, other, alike⟩ := build_mem_told_iff.1 ((same _).1 (build_mem_told_iff.2 ⟨c, reported, object⟩))
      rw [other, Option.map_some, Build.joined_eq (alike.trans object.symm)]
    apply Option.ext
    intro b
    exact ⟨found same, found fun m => (same m).symm⟩

/-- Snapshots that report the same show the same members. -/
theorem shown_eq_of_same {s t : Snapshot κ} (distinct : s.KeysDistinct) (distinct' : t.KeysDistinct)
    (same : s.Same t) : s.shown = t.shown := by
  obtain ⟨figures, splits, blockingEnabled, build⟩ := same
  have sorted (f : Split) : (s.split f).map (fun b => member f.name (sortKeys b.toJson)) =
      (t.split f).map fun b => member f.name (sortKeys b.toJson) := by
    have both := splits f
    cases first : s.split f with
    | none =>
      rw [first] at both
      cases second : t.split f with
      | none => rfl
      | some c =>
        rw [second] at both
        contradiction
    | some b =>
      rw [first] at both
      cases second : t.split f with
      | none =>
        rw [second] at both
        contradiction
      | some c =>
        rw [second] at both
        obtain ⟨same⟩ := both
        rw [Option.map_some, Option.map_some,
          Breakdown.sortKeys_eq_of_same (distinct f b first) (distinct' f c second) same]
  unfold shown members
  simp only [member] at sorted
  simp only [member, sortEntries_eq_map, List.map_append, List.map_filterMap, Option.map_map, Function.comp_def,
    figures, blockingEnabled, build, sorted]

theorem toText_eq_of_same {s t : Snapshot κ} (distinct : s.KeysDistinct) (distinct' : t.KeysDistinct)
    (same : s.Same t) : s.toText = t.toText := by
  show s.toJson.toText = t.toJson.toText
  rw [toJson_eq, toJson_eq, shown_eq_of_same distinct distinct' same]

theorem alike_of_toText_eq {s t : Snapshot κ} (same : s.toText = t.toText) : s.Alike t := by
  have json : s.toJson.joined = t.toJson.joined := joined_eq_of_toText_eq same
  rw [toJson_eq, toJson_eq] at json
  exact alike_of_told fun m => (perm_of_joined_eq json).mem_iff

end Text

/-! ## Snapshots without pairs of halves -/

theorem joined_eq_of_unpaired {b : Breakdown Points} (unpaired : ∀ p ∈ b, p.1.Unpaired) : b.joined = b := by
  unfold Breakdown.joined
  conv_rhs => rw [← List.map_id b]
  apply List.map_congr_left
  intro p mem
  exact Prod.ext (Points.joined_of_unpaired (unpaired p mem)) rfl

theorem Alike.same {s t : Snapshot Points} (alike : s.Alike t) (unpaired : s.Unpaired) (unpaired' : t.Unpaired) :
    s.Same t := by
  have splits {s : Snapshot Points} (unpaired : s.Unpaired) (f : Split) :
      (s.split f).map Breakdown.joined = s.split f := by
    cases reported : s.split f with
    | none => rfl
    | some b => exact congrArg some (joined_eq_of_unpaired (unpaired.keys f b reported))
  have build {s : Snapshot Points} (unpaired : s.Unpaired) : s.build.map Build.joined = s.build := by
    cases reported : s.build with
    | none => rfl
    | some b =>
      obtain ⟨version, time⟩ := unpaired.build b reported
      cases b
      exact congrArg some (congrArg₂ Build.mk (Points.joined_of_unpaired version) (Points.joined_of_unpaired time))
  refine ⟨alike.figures, fun f => ?_, alike.blockingEnabled, ?_⟩
  · have both := alike.splits f
    rwa [splits unpaired, splits unpaired'] at both
  · have both := alike.build
    rwa [build unpaired, build unpaired'] at both

/-- The text of a snapshot tells what it reports, and nothing else: two snapshots without pairs of halves have one text
iff they report the same parts with the same values. Snapshots that report the same have one text in any case, and
snapshots that have one text differ at most in halves that stand for a character. The text is one line of characters
from U+0020 to U+007E, whatever the keys and the build are. -/
theorem toText_canonical (s : Snapshot Points) :
    (∀ t, s.KeysDistinct → t.KeysDistinct → s.Unpaired → t.Unpaired → (s.toText = t.toText ↔ s.Same t)) ∧
    (∀ t, s.KeysDistinct → t.KeysDistinct → s.Same t → s.toText = t.toText) ∧
    (∀ t, s.toText = t.toText → s.Alike t) ∧
    ∀ c ∈ s.toText.toList, LineMark c := by
  refine ⟨?iff, fun _ => toText_eq_of_same, fun _ => alike_of_toText_eq, ?line⟩
  case iff =>
    intro t distinct distinct' unpaired unpaired'
    exact ⟨fun same => (alike_of_toText_eq same).same unpaired unpaired', toText_eq_of_same distinct distinct'⟩
  case line =>
    intro c mem
    rw [toText, Json.toText, String.toList_ofList] at mem
    exact lineMark_of_mem_render _ c mem

/-- The keys of a breakdown in two orders, two of which no line could show as they are. -/
theorem toText_canonical_otherOrder :
    let s : Snapshot Points := { queriesByClient := some [(↑"a", 1.0), (↑"\n😀", 0.0 / 0.0), ([.half 0], 2.0)] }
    let t : Snapshot Points := { queriesByClient := some [([.half 0], 2.0), (↑"\n😀", 0.0 / 0.0), (↑"a", 1.0)] }
    s.toText = t.toText := by
  intro s t
  have distinct : s.KeysDistinct := by
    rintro (_ | _) b found <;> cases found
    show [Spelled.points "a", Spelled.points "\n😀", [.half 0]].Nodup
    decide
  have distinct' : t.KeysDistinct := by
    rintro (_ | _) b found <;> cases found
    show [[.half 0], Spelled.points "\n😀", Spelled.points "a"].Nodup
    decide
  have single : Points.Unpaired [.half 0] := fun as p q bs same => by
    have length := congrArg List.length same
    simp only [List.length_append, List.length_cons, List.length_nil] at length
    omega
  have keys : ∀ k ∈ [Spelled.points "a", Spelled.points "\n😀", [.half 0]], Points.Unpaired k := by
    simp only [List.mem_cons, List.not_mem_nil, or_false, forall_eq_or_imp, forall_eq]
    exact ⟨Points.unpaired_pointsOf _, Points.unpaired_pointsOf _, single⟩
  have unpaired : s.Unpaired := by
    refine ⟨?_, nofun⟩
    rintro (_ | _) b found p mem <;> cases found
    exact keys p.1 (List.mem_map_of_mem (f := Prod.fst) mem)
  have unpaired' : t.Unpaired := by
    refine ⟨?_, nofun⟩
    rintro (_ | _) b found p mem <;> cases found
    have among := List.mem_map_of_mem (f := Prod.fst) mem
    exact keys p.1 (by simpa [or_comm, or_assoc] using among)
  have swapped : s.Same t := by
    refine ⟨fun f => by cases f <;> rfl, ?_, rfl, rfl⟩
    rintro (_ | _)
    case queriesByClient => exact .some fun key x => by simp [or_comm, or_assoc]
    all_goals exact .none
  exact ((toText_canonical s).1 t distinct distinct' unpaired unpaired').2 swapped

/-- A version that is a pair of halves, and one that is their character: two texts, but written alike. -/
theorem toText_pairOfHalves :
    let s : Snapshot Points := { build := some ⟨[.half 0, .half 0x400], []⟩ }
    let t : Snapshot Points := { build := some ⟨[.char '𐀀'], []⟩ }
    s.KeysDistinct ∧ t.KeysDistinct ∧ s.toText = t.toText ∧ ¬ s.Same t := by
  intro s t
  refine ⟨nofun, nofun, ?text, ?other⟩
  case text =>
    have alone (b : Build Points) : ({ build := some b } : Snapshot Points).toJson =
        .object [member "build_info" (sortKeys b.toJson)] :=
      congrArg Json.object (List.mergeSort_singleton _)
    have written (b : Build Points) : ({ build := some b } : Snapshot Points).toText =
        String.ofList (render (.object [member "build_info" (sortKeys b.toJson)])) := by
      rw [toText, alone, Json.toText]
    rw [written, written, Build.sortKeys_toJson, Build.sortKeys_toJson]
    decide +kernel
  case other =>
    intro same
    exact absurd same.build (by decide)

end Snapshot

end ResolverWatch
