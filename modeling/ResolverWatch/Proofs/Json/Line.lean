import Mathlib.Tactic.SplitIfs
import ResolverWatch.Json.Render
import ResolverWatch.Proofs.Decimal.Marks

/-!
# The text of a value is one line

Whatever its strings hold, a value is written in the characters from U+0020 to U+007E
(`lineMark_of_mem_render`), so its text has no line end (`newline_not_mem_toText`).
-/

namespace ResolverWatch.Json

open Text Decimal

/-- A character from U+0020 to U+007E. -/
def LineMark (c : Char) : Prop :=
  0x20 ≤ c.toNat ∧ c.toNat < 0x7f

instance : DecidablePred LineMark := fun c =>
  inferInstanceAs (Decidable (0x20 ≤ c.toNat ∧ c.toNat < 0x7f))

theorem lineMark_of_numberMark {c : Char} (mark : NumberMark c) : LineMark c := by
  rcases mark with digit | other
  · obtain ⟨least, greatest⟩ : '0'.toNat ≤ c.toNat ∧ c.toNat ≤ '9'.toNat := by
      simpa [Char.isDigit, UInt32.le_iff_toNat_le] using digit
    have zero : '0'.toNat = 0x30 := rfl
    have nine : '9'.toNat = 0x39 := rfl
    constructor <;> omega
  · have marks : ∀ d ∈ ['.', 'e', '+', '-'], LineMark d := by simp [LineMark]
    exact marks c other

theorem lineMark_of_mem_unitEscape {n : Nat} {c : Char} (mem : c ∈ unitEscape n) : LineMark c := by
  have digits : ∀ d < 16, LineMark (Nat.digitChar d) := by decide
  simp only [unitEscape, List.mem_cons] at mem
  rcases mem with rfl | rfl | digit
  · decide
  · decide
  · exact forall_mem_hexDigits digits 4 n c digit

theorem lineMark_of_mem_stringChar {d c : Char} (mem : c ∈ stringChar d) : LineMark c := by
  have escapes : ∀ e ∈ ['"', '\\', 'n', 'r', 't', 'b', 'f'], ∀ c ∈ ['\\', e], LineMark c := by simp [LineMark]
  unfold stringChar at mem
  dsimp only at mem
  split_ifs at mem with _ _ _ _ _ _ _ plain
  · exact escapes '"' (by simp) c mem
  · exact escapes '\\' (by simp) c mem
  · exact escapes 'n' (by simp) c mem
  · exact escapes 'r' (by simp) c mem
  · exact escapes 't' (by simp) c mem
  · exact escapes 'b' (by simp) c mem
  · exact escapes 'f' (by simp) c mem
  · rw [List.mem_singleton.1 mem]
    exact plain
  · exact lineMark_of_mem_unitEscape mem
  · rcases List.mem_append.1 mem with high | low
    · exact lineMark_of_mem_unitEscape high
    · exact lineMark_of_mem_unitEscape low

theorem lineMark_of_mem_stringPoint {p : Point} {c : Char} (mem : c ∈ stringPoint p) : LineMark c := by
  cases p with
  | char d => exact lineMark_of_mem_stringChar mem
  | half n => exact lineMark_of_mem_unitEscape mem

theorem lineMark_of_mem_renderString {s : Points} {c : Char} (mem : c ∈ renderString s) : LineMark c := by
  unfold renderString at mem
  simp only [List.cons_append, List.mem_cons, List.mem_append, List.mem_flatMap, List.not_mem_nil, or_false] at mem
  rcases mem with rfl | ⟨p, -, shown⟩ | rfl
  · decide
  · exact lineMark_of_mem_stringPoint shown
  · decide

/-- An integer is written with digits and a minus sign. -/
theorem digit_or_minus_of_mem_renderInt {n : Int} {c : Char} (mem : c ∈ renderInt n) : c.isDigit = true ∨ c = '-' := by
  have digit (mem : c ∈ natDigits n.natAbs) : c.isDigit = true :=
    Nat.isDigit_of_mem_toDigits (by decide) (by decide) mem
  unfold renderInt at mem
  split_ifs at mem
  · rcases List.mem_cons.1 mem with minus | mem
    · exact .inr minus
    · exact .inl (digit mem)
  · exact .inl (digit mem)

theorem lineMark_of_mem_renderInt {n : Int} {c : Char} (mem : c ∈ renderInt n) : LineMark c := by
  rcases digit_or_minus_of_mem_renderInt mem with digit | minus
  · exact lineMark_of_numberMark (.inl digit)
  · exact lineMark_of_numberMark (.inr (by simp [minus]))

theorem lineMark_of_mem_floatText {x : Float} {c : Char} (mem : c ∈ floatText .document x) : LineMark c := by
  have names : ∀ d ∈ "Infinity".toList ++ "NaN".toList, LineMark d := by simp [LineMark]
  rcases mem_floatText_cases mem with mark | ⟨-, letter⟩ | ⟨-, letter⟩
  · exact lineMark_of_numberMark mark
  · exact names c (List.mem_append_left _ letter)
  · exact names c (List.mem_append_right _ letter)

theorem lineMark_of_mem_commaJoin {ts : List (List Char)} (marks : ∀ t ∈ ts, ∀ c ∈ t, LineMark c) {c : Char}
    (mem : c ∈ commaJoin ts) : LineMark c := by
  induction ts with
  | nil => simp [commaJoin] at mem
  | cons t rest ih =>
    have first : ∀ d ∈ t, LineMark d := marks t List.mem_cons_self
    cases rest with
    | nil => exact first c mem
    | cons u us =>
      rcases List.mem_append.1 mem with here | later
      · exact first c here
      · rcases List.mem_cons.1 later with rfl | later
        · decide
        · exact ih (fun t' among => marks t' (List.mem_cons_of_mem _ among)) later

/-- Brackets keep a text on its line. -/
theorem lineMark_of_mem_between {cs : List Char} (marks : ∀ c ∈ cs, LineMark c) {a b : Char} (opening : LineMark a)
    (closing : LineMark b) : ∀ c ∈ a :: cs ++ [b], LineMark c := by
  intro c mem
  simp only [List.cons_append, List.mem_cons, List.mem_append, List.not_mem_nil, or_false] at mem
  rcases mem with rfl | inner | rfl
  · exact opening
  · exact marks c inner
  · exact closing

mutual

/-- A value is written in the characters from U+0020 to U+007E. -/
theorem lineMark_of_mem_render : ∀ v : Json, ∀ c ∈ render v, LineMark c
  | .null => by simp [render, LineMark]
  | .bool true => by simp [render, LineMark]
  | .bool false => by simp [render, LineMark]
  | .int _ => fun _ => lineMark_of_mem_renderInt
  | .real _ => fun _ => lineMark_of_mem_floatText
  | .text _ => fun _ => lineMark_of_mem_renderString
  | .array items =>
    lineMark_of_mem_between (fun _ => lineMark_of_mem_commaJoin (lineMark_of_mem_renderItems items)) (by decide)
      (by decide)
  | .object members =>
    lineMark_of_mem_between (fun _ => lineMark_of_mem_commaJoin (lineMark_of_mem_renderMembers members)) (by decide)
      (by decide)

theorem lineMark_of_mem_renderItems : ∀ items : List Json, ∀ t ∈ renderItems items, ∀ c ∈ t, LineMark c
  | [] => by simp [renderItems]
  | v :: vs => by
    intro t mem
    rcases List.mem_cons.1 mem with rfl | later
    · exact lineMark_of_mem_render v
    · exact lineMark_of_mem_renderItems vs t later

theorem lineMark_of_mem_renderMembers : ∀ members : List (Points × Json), ∀ t ∈ renderMembers members, ∀ c ∈ t,
    LineMark c
  | [] => by simp [renderMembers]
  | (k, v) :: rest => by
    intro t mem c among
    rcases List.mem_cons.1 mem with rfl | later
    · rcases List.mem_append.1 among with key | value
      · exact lineMark_of_mem_renderString key
      · rcases List.mem_cons.1 value with rfl | value
        · decide
        · exact lineMark_of_mem_render v c value
    · exact lineMark_of_mem_renderMembers rest t later c among

end

/-- The text of a value has no line end. -/
theorem newline_not_mem_toText (v : Json) : '\n' ∉ v.toText.toList := by
  intro mem
  rw [toText, String.toList_ofList] at mem
  exact absurd (lineMark_of_mem_render v '\n' mem) (by decide)

end ResolverWatch.Json
