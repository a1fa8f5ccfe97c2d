import ResolverWatch.Json.Parse
import ResolverWatch.Proofs.Decimal.Digits
import ResolverWatch.Proofs.Json.Bare

/-!
# Which texts of values are standard

The grammar of RFC 8259 is stated on lists of characters (`Standard`). The text of a value is a JSON text in its sense
iff all doubles of the value are finite (`standard_render_iff`): the standard has no number for the others.
-/

namespace ResolverWatch.Json

open Text Decimal

/-! ## The grammar -/

/-- White space, or nothing. -/
def Space (cs : List Char) : Prop :=
  ∀ c ∈ cs, isJsonSpace c = true

/-- At least one digit. -/
def Digits (cs : List Char) : Prop :=
  cs ≠ [] ∧ ∀ c ∈ cs, c.isDigit = true

/-- A whole number without a sign. Only zero starts with a zero. -/
inductive Whole : List Char → Prop
  | zero : Whole ['0']
  | digits (d : Char) (ds : List Char) (first : d ≠ '0') (all : ∀ c ∈ d :: ds, c.isDigit = true) : Whole (d :: ds)

/-- A point and digits, or nothing. -/
inductive Fraction : List Char → Prop
  | none : Fraction []
  | digits (ds : List Char) (digits : Digits ds) : Fraction ('.' :: ds)

/-- A power of ten, or nothing. -/
inductive Power : List Char → Prop
  | none : Power []
  | digits (e : Char) (mark : e = 'e' ∨ e = 'E') (sign : List Char) (signs : sign ∈ [[], ['+'], ['-']])
      (ds : List Char) (digits : Digits ds) : Power (e :: sign ++ ds)

/-- A number. -/
inductive Number : List Char → Prop
  | parts (minus : List Char) (sign : minus ∈ [[], ['-']]) (whole fraction power : List Char) (isWhole : Whole whole)
      (isFraction : Fraction fraction) (isPower : Power power) : Number (minus ++ whole ++ fraction ++ power)

/-- A character of a string, or its escape. -/
inductive StringUnit : List Char → Prop
  | plain (c : Char) (printed : 0x20 ≤ c.toNat) (noQuote : c ≠ '"') (noBackslash : c ≠ '\\') : StringUnit [c]
  | short (c : Char) (known : c ∈ ['"', '\\', '/', 'b', 'f', 'n', 'r', 't']) : StringUnit ['\\', c]
  | hex (cs : List Char) (four : cs.length = 4) (digits : ∀ c ∈ cs, (hexValue? c).isSome = true) :
      StringUnit ('\\' :: 'u' :: cs)

/-- What a string holds. -/
inductive Units : List Char → Prop
  | nil : Units []
  | cons {u rest : List Char} (unit : StringUnit u) (units : Units rest) : Units (u ++ rest)

/-- A string. -/
inductive Quoted : List Char → Prop
  | quotes {cs : List Char} (units : Units cs) : Quoted ('"' :: cs ++ ['"'])

mutual

/-- A value without white space around it. -/
inductive Value : List Char → Prop
  | null : Value "null".toList
  | true : Value "true".toList
  | false : Value "false".toList
  | number {cs : List Char} (number : Number cs) : Value cs
  | string {cs : List Char} (quoted : Quoted cs) : Value cs
  | emptyArray {cs : List Char} (space : Space cs) : Value ('[' :: cs ++ [']'])
  | array {cs : List Char} (items : Items cs) : Value ('[' :: cs ++ [']'])
  | emptyObject {cs : List Char} (space : Space cs) : Value ('{' :: cs ++ ['}'])
  | object {cs : List Char} (members : Members cs) : Value ('{' :: cs ++ ['}'])

/-- A JSON text: a value, with white space around it. -/
inductive Standard : List Char → Prop
  | spaced {before cs after : List Char} (space : Space before) (value : Value cs) (space' : Space after) :
      Standard (before ++ cs ++ after)

/-- Values with commas between them. -/
inductive Items : List Char → Prop
  | last {cs : List Char} (item : Standard cs) : Items cs
  | more {cs rest : List Char} (item : Standard cs) (items : Items rest) : Items (cs ++ ',' :: rest)

/-- A name and a value, with a colon between them. -/
inductive Member : List Char → Prop
  | named {before name after cs : List Char} (space : Space before) (quoted : Quoted name) (space' : Space after)
      (item : Standard cs) : Member (before ++ name ++ after ++ ':' :: cs)

/-- Members with commas between them. -/
inductive Members : List Char → Prop
  | last {cs : List Char} (member : Member cs) : Members cs
  | more {cs rest : List Char} (member : Member cs) (members : Members rest) : Members (cs ++ ',' :: rest)

end

/-! ## What the grammar leaves outside strings -/

theorem hexDigit_ne {c : Char} (digit : (hexValue? c).isSome = true) : c ≠ '"' ∧ c ≠ '\\' := by
  constructor
  · rintro rfl
    exact absurd digit (by decide)
  · rintro rfl
    exact absurd digit (by decide)

theorem bareFrom_inside_of_unit {u : List Char} (unit : StringUnit u) (rest : List Char) :
    bareFrom .inside (u ++ rest) = bareFrom .inside rest := by
  cases unit with
  | plain c _ noQuote noBackslash => exact bareFrom_inside_of_plain (by simp [noQuote, noBackslash]) rest
  | short c known => rfl
  | hex cs _ digits =>
    -- The backslash hides the letter behind it, and no digit ends the string.
    show bareFrom .inside (cs ++ rest) = _
    exact bareFrom_inside_of_plain (fun c mem => hexDigit_ne (digits c mem)) rest

namespace Shows

theorem space {cs : List Char} (space : Space cs) : Shows cs [] := by
  have other {c : Char} (printed : isJsonSpace c = false) : c ∉ cs := by
    intro mem
    rw [space c mem] at printed
    contradiction
  exact of_plain ⟨other (by decide), other (by decide), other (by decide)⟩

theorem digits {cs : List Char} (digits : Digits cs) : Shows cs [] :=
  of_numberMarks fun c mem => .inl (digits.2 c mem)

theorem number {cs : List Char} (number : Number cs) : Shows cs [] := by
  obtain ⟨minus, sign, whole, fraction, power, isWhole, isFraction, isPower⟩ := number
  have marks : ∀ c ∈ ['.', 'e', 'E', '+', '-'], '"' ∉ [c] ∧ 'I' ∉ [c] ∧ 'N' ∉ [c] := by simp
  have mark (c : Char) (plain : c ∈ ['.', 'e', 'E', '+', '-']) : Shows [c] [] := of_plain (marks c plain)
  have signs : ∀ cs ∈ [[], ['+'], ['-']], Shows cs [] := by
    intro cs mem
    simp only [List.mem_cons, List.not_mem_nil, or_false] at mem
    rcases mem with rfl | rfl | rfl
    · exact of_plain (by decide)
    · exact mark '+' (by decide)
    · exact mark '-' (by decide)
  have minus' : Shows minus [] := by
    simp only [List.mem_cons, List.not_mem_nil, or_false] at sign
    rcases sign with rfl | rfl
    · exact of_plain (by decide)
    · exact mark '-' (by decide)
  have whole' : Shows whole [] := by
    cases isWhole with
    | zero => exact of_plain (by decide)
    | digits d ds _ all => exact digits ⟨by simp, all⟩
  have fraction' : Shows fraction [] := by
    cases isFraction with
    | none => exact of_plain (by decide)
    | digits ds all => exact (mark '.' (by decide)).append (digits all)
  have power' : Shows power [] := by
    cases isPower with
    | none => exact of_plain (by decide)
    | digits e letter sign mem ds all =>
      have letter' : Shows [e] [] := mark e (by rcases letter with rfl | rfl <;> decide)
      exact (letter'.append (signs sign mem)).append (digits all)
  exact ((minus'.append whole').append fraction').append power'

theorem quoted {cs : List Char} (quoted : Quoted cs) : Shows cs [] := by
  cases quoted with
  | @quotes cs units =>
    have body (rest : List Char) : bare ('"' :: cs ++ ['"'] ++ rest) = '"' :: '"' :: bare rest := by
      show '"' :: bareFrom .inside (cs ++ ['"'] ++ rest) = _
      congr 1
      induction units with
      | nil => rfl
      | cons unit _ ih =>
        rw [List.append_assoc, List.append_assoc, bareFrom_inside_of_unit unit, ← List.append_assoc]
        exact ih
    have alone := body []
    rw [List.append_nil] at alone
    refine ⟨?closed, by simp, ?named⟩
    case closed =>
      intro rest
      rw [body, alone]
      rfl
    case named =>
      rw [alone]
      simp [bare, bareFrom]

end Shows

mutual

/-- What the grammar accepts has no letters I and N outside its strings. -/
theorem shows_of_value {cs : List Char} : Value cs → Shows cs []
  | .null => .of_plain (by decide)
  | .true => .of_plain (by decide)
  | .false => .of_plain (by decide)
  | .number number => .number number
  | .string quoted => .quoted quoted
  | .emptyArray space => (Shows.space space).between (.of_plain (by decide)) (.of_plain (by decide))
  | .array items => (shows_of_items items).between (.of_plain (by decide)) (.of_plain (by decide))
  | .emptyObject space => (Shows.space space).between (.of_plain (by decide)) (.of_plain (by decide))
  | .object members => (shows_of_members members).between (.of_plain (by decide)) (.of_plain (by decide))

theorem shows_of_standard {cs : List Char} : Standard cs → Shows cs []
  | .spaced space value space' => ((Shows.space space).append (shows_of_value value)).append (.space space')

theorem shows_of_items {cs : List Char} : Items cs → Shows cs []
  | .last item => shows_of_standard item
  | .more item items =>
    have comma : Shows [','] [] := .of_plain (by decide)
    (shows_of_standard item).append (comma.append (shows_of_items items))

theorem shows_of_member {cs : List Char} : Member cs → Shows cs []
  | .named space quoted space' item =>
    have colon : Shows [':'] [] := .of_plain (by decide)
    (((Shows.space space).append (.quoted quoted)).append (.space space')).append
      (colon.append (shows_of_standard item))

theorem shows_of_members {cs : List Char} : Members cs → Shows cs []
  | .last member => shows_of_member member
  | .more member members =>
    have comma : Shows [','] [] := .of_plain (by decide)
    (shows_of_member member).append (comma.append (shows_of_members members))

end

/-- A double that is not finite is shown by its name. -/
theorem isFinite_of_unnamed {v : Json} (unnamed : 'I' ∉ bare (render v) ∧ 'N' ∉ bare (render v)) {x : Float}
    (mem : x ∈ reals v) : x.isFinite = true := by
  have shown : floatText .document x <:+: bare (render v) := (shows_render v).shown x mem
  rcases isFinite_or x with finite | infinite | undefined
  · exact finite
  · obtain ⟨s, written⟩ := floatText_of_isInf infinite
    have letter : 'I' ∈ floatText .document x := by simp [written]
    exact absurd (shown.subset letter) unnamed.1
  · have letter : 'N' ∈ floatText .document x := by simp [floatText_of_isNaN undefined]
    exact absurd (shown.subset letter) unnamed.2

theorem unnamed_of_standard {cs : List Char} (standard : Standard cs) : 'I' ∉ bare cs ∧ 'N' ∉ bare cs := by
  have named := (shows_of_standard standard).named
  constructor
  · intro mem
    simpa using named 'I' mem (.inl rfl)
  · intro mem
    simpa using named 'N' mem (.inr rfl)

/-! ## What is written -/

theorem digits_natDigits (n : Nat) : Digits (natDigits n) :=
  ⟨Nat.toDigits_ne_nil, fun _ mem => Nat.isDigit_of_mem_toDigits (by decide) (by decide) mem⟩

theorem Digits.append_zeros {ds : List Char} (digits : Digits ds) (n : Nat) : Digits (ds ++ List.replicate n '0') := by
  refine ⟨by simp [digits.1], fun c mem => ?_⟩
  rcases List.mem_append.1 mem with digit | zero
  · exact digits.2 c digit
  · rw [List.eq_of_mem_replicate zero]
    decide

theorem Digits.zeros_append {ds : List Char} (digits : Digits ds) (n : Nat) : Digits (List.replicate n '0' ++ ds) := by
  refine ⟨by simp [digits.1], fun c mem => ?_⟩
  rcases List.mem_append.1 mem with zero | digit
  · rw [List.eq_of_mem_replicate zero]
    decide
  · exact digits.2 c digit

theorem whole_natDigits (n : Nat) : Whole (natDigits n) := by
  rcases Nat.eq_zero_or_pos n with rfl | pos
  · exact .zero
  · obtain ⟨d, ds, written, other⟩ := exists_natDigits_eq_cons pos
    have all := (digits_natDigits n).2
    rw [written] at all ⊢
    exact .digits d ds other all

theorem number_renderInt (n : Int) : Number (renderInt n) := by
  have whole := whole_natDigits n.natAbs
  unfold renderInt
  split_ifs
  · simpa using Number.parts ['-'] (by decide) _ [] [] whole .none .none
  · simpa using Number.parts [] (by decide) _ [] [] whole .none .none

section Layout

variable {d : Char} {ds : List Char} (other : d ≠ '0') (all : ∀ c ∈ d :: ds, c.isDigit = true)
include other all

/-- Digits with a point are a whole number and a fraction. -/
theorem exists_parts_fixedDigits (point : Int) :
    ∃ whole fraction, fixedDigits (d :: ds) point = whole ++ fraction ∧ Whole whole ∧ Fraction fraction := by
  have digits : Digits (d :: ds) := ⟨by simp, all⟩
  unfold fixedDigits
  dsimp only
  split_ifs with small long
  · exact ⟨['0'], '.' :: (List.replicate (-point).toNat '0' ++ (d :: ds)), rfl, .zero,
      .digits _ (digits.zeros_append _)⟩
  · refine ⟨(d :: ds) ++ List.replicate (point.toNat - (d :: ds).length) '0', ['.', '0'], rfl, ?_, ?_⟩
    · exact .digits d _ other (digits.append_zeros _).2
    · exact .digits ['0'] (digits_natDigits 0)
  · obtain ⟨n, size⟩ : ∃ n, point.toNat = n + 1 := ⟨point.toNat - 1, by omega⟩
    rw [size] at long ⊢
    refine ⟨(d :: ds).take (n + 1), '.' :: (d :: ds).drop (n + 1), rfl, ?_, ?_⟩
    · exact .digits d (ds.take n) other fun c mem => all c (List.mem_of_mem_take (i := n + 1) mem)
    · refine .digits _ ⟨?_, fun c mem => all c (List.mem_of_mem_drop mem)⟩
      rw [Ne, List.drop_eq_nil_iff]
      exact long

/-- Digits with a power of ten are a digit, a fraction and a power. -/
theorem exists_parts_scientificDigits (exponent : Int) :
    ∃ whole fraction power, scientificDigits (d :: ds) exponent = whole ++ fraction ++ power ∧ Whole whole ∧
      Fraction fraction ∧ Power power := by
  have first : Whole [d] := .digits d [] other fun c mem => all c (by simp_all)
  have power : ∀ sign ∈ [['+'], ['-']], Power ('e' :: sign ++
      (List.replicate (2 - (natDigits exponent.natAbs).length) '0' ++ natDigits exponent.natAbs)) := by
    intro sign mem
    exact .digits 'e' (.inl rfl) sign (List.mem_cons_of_mem _ mem) _ ((digits_natDigits _).zeros_append _)
  have signed : Power ('e' :: (if exponent < 0 then '-' else '+') ::
      (List.replicate (2 - (natDigits exponent.natAbs).length) '0' ++ natDigits exponent.natAbs)) := by
    split_ifs
    · exact power ['-'] (by decide)
    · exact power ['+'] (by decide)
  cases ds with
  | nil => exact ⟨[d], [], _, rfl, first, .none, signed⟩
  | cons e rest =>
    refine ⟨[d], '.' :: e :: rest, _, by simp [scientificDigits], first, .digits _ ⟨by simp, ?_⟩, signed⟩
    exact fun c mem => all c (List.mem_cons_of_mem _ mem)

end Layout

theorem signText_mem (s : Float.Model.UnpackedFloat.Sign) : signText s ∈ [[], ['-']] := by
  cases s <;> decide

/-- A finite double is written as a number. -/
theorem number_floatText {x : Float} (finite : x.isFinite = true) : Number (floatText .document x) := by
  have range := Double.inRange_unpack x
  change x.toModel.unpack.isFinite = true at finite
  unfold floatText
  revert finite range
  cases x.toModel.unpack with
  | notANumber | infinity => exact nofun
  | zero s =>
    intro _ _
    show Number (signText s ++ ['0', '.', '0'])
    simpa using Number.parts _ (signText_mem s) ['0'] ['.', '0'] [] .zero (.digits _ (digits_natDigits 0)) .none
  | finite s m q pos =>
    intro range _
    obtain ⟨d, ds, written, other⟩ := exists_natDigits_eq_cons (digits_shortest_pos pos range.2)
    have all := (digits_natDigits (shortest m q).digits).2
    rw [written] at all
    show Number (signText s ++ (shortest m q).text .document)
    unfold Scaled.text
    dsimp only
    rw [written]
    split_ifs
    · obtain ⟨whole, fraction, parts, isWhole, isFraction⟩ := exists_parts_fixedDigits other all _
      rw [parts]
      simpa using Number.parts _ (signText_mem s) whole fraction [] isWhole isFraction .none
    · obtain ⟨whole, fraction, power, parts, isWhole, isFraction, isPower⟩ := exists_parts_scientificDigits other all _
      rw [parts]
      simpa using Number.parts _ (signText_mem s) whole fraction power isWhole isFraction isPower

theorem stringUnit_unitEscape (n : Nat) : StringUnit (unitEscape n) := by
  have digits : ∀ d < 16, (hexValue? (Nat.digitChar d)).isSome = true := by decide
  exact .hex _ (length_hexDigits 4 n) (forall_mem_hexDigits digits 4 n)

theorem Units.one {u : List Char} (unit : StringUnit u) : Units u := by
  simpa using Units.cons unit .nil

theorem Units.append {cs ds : List Char} (units : Units cs) (units' : Units ds) : Units (cs ++ ds) := by
  induction units with
  | nil => exact units'
  | cons unit _ ih =>
    rw [List.append_assoc]
    exact .cons unit ih

/-- A character is written as one unit, or as two if it needs a pair of escapes. -/
theorem units_stringChar (c : Char) : Units (stringChar c) := by
  unfold stringChar
  dsimp only
  split_ifs with quote backslash _ _ _ _ _ printed
  · exact .one (.short '"' (by simp))
  · exact .one (.short '\\' (by simp))
  · exact .one (.short 'n' (by simp))
  · exact .one (.short 'r' (by simp))
  · exact .one (.short 't' (by simp))
  · exact .one (.short 'b' (by simp))
  · exact .one (.short 'f' (by simp))
  · exact .one (.plain c printed.1 quote backslash)
  · exact .one (stringUnit_unitEscape _)
  · exact .cons (stringUnit_unitEscape _) (.one (stringUnit_unitEscape _))

theorem units_stringPoint (p : Point) : Units (stringPoint p) := by
  cases p with
  | char c => exact units_stringChar c
  | half n => exact .one (stringUnit_unitEscape _)

theorem quoted_renderString (s : Points) : Quoted (renderString s) := by
  have body : Units (s.flatMap stringPoint) := by
    induction s with
    | nil => exact .nil
    | cons p ps ih =>
      rw [List.flatMap_cons]
      exact (units_stringPoint p).append ih
  exact .quotes body

theorem space_nil : Space [] :=
  nofun

theorem Value.standard {cs : List Char} (value : Value cs) : Standard cs := by
  simpa using Standard.spaced space_nil value space_nil

theorem member_renderString (k : Points) {cs : List Char} (value : Value cs) :
    Member (renderString k ++ ':' :: cs) := by
  simpa using Member.named space_nil (quoted_renderString k) space_nil value.standard

/-- What holds of the last of some texts, and of a text before others, holds of the texts with commas between them. -/
theorem commaJoin_induction {P Q : List Char → Prop} (last : ∀ t, P t → Q t)
    (more : ∀ t rest, P t → Q rest → Q (t ++ ',' :: rest)) {ts : List (List Char)} (all : ∀ t ∈ ts, P t)
    (some : ts ≠ []) : Q (commaJoin ts) := by
  induction ts with
  | nil => contradiction
  | cons t ts ih =>
    obtain ⟨first, later⟩ := List.forall_mem_cons.1 all
    cases ts with
    | nil => exact last t first
    | cons u us => exact more t _ first (ih later (by simp))

theorem value_array {ts : List (List Char)} (standard : ∀ t ∈ ts, Standard t) :
    Value ('[' :: commaJoin ts ++ [']']) := by
  by_cases empty : ts = []
  · rw [empty]
    exact .emptyArray space_nil
  · exact .array (commaJoin_induction (fun _ => .last) (fun _ _ => .more) standard empty)

theorem value_object {ts : List (List Char)} (member : ∀ t ∈ ts, Member t) : Value ('{' :: commaJoin ts ++ ['}']) := by
  by_cases empty : ts = []
  · rw [empty]
    exact .emptyObject space_nil
  · exact .object (commaJoin_induction (fun _ => .last) (fun _ _ => .more) member empty)

mutual

/-- A value whose doubles are finite is written as the grammar asks. -/
theorem value_render : ∀ v : Json, (∀ x ∈ reals v, x.isFinite = true) → Value (render v)
  | .null, _ => .null
  | .bool true, _ => .true
  | .bool false, _ => .false
  | .int n, _ => .number (number_renderInt n)
  | .real x, finite => .number (number_floatText (finite x (List.mem_singleton_self x)))
  | .text s, _ => .string (quoted_renderString s)
  | .array items, finite => value_array (standard_of_mem_renderItems items finite)
  | .object members, finite => value_object (member_of_mem_renderMembers members finite)

theorem standard_of_mem_renderItems : ∀ items : List Json, (∀ x ∈ realsOfItems items, x.isFinite = true) →
    ∀ t ∈ renderItems items, Standard t
  | [], _ => by simp [renderItems]
  | v :: vs, finite => by
    obtain ⟨first, later⟩ := List.forall_mem_append.1 finite
    intro t mem
    rcases List.mem_cons.1 mem with rfl | mem
    · exact (value_render v first).standard
    · exact standard_of_mem_renderItems vs later t mem

theorem member_of_mem_renderMembers : ∀ members : List (Points × Json),
    (∀ x ∈ realsOfMembers members, x.isFinite = true) → ∀ t ∈ renderMembers members, Member t
  | [], _ => by simp [renderMembers]
  | (k, v) :: rest, finite => by
    obtain ⟨first, later⟩ := List.forall_mem_append.1 finite
    intro t mem
    rcases List.mem_cons.1 mem with rfl | mem
    · exact member_renderString k (value_render v first)
    · exact member_of_mem_renderMembers rest later t mem

end

/-- The text of a value is a JSON text iff the doubles of the value are finite. -/
theorem standard_render_iff (v : Json) : Standard (render v) ↔ ∀ x ∈ reals v, x.isFinite = true :=
  ⟨fun standard _ => isFinite_of_unnamed (unnamed_of_standard standard),
    fun finite => (value_render v finite).standard⟩

end ResolverWatch.Json
