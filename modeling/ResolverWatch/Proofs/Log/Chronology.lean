import ResolverWatch.Log.Record
import ResolverWatch.Proofs.Calendar.Civil
import ResolverWatch.Proofs.Log.Second

/-!
# The order of the texts of times

The text of a time has a fixed number of digits for each of its parts, from the year to the second, so two texts are
compared as the dates and the times of day that they name (`stamp_lt_of_before`, `stamp_lt_of_clock`). Days are numbered
in their order, so later seconds have greater texts, and the texts of times are in the order of the times
(`timeText_chronological`).
-/

namespace ResolverWatch.Log

open Calendar Decimal Double Text

/-! ## A fixed number of digits -/

/-- The last digits of a number, as many as are asked for. -/
def fixedWidth : Nat → Nat → List Char
  | 0, _ => []
  | width + 1, n => fixedWidth width (n / 10) ++ [Nat.digitChar (n % 10)]

theorem length_fixedWidth (width n : Nat) : (fixedWidth width n).length = width := by
  induction width generalizing n with
  | zero => rfl
  | succ width ih =>
    unfold fixedWidth
    rw [List.length_append, ih]
    rfl

/-- Numbers of the same number of digits are compared by their digits, whatever follows. -/
theorem fixedWidth_lt {width m n : Nat} (less : m < n) (fits : n < 10 ^ width) (x y : List Char) :
    fixedWidth width m ++ x < fixedWidth width n ++ y := by
  have digit : ∀ j < 10, ∀ i < j, Nat.digitChar i < Nat.digitChar j := by decide
  induction width generalizing m n x y with
  | zero => omega
  | succ width ih =>
    unfold fixedWidth
    rw [List.append_assoc, List.append_assoc]
    rcases Nat.lt_or_eq_of_le (Nat.div_le_div_right (c := 10) less.le) with front | front
    · exact ih front (by omega) _ _
    · rw [front]
      refine List.append_left_lt (List.cons_lt_cons_iff.2 (.inl ?_))
      exact digit _ (Nat.mod_lt n (by decide)) _ (by omega)

/-- A number is written in a fixed number of digits if it has that many. -/
theorem natDigits_eq_fixedWidth {width n : Nat} (least : 10 ^ width ≤ n) (most : n < 10 ^ (width + 1)) :
    natDigits n = fixedWidth (width + 1) n := by
  unfold natDigits
  induction width generalizing n with
  | zero =>
    rw [Nat.toDigits_of_lt_base (by omega)]
    show _ = [Nat.digitChar (n % 10)]
    rw [Nat.mod_eq_of_lt (by omega)]
  | succ width ih =>
    have several : 10 ≤ n := by
      have ten : 10 ^ 1 ≤ 10 ^ (width + 1) := Nat.pow_le_pow_right (by decide) (by omega)
      omega
    rw [Nat.toDigits_of_base_le (by decide) several, ih (by omega) (by omega)]
    rfl

theorem twoDigits_eq_fixedWidth {n : Nat} (most : n < 100) : twoDigits n = fixedWidth 2 n := by
  unfold twoDigits
  split
  · next single =>
    unfold natDigits
    rw [Nat.toDigits_of_lt_base single]
    show _ = [Nat.digitChar (n / 10 % 10), Nat.digitChar (n % 10)]
    rw [Nat.mod_eq_of_lt single, Nat.div_eq_of_lt single]
    rfl
  · exact natDigits_eq_fixedWidth (show 10 ^ 1 ≤ n by omega) (by omega)

/-! ## Stamps -/

/-- A date and a time of day in the form `YYYY-MM-DDTHH:MM:SSZ`. -/
def stamp (d : Date) (hour minute second : Nat) : List Char :=
  fixedWidth 4 d.year.toNat ++ '-' :: (fixedWidth 2 d.month ++ '-' :: (fixedWidth 2 d.day ++ 'T' ::
    (fixedWidth 2 hour ++ ':' :: (fixedWidth 2 minute ++ ':' :: (fixedWidth 2 second ++ ['Z'])))))

theorem length_stamp (d : Date) (hour minute second : Nat) : (stamp d hour minute second).length = 20 := by
  simp [stamp, length_fixedWidth]

section Order

variable {d e : Date} {h m s h' m' s' : Nat}

/-- Texts that begin alike are compared by what follows. -/
theorem append_cons_lt (front : List Char) (c : Char) {x y : List Char} (less : x < y) :
    front ++ c :: x < front ++ c :: y :=
  List.append_left_lt (List.cons_lt_cons_iff.2 (.inr ⟨rfl, less⟩))

theorem stamp_lt_of_before (valid : e.Valid) (least : 0 ≤ d.year) (most : e.year ≤ 9999) (before : d.Before e) :
    stamp d h m s < stamp e h' m' s' := by
  have months := valid.month
  have days := valid.day
  have longest := daysInMonth_le e.year e.month
  unfold stamp
  rcases before with years | ⟨year, months' | ⟨month, days'⟩⟩
  · exact fixedWidth_lt (by omega) (by omega) _ _
  · rw [year]
    exact append_cons_lt _ _ (fixedWidth_lt months' (by omega) _ _)
  · rw [year, month]
    exact append_cons_lt _ _ (append_cons_lt _ _ (fixedWidth_lt days' (by omega) _ _))

theorem stamp_lt_of_clock (hours : h' < 100) (minutes : m' < 100) (seconds : s' < 100)
    (before : h < h' ∨ h = h' ∧ (m < m' ∨ m = m' ∧ s < s')) : stamp d h m s < stamp d h' m' s' := by
  unfold stamp
  refine append_cons_lt _ _ (append_cons_lt _ _ (append_cons_lt _ _ ?_))
  rcases before with earlier | ⟨rfl, earlier | ⟨rfl, earlier⟩⟩
  · exact fixedWidth_lt earlier (by omega) _ _
  · exact append_cons_lt _ _ (fixedWidth_lt earlier (by omega) _ _)
  · exact append_cons_lt _ _ (append_cons_lt _ _ (fixedWidth_lt earlier (by omega) _ _))

end Order

/-! ## Seconds -/

/-- The last second of the year 9999. -/
def lastSecond : ℕ :=
  253402300799

/-- The text of a second after the start of 1970: its date and its time of day. -/
def stampOf (second : ℕ) : List Char :=
  stamp (Date.ofDay (second / 86400 : ℕ)) (second % 86400 / 3600) (second % 86400 / 60 % 60) (second % 86400 % 60)

section Seconds

variable {second second' : ℕ}

theorem fdiv_day (second : ℕ) : (second : ℤ).fdiv 86400 = (second / 86400 : ℕ) := by
  rw [Int.fdiv_eq_ediv_of_nonneg _ (by decide)]
  omega

theorem yearOf_bounds (most : second ≤ lastSecond) :
    1970 ≤ (Date.ofDay (second / 86400 : ℕ)).year ∧ (Date.ofDay (second / 86400 : ℕ)).year ≤ 9999 := by
  unfold lastSecond at most
  have first : Date.ofDay 0 = ⟨1970, 1, 1⟩ := by decide
  have last : Date.ofDay 2932896 = ⟨9999, 12, 31⟩ := by decide
  constructor
  · rcases Nat.eq_zero_or_pos (second / 86400) with zero | pos
    · rw [zero]
      exact le_of_eq (congrArg Date.year first).symm
    · have before : (Date.ofDay 0).Before (Date.ofDay (second / 86400 : ℕ)) := Date.before_ofDay (by omega)
      rw [first] at before
      unfold Date.Before at before
      dsimp only at before
      omega
  · rcases Nat.lt_or_eq_of_le (show second / 86400 ≤ 2932896 by omega) with earlier | same
    · have before : (Date.ofDay (second / 86400 : ℕ)).Before (Date.ofDay 2932896) := Date.before_ofDay (by omega)
      rw [last] at before
      unfold Date.Before at before
      dsimp only at before
      omega
    · rw [same]
      exact le_of_eq (congrArg Date.year last)

theorem secondText_eq_stampOf (most : second ≤ lastSecond) :
    secondText second (Date.ofDay ((second : ℤ).fdiv 86400)) = stampOf second := by
  have ofDay : ((second : ℤ) - (second / 86400 : ℕ) * 86400).toNat = second % 86400 := by omega
  have years := yearOf_bounds most
  have valid := Date.valid_ofDay (second / 86400 : ℕ)
  have months := valid.month
  have days := valid.day
  have longest := daysInMonth_le (Date.ofDay (second / 86400 : ℕ)).year (Date.ofDay (second / 86400 : ℕ)).month
  unfold secondText stampOf stamp
  dsimp only
  rw [fdiv_day, ofDay, natDigits_eq_fixedWidth (show 10 ^ 3 ≤ _ by omega) (by omega), twoDigits_eq_fixedWidth (by omega),
    twoDigits_eq_fixedWidth (by omega), twoDigits_eq_fixedWidth (by omega), twoDigits_eq_fixedWidth (by omega),
    twoDigits_eq_fixedWidth (by omega)]
  simp only [List.append_assoc, List.cons_append]

/-- Later seconds have greater texts. -/
theorem stampOf_lt (most : second' ≤ lastSecond) (less : second < second') : stampOf second < stampOf second' := by
  have years := yearOf_bounds (less.le.trans most)
  have years' := yearOf_bounds most
  unfold stampOf
  rcases Nat.lt_or_eq_of_le (Nat.div_le_div_right (c := 86400) less.le) with earlier | same
  · exact stamp_lt_of_before (Date.valid_ofDay _) (by omega) years'.2 (Date.before_ofDay (by omega))
  · rw [same]
    exact stamp_lt_of_clock (by omega) (by omega) (by omega) (by omega)

/-- A text of the form `YYYY-MM-DDTHH:MM:SSZ` names a second after the start of 1970 by its date and time of day. -/
def Names (text : List Char) (second : ℕ) : Prop :=
  ∃ (d : Date) (h m s : ℕ), d.Valid ∧ (0 ≤ d.year ∧ d.year ≤ 9999) ∧ h < 24 ∧ m < 60 ∧ s < 60 ∧
    d.toDay * 86400 + h * 3600 + m * 60 + s = second ∧ text = stamp d h m s

theorem names_stampOf (most : second ≤ lastSecond) : Names (stampOf second) second := by
  have years := yearOf_bounds most
  refine ⟨_, _, _, _, Date.valid_ofDay _, by omega, ?_, ?_, ?_, ?_, rfl⟩
  · omega
  · omega
  · omega
  · rw [Date.toDay_ofDay]
    omega

end Seconds

/-! ## Times -/

/-- The text that the log has for a time: it names the second of the time, and records of the time begin with it. -/
structure Shown (time : Float) (text : List Char) : Prop where
  written : timeText time = .ok text
  length : text.length = 20
  named : ∃ second, InSecond time second ∧ Names text second
  heads : ∀ (r : Record) (withLogger : Bool), r.time = time → r.message.isSome →
    ∃ line rest, r.text withLogger = .ok line ∧ line = pointsOf text ++ .char ' ' :: rest

/-- What is attached to a text stands behind it. -/
theorem prefix_foldl_attach (text : Points) (attached : List Points) : text <+: attached.foldl attach text := by
  induction attached generalizing text with
  | nil => exact List.prefix_refl text
  | cons below attached ih =>
    refine .trans ?_ (ih (attach text below))
    unfold attach
    split_ifs
    · exact List.prefix_refl text
    · exact List.prefix_append text below
    · exact List.prefix_append text _

/-- A record begins with the text of its time. -/
theorem exists_rest {r : Record} {text : List Char} (written : timeText r.time = .ok text) (put : r.message.isSome)
    (withLogger : Bool) : ∃ line rest, r.text withLogger = .ok line ∧ line = pointsOf text ++ .char ' ' :: rest := by
  obtain ⟨message, some⟩ := Option.isSome_iff_exists.1 put
  have spaced : (s!" {levelTag r.level} " : Points) = .char ' ' :: pointsOf (levelTag r.level ++ " ").toList := by
    show pointsOf (" " ++ levelTag r.level ++ " ").toList = _
    simp [pointsOf]
  unfold Record.text
  rw [some, written]
  dsimp only
  rw [spaced]
  generalize (if withLogger then _ else ([] : Points)) = logger
  obtain ⟨below, whole⟩ := prefix_foldl_attach
    (pointsOf text ++ .char ' ' :: pointsOf (levelTag r.level ++ " ").toList ++ logger ++ message) r.attached
  rw [← whole]
  exact ⟨_, pointsOf (levelTag r.level ++ " ").toList ++ logger ++ message ++ below, rfl, by simp⟩

theorem shown_stampOf {time : Float} {second : ℕ} (most : second ≤ lastSecond)
    (whole : wholeSecond? time = some (second : ℤ)) (inSecond : InSecond time second) :
    Shown time (stampOf second) := by
  have years := yearOf_bounds most
  have written : timeText time = .ok (stampOf second) := by
    rw [← secondText_eq_stampOf most]
    exact timeText_of_year whole (by rw [fdiv_day]; omega) (by rw [fdiv_day]; omega)
  refine ⟨written, length_stamp .., ⟨second, inSecond, names_stampOf most⟩, ?_⟩
  rintro r withLogger rfl put
  exact exists_rest written put withLogger

/-- Every time up to the last second of the year 9999 has a text, that of its second. -/
theorem exists_shown {time : Float} (finite : time.isFinite = true) (nonneg : 0 ≤ value time)
    (most : value time ≤ lastSecond) :
    ∃ second ≤ lastSecond, InSecond time second ∧ Shown time (stampOf second) := by
  have small : value time < 2 ^ 53 := most.trans_lt (by norm_num [lastSecond])
  obtain ⟨second, whole, inSecond⟩ := exists_wholeSecond? finite nonneg small
  have bound : second ≤ lastSecond := by
    obtain ⟨micros, nearest, rfl⟩ := inSecond
    have full : NearestEven (lastSecond * 1000000) ((lastSecond : ℚ) * 1000000) := by
      norm_num [NearestEven]
    have le := nearest.mono full (by linarith)
    omega
  exact ⟨second, bound, inSecond, shown_stampOf bound whole inSecond⟩

/-- The texts of times from the start of 1970 to the last second of the year 9999 are in the order of the times, and
two of them are the same iff the times, rounded to microseconds, lie in the same second. -/
theorem timeText_chronological {a b : Float} (least : 0.0 ≤ a) (le : a ≤ b) (most : b ≤ 253402300799.0) :
    ∃ ta tb, Shown a ta ∧ Shown b tb ∧ ta ≤ tb ∧ (ta = tb ↔ ∃ second, InSecond a second ∧ InSecond b second) := by
  have last : value 253402300799.0 = lastSecond := by decide +kernel
  have finite' : b.isFinite = true := isFinite_of_le (nonneg_of_le least le) most (by rfl)
  have finite : a.isFinite = true := isFinite_of_le least le finite'
  rw [le_iff_value (by rfl) finite, value_zero] at least
  rw [le_iff_value finite finite'] at le
  rw [le_iff_value finite' (by rfl), last] at most
  obtain ⟨s, -, inSecond, shown⟩ := exists_shown finite least (le.trans most)
  obtain ⟨t, bound, inSecond', shown'⟩ := exists_shown finite' (least.trans le) most
  refine ⟨_, _, shown, shown', ?_⟩
  rcases Nat.lt_or_eq_of_le (inSecond.mono inSecond' le) with earlier | rfl
  · have less := stampOf_lt bound earlier
    refine ⟨Std.le_of_lt less, iff_of_false (Std.ne_of_lt less) ?_⟩
    rintro ⟨second, both, both'⟩
    have same := (inSecond.unique both).trans (both'.unique inSecond')
    omega
  · exact ⟨Std.le_refl _, iff_of_true rfl ⟨s, inSecond, inSecond'⟩⟩

/-- Less than half a microsecond before the end of 28 February 2000 it is already the leap day. -/
theorem timeText_chronological_leapDay :
    (0.0 : Float) ≤ 951782399.0 ∧ (951782399.0 : Float) ≤ 951782399.9999996 ∧
      (951782399.9999996 : Float) ≤ 253402300799.0 ∧
      timeText 951782399.0 = .ok "2000-02-28T23:59:59Z".toList ∧
      timeText 951782399.9999996 = .ok "2000-02-29T00:00:00Z".toList ∧
      ∃ ta tb, Shown 951782399.0 ta ∧ Shown 951782399.9999996 tb ∧ ta ≤ tb ∧
        (ta = tb ↔ ∃ second, InSecond 951782399.0 second ∧ InSecond 951782399.9999996 second) := by
  have least : (0.0 : Float) ≤ 951782399.0 := by decide +kernel
  have le : (951782399.0 : Float) ≤ 951782399.9999996 := by decide +kernel
  have most : (951782399.9999996 : Float) ≤ 253402300799.0 := by decide +kernel
  refine ⟨least, le, most, by decide +kernel, by decide +kernel, ?_⟩
  exact timeText_chronological least le most

end ResolverWatch.Log
