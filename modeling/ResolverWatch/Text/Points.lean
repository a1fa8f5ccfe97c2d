import ResolverWatch.Text.Quoted

/-!
# Texts by code points

A text is a row of code points. Most of them are characters. The others, U+D800 to U+DFFF, are halves of
UTF-16 pairs that stand alone: an escape in a JSON or a YAML document can put one into a text, and no
encoding has bytes for it. Two halves that follow each other stay two code points, although the
pair that they look like is a character.

`Spelled` is what stands for a row of code points, so that names can be plain strings where no half
can occur.
-/

namespace ResolverWatch.Text

/-- A code point: a character, or the `n`-th of the halves of pairs. -/
inductive Point
  | char (c : Char)
  | half (n : Fin 0x800)
  deriving DecidableEq, Repr

/-- A text that may hold halves of pairs. -/
abbrev Points := List Point

namespace Point

/-- The first of the halves. -/
def firstHalf : Nat :=
  0xd800

/-- The number of a code point. -/
def toNat : Point → Nat
  | .char c => c.toNat
  | .half n => firstHalf + n

/-- The code point of a number. -/
def ofNat (n : Nat) : Point :=
  if h : firstHalf ≤ n ∧ n - firstHalf < 0x800 then .half ⟨n - firstHalf, h.2⟩ else .char (Char.ofNat n)

/-- The character of a code point; that of a half is the replacement character. -/
def shown : Point → Char
  | .char c => c
  | .half _ => '\ufffd'

/-- The character that a code point is. -/
def char? : Point → Option Char
  | .char c => some c
  | .half _ => none

/-- A code point where the encoding at hand has no halves: they are shown by their number. -/
def escaped : Point → List Char
  | .char c => [c]
  | .half n => '\\' :: 'u' :: hexDigits 4 (firstHalf + n)

end Point

/-- What spells a text, and no two of which spell the same one. -/
class Spelled (κ : Type) where
  points : κ → Points
  points_inj : ∀ {a b : κ}, points a = points b → a = b

/-- The code points of characters. -/
def pointsOf (cs : List Char) : Points :=
  cs.map .char

theorem pointsOf_inj {cs ds : List Char} (same : pointsOf cs = pointsOf ds) : cs = ds :=
  (List.map_inj_right fun _ _ => Point.char.inj).1 same

instance : Spelled String where
  points s := pointsOf s.toList
  points_inj same := String.toList_inj.1 (pointsOf_inj same)

instance : Spelled Points where
  points := id
  points_inj same := same

instance : Coe String Points :=
  ⟨Spelled.points⟩

namespace Points

/-- The characters of a text, with the replacement character for each half. -/
def chars (ps : Points) : List Char :=
  ps.map Point.shown

/-- The characters of a text that holds no half. -/
def chars? (ps : Points) : Option (List Char) :=
  ps.mapM Point.char?

/-- The string that a text without halves is. -/
def string? (ps : Points) : Option String :=
  ps.chars?.map String.ofList

/-- The order of texts by the numbers of their code points. -/
def before (as bs : Points) : Bool :=
  decide (List.le (as.map Point.toNat) (bs.map Point.toNat))

end Points

theorem Point.toNat_inj {p q : Point} (same : p.toNat = q.toNat) : p = q := by
  cases p with
  | char c =>
    cases q with
    | char d => rw [Char.toNat_inj.1 same]
    | half n =>
      have whole : c.toNat < 0xd800 ∨ 0xdfff < c.toNat ∧ c.toNat < 0x110000 := c.valid
      have same : c.toNat = 0xd800 + n := same
      omega
  | half m =>
    cases q with
    | char d =>
      have whole : d.toNat < 0xd800 ∨ 0xdfff < d.toNat ∧ d.toNat < 0x110000 := d.valid
      have same : 0xd800 + m = d.toNat := same
      omega
    | half n =>
      have same : 0xd800 + (m : Nat) = 0xd800 + n := same
      rw [Fin.ext (by omega : (m : Nat) = n)]

theorem Points.chars?_pointsOf (cs : List Char) : (pointsOf cs).chars? = some cs := by
  induction cs with
  | nil => rfl
  | cons c cs ih =>
    show ((Point.char c :: pointsOf cs).mapM Point.char?) = _
    rw [List.mapM_cons, show (pointsOf cs).mapM Point.char? = some cs from ih]
    rfl

/-- A text that is a string is spelled by it. -/
theorem Points.eq_of_chars? {ps : Points} {cs : List Char} (read : ps.chars? = some cs) : ps = pointsOf cs := by
  induction ps generalizing cs with
  | nil =>
    obtain rfl : [] = cs := by simpa [chars?] using read
    rfl
  | cons p ps ih =>
    have both : ((p :: ps).mapM Point.char?) = some cs := read
    rw [List.mapM_cons] at both
    cases p with
    | half n => exact absurd both nofun
    | char c =>
      cases rest : ps.mapM Point.char? with
      | none =>
        rw [rest] at both
        exact absurd both nofun
      | some ds =>
        rw [rest] at both
        obtain rfl : c :: ds = cs := Option.some.inj both
        rw [ih rest]
        rfl

theorem Points.string?_eq_some_iff {ps : Points} {s : String} : ps.string? = some s ↔ ps = s := by
  constructor
  · intro read
    obtain ⟨cs, characters, rfl⟩ := Option.map_eq_some_iff.1 read
    rw [eq_of_chars? characters]
    exact congrArg pointsOf String.toList_ofList.symm
  · rintro rfl
    show (chars? (pointsOf s.toList)).map String.ofList = some s
    rw [chars?_pointsOf]
    exact congrArg some String.ofList_toList

end ResolverWatch.Text
