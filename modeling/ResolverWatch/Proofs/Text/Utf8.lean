import Mathlib.Data.List.Basic
import ResolverWatch.Text.Utf8

/-!
# Reading what was written in UTF-8

The reading of bytes is a machine that holds the bytes of an unfinished character. What it can hold is
the beginning of the code of a character (`Reachable`), so every character that it reads comes from
its own code (`Reachable.bytes_of_mem_run`), and the codes of characters in a row are read as these
characters (`pieces_encode`). So the strict reading accepts exactly the codes of texts
(`decode_eq_ok_iff`), in whatever blocks they arrive (`decodeBlocks_eq_ok_iff`). An ASCII byte is
part of no other code: it ends what stands before it, ill-formed or not (`decodeLossy_append_ascii`).
-/

namespace ResolverWatch.Text.Utf8

theorem encode_cons (c : Char) (cs : List Char) : encode (c :: cs) = String.utf8EncodeChar c ++ encode cs :=
  rfl

/-- The states of the machine: nothing is held, or the first bytes of a code of two, three or four
bytes, and the number that they start to spell. -/
inductive Reachable : State → Prop
  | idle : Reachable .idle
  | oneOfTwo (a : UInt8) (first : 0xc2 ≤ a.toNat ∧ a.toNat < 0xe0) :
      Reachable (.within [a] (a.toNat - 0xc0) 1 0x80 0xbf)
  | oneOfThree (a : UInt8) (first : 0xe0 ≤ a.toNat ∧ a.toNat < 0xf0) :
      Reachable (.within [a] (a.toNat - 0xe0) 2 (if a.toNat = 0xe0 then 0xa0 else 0x80)
        (if a.toNat = 0xed then 0x9f else 0xbf))
  | twoOfThree (a b : UInt8) (first : 0xe0 ≤ a.toNat ∧ a.toNat < 0xf0)
      (second : (if a.toNat = 0xe0 then 0xa0 else 0x80) ≤ b.toNat ∧
        b.toNat ≤ if a.toNat = 0xed then 0x9f else 0xbf) :
      Reachable (.within [b, a] ((a.toNat - 0xe0) * 64 + (b.toNat - 0x80)) 1 0x80 0xbf)
  | oneOfFour (a : UInt8) (first : 0xf0 ≤ a.toNat ∧ a.toNat < 0xf5) :
      Reachable (.within [a] (a.toNat - 0xf0) 3 (if a.toNat = 0xf0 then 0x90 else 0x80)
        (if a.toNat = 0xf4 then 0x8f else 0xbf))
  | twoOfFour (a b : UInt8) (first : 0xf0 ≤ a.toNat ∧ a.toNat < 0xf5)
      (second : (if a.toNat = 0xf0 then 0x90 else 0x80) ≤ b.toNat ∧
        b.toNat ≤ if a.toNat = 0xf4 then 0x8f else 0xbf) :
      Reachable (.within [b, a] ((a.toNat - 0xf0) * 64 + (b.toNat - 0x80)) 2 0x80 0xbf)
  | threeOfFour (a b c : UInt8) (first : 0xf0 ≤ a.toNat ∧ a.toNat < 0xf5)
      (second : (if a.toNat = 0xf0 then 0x90 else 0x80) ≤ b.toNat ∧
        b.toNat ≤ if a.toNat = 0xf4 then 0x8f else 0xbf)
      (third : 0x80 ≤ c.toNat ∧ c.toNat ≤ 0xbf) :
      Reachable (.within [c, b, a] (((a.toNat - 0xf0) * 64 + (b.toNat - 0x80)) * 64 + (c.toNat - 0x80)) 1 0x80 0xbf)

/-! ## The first byte of a code -/

theorem start_of_ascii {a : UInt8} (first : a.toNat < 0x80) : start a = ([.char (Char.ofNat a.toNat) [a]], .idle) := by
  unfold start
  rw [if_pos first]

theorem start_of_two {a : UInt8} (first : 0xc2 ≤ a.toNat ∧ a.toNat < 0xe0) :
    start a = ([], .within [a] (a.toNat - 0xc0) 1 0x80 0xbf) := by
  unfold start
  dsimp only
  rw [if_neg (by omega), if_neg (by omega), if_pos (by omega)]

theorem start_of_three {a : UInt8} (first : 0xe0 ≤ a.toNat ∧ a.toNat < 0xf0) :
    start a = ([], .within [a] (a.toNat - 0xe0) 2 (if a.toNat = 0xe0 then 0xa0 else 0x80)
      (if a.toNat = 0xed then 0x9f else 0xbf)) := by
  unfold start
  dsimp only
  rw [if_neg (by omega), if_neg (by omega), if_neg (by omega), if_pos (by omega)]

theorem start_of_four {a : UInt8} (first : 0xf0 ≤ a.toNat ∧ a.toNat < 0xf5) :
    start a = ([], .within [a] (a.toNat - 0xf0) 3 (if a.toNat = 0xf0 then 0x90 else 0x80)
      (if a.toNat = 0xf4 then 0x8f else 0xbf)) := by
  unfold start
  dsimp only
  rw [if_neg (by omega), if_neg (by omega), if_neg (by omega), if_neg (by omega), if_pos (by omega)]

theorem start_of_stray {a : UInt8} (first : 0x80 ≤ a.toNat ∧ a.toNat < 0xc2 ∨ 0xf5 ≤ a.toNat) :
    start a = ([.bad .invalidStart [a]], .idle) := by
  unfold start
  dsimp only
  rcases first with first | first
  · rw [if_neg (by omega), if_pos (by omega)]
  · rw [if_neg (by omega), if_neg (by omega), if_neg (by omega), if_neg (by omega), if_neg (by omega)]

/-- The kinds of first bytes. -/
theorem first_cases (a : UInt8) :
    a.toNat < 0x80 ∨ (0xc2 ≤ a.toNat ∧ a.toNat < 0xe0) ∨ (0xe0 ≤ a.toNat ∧ a.toNat < 0xf0) ∨
      (0xf0 ≤ a.toNat ∧ a.toNat < 0xf5) ∨ (0x80 ≤ a.toNat ∧ a.toNat < 0xc2 ∨ 0xf5 ≤ a.toNat) := by
  omega

theorem Reachable.start (a : UInt8) : Reachable (start a).2 := by
  rcases first_cases a with ascii | two | three | four | stray
  · rw [start_of_ascii ascii]
    exact .idle
  · rw [start_of_two two]
    exact .oneOfTwo a two
  · rw [start_of_three three]
    exact .oneOfThree a three
  · rw [start_of_four four]
    exact .oneOfFour a four
  · rw [start_of_stray stray]
    exact .idle

/-! ## The bytes after it -/

theorem step_idle (b : UInt8) : step .idle b = start b :=
  rfl

section Within

variable {seen : List UInt8} {code missing lo hi : Nat} {b : UInt8}

/-- A byte that cannot continue what is held is read from the start. -/
theorem step_of_outside (outside : ¬(lo ≤ b.toNat ∧ b.toNat ≤ hi)) :
    step (.within seen code missing lo hi) b =
      (.bad .invalidContinuation seen.reverse :: (start b).1, (start b).2) := by
  rw [step, if_neg outside]

theorem step_of_last (inside : lo ≤ b.toNat ∧ b.toNat ≤ hi) (last : missing ≤ 1) :
    step (.within seen code missing lo hi) b =
      ([.char (Char.ofNat (code * 64 + (b.toNat - 0x80))) (b :: seen).reverse], .idle) := by
  rw [step, if_pos inside, if_pos last]

theorem step_of_more (inside : lo ≤ b.toNat ∧ b.toNat ≤ hi) (more : ¬missing ≤ 1) :
    step (.within seen code missing lo hi) b =
      ([], .within (b :: seen) (code * 64 + (b.toNat - 0x80)) (missing - 1) 0x80 0xbf) := by
  rw [step, if_pos inside, if_neg more]

/-- What a byte after the first leads to. -/
theorem Reachable.step_within
    (more : lo ≤ b.toNat ∧ b.toNat ≤ hi → ¬missing ≤ 1 →
      Reachable (.within (b :: seen) (code * 64 + (b.toNat - 0x80)) (missing - 1) 0x80 0xbf)) :
    Reachable (step (.within seen code missing lo hi) b).2 := by
  by_cases inside : lo ≤ b.toNat ∧ b.toNat ≤ hi
  · by_cases last : missing ≤ 1
    · rw [step_of_last inside last]
      exact .idle
    · rw [step_of_more inside last]
      exact more inside last
  · rw [step_of_outside inside]
    exact .start b

end Within

theorem Reachable.step {s : State} (reachable : Reachable s) (b : UInt8) : Reachable (step s b).2 := by
  cases reachable with
  | idle => exact .start b
  | oneOfThree a first => exact .step_within fun inside _ => .twoOfThree a b first inside
  | oneOfFour a first => exact .step_within fun inside _ => .twoOfFour a b first inside
  | twoOfFour a b' first second => exact .step_within fun inside _ => .threeOfFour a b' b first second inside
  | oneOfTwo | twoOfThree | threeOfFour => exact .step_within fun _ more => absurd (Nat.le_refl 1) more

/-! ## The number that a code spells -/

theorem toNat_val_ofNat {n : Nat} (valid : n < 0xd800 ∨ 0xdfff < n ∧ n < 0x110000) : (Char.ofNat n).val.toNat = n := by
  rw [Char.ofNat, dif_pos (show n.isValidChar from valid)]
  exact UInt32.toNat_ofNatLT ..

theorem ofNat_eq {b : UInt8} {n : Nat} (same : n = b.toNat) : UInt8.ofNat n = b := by
  rw [same, UInt8.ofNat_toNat]

theorem utf8EncodeChar_of_ascii {a : UInt8} (first : a.toNat < 0x80) :
    String.utf8EncodeChar (Char.ofNat a.toNat) = [a] := by
  unfold String.utf8EncodeChar
  rw [toNat_val_ofNat (by omega)]
  dsimp only
  rw [if_pos (by omega), ofNat_eq rfl]

theorem utf8EncodeChar_of_two {a b : UInt8} (first : 0xc2 ≤ a.toNat ∧ a.toNat < 0xe0)
    (second : 0x80 ≤ b.toNat ∧ b.toNat ≤ 0xbf) :
    String.utf8EncodeChar (Char.ofNat ((a.toNat - 0xc0) * 64 + (b.toNat - 0x80))) = [a, b] := by
  unfold String.utf8EncodeChar
  rw [toNat_val_ofNat (by omega)]
  dsimp only
  rw [if_neg (by omega), if_pos (by omega), ofNat_eq (b := a) (by omega), ofNat_eq (b := b) (by omega)]

theorem utf8EncodeChar_of_three {a b c : UInt8} (first : 0xe0 ≤ a.toNat ∧ a.toNat < 0xf0)
    (second : (if a.toNat = 0xe0 then 0xa0 else 0x80) ≤ b.toNat ∧ b.toNat ≤ if a.toNat = 0xed then 0x9f else 0xbf)
    (third : 0x80 ≤ c.toNat ∧ c.toNat ≤ 0xbf) :
    String.utf8EncodeChar (Char.ofNat (((a.toNat - 0xe0) * 64 + (b.toNat - 0x80)) * 64 + (c.toNat - 0x80))) =
      [a, b, c] := by
  -- The narrower bounds on the second byte exclude overlong codes and surrogates.
  split_ifs at second <;>
  · unfold String.utf8EncodeChar
    rw [toNat_val_ofNat (by omega)]
    dsimp only
    rw [if_neg (by omega), if_neg (by omega), if_pos (by omega), ofNat_eq (b := a) (by omega),
      ofNat_eq (b := b) (by omega), ofNat_eq (b := c) (by omega)]

theorem utf8EncodeChar_of_four {a b c d : UInt8} (first : 0xf0 ≤ a.toNat ∧ a.toNat < 0xf5)
    (second : (if a.toNat = 0xf0 then 0x90 else 0x80) ≤ b.toNat ∧ b.toNat ≤ if a.toNat = 0xf4 then 0x8f else 0xbf)
    (third : 0x80 ≤ c.toNat ∧ c.toNat ≤ 0xbf) (fourth : 0x80 ≤ d.toNat ∧ d.toNat ≤ 0xbf) :
    String.utf8EncodeChar (Char.ofNat
      ((((a.toNat - 0xf0) * 64 + (b.toNat - 0x80)) * 64 + (c.toNat - 0x80)) * 64 + (d.toNat - 0x80))) =
      [a, b, c, d] := by
  -- The narrower bounds on the second byte exclude overlong codes and numbers beyond the last character.
  split_ifs at second <;>
  · unfold String.utf8EncodeChar
    rw [toNat_val_ofNat (by omega)]
    dsimp only
    rw [if_neg (by omega), if_neg (by omega), if_neg (by omega), ofNat_eq (b := a) (by omega),
      ofNat_eq (b := b) (by omega), ofNat_eq (b := c) (by omega), ofNat_eq (b := d) (by omega)]

/-- The code of a character is one of the four forms, and spells its number. -/
theorem utf8EncodeChar_cases (c : Char) :
    (∃ a : UInt8, String.utf8EncodeChar c = [a] ∧ a.toNat < 0x80 ∧ Char.ofNat a.toNat = c) ∨
    (∃ a b : UInt8, String.utf8EncodeChar c = [a, b] ∧ (0xc2 ≤ a.toNat ∧ a.toNat < 0xe0) ∧
      (0x80 ≤ b.toNat ∧ b.toNat ≤ 0xbf) ∧ Char.ofNat ((a.toNat - 0xc0) * 64 + (b.toNat - 0x80)) = c) ∨
    (∃ a b d : UInt8, String.utf8EncodeChar c = [a, b, d] ∧ (0xe0 ≤ a.toNat ∧ a.toNat < 0xf0) ∧
      ((if a.toNat = 0xe0 then 0xa0 else 0x80) ≤ b.toNat ∧ b.toNat ≤ if a.toNat = 0xed then 0x9f else 0xbf) ∧
      (0x80 ≤ d.toNat ∧ d.toNat ≤ 0xbf) ∧
      Char.ofNat (((a.toNat - 0xe0) * 64 + (b.toNat - 0x80)) * 64 + (d.toNat - 0x80)) = c) ∨
    (∃ a b d e : UInt8, String.utf8EncodeChar c = [a, b, d, e] ∧ (0xf0 ≤ a.toNat ∧ a.toNat < 0xf5) ∧
      ((if a.toNat = 0xf0 then 0x90 else 0x80) ≤ b.toNat ∧ b.toNat ≤ if a.toNat = 0xf4 then 0x8f else 0xbf) ∧
      (0x80 ≤ d.toNat ∧ d.toNat ≤ 0xbf) ∧ (0x80 ≤ e.toNat ∧ e.toNat ≤ 0xbf) ∧
      Char.ofNat ((((a.toNat - 0xf0) * 64 + (b.toNat - 0x80)) * 64 + (d.toNat - 0x80)) * 64 + (e.toNat - 0x80)) =
        c) := by
  have valid : c.val.toNat < 0xd800 ∨ 0xdfff < c.val.toNat ∧ c.val.toNat < 0x110000 := c.valid
  have number {n : Nat} (same : n = c.val.toNat) : Char.ofNat n = c := by rw [same]; exact Char.ofNat_toNat c
  unfold String.utf8EncodeChar
  dsimp only
  split_ifs with one two three
  · refine .inl ⟨_, rfl, ?_, number ?_⟩ <;> simp only [UInt8.toNat_ofNat'] <;> omega
  · refine .inr (.inl ⟨_, _, rfl, ?_, ?_, number ?_⟩) <;> simp only [UInt8.toNat_ofNat'] <;> omega
  · refine .inr (.inr (.inl ⟨_, _, _, rfl, ?_, ?_, ?_, number ?_⟩)) <;> simp only [UInt8.toNat_ofNat'] <;>
      (try split_ifs) <;> omega
  · refine .inr (.inr (.inr ⟨_, _, _, _, rfl, ?_, ?_, ?_, ?_, number ?_⟩)) <;> simp only [UInt8.toNat_ofNat'] <;>
      (try split_ifs) <;> omega

/-! ## Characters come from their codes -/

theorem bytes_of_mem_start {a : UInt8} {c : Char} {bytes : List UInt8} (mem : .char c bytes ∈ (start a).1) :
    bytes = String.utf8EncodeChar c := by
  rcases first_cases a with ascii | two | three | four | stray
  · rw [start_of_ascii ascii, List.mem_singleton] at mem
    injection mem with char bytes
    rw [char, bytes, utf8EncodeChar_of_ascii ascii]
  · simp [start_of_two two] at mem
  · simp [start_of_three three] at mem
  · simp [start_of_four four] at mem
  · simp [start_of_stray stray] at mem

section Within

variable {seen : List UInt8} {code missing lo hi : Nat} {b : UInt8} {c : Char} {bytes : List UInt8}

/-- A character is read from the held bytes and the last one, or from a byte that starts afresh. -/
theorem mem_step_within (mem : .char c bytes ∈ (step (.within seen code missing lo hi) b).1) :
    ((lo ≤ b.toNat ∧ b.toNat ≤ hi) ∧ missing ≤ 1 ∧ c = Char.ofNat (code * 64 + (b.toNat - 0x80)) ∧
      bytes = (b :: seen).reverse) ∨ .char c bytes ∈ (start b).1 := by
  by_cases inside : lo ≤ b.toNat ∧ b.toNat ≤ hi
  · by_cases last : missing ≤ 1
    · rw [step_of_last inside last, List.mem_singleton] at mem
      injection mem with char bytes
      exact .inl ⟨inside, last, char, bytes⟩
    · simp [step_of_more inside last] at mem
  · rw [step_of_outside inside] at mem
    exact .inr (by simpa using mem)

end Within

theorem Reachable.bytes_of_mem_step {s : State} (reachable : Reachable s) {b : UInt8} {c : Char} {bytes : List UInt8}
    (mem : .char c bytes ∈ (Utf8.step s b).1) : bytes = String.utf8EncodeChar c := by
  cases reachable with
  | idle => exact bytes_of_mem_start mem
  | oneOfTwo a first =>
    rcases mem_step_within mem with ⟨inside, -, char, own⟩ | mem
    · rw [char, own, utf8EncodeChar_of_two first inside]
      rfl
    · exact bytes_of_mem_start mem
  | twoOfThree a b' first second =>
    rcases mem_step_within mem with ⟨inside, -, char, own⟩ | mem
    · rw [char, own, utf8EncodeChar_of_three first second inside]
      rfl
    · exact bytes_of_mem_start mem
  | threeOfFour a b' c' first second third =>
    rcases mem_step_within mem with ⟨inside, -, char, own⟩ | mem
    · rw [char, own, utf8EncodeChar_of_four first second third inside]
      rfl
    · exact bytes_of_mem_start mem
  | oneOfThree | oneOfFour | twoOfFour =>
    rcases mem_step_within mem with ⟨-, last, -, -⟩ | mem
    · omega
    · exact bytes_of_mem_start mem

theorem Reachable.run {s : State} (reachable : Reachable s) (bs : List UInt8) : Reachable (run s bs).2 := by
  induction bs generalizing s with
  | nil => exact reachable
  | cons b bs ih => exact ih (reachable.step b)

/-- Every character that is read comes from its own code. -/
theorem Reachable.bytes_of_mem_run {s : State} (reachable : Reachable s) {bs : List UInt8} {c : Char}
    {bytes : List UInt8} (mem : .char c bytes ∈ (Utf8.run s bs).1) : bytes = String.utf8EncodeChar c := by
  induction bs generalizing s with
  | nil => simp [Utf8.run] at mem
  | cons b bs ih =>
    rcases List.mem_append.1 mem with here | later
    · exact reachable.bytes_of_mem_step here
    · exact ih (reachable.step b) later

theorem bytes_of_mem_pieces {bs : List UInt8} {c : Char} {bytes : List UInt8} (mem : .char c bytes ∈ pieces bs) :
    bytes = String.utf8EncodeChar c := by
  rcases List.mem_append.1 mem with read | rest
  · exact Reachable.idle.bytes_of_mem_run read
  · cases state : (run .idle bs).2 <;> simp [state, State.finish] at rest

/-! ## Codes are read as their characters -/

theorem run_cons (s : State) (b : UInt8) (bs : List UInt8) :
    run s (b :: bs) = ((step s b).1 ++ (run (step s b).2 bs).1, (run (step s b).2 bs).2) :=
  rfl

theorem pieces_eq (bs : List UInt8) : pieces bs = (run .idle bs).1 ++ (run .idle bs).2.finish :=
  rfl

theorem run_append (s : State) (as bs : List UInt8) :
    run s (as ++ bs) = ((run s as).1 ++ (run (run s as).2 bs).1, (run (run s as).2 bs).2) := by
  induction as generalizing s with
  | nil => rfl
  | cons a as ih => simp [run, ih]

theorem run_encodeChar (c : Char) :
    run .idle (String.utf8EncodeChar c) = ([.char c (String.utf8EncodeChar c)], .idle) := by
  rcases utf8EncodeChar_cases c with ⟨a, code, first, number⟩ | ⟨a, b, code, first, second, number⟩ |
    ⟨a, b, d, code, first, second, third, number⟩ | ⟨a, b, d, e, code, first, second, third, fourth, number⟩
  · simp [code, run, step_idle, start_of_ascii first, number]
  · simp [code, run, step_idle, start_of_two first, step_of_last second, number]
  · simp [code, run, step_idle, start_of_three first, step_of_more second, step_of_last third, number]
  · simp [code, run, step_idle, start_of_four first, step_of_more second, step_of_more third, step_of_last fourth,
      number]

theorem run_encode (cs : List Char) :
    run .idle (encode cs) = (cs.map fun c => .char c (String.utf8EncodeChar c), .idle) := by
  induction cs with
  | nil => rfl
  | cons c cs ih => rw [encode_cons, run_append, run_encodeChar, ih]; rfl

theorem pieces_encode (cs : List Char) : pieces (encode cs) = cs.map fun c => .char c (String.utf8EncodeChar c) := by
  rw [pieces, run_encode]
  simp [State.finish]

/-- The lenient reading gives a text back. -/
theorem decodeLossy_encode (cs : List Char) : decodeLossy (encode cs) = cs := by
  rw [decodeLossy, pieces_encode, List.map_map]
  exact List.map_id cs

/-! ## What the strict reading accepts -/

theorem strict_map_char (position : Nat) (cs : List Char) :
    strict position (cs.map fun c => .char c (String.utf8EncodeChar c)) = .ok cs := by
  induction cs generalizing position with
  | nil => rfl
  | cons c cs ih => rw [List.map_cons, strict, ih]; rfl

/-- The strict reading of pieces succeeds iff all of them are characters. -/
theorem strict_eq_ok_iff {position : Nat} {ps : List Piece}
    (own : ∀ c bytes, .char c bytes ∈ ps → bytes = String.utf8EncodeChar c) {cs : List Char} :
    strict position ps = .ok cs ↔ ps = cs.map fun c => .char c (String.utf8EncodeChar c) := by
  constructor
  · intro accepted
    induction ps generalizing position cs with
    | nil =>
      cases accepted
      rfl
    | cons p ps ih =>
      cases p with
      | bad fault bytes => cases accepted
      | char c bytes =>
        rw [strict] at accepted
        cases later : strict (position + bytes.length) ps with
        | error e => simp [later, Except.map] at accepted
        | ok ds =>
          simp only [later, Except.map, Except.ok.injEq] at accepted
          subst accepted
          rw [List.map_cons, own c bytes List.mem_cons_self,
            ih (fun c bytes mem => own c bytes (List.mem_cons_of_mem _ mem)) later]
  · rintro rfl
    exact strict_map_char position cs

/-- The strict reading accepts the codes of texts and nothing else. -/
theorem decode_eq_ok_iff {bs : List UInt8} {cs : List Char} : decode bs = .ok cs ↔ bs = encode cs := by
  rw [decode, strict_eq_ok_iff fun c bytes => bytes_of_mem_pieces]
  constructor
  · intro read
    rw [← flatMap_bytes_pieces bs, read, List.flatMap_map]
    rfl
  · rintro rfl
    exact pieces_encode cs

/-! ## Bytes that stand alone -/

theorem Reachable.le_lo {seen : List UInt8} {code missing lo hi : Nat}
    (reachable : Reachable (.within seen code missing lo hi)) : 0x80 ≤ lo := by
  cases reachable <;> (try split_ifs) <;> omega

/-- An ASCII byte is a character wherever it stands: what is held before it is ill-formed. -/
theorem Reachable.step_of_ascii {s : State} (reachable : Reachable s) {b : UInt8} (ascii : b.toNat < 0x80) :
    (Utf8.step s b).2 = .idle ∧ ∀ f : Piece → Char, (∀ fault bytes, f (.bad fault bytes) = '\ufffd') →
      (Utf8.step s b).1.map f = s.finish.map f ++ [f (.char (Char.ofNat b.toNat) [b])] := by
  cases s with
  | idle => simp [step_idle, start_of_ascii ascii, State.finish]
  | within seen code missing lo hi =>
    have low := reachable.le_lo
    rw [step_of_outside (by omega), start_of_ascii ascii]
    refine ⟨rfl, fun f bad => ?_⟩
    simp [State.finish, bad]

/-- The lenient reading before and after an ASCII byte does not depend on the other side. -/
theorem decodeLossy_append_ascii {b : UInt8} (ascii : b.toNat < 0x80) (as bs : List UInt8) :
    decodeLossy (as ++ b :: bs) = decodeLossy as ++ Char.ofNat b.toNat :: decodeLossy bs := by
  obtain ⟨idle, shown⟩ := (Reachable.idle.run as).step_of_ascii ascii
  simp only [decodeLossy, pieces_eq, run_append, run_cons, idle, List.map_append, List.append_assoc]
  rw [shown _ fun _ _ => rfl]
  simp

theorem decodeLossy_append_newline (as bs : List UInt8) :
    decodeLossy (as ++ 0x0a :: bs) = decodeLossy as ++ '\n' :: decodeLossy bs :=
  decodeLossy_append_ascii (by decide) as bs

/-- A character that the lenient reading did not put in itself was read from its code. -/
theorem mem_of_mem_decodeLossy {bs : List UInt8} {c : Char} (mem : c ∈ decodeLossy bs) (known : c ≠ '\ufffd')
    {b : UInt8} (code : b ∈ String.utf8EncodeChar c) : b ∈ bs := by
  obtain ⟨p, piece, shown⟩ := List.mem_map.1 mem
  cases p with
  | bad => exact absurd shown.symm known
  | char d bytes =>
    obtain rfl : d = c := shown
    have covered : b ∈ (pieces bs).flatMap Piece.bytes :=
      List.mem_flatMap.2 ⟨_, piece, by rwa [Piece.bytes, bytes_of_mem_pieces piece]⟩
    rwa [flatMap_bytes_pieces] at covered

/-! ## Files that arrive in blocks -/

/-- The bytes that are held lead to the state that holds them. -/
theorem Reachable.run_held {s : State} (reachable : Reachable s) : Utf8.run .idle s.held = ([], s) := by
  cases reachable with
  | idle => rfl
  | oneOfTwo a first => simp [State.held, Utf8.run, step_idle, start_of_two first]
  | oneOfThree a first => simp [State.held, Utf8.run, step_idle, start_of_three first]
  | twoOfThree a b first second =>
    simp [State.held, Utf8.run, step_idle, start_of_three first, step_of_more second]
  | oneOfFour a first => simp [State.held, Utf8.run, step_idle, start_of_four first]
  | twoOfFour a b first second => simp [State.held, Utf8.run, step_idle, start_of_four first, step_of_more second]
  | threeOfFour a b c first second third =>
    simp [State.held, Utf8.run, step_idle, start_of_four first, step_of_more second, step_of_more third]

/-- Where the machine holds nothing, what follows is read as if nothing preceded. -/
theorem pieces_append_of_idle {as : List UInt8} (idle : (run .idle as).2 = .idle) (bs : List UInt8) :
    pieces (as ++ bs) = (run .idle as).1 ++ pieces bs := by
  simp [pieces, run_append, idle]

/-- The bytes that wait are read with the next block. -/
theorem pieces_append (bs rest : List UInt8) : pieces (bs ++ rest) = (cut bs).1 ++ pieces ((cut bs).2 ++ rest) := by
  have whole : pieces (bs ++ rest) = (cut.whole bs).1 ++ pieces ((cut.whole bs).2 ++ rest) := by
    have held : run .idle (run .idle bs).2.held = ([], (run .idle bs).2) := (Reachable.idle.run bs).run_held
    simp [pieces, run_append, cut.whole, held]
  unfold cut
  split
  · next b before reversed =>
    split_ifs with surrogate
    · have split : bs = before.reverse ++ [0xed, b] := by rw [← List.reverse_reverse bs, reversed]; simp
      dsimp only
      rw [split, List.append_assoc, pieces_append_of_idle surrogate.2.2]
    · exact whole
  · exact whole

theorem bytes_of_mem_cut {bs : List UInt8} {c : Char} {bytes : List UInt8} (mem : .char c bytes ∈ (cut bs).1) :
    bytes = String.utf8EncodeChar c := by
  have whole : .char c bytes ∈ pieces (bs ++ []) := by
    rw [pieces_append]
    exact List.mem_append_left _ mem
  exact bytes_of_mem_pieces whole

theorem decodeBlocksFrom_eq_ok_iff {held : List UInt8} {blocks : List (List UInt8)} {cs : List Char} :
    decodeBlocksFrom held blocks = .ok cs ↔ decode (held ++ blocks.flatten) = .ok cs := by
  induction blocks generalizing held cs with
  | nil => simp [decodeBlocksFrom]
  | cons block rest ih =>
    have both : decodeBlocksFrom held (block :: rest) = .ok cs ↔
        ∃ here later, strict 0 (cut (held ++ block)).1 = .ok here ∧
          decodeBlocksFrom (cut (held ++ block)).2 rest = .ok later ∧ here ++ later = cs := by
      simp only [decodeBlocksFrom, bind, Except.bind]
      cases strict 0 (cut (held ++ block)).1 with
      | error e => simp
      | ok here => cases decodeBlocksFrom (cut (held ++ block)).2 rest <;> simp [pure, Except.pure]
    rw [both, List.flatten_cons, ← List.append_assoc, decode, strict_eq_ok_iff fun c bytes => bytes_of_mem_pieces,
      pieces_append, eq_comm, List.map_eq_append_iff]
    simp only [ih, decode, strict_eq_ok_iff fun c bytes => bytes_of_mem_pieces,
      strict_eq_ok_iff fun c bytes => bytes_of_mem_cut]
    constructor
    · rintro ⟨here, later, first, second, rfl⟩
      exact ⟨here, later, rfl, first.symm, second.symm⟩
    · rintro ⟨here, later, rfl, first, second⟩
      exact ⟨here, later, first.symm, second.symm, rfl⟩

theorem flatten_blocks {size : Nat} (pos : 0 < size) {fuel : Nat} {bs : List UInt8} (enough : bs.length ≤ fuel) :
    (blocks size fuel bs).flatten = bs := by
  induction fuel generalizing bs with
  | zero => rw [List.length_eq_zero_iff.1 (Nat.le_zero.1 enough)]; rfl
  | succ fuel ih =>
    rw [blocks]
    split_ifs with empty
    · rw [List.isEmpty_iff.1 empty]; rfl
    · rw [List.flatten_cons, ih (by rw [List.length_drop]; omega), List.take_append_drop]

/-- Blocks do not matter to what is accepted: the codes of texts. -/
theorem decodeBlocks_eq_ok_iff {size : Nat} (pos : 0 < size) {bs : List UInt8} {cs : List Char} :
    decodeBlocks size bs = .ok cs ↔ bs = encode cs := by
  rw [decodeBlocks, decodeBlocksFrom_eq_ok_iff, flatten_blocks pos (Nat.le_refl _), List.nil_append, decode_eq_ok_iff]

/-- The bytes of a string are the codes of its characters. -/
theorem toUTF8_eq_encode (s : String) : s.toUTF8.data.toList = encode s.toList := by
  rw [← String.ofList_toList (s := s), String.toUTF8, String.toByteArray_ofList, List.utf8Encode]
  simp [encode]

end ResolverWatch.Text.Utf8
