/-!
# Line ends of text files

A text file may end its lines with a line feed, a carriage return, or both in a row;
`unifyNewlines` turns each of these into one line feed.
-/

namespace ResolverWatch.Text

/-- Turns `\r\n` and a lone `\r` into `\n`. -/
def unifyNewlines : List Char → List Char
  | [] => []
  | '\r' :: '\n' :: rest => '\n' :: unifyNewlines rest
  | '\r' :: rest => '\n' :: unifyNewlines rest
  | c :: rest => c :: unifyNewlines rest

/-- The pieces of a text between its line feeds; there is always at least one. -/
def splitLines : List Char → List (List Char)
  | [] => [[]]
  | c :: rest =>
    if c = '\n' then [] :: splitLines rest
    else match splitLines rest with
      | [] => [[c]]
      | line :: lines => (c :: line) :: lines

theorem splitLines_cons_newline (rest : List Char) : splitLines ('\n' :: rest) = [] :: splitLines rest := by
  simp [splitLines]

theorem splitLines_eq_splitOn (cs : List Char) : splitLines cs = cs.splitOn '\n' := by
  induction cs with
  | nil => rfl
  | cons c rest ih =>
    unfold splitLines
    simp only [ih, List.splitOn, List.splitOnP_cons_eq_if_modifyHead, beq_iff_eq]
    split
    · rfl
    · obtain ⟨line, lines, pieces⟩ := List.exists_cons_of_ne_nil (List.splitOnP_ne_nil (· == '\n') rest)
      rw [pieces]
      rfl

end ResolverWatch.Text
