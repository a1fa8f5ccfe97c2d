import ResolverWatch.Text.Printable

/-!
# Quoted texts in messages

A message quotes a text in single quotes, or in double quotes if it holds single ones only.
Backslashes, the chosen quote and characters that are not printable are escaped.
-/

namespace ResolverWatch.Text

/-- The last `width` hexadecimal digits of `n`, in lower case. -/
def hexDigits : Nat → Nat → List Char
  | 0, _ => []
  | width + 1, n => hexDigits width (n / 16) ++ [Nat.digitChar (n % 16)]

/-- A character as a quoted text shows it. -/
def quotedChar (quote c : Char) : List Char :=
  if c = quote || c = '\\' then ['\\', c]
  else if c = '\t' then ['\\', 't']
  else if c = '\n' then ['\\', 'n']
  else if c = '\r' then ['\\', 'r']
  else if isPrintable c then [c]
  else if c.toNat < 0x100 then '\\' :: 'x' :: hexDigits 2 c.toNat
  else if c.toNat < 0x10000 then '\\' :: 'u' :: hexDigits 4 c.toNat
  else '\\' :: 'U' :: hexDigits 8 c.toNat

/-- The quote that surrounds a text. -/
def quoteFor (cs : List Char) : Char :=
  if cs.contains '\'' && !cs.contains '"' then '"' else '\''

/-- A text in quotes. -/
def quoted (cs : List Char) : List Char :=
  let quote := quoteFor cs
  quote :: cs.flatMap (quotedChar quote) ++ [quote]

theorem forall_mem_hexDigits {P : Char → Prop} (digits : ∀ d < 16, P (Nat.digitChar d)) (width n : Nat) :
    ∀ c ∈ hexDigits width n, P c := by
  induction width generalizing n with
  | zero => simp [hexDigits]
  | succ width ih =>
    intro c mem
    rcases List.mem_append.1 mem with earlier | last
    · exact ih (n / 16) c earlier
    · rw [List.mem_singleton.1 last]
      exact digits _ (Nat.mod_lt n (by omega))

theorem length_hexDigits (width n : Nat) : (hexDigits width n).length = width := by
  induction width generalizing n with
  | zero => rfl
  | succ width ih => simp [hexDigits, ih]

end ResolverWatch.Text
