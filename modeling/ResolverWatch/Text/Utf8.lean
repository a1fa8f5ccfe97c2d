/-!
# UTF-8

`encode` gives the bytes of characters. The other way, `pieces` cuts a byte sequence into characters
and ill-formed parts, each part being as long as the longest beginning of a well-formed character.
Nothing is lost: the bytes of the pieces concatenate to the input (`flatMap_bytes_pieces`). The strict reading `decode` fails at the
first ill-formed part and says where it stands; the lenient `decodeLossy` puts U+FFFD in its
place. `decodeBlocks` is the strict reading of a file that arrives block by block, where the
place of a fault counts from the first byte not yet turned into a character.
-/

namespace ResolverWatch.Text.Utf8

/-- The codes of characters in a row. -/
def encode (cs : List Char) : List UInt8 :=
  cs.flatMap String.utf8EncodeChar

/-- Why bytes are no character. -/
inductive Fault
  | invalidStart
  | invalidContinuation
  | truncated
  deriving DecidableEq, Repr

/-- A character, or bytes that are none. -/
inductive Piece
  | char (c : Char) (bytes : List UInt8)
  | bad (fault : Fault) (bytes : List UInt8)
  deriving DecidableEq, Repr

/-- The bytes that a piece was cut from. -/
def Piece.bytes : Piece → List UInt8
  | .char _ bytes => bytes
  | .bad _ bytes => bytes

/-- Between characters, or inside one: the bytes seen (last first), their bits, the number of
bytes missing, and the least and greatest value of the next one. -/
inductive State
  | idle
  | within (seen : List UInt8) (code missing lo hi : Nat)
  deriving DecidableEq, Repr

/-- The bytes of an unfinished character, in order. -/
def State.held : State → List UInt8
  | .idle => []
  | .within seen .. => seen.reverse

/-- Reads the first byte of a character. The bounds on the byte after it exclude overlong forms,
surrogates and code points above U+10FFFF. -/
def start (b : UInt8) : List Piece × State :=
  let n := b.toNat
  if n < 0x80 then ([.char (Char.ofNat n) [b]], .idle)
  else if n < 0xc2 then ([.bad .invalidStart [b]], .idle)
  else if n < 0xe0 then ([], .within [b] (n - 0xc0) 1 0x80 0xbf)
  else if n < 0xf0 then
    ([], .within [b] (n - 0xe0) 2 (if n = 0xe0 then 0xa0 else 0x80) (if n = 0xed then 0x9f else 0xbf))
  else if n < 0xf5 then
    ([], .within [b] (n - 0xf0) 3 (if n = 0xf0 then 0x90 else 0x80) (if n = 0xf4 then 0x8f else 0xbf))
  else ([.bad .invalidStart [b]], .idle)

/-- Reads one byte. A byte that cannot continue a character ends it and starts afresh. -/
def step : State → UInt8 → List Piece × State
  | .idle, b => start b
  | .within seen code missing lo hi, b =>
    if lo ≤ b.toNat ∧ b.toNat ≤ hi then
      let code := code * 64 + (b.toNat - 0x80)
      if missing ≤ 1 then ([.char (Char.ofNat code) (b :: seen).reverse], .idle)
      else ([], .within (b :: seen) code (missing - 1) 0x80 0xbf)
    else
      let (ps, s) := start b
      (.bad .invalidContinuation seen.reverse :: ps, s)

/-- Reads bytes from a state on. -/
def run : State → List UInt8 → List Piece × State
  | s, [] => ([], s)
  | s, b :: bs =>
    let (ps, s) := step s b
    let (qs, s) := run s bs
    (ps ++ qs, s)

/-- What the end of the input makes of a state. -/
def State.finish : State → List Piece
  | .idle => []
  | .within seen .. => [.bad .truncated seen.reverse]

/-- The characters and ill-formed parts of a byte sequence, in order. -/
def pieces (bs : List UInt8) : List Piece :=
  let (ps, s) := run .idle bs
  ps ++ s.finish

/-- An ill-formed part and the number of bytes before it. -/
structure Error where
  fault : Fault
  bytes : List UInt8
  position : Nat
  deriving DecidableEq, Repr

/-- The characters up to the first ill-formed part, which is an error; `position` bytes precede. -/
def strict (position : Nat) : List Piece → Except Error (List Char)
  | [] => .ok []
  | .char c bytes :: rest => (strict (position + bytes.length) rest).map (c :: ·)
  | .bad fault bytes :: _ => .error ⟨fault, bytes, position⟩

/-- Reads a byte sequence that has to be well-formed. -/
def decode (bs : List UInt8) : Except Error (List Char) :=
  strict 0 (pieces bs)

/-- Reads a byte sequence with U+FFFD for every ill-formed part. -/
def decodeLossy (bs : List UInt8) : List Char :=
  (pieces bs).map fun
    | .char c _ => c
    | .bad .. => '\ufffd'

/-- Cuts bytes into blocks of `size` (the last one may be shorter), at most `fuel` of them. -/
def blocks (size : Nat) : Nat → List UInt8 → List (List UInt8)
  | 0, _ => []
  | fuel + 1, bs => if bs.isEmpty then [] else bs.take size :: blocks size fuel (bs.drop size)

/-- The pieces of a block, and the bytes at its end that wait for the next one: an unfinished
character, or what may be the first two bytes of a surrogate. -/
def cut (bs : List UInt8) : List Piece × List UInt8 :=
  match bs.reverse with
  | b :: 0xed :: before =>
    if 0xa0 ≤ b.toNat ∧ b.toNat ≤ 0xbf ∧ (run .idle before.reverse).2 = .idle then
      ((run .idle before.reverse).1, [0xed, b])
    else whole
  | _ => whole
where
  /-- The pieces up to an unfinished character, and its bytes. -/
  whole : List Piece × List UInt8 :=
    ((run .idle bs).1, (run .idle bs).2.held)

/-- Reads the blocks of a file after the bytes `held` that wait from the ones before. -/
def decodeBlocksFrom (held : List UInt8) : List (List UInt8) → Except Error (List Char)
  | [] => decode held
  | block :: rest => do
    let (ps, wait) := cut (held ++ block)
    let here ← strict 0 ps
    let later ← decodeBlocksFrom wait rest
    return here ++ later

/-- Reads a file that arrives in blocks of `size` bytes and has to be well-formed. -/
def decodeBlocks (size : Nat) (bs : List UInt8) : Except Error (List Char) :=
  decodeBlocksFrom [] (blocks size bs.length bs)

/-- The wording of a fault. -/
def Fault.reason : Fault → String
  | .invalidStart => "invalid start byte"
  | .invalidContinuation => "invalid continuation byte"
  | .truncated => "unexpected end of data"

/-- Two lower-case hexadecimal digits. -/
def hexByte (b : UInt8) : String :=
  String.ofList [Nat.digitChar (b.toNat / 16), Nat.digitChar (b.toNat % 16)]

/-- The wording of an error: the byte and its place, or the first and last place of several. -/
def Error.message (e : Error) : String :=
  let place := match e.bytes with
    | [b] => s!"byte 0x{hexByte b} in position {e.position}"
    | bs => s!"bytes in position {e.position}-{e.position + bs.length - 1}"
  s!"'utf-8' codec can't decode {place}: {e.fault.reason}"

theorem start_bytes (b : UInt8) : (start b).1.flatMap Piece.bytes ++ (start b).2.held = [b] := by
  unfold start
  simp only
  repeat' split
  all_goals simp [Piece.bytes, State.held]

theorem step_bytes (s : State) (b : UInt8) :
    (step s b).1.flatMap Piece.bytes ++ (step s b).2.held = s.held ++ [b] := by
  cases s with
  | idle => simpa [step, State.held] using start_bytes b
  | within seen code missing lo hi =>
    simp only [step]
    split
    · split <;> simp [Piece.bytes, State.held]
    · simp only [List.flatMap_cons, Piece.bytes, List.append_assoc, start_bytes]
      rfl

theorem run_bytes (s : State) (bs : List UInt8) :
    (run s bs).1.flatMap Piece.bytes ++ (run s bs).2.held = s.held ++ bs := by
  induction bs generalizing s with
  | nil => simp [run]
  | cons b bs ih =>
    simp only [run, List.flatMap_append, List.append_assoc]
    rw [ih, ← List.append_assoc, step_bytes]
    simp

/-- The pieces cover the input. -/
theorem flatMap_bytes_pieces (bs : List UInt8) : (pieces bs).flatMap Piece.bytes = bs := by
  have covered := run_bytes .idle bs
  simp only [pieces, List.flatMap_append]
  have finished : ∀ s : State, s.finish.flatMap Piece.bytes = s.held := by
    intro s; cases s <;> simp [State.finish, Piece.bytes, State.held]
  rw [finished, covered]
  rfl

end ResolverWatch.Text.Utf8
