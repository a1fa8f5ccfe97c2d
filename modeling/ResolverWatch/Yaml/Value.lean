import ResolverWatch.Calendar.Moment
import ResolverWatch.Decimal.Whole
import ResolverWatch.Text.Points

/-!
# What a YAML document says

A document is a scalar, a sequence or a mapping. Since aliases may lead back into the node they
stand in, a value is a finite view of a document: sequences are opaque, and mappings are
followed to the depth that a reader asks for.
-/

namespace ResolverWatch.Yaml

open Calendar Decimal Text

/-- A value without parts. -/
inductive Scalar
  | null
  | bool (b : Bool)
  | int (n : Int)
  | real (x : Float)
  | text (s : Points)
  | bytes (bs : List UInt8)
  | moment (m : Moment)

/-- The view of a document. -/
inductive Value
  | scalar (s : Scalar)
  | sequence
  | mapping (entries : List (Scalar × Value))

namespace Scalar

/-- The whole number that a number or a truth value is equal to. -/
def whole? : Scalar → Option Int
  | .bool b => some (if b then 1 else 0)
  | .int n => some n
  | .real x => if isWhole x then truncate? x else none
  | _ => none

/-- Two keys are one key: they are equal, numbers being compared by value. -/
def same : Scalar → Scalar → Bool
  | .null, .null => true
  | .text a, .text b => a == b
  | .bytes a, .bytes b => a == b
  | .moment a, .moment b => a.same b
  | .real x, .real y => x == y
  | a, b =>
    match a.whole?, b.whole? with
    | some m, some n => m == n
    | _, _ => false

/-- A byte inside quotes. -/
def quotedByte (quote : Char) (b : UInt8) : List Char :=
  let c := Char.ofNat b.toNat
  if b < 0x80 then quotedChar quote c else '\\' :: 'x' :: hexDigits 2 b.toNat

/-- Bytes in quotes, marked by a `b`. -/
def quotedBytes (bs : List UInt8) : List Char :=
  let quote := quoteFor (bs.map fun b => Char.ofNat b.toNat)
  'b' :: quote :: bs.flatMap (quotedByte quote) ++ [quote]

/-- A key as a message shows it. -/
def shown : Scalar → String
  | .null => "None"
  | .bool b => if b then "1" else "0"
  | .int n => if n < 0 then "-" ++ String.ofList (natDigits n.natAbs) else String.ofList (natDigits n.natAbs)
  | .real x => String.ofList (floatText .message x)
  | .text s => String.ofList s.chars
  | .bytes bs => String.ofList (quotedBytes bs)
  | .moment m => m.shown

end Scalar

/-- Sets the value of a key. A key that was there keeps its place and its spelling. -/
def Value.put (entries : List (Scalar × Value)) (key : Scalar) (value : Value) : List (Scalar × Value) :=
  match entries with
  | [] => [(key, value)]
  | (k, v) :: rest => if k.same key then (k, value) :: rest else (k, v) :: put rest key value

/-- The mapping with the given entries, of which the last one with a key counts. -/
def Value.ofEntries (entries : List (Scalar × Value)) : Value :=
  .mapping (entries.foldl (fun m e => put m e.1 e.2) [])

end ResolverWatch.Yaml
