/-!
# Whole numbers near a double

`truncate?` drops the fraction of a double; `nearestEven?` rounds it to the nearest whole number, a
half going to the even one. Both are exact for every finite double and undefined for the others.
-/

namespace ResolverWatch.Decimal

open Float.Model.UnpackedFloat

/-- `n` or its negative. -/
def withSign : Sign → Nat → Int
  | .positive, n => n
  | .negative, n => -(n : Int)

/-- The whole part of a finite double, rounded toward zero. -/
def truncate? (x : Float) : Option Int :=
  match x.toModel.unpack with
  | .notANumber | .infinity _ => none
  | .zero _ => some 0
  | .finite s m q _ => some (withSign s (m * Nat.pow 2 q.toNat / Nat.pow 2 (-q).toNat))

/-- The quotient of two natural numbers, rounded to the nearest, a half going to the even one. -/
def divNearestEven (n d : Nat) : Nat :=
  let quotient := n / d
  let rest := n % d
  if 2 * rest < d || (2 * rest == d && quotient % 2 == 0) then quotient else quotient + 1

/-- The whole number nearest to a finite double, a half going to the even one. -/
def nearestEven? (x : Float) : Option Int :=
  match x.toModel.unpack with
  | .notANumber | .infinity _ => none
  | .zero _ => some 0
  | .finite s m q _ => some (withSign s (divNearestEven (m * Nat.pow 2 q.toNat) (Nat.pow 2 (-q).toNat)))

/-- A finite double is a whole number. -/
def isWhole (x : Float) : Bool :=
  match x.toModel.unpack with
  | .notANumber | .infinity _ => false
  | .zero _ => true
  | .finite _ m q _ => m * Nat.pow 2 q.toNat % Nat.pow 2 (-q).toNat == 0

end ResolverWatch.Decimal
