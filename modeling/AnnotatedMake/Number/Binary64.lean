/-
This file holds numbers of double precision exactly.
A significand below 2^53 has 53 bits unless the exponent is the smallest, -1074.
-/

namespace AnnotatedMake

inductive Binary64 where
  | finite (negative : Bool) (significand : Nat) (exponent : Int)
  | infinite (negative : Bool)
  | notANumber
deriving DecidableEq, Repr

namespace Binary64

/-- The quotient rounded to the nearest integer, a half to the even neighbour. -/
def roundQuotient (numerator denominator : Nat) : Nat :=
  let quotient := numerator / denominator
  let twice := 2 * (numerator % denominator)
  if denominator < twice || (denominator = twice && quotient % 2 = 1) then quotient + 1
  else quotient

/-- `numerator / (denominator · 2 ^ exponent)` as a quotient of natural numbers. -/
def scaled (numerator denominator : Nat) (exponent : Int) : Nat × Nat :=
  (numerator * Nat.pow 2 (-exponent).toNat, denominator * Nat.pow 2 exponent.toNat)

/-- The exponent that leaves a quotient with 53 bits, or the smallest one. -/
def exponentOf (numerator denominator : Nat) : Int :=
  let guess : Int := (numerator.log2 : Int) - denominator.log2 - 52
  let (top, bottom) := scaled numerator denominator guess
  max (if top / bottom < Nat.pow 2 52 then guess - 1 else guess) (-1074)

/-- The number nearest to a positive quotient, a tie going to the even significand. -/
def ofQuotient (negative : Bool) (numerator denominator : Nat) : Binary64 :=
  let exponent := exponentOf numerator denominator
  let (top, bottom) := scaled numerator denominator exponent
  let rounded := roundQuotient top bottom
  let (significand, exponent) :=
    if rounded = Nat.pow 2 53 then (Nat.pow 2 52, exponent + 1) else (rounded, exponent)
  if 971 < exponent then infinite negative else finite negative significand exponent

/-- The number nearest to `digits · 10 ^ power`, formed without a large power of ten. -/
def ofDecimal (negative : Bool) (digits : Nat) (power : Int) : Binary64 :=
  let size : Int := power + (Nat.toDigits 10 digits).length
  if digits = 0 then finite negative 0 (-1074)
  else if 400 < size then infinite negative
  else if size < -400 then finite negative 0 (-1074)
  else if 0 ≤ power then ofQuotient negative (digits * Nat.pow 10 power.toNat) 1
  else ofQuotient negative digits (Nat.pow 10 (-power).toNat)

def isZero : Binary64 → Bool
  | finite _ significand _ => significand = 0
  | _ => false

end Binary64

end AnnotatedMake
