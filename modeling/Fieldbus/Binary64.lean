/-!
# Binary floating point

Finite numbers of the format binary64, kept as a sign, a significand and a power of two, so that
all of the arithmetic is exact.

* `Binary64`: `significand * 2 ^ exponent`, negated or not.
* `Binary64.ofRatio?`: the number nearest to a fraction, ties to the even significand.
* `Binary64.ofDecimal?`: a decimal significand scaled by a power of ten, as documents write it.
-/

namespace Fieldbus

/-- A finite number of the format binary64. -/
structure Binary64 where
  /-- Whether the number is negative; zero has a sign too. -/
  negative : Bool
  /-- The significand, below `2 ^ 53`, and not below `2 ^ 52` unless the exponent is the least. -/
  significand : Nat
  /-- The power of two, from `-1074` to `971`. -/
  exponent : Int
  deriving DecidableEq, Repr

namespace Binary64

/-- The least power of two of the format. -/
def minExponent : Int := -1074

/-- The greatest power of two of the format. -/
def maxExponent : Int := 971

/-- Zero, with a sign. -/
def zero (negative : Bool) : Binary64 := ⟨negative, 0, minExponent⟩

/-- The whole number nearest to `num / den`, a tie going to the even one. -/
def roundDiv (num den : Nat) : Nat :=
  let q := num / den
  let twice := 2 * (num % den)
  if twice < den then q
  else if den < twice then q + 1
  else if q % 2 = 0 then q else q + 1

/-- The fraction `num / den` in units of `2 ^ e`, rounded. -/
def inUnits (num den : Nat) (e : Int) : Nat :=
  if 0 ≤ e then roundDiv num (den * Nat.pow 2 e.toNat)
  else roundDiv (num * Nat.pow 2 (-e).toNat) den

/-- A power of two for which `num / den` has a significand of 53 bits, or one bit more. -/
def scaleOf (num den : Nat) : Int :=
  max minExponent ((num.log2 : Int) - (den.log2 : Int) - 53)

/-- The number nearest to `num / den`, or `none` if that overflows. The scale is raised until the
significand fits. -/
def ofRatio? (negative : Bool) (num den : Nat) : Option Binary64 :=
  let e := scaleOf num den
  let fitted :=
    if inUnits num den e < Nat.pow 2 53 then (inUnits num den e, e)
    else if inUnits num den (e + 1) < Nat.pow 2 53 then (inUnits num den (e + 1), e + 1)
    else (inUnits num den (e + 2), e + 2)
  if maxExponent < fitted.2 then none else some ⟨negative, fitted.1, fitted.2⟩

/-- The numerator of the absolute value. -/
def num (x : Binary64) : Nat :=
  x.significand * Nat.pow 2 x.exponent.toNat

/-- The denominator of the absolute value. -/
def den (x : Binary64) : Nat :=
  Nat.pow 2 (-x.exponent).toNat

/-- The greatest power of ten that the format holds. -/
def maxPower : Nat := 308

/-- The number nearest to a power of ten. -/
def power (k : Nat) : Binary64 :=
  (ofRatio? false (Nat.pow 10 k) 1).getD (zero false)

/-- The product, rounded. -/
def mul? (x y : Binary64) : Option Binary64 :=
  ofRatio? x.negative (x.num * y.num) (x.den * y.den)

/-- The quotient, rounded; the divisor is not zero. -/
def div (x y : Binary64) : Binary64 :=
  (ofRatio? x.negative (x.num * y.den) (x.den * y.num)).getD (zero x.negative)

/-- Divides by the greatest power of ten until the power that is left is in range, or nothing but
zero is left. The first argument bounds the number of divisions. -/
def scaleDown : Nat → Binary64 → Nat → Binary64
  | 0, x, k => x.div (power (min k maxPower))
  | n + 1, x, k =>
    if x.significand = 0 then x
    else if k ≤ maxPower then x.div (power k)
    else scaleDown n (x.div (power maxPower)) (k - maxPower)

/-- The number written as `significand` times ten to the power `exponent`: both factors are rounded
first, and their product again. There is none if it overflows. -/
def ofDecimal? (negative : Bool) (significand : Nat) (exponent : Int) : Option Binary64 :=
  match ofRatio? negative significand 1 with
  | none => none
  | some x =>
    if exponent < 0 then some (scaleDown 4 x (-exponent).toNat)
    else if exponent.toNat ≤ maxPower then x.mul? (power exponent.toNat)
    else if significand = 0 then some x
    else none

end Binary64

end Fieldbus
