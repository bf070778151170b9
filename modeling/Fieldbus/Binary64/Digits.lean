import Fieldbus.Binary64

/-!
# Text with a given number of digits

* `Binary64.fixedDigits`: the digits with a given number of places after the point.
* `Binary64.leadingDigits`: a given number of leading digits, and the power of ten of the first.
* `Binary64.fixedText`, `Binary64.scientificText`, `Binary64.generalText`: the digits laid out.
* `Binary64.hexText`: the number in base sixteen.
-/

namespace Fieldbus.Binary64

/-- The absolute value in units of the last of `places` places after the point, rounded. -/
def fixedDigits (x : Binary64) (places : Nat) : Nat :=
  roundDiv (x.num * Nat.pow 10 places) x.den

/-- The absolute value in units of `10 ^ k`, rounded. -/
def inTens (x : Binary64) (k : Int) : Nat :=
  roundDiv (x.num * Nat.pow 10 (-k).toNat) (x.den * Nat.pow 10 k.toNat)

/-- The power of ten of the first digit: the greatest that is not above the absolute value. The
search goes down from `k`, over at most `n` powers. -/
def leadingPower (x : Binary64) : Nat → Int → Int
  | 0, k => k
  | n + 1, k =>
    if x.den * Nat.pow 10 k.toNat ≤ x.num * Nat.pow 10 (-k).toNat then k
    else leadingPower x n (k - 1)

/-- A power of ten that is not below the absolute value, and at most two places too high. -/
def powerAbove (x : Binary64) : Int :=
  ((x.significand.log2 : Int) + x.exponent) * 30103 / 100000 + 1

/-- The first `n + 1` digits, rounded, and the power of ten of the first one. Rounding up may make
it one digit longer, which moves the first one. -/
def leadingDigits (x : Binary64) (n : Nat) : Nat × Int :=
  if x.significand = 0 then (0, 0)
  else
    let k := leadingPower x 4 (powerAbove x)
    let m := inTens x (k - n)
    if m < Nat.pow 10 (n + 1) then (m, k) else (m / 10, k + 1)

/-- The digits of a number, at least `width` of them. -/
def padded (m width : Nat) : List Char :=
  let ds := Nat.toDigits 10 m
  List.replicate (width - ds.length) '0' ++ ds

/-- Digits with a point in front of the last `places`. -/
def withPoint (ds : List Char) (places : Nat) : List Char :=
  let n := ds.length - places
  if places = 0 then ds else ds.take n ++ ['.'] ++ ds.drop n

/-- A minus sign for negative numbers. -/
def signText (x : Binary64) : List Char := if x.negative then ['-'] else []

/-- The number with a given number of places after the point. -/
def fixedText (x : Binary64) (places : Nat) : List Char :=
  signText x ++ withPoint (padded (fixedDigits x places) (places + 1)) places

/-- An exponent of at least two digits, with its sign. -/
def powerText (k : Int) : List Char :=
  ['e', if k < 0 then '-' else '+'] ++ padded k.natAbs 2

/-- The number with one digit before the point, a given number after it, and an exponent. -/
def scientificText (x : Binary64) (places : Nat) : List Char :=
  let (m, k) := leadingDigits x places
  signText x ++ withPoint (padded m (places + 1)) places ++ powerText k

/-- Digits without the zeros at their end. -/
def withoutZeros (ds : List Char) : List Char :=
  (ds.reverse.dropWhile (· = '0')).reverse

/-- Digits with a point in them, without the zeros at their end and without a point there. -/
def trimmed (places : Nat) (ds : List Char) : List Char :=
  if places = 0 then ds
  else
    match (withoutZeros ds).reverse with
    | '.' :: r => r.reverse
    | r => r.reverse

/-- The number with a given number of digits, laid out by its size: with an exponent if that is
below `-4` or not below the number of digits. Zeros at the end are left out unless `full`. -/
def generalText (x : Binary64) (digits : Nat) (full : Bool) : List Char :=
  let n := max digits 1
  let (m, k) := leadingDigits x (n - 1)
  let trim (places : Nat) (ds : List Char) := if full then ds else trimmed places ds
  if k < -4 ∨ (n : Int) ≤ k then
    signText x ++ trim (n - 1) (withPoint (padded m n) (n - 1)) ++ powerText k
  else
    let places := ((n : Int) - 1 - k).toNat
    signText x ++ trim places (withPoint (padded (fixedDigits x places) (places + 1)) places)

/-- The number of digits of base sixteen behind the first one. -/
def hexPlaces : Nat := 13

/-- The number in base sixteen, with an exponent of two; all the digits that it needs, unless their
number is given. -/
def hexText (x : Binary64) (places? : Option Nat) : List Char :=
  let places := places?.getD hexPlaces
  let m := roundDiv (x.significand * Nat.pow 16 places) (Nat.pow 16 hexPlaces)
  let digits := Nat.toDigits 16 (m % Nat.pow 16 places)
  let fraction := if places = 0 then [] else List.replicate (places - digits.length) '0' ++ digits
  let fraction := if places?.isNone then withoutZeros fraction else fraction
  let k := if x.significand = 0 then 0 else x.exponent + 4 * hexPlaces
  signText x ++ ['0', 'x'] ++ Nat.toDigits 10 (m / Nat.pow 16 places) ++
    (if fraction = [] then [] else '.' :: fraction) ++ ['p', if k < 0 then '-' else '+'] ++
    Nat.toDigits 10 k.natAbs

end Fieldbus.Binary64
