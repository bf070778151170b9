import Fieldbus.Binary64

/-!
# Numbers as words

The finite numbers of the format binary64 against the words that a machine computes with.

* `Binary64.ofFloat?`: the value of a word, if it is finite.
* `Binary64.toFloat`: the word of a value.
* `Binary64.nearest`: the word nearest to a fraction.
-/

namespace Fieldbus.Binary64

/-- The value of a word; infinities and what is no number have none. -/
def ofFloat? (x : Float) : Option Binary64 :=
  let bits := x.toBits.toNat
  let negative := Nat.pow 2 63 ≤ bits
  let exponent : Nat := bits / Nat.pow 2 52 % Nat.pow 2 11
  let fraction : Nat := bits % Nat.pow 2 52
  if exponent = 2047 then none
  else if exponent = 0 then some ⟨negative, fraction, minExponent⟩
  else some ⟨negative, fraction + Nat.pow 2 52, (exponent : Int) - 1 + minExponent⟩

/-- The word of a value. -/
def toFloat (x : Binary64) : Float :=
  let exponent := if x.significand < Nat.pow 2 52 then 0 else (x.exponent - minExponent).toNat + 1
  let magnitude := exponent * Nat.pow 2 52 + x.significand % Nat.pow 2 52
  Float.ofBits (UInt64.ofNat (if x.negative then Nat.pow 2 63 + magnitude else magnitude))

/-- Infinity, with a sign. -/
def infinity (negative : Bool) : Float :=
  Float.ofBits (if negative then 0xFFF0000000000000 else 0x7FF0000000000000)

/-- The word nearest to a fraction; infinity if it overflows. -/
def nearest (negative : Bool) (num den : Nat) : Float :=
  if num = 0 then (zero negative).toFloat
  else ((ofRatio? negative num den).map toFloat).getD (infinity negative)

/-- An exponent beyond which, either way, no number of the format can lie. -/
def exponentReach : Nat := 2000

/-- The word nearest to `m * base ^ k`. -/
def scaled (negative : Bool) (m base : Nat) (k : Int) : Float :=
  if m = 0 then nearest negative 0 1
  else if (exponentReach : Int) < k then infinity negative
  else if k + m.log2 < -(exponentReach : Int) then nearest negative 0 1
  else nearest negative (m * Nat.pow base k.toNat) (Nat.pow base (-k).toNat)

/-- The remainder of a division of absolute values, with the sign of the dividend. -/
def remainder (x y : Binary64) : Float :=
  nearest x.negative (x.num * y.den % (y.num * x.den)) (x.den * y.den)

end Fieldbus.Binary64
