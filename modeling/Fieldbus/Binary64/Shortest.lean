import Fieldbus.Binary64

/-!
# Shortest decimal text

The fewest significant digits that read back as the same number, and of those the nearest to it.

* `Binary64.interval`: the fractions that round to a number, as two bounds.
* `Binary64.shortest`: the digits and the power of ten.
* `Binary64.text`: the digits laid out, always with a point or an exponent.
-/

namespace Fieldbus.Binary64

/-- The bounds of the fractions that round to a number, in units of a quarter of its last place:
half a place to either side, or a quarter below a power of two. -/
def interval (x : Binary64) : Nat × Nat :=
  let m := 4 * x.significand
  let below := if x.significand = Nat.pow 2 52 ∧ minExponent < x.exponent then 1 else 2
  (m - below, m + 2)

/-- The factors by which a count of quarter places and one of units `10 ^ k` have to be multiplied
to be compared. -/
def factors (x : Binary64) (k : Int) : Nat × Nat :=
  let e := x.exponent - 2
  (Nat.pow 2 e.toNat * Nat.pow 10 (-k).toNat, Nat.pow 2 (-e).toNat * Nat.pow 10 k.toNat)

/-- Whether `n` units `10 ^ k` round to the number; the bounds themselves do if the significand is
even. -/
def roundsTo (x : Binary64) (k : Int) (n : Nat) : Bool :=
  let (fine, coarse) := factors x k
  let (low, high) := interval x
  if x.significand % 2 = 0 then low * fine ≤ n * coarse && n * coarse ≤ high * fine
  else low * fine < n * coarse && n * coarse < high * fine

/-- The nearer of the two neighbours of the number among the multiples of `10 ^ k`, if it rounds to
the number, else the other one if that does. -/
def onGrid? (x : Binary64) (k : Int) : Option Nat :=
  let (fine, coarse) := factors x k
  let n := 4 * x.significand * fine / coarse
  let nearer := roundDiv (4 * x.significand * fine) coarse
  let other := if nearer = n then n + 1 else n
  if roundsTo x k nearer then some nearer
  else if roundsTo x k other then some other
  else none

/-- The position of the leading digit of the number: its power of ten, or one more. -/
def magnitude (x : Binary64) : Int :=
  let bits : Int := x.significand.log2 + x.exponent
  bits * 30103 / 100000 + 1

/-- The first grid, going from coarse to fine, that holds a multiple which rounds to the number. -/
def search (x : Binary64) : Nat → Int → Nat × Int
  | 0, k => ((onGrid? x k).getD 0, k)
  | n + 1, k =>
    match onGrid? x k with
    | some (m + 1) => (m + 1, k)
    | _ => search x n (k - 1)

/-- Drops the zeros at the end of a decimal significand. -/
def stripZeros : Nat → Nat → Int → Nat × Int
  | 0, m, k => (m, k)
  | n + 1, m, k => if m % 10 = 0 ∧ m ≠ 0 then stripZeros n (m / 10) (k + 1) else (m, k)

/-- The fewest digits that read back as the number, as a whole number, and its power of ten. -/
def shortest (x : Binary64) : Nat × Int :=
  if x.significand = 0 then (0, 0)
  else
    let (m, k) := search x 20 (magnitude x)
    stripZeros 20 m k

/-- How the digits are laid out: the positions of the point that are written without an exponent
lie above `low` and are at most `high`. -/
structure Layout where
  /-- The point's position below which an exponent is used. -/
  low : Int
  /-- The point's position above which an exponent is used. -/
  high : Int

/-- Up to sixteen digits before the point, and up to four zeros after it, are written out. -/
def layout : Layout := ⟨-5, 16⟩

/-- An exponent with its sign. -/
def exponentText (e : Int) : String :=
  if e < 0 then "e-" ++ toString e.natAbs else "e+" ++ toString e.natAbs

/-- The digits `ds`, of which the last stands for `10 ^ k`, laid out. -/
def place (ds : List Char) (k : Int) : String :=
  let point : Int := ds.length + k
  if 0 ≤ k ∧ point ≤ layout.high then
    String.ofList (ds ++ List.replicate k.toNat '0') ++ ".0"
  else if 0 < point ∧ point ≤ layout.high then
    String.ofList (ds.take point.toNat ++ ['.'] ++ ds.drop point.toNat)
  else if layout.low < point ∧ point ≤ 0 then
    String.ofList (['0', '.'] ++ List.replicate (-point).toNat '0' ++ ds)
  else if ds.length ≤ 1 then
    String.ofList ds ++ exponentText (point - 1)
  else
    String.ofList (ds.take 1 ++ ['.'] ++ ds.drop 1) ++ exponentText (point - 1)

/-- The text of a number. -/
def text (x : Binary64) : String :=
  let (m, k) := shortest x
  (if x.negative then "-" else "") ++ place (Nat.toDigits 10 m) k

end Fieldbus.Binary64
