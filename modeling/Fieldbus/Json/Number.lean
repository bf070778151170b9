import Fieldbus.Json

/-!
# Numbers in documents

The grammar of numbers and the values they denote. The significand of a number with a point or an
exponent holds as many of its digits as fit into 64 bits; the digits after those only count as
places.

* `Number.Parts`: the digits before the point, after the point, and the exponent.
* `Number.parts?`: the parts of a written number.
* `Number.value?`: the value, unless it overflows.
-/

namespace Fieldbus.Json.Number

/-- A number taken apart. -/
structure Parts where
  /-- Whether a minus sign stands in front. -/
  negative : Bool
  /-- The digits before the point. -/
  whole : List Char
  /-- The digits after the point, if there is a point. -/
  fraction : Option (List Char)
  /-- The exponent's sign and digits, if there is an exponent. -/
  power : Option (Bool × List Char)

/-- The value of a digit. -/
def digitValue (c : Char) : Nat := c.toNat - 48

/-- The whole number that some digits spell. -/
def spelled (ds : List Char) : Nat :=
  ds.foldl (fun n c => n * 10 + digitValue c) 0

/-- The whole part is a zero or does not start with one. -/
def wholeOk : List Char → Bool
  | [] => false
  | ['0'] => true
  | c :: _ => c != '0'

/-- Reads an exponent, which has to be all there is. -/
def power? : List Char → Option (Option (Bool × List Char))
  | [] => some none
  | c :: r =>
    if c = 'e' ∨ c = 'E' then
      let (negative, ds) := match r with
        | '-' :: r => (true, r)
        | '+' :: r => (false, r)
        | r => (false, r)
      if ds.all Char.isDigit && !ds.isEmpty then some (some (negative, ds)) else none
    else none

/-- Takes a written number apart; all of the text has to belong to it. -/
def parts? (cs : List Char) : Option Parts :=
  let (negative, cs) := match cs with
    | '-' :: r => (true, r)
    | cs => (false, cs)
  let whole := cs.takeWhile Char.isDigit
  if !wholeOk whole then none
  else
    match cs.dropWhile Char.isDigit with
    | '.' :: r =>
      let fraction := r.takeWhile Char.isDigit
      if fraction.isEmpty then none
      else (power? (r.dropWhile Char.isDigit)).map fun p => ⟨negative, whole, some fraction, p⟩
    | r => (power? r).map fun p => ⟨negative, whole, none, p⟩

/-- One more than the greatest significand. -/
def significandBound : Nat := Nat.pow 2 64

/-- Reads digits into a significand as long as they fit; gives the significand and the number of
digits that were left out. -/
def absorb (m : Nat) : List Char → Nat × Nat
  | [] => (m, 0)
  | c :: r =>
    let next := m * 10 + digitValue c
    if next < significandBound then absorb next r else (m, r.length + 1)

/-- One more than the greatest exponent. -/
def exponentBound : Nat := Nat.pow 2 31

/-- The value of a number that has a point, an exponent, or too many digits. -/
def rounded? (p : Parts) : Option Binary64 :=
  let (m, dropped) := absorb 0 p.whole
  let (m, scale) : Nat × Int := match p.fraction with
    | none => (m, dropped)
    | some ds =>
      let (m', left) := absorb m ds
      (m', (dropped : Int) - (ds.length - left : Nat))
  match p.power with
  | none => Binary64.ofDecimal? p.negative m scale
  | some (negative, ds) =>
    if exponentBound ≤ spelled ds then
      if m ≠ 0 ∧ !negative then none else some (Binary64.zero p.negative)
    else
      Binary64.ofDecimal? p.negative m (if negative then scale - spelled ds else scale + spelled ds)

/-- The value of a number: a whole number if it is written as one and fits into 64 bits, with or
without a sign. A zero with a minus sign is no whole number. -/
def value? (p : Parts) : Option Json :=
  let n := spelled p.whole
  let fits := if p.negative then n ≠ 0 ∧ n ≤ Nat.pow 2 63 else n < Nat.pow 2 64
  if p.fraction.isNone ∧ p.power.isNone ∧ fits then
    some (.int (if p.negative then -(n : Int) else n))
  else (rounded? p).map .float

/-- The value that a written number denotes. -/
def read? (cs : List Char) : Option Json :=
  (parts? cs).bind value?

end Fieldbus.Json.Number
