import Fieldbus.Binary64.Digits
import Fieldbus.Binary64.Word
import Fieldbus.Bytes

/-!
# Numbers of scripts

A number is a whole number of 64 bits or a floating point number.

* `Number`: the type.
* `Number.ofChars?`: the number that a numeral spells.
* `Number.text`: its text.
* `Number.whole?`: the whole number of the same value.
* `Number.compare?`: the order of two numbers, which is exact.
-/

namespace Fieldbus.Scripting

/-- A number. -/
inductive Number where
  /-- A whole number, modulo `2 ^ 64`. -/
  | whole (n : Int64)
  | real (x : Float)

instance : Inhabited Number := ⟨.whole 0⟩

/-- White space, also around numerals. -/
def isSpace (c : Char) : Bool :=
  c = ' ' || (9 ≤ c.toNat && c.toNat ≤ 13)

/-- The value of a digit in bases up to 36. -/
def digitValue? (c : Char) : Option Nat :=
  if c.isDigit then some (c.toNat - 48)
  else if c.isLower then some (c.toNat - 87)
  else if c.isUpper then some (c.toNat - 55)
  else none

/-- Whether a character is a digit of base sixteen. -/
def isHexDigit (c : Char) : Bool := (digitValue? c).any (· < 16)

/-- The whole number that some digits spell. -/
def spelled (base : Nat) (ds : List Char) : Nat :=
  ds.foldl (fun n c => n * base + (digitValue? c).getD 0) 0

namespace Number

/-! ## Reading -/

/-- A sign and what follows it. -/
def signed : List Char → Bool × List Char
  | '-' :: r => (true, r)
  | '+' :: r => (false, r)
  | r => (false, r)

/-- An exponent that is all there is; `mark` is the letter in front of it. -/
def exponent? (mark : Char) : List Char → Option Int
  | [] => some 0
  | c :: r =>
    let (negative, ds) := signed r
    if c.toLower = mark ∧ ds ≠ [] ∧ ds.all Char.isDigit then
      some (if negative then -(spelled 10 ds : Int) else spelled 10 ds)
    else none

/-- The value of digits with a point or an exponent: in base ten, or in base sixteen with an
exponent of two. -/
def real? (negative hex : Bool) (cs : List Char) : Option Float :=
  let isDigit := if hex then isHexDigit else Char.isDigit
  let (front, r) := cs.span isDigit
  let (fraction, r) := match r with
    | '.' :: r => r.span isDigit
    | r => ([], r)
  if front ++ fraction = [] then none
  else
    (exponent? (if hex then 'p' else 'e') r).map fun e =>
      if hex then
        Binary64.scaled negative (spelled 16 (front ++ fraction)) 2 (e - 4 * fraction.length)
      else
        Binary64.scaled negative (spelled 10 (front ++ fraction)) 10 (e - fraction.length)

/-- The greatest whole number. -/
def maxWhole : Int := Nat.pow 2 63 - 1

/-- The least whole number. -/
def minWhole : Int := -Nat.pow 2 63

/-- The value of a numeral without white space. Whole numbers in base ten that are too great are
floating point numbers; those in base sixteen wrap around. -/
def ofNumeral? (cs : List Char) : Option Number :=
  let (negative, ds) := signed cs
  let whole (base : Nat) (ds : List Char) : Int :=
    if negative then -(spelled base ds : Int) else spelled base ds
  match ds with
  | '0' :: x :: r =>
    if x = 'x' ∨ x = 'X' then
      if r ≠ [] ∧ r.all isHexDigit then some (.whole (Int64.ofInt (whole 16 r)))
      else (real? negative true r).map .real
    else plain negative whole ds
  | ds => plain negative whole ds
where
  /-- A numeral in base ten. -/
  plain (negative : Bool) (whole : Nat → List Char → Int) (ds : List Char) : Option Number :=
    let n := whole 10 ds
    if ds ≠ [] ∧ ds.all Char.isDigit ∧ minWhole ≤ n ∧ n ≤ maxWhole then
      some (.whole (Int64.ofInt n))
    else (real? negative false ds).map .real

/-- The value of a numeral, which may have white space around it. -/
def ofChars? (cs : List Char) : Option Number :=
  ofNumeral? (((cs.dropWhile isSpace).reverse.dropWhile isSpace).reverse)

/-! ## Printing -/

/-- How many digits a floating point number is printed with. -/
def printedDigits : Nat := 14

/-- The text of an infinity, or of what is no number. -/
def endlessText (x : Float) : List Char :=
  if x.isNaN then ['-', 'n', 'a', 'n'] else if x < 0 then ['-', 'i', 'n', 'f'] else ['i', 'n', 'f']

/-- The text of a floating point number, which never looks like a whole one. -/
def realText (x : Float) : List Char :=
  match Binary64.ofFloat? x with
  | none => endlessText x
  | some b =>
    let cs := b.generalText printedDigits false
    if cs.all fun c => c.isDigit || c = '-' then cs ++ ['.', '0'] else cs

/-- The text of a number. -/
def text : Number → String
  | whole n => toString n.toInt
  | real x => String.ofList (realText x)

/-! ## Conversions -/

/-- The floating point number nearest to a number. -/
def toFloat : Number → Float
  | whole n => n.toFloat
  | real x => x

/-- The whole number with a given value, if there is one. -/
def wholeOf? (n : Int) : Option Int64 :=
  if minWhole ≤ n ∧ n ≤ maxWhole then some (Int64.ofInt n) else none

/-- The greatest whole number that is not above a floating point number, whatever its size. -/
def floorOf? (x : Float) : Option Int :=
  (Binary64.ofFloat? x).map fun b =>
    if b.negative then -((b.num + b.den - 1) / b.den : Nat) else (b.num / b.den : Nat)

/-- The whole number of the same value. -/
def whole? : Number → Option Int64
  | whole n => some n
  | real x => (floorOf? x).bind fun n => if Float.floor x == x then wholeOf? n else none

/-! ## Order -/

/-- A finite number as a fraction. -/
def fraction? : Number → Option (Int × Nat)
  | whole n => some (n.toInt, 1)
  | real x => (Binary64.ofFloat? x).map fun b =>
    (if b.negative then -(b.num : Int) else b.num, b.den)

/-- The order of two numbers; what is no number has none. -/
def compare? (a b : Number) : Option Ordering :=
  match fraction? a, fraction? b with
  | some (n, d), some (m, e) => some (compare (n * e) (m * d))
  | _, _ =>
    let x := a.toFloat
    let y := b.toFloat
    if x < y then some .lt else if x == y then some .eq else if y < x then some .gt else none

end Number

end Fieldbus.Scripting
