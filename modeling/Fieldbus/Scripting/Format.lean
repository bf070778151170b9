import Fieldbus.Scripting.Value

/-!
# Formats

A format is a text with directives, each of which lays out one value.

* `Directive`: a directive.
* `Directive.ofChars?`: reads one.
* `Directive.isAllowed`: whether it makes sense.
* `Directive.apply`: lays out a value.
-/

namespace Fieldbus.Scripting

/-- A directive of a format. -/
structure Directive where
  flags : List Char
  width : Nat
  precision : Option Nat
  kind : Char

namespace Directive

/-- The flags. -/
def isFlag (c : Char) : Bool := ['-', '+', ' ', '#', '0'].contains c

/-- A number of at most two digits, and what follows it. -/
def count? (cs : List Char) : Option (Nat × List Char) :=
  let (ds, r) := cs.span Char.isDigit
  if ds.length ≤ 2 then some (spelled 10 ds, r) else none

/-- The directive behind a percent sign, and what follows it. -/
def ofChars? (cs : List Char) : Option (Directive × List Char) := do
  let (flags, cs) := cs.span isFlag
  let (width, cs) ← count? cs
  let (precision, cs) ← match cs with
    | '.' :: r => (count? r).map fun (n, r) => (some n, r)
    | r => some (none, r)
  match cs with
  | kind :: r => some (⟨flags, width, precision, kind⟩, r)
  | [] => none

variable (d : Directive)

/-- The flags that go with a kind, and whether a precision does; nothing for other kinds. -/
def modifiers? : Char → Option (List Char × Bool)
  | 'd' | 'i' => some (['-', '+', '0', ' '], true)
  | 'u' => some (['-', '0'], true)
  | 'c' => some (['-'], false)
  | 'o' | 'x' | 'X' => some (['-', '#', '0'], true)
  | 'a' | 'A' | 'e' | 'E' | 'f' | 'g' | 'G' => some (['-', '+', '#', '0', ' '], true)
  | 's' => some (['-'], true)
  | 'q' => some ([], false)
  | _ => none

/-- Whether it says no more than what is laid out. -/
def isPlain : Bool := d.flags.isEmpty && d.width == 0 && d.precision.isNone

/-- Whether the directive makes sense. -/
def isAllowed : Bool :=
  match modifiers? d.kind with
  | none => false
  | some (flags, precise) =>
    d.flags.all flags.contains && (precise || d.precision.isNone) && (d.kind != 'q' || d.isPlain)

/-- Whether a flag is set. -/
def has (c : Char) : Bool := d.flags.contains c

/-- Fills up to the width with blanks. -/
def fill (cs : Bytes) : Bytes :=
  let blanks := List.replicate (d.width - cs.length) 32
  if d.has '-' then cs ++ blanks else blanks ++ cs

/-- Fills up to the width: with zeros behind the sign, or with blanks. -/
def fillNumber (zeros : Bool) (sign : List Char) (digits : List Char) : Bytes :=
  let asBytes (cs : List Char) : Bytes := cs.map fun c => UInt8.ofNat c.toNat
  if zeros && d.has '0' && !d.has '-' then
    asBytes (sign ++ List.replicate (d.width - sign.length - digits.length) '0' ++ digits)
  else d.fill (asBytes (sign ++ digits))

/-- The sign of a number. -/
def sign (negative : Bool) : List Char :=
  if negative then ['-'] else if d.has '+' then ['+'] else if d.has ' ' then [' '] else []

/-- Digits of a whole number, at least as many as the precision says. -/
def digits (base n : Nat) : List Char :=
  let ds := Nat.toDigits base n
  match d.precision with
  | none => ds
  | some p => if p = 0 ∧ n = 0 then [] else List.replicate (p - ds.length) '0' ++ ds

/-- Lays out a whole number in base ten. -/
def whole (n : Int) : Bytes :=
  d.fillNumber d.precision.isNone (d.sign (n < 0)) (d.digits 10 n.natAbs)

/-- Lays out the bits of a whole number in another base. -/
def bits (base : Nat) (n : Int64) : Bytes :=
  let v := n.toUInt64.toNat
  let ds := d.digits base v
  let ds := if d.kind = 'X' then ds.map Char.toUpper else ds
  let mark := if !d.has '#' then []
    else if base = 8 then (if ds.head? = some '0' then [] else ['0'])
    else if v = 0 then [] else ['0', d.kind]
  d.fillNumber d.precision.isNone mark ds

/-- The precision of floating point numbers, unless another one is given. -/
def standardPrecision : Nat := 6

/-- The text of a number with a point in it, if the flag for that is set. -/
def pointed (cs : List Char) : List Char :=
  if d.has '#' && !cs.contains '.' then
    let (front, r) := cs.span fun c => c != 'e' && c != 'p'
    front ++ '.' :: r
  else cs

/-- Lays out a floating point number. -/
def real (x : Float) : Bytes :=
  let upper (cs : List Char) : List Char := if d.kind.isUpper then cs.map Char.toUpper else cs
  match Binary64.ofFloat? x with
  | none =>
    let cs := Number.endlessText x
    let negative := cs.head? = some '-'
    d.fillNumber false (d.sign negative) (upper (if negative then cs.drop 1 else cs))
  | some b =>
    let p := d.precision.getD standardPrecision
    let positive := { b with negative := false }
    let sign := d.sign b.negative
    match d.kind.toLower with
    | 'a' =>
      let cs := d.pointed (positive.hexText d.precision)
      d.fillNumber true (sign ++ upper (cs.take 2)) (upper (cs.drop 2))
    | 'e' => d.fillNumber true sign (upper (d.pointed (positive.scientificText p)))
    | 'f' => d.fillNumber true sign (upper (d.pointed (positive.fixedText p)))
    | _ => d.fillNumber true sign (upper (d.pointed (positive.generalText p (d.has '#'))))

/-- Lays out a text. -/
def text (s : Bytes) : Bytes :=
  d.fill (match d.precision with
    | none => s
    | some p => s.take p)

/-- A text in quotes, as a script can read it. -/
def quoted : Bytes → Bytes
  | [] => [34]
  | b :: r =>
    let digitFollows := (r.head?.map fun c => (Char.ofNat c.toNat).isDigit).getD false
    if b = 34 ∨ b = 92 ∨ b = 10 then 92 :: b :: quoted r
    else if b < 32 ∨ b = 127 then
      let ds := Nat.toDigits 10 b.toNat
      let ds := if digitFollows then List.replicate (3 - ds.length) '0' ++ ds else ds
      92 :: ds.map (fun c => UInt8.ofNat c.toNat) ++ quoted r
    else b :: quoted r

/-- A number, as a script can read it. -/
def numeral : Number → String
  | .whole n => if n.toInt = Number.minWhole then "0x8000000000000000" else toString n.toInt
  | .real x =>
    match Binary64.ofFloat? x with
    | some b => String.ofList (b.hexText none)
    | none => if x.isNaN then "(0/0)" else if x < 0 then "-1e9999" else "1e9999"

/-- A value, as a script can read it. -/
def literal : Value → Except String Bytes
  | .text s => .ok (34 :: quoted s)
  | .nil => .ok (utf8 "nil")
  | .truth b => .ok (utf8 (if b then "true" else "false"))
  | .number n => .ok (utf8 (numeral n))
  | _ => .error "bad argument to 'format' (value has no literal form)"

/-- What is wrong with a value that a directive cannot lay out. -/
def complaint (v : Value) (expected : String) : String :=
  "bad argument to 'format' (" ++ expected ++ " expected, got " ++ v.typeName ++ ")"

/-- The whole number that a value stands for. -/
def wholeOf (v : Value) : Except String Int64 :=
  match v.number? with
  | none => .error (complaint v "number")
  | some n =>
    match n.whole? with
    | some n => .ok n
    | none => .error "bad argument to 'format' (number has no integer representation)"

/-- Lays out a value, which has a text. -/
def apply (v : Value) (textOf : Value) : Except String Bytes :=
  if !d.isAllowed then .error "invalid conversion to 'format'"
  else
    match d.kind with
    | 'd' | 'i' => (wholeOf v).map fun n => d.whole n.toInt
    | 'u' => (wholeOf v).map fun n => d.whole n.toUInt64.toNat
    | 'c' => (wholeOf v).map fun n => d.fill [n.toUInt64.toUInt8]
    | 'o' => (wholeOf v).map (d.bits 8)
    | 'x' | 'X' => (wholeOf v).map (d.bits 16)
    | 'q' => literal v
    | 's' =>
      let s := match textOf with
        | .nil => utf8 "nil"
        | .truth b => utf8 (if b then "true" else "false")
        | v => v.text?.getD (utf8 v.typeName)
      if !d.isPlain && s.contains 0 then
        .error "bad argument to 'format' (string contains zeros)"
      else .ok (d.text s)
    | _ =>
      match v.number? with
      | some n => .ok (d.real n.toFloat)
      | none => .error (complaint v "number")

end Directive

/-- Lays out values as a format says; every value comes with its text. The first argument bounds the
number of characters that are read. -/
def formatted : Nat → List Char → List Value → Except String Bytes
  | _, [], _ => .ok []
  | 0, _ :: _, _ => .error "invalid format"
  | n + 1, '%' :: '%' :: r, vs => (formatted n r vs).map fun bs => 37 :: bs
  | n + 1, '%' :: r, vs =>
    match Directive.ofChars? r, vs with
    | none, _ => .error "invalid conversion to 'format'"
    | some (d, r), v :: textOf :: vs => do
      let bs ← d.apply v textOf
      return bs ++ (← formatted n r vs)
    | some _, _ => .error "bad argument to 'format' (no value)"
  | n + 1, c :: r, vs => (formatted n r vs).map fun bs => UInt8.ofNat c.toNat :: bs

end Fieldbus.Scripting
