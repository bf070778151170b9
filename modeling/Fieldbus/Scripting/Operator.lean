import Fieldbus.Scripting.Heap

/-!
# Operators on values

What the operators give for values that have no say in it themselves. Whole numbers wrap around;
division and remainder go to the floor.

* `Number.arithmetic`: the arithmetic of numbers.
* `UnaryOp.apply?`, `BinaryOp.apply?`: an operator on values; `none` where a metatable may help.
* `UnaryOp.event`, `BinaryOp.event`: the names under which metatables hold operators.
* `BinaryOp.complaint`: what is wrong with operands that have no operator.
-/

namespace Fieldbus.Scripting

namespace Number

/-- The quotient of two whole numbers, down to the next one. -/
def floorDiv (a b : Int64) : Except String Int64 :=
  if b = 0 then .error "attempt to perform 'n//0'" else .ok (Int64.ofInt (Int.fdiv a.toInt b.toInt))

/-- The remainder of two whole numbers, with the sign of the divisor. -/
def floorMod (a b : Int64) : Except String Int64 :=
  if b = 0 then .error "attempt to perform 'n%%0'" else .ok (Int64.ofInt (Int.fmod a.toInt b.toInt))

/-- What is no number. -/
def undefinedReal : Float := 0.0 / 0.0

/-- The remainder of two floating point numbers, with the sign of the dividend. -/
def realRem (a b : Float) : Float :=
  match Binary64.ofFloat? a, Binary64.ofFloat? b with
  | some x, some y => if y.significand = 0 then undefinedReal else x.remainder y
  | some _, none => if b.isNaN then b else a
  | none, _ => undefinedReal

/-- The remainder of two floating point numbers, with the sign of the divisor. -/
def realMod (a b : Float) : Float :=
  let r := realRem a b
  if (r > 0 && b < 0) || (r < 0 && b > 0) then r + b else r

/-- The power of two floating point numbers. -/
def realPow (a b : Float) : Float := if b == 2 then a * a else Float.pow a b

/-- A whole number shifted to the left, or to the right if the distance is negative. Zeros move in.
-/
def shift (a : Int64) (distance : Int) : Int64 :=
  let bits := a.toUInt64.toNat
  let moved := if 0 ≤ distance then (if distance < 64 then bits * Nat.pow 2 distance.toNat else 0)
    else bits / Nat.pow 2 (min (-distance) 64).toNat
  (UInt64.ofNat moved).toInt64

/-- The arithmetic operator on two numbers. -/
def arithmetic (op : BinaryOp) (a b : Number) : Except String Number :=
  match op, a, b with
  | .add, .whole m, .whole n => .ok (.whole (m + n))
  | .sub, .whole m, .whole n => .ok (.whole (m - n))
  | .mul, .whole m, .whole n => .ok (.whole (m * n))
  | .floorDiv, .whole m, .whole n => (floorDiv m n).map .whole
  | .mod, .whole m, .whole n => (floorMod m n).map .whole
  | .add, a, b => .ok (.real (a.toFloat + b.toFloat))
  | .sub, a, b => .ok (.real (a.toFloat - b.toFloat))
  | .mul, a, b => .ok (.real (a.toFloat * b.toFloat))
  | .floorDiv, a, b => .ok (.real (Float.floor (a.toFloat / b.toFloat)))
  | .mod, a, b => .ok (.real (realMod a.toFloat b.toFloat))
  | .pow, a, b => .ok (.real (realPow a.toFloat b.toFloat))
  | _, a, b => .ok (.real (a.toFloat / b.toFloat))

/-- The bitwise operator on two whole numbers. -/
def bitwise (op : BinaryOp) (a b : Int64) : Int64 :=
  match op with
  | .bitAnd => a &&& b
  | .bitOr => a ||| b
  | .bitXor => a ^^^ b
  | .shiftLeft => shift a b.toInt
  | _ => shift a (-b.toInt)

/-- The opposite of a number. -/
def neg : Number → Number
  | whole n => .whole (-n)
  | real x => .real (-x)

/-- Whether a number is below another one. -/
def less (a b : Number) : Bool := a.compare? b == some .lt

/-- Whether a number is not above another one. -/
def atMost (a b : Number) : Bool := a.less b || a.compare? b == some .eq

end Number

/-! ## Kinds of operators -/

/-- The arithmetic operators. -/
def BinaryOp.isArithmetic (op : BinaryOp) : Bool :=
  [add, sub, mul, mod, pow, div, floorDiv].contains op

/-- The bitwise operators. -/
def BinaryOp.isBitwise (op : BinaryOp) : Bool :=
  [bitAnd, bitOr, bitXor, shiftLeft, shiftRight].contains op

/-- The operators that compare. -/
def BinaryOp.compares (op : BinaryOp) : Bool :=
  [less, atMost, greater, atLeast].contains op

/-- The name under which metatables hold an operator. -/
def BinaryOp.event (op : BinaryOp) : String :=
  match op with
  | add => "__add" | sub => "__sub" | mul => "__mul" | mod => "__mod" | pow => "__pow"
  | div => "__div" | floorDiv => "__idiv" | bitAnd => "__band" | bitOr => "__bor"
  | bitXor => "__bxor" | shiftLeft => "__shl" | shiftRight => "__shr" | concat => "__concat"
  | eq | notEq => "__eq" | less | greater => "__lt" | atMost | atLeast => "__le"
  | and | or => ""

/-- The name under which metatables hold an operator. -/
def UnaryOp.event (op : UnaryOp) : String :=
  match op with
  | neg => "__unm" | length => "__len" | bitNot => "__bnot" | not => ""

/-! ## Operators on values -/

/-- Whether a text comes before another one, byte by byte. -/
def textLess (a b : Bytes) : Bool := decide (a < b)

/-- An arithmetic operator on values; texts count as what they spell. -/
def arithmetic? (op : BinaryOp) (a b : Value) : Option (Except String Value) :=
  match a.number?, b.number? with
  | some m, some n => some ((Number.arithmetic op m n).map .number)
  | _, _ => none

/-- A bitwise operator on values. -/
def bitwise? (op : BinaryOp) (a b : Value) : Option (Except String Value) :=
  match a, b with
  | .number m, .number n =>
    match m.whole?, n.whole? with
    | some m, some n => some (.ok (.number (.whole (Number.bitwise op m n))))
    | _, _ => some (.error "number has no integer representation")
  | _, _ => none

/-- Whether a value is below another one, or not above it. -/
def below? (strict : Bool) (a b : Value) : Option (Except String Value) :=
  match a, b with
  | .number m, .number n => some (.ok (.truth (if strict then m.less n else m.atMost n)))
  | .text s, .text t => some (.ok (.truth (if strict then textLess s t else !textLess t s)))
  | _, _ => none

/-- Whether two values are equal; two tables that are not the same may have a say in it. -/
def equal? (a b : Value) : Option Bool :=
  match a, b with
  | .table m, .table n => if m = n then some true else none
  | a, b => some (a.same b)

/-- An operator on two values; nothing where a metatable may help. -/
def BinaryOp.apply? (op : BinaryOp) (a b : Value) : Option (Except String Value) :=
  if op.isArithmetic then arithmetic? op a b
  else if op.isBitwise then bitwise? op a b
  else
    match op with
    | concat =>
      match a.text?, b.text? with
      | some s, some t => some (.ok (.text (s ++ t)))
      | _, _ => none
    | eq => (equal? a b).map fun e => .ok (.truth e)
    | notEq => (equal? a b).map fun e => .ok (.truth !e)
    | less => below? true a b
    | atMost => below? false a b
    | greater => below? true b a
    | _ => below? false b a

/-- An operator on a value; nothing where a metatable may help. -/
def UnaryOp.apply? (op : UnaryOp) (h : Heap) (a : Value) : Option (Except String Value) :=
  match op, a with
  | neg, a => a.number?.map fun n => .ok (.number n.neg)
  | not, a => some (.ok (.truth !a.isTrue))
  | length, .text s => some (.ok (.ofNat s.length))
  | length, .table p =>
    match h.handler a "__len" with
    | .nil => some (.ok (.ofNat (h.table p).length))
    | _ => none
  | bitNot, .number n =>
    match n.whole? with
    | some n => some (.ok (.number (.whole (~~~n))))
    | none => some (.error "number has no integer representation")
  | _, _ => none

/-! ## Complaints -/

/-- What is wrong with two operands that have no operator. -/
def BinaryOp.complaint (op : BinaryOp) (a b : Value) : String :=
  let culprit (ok : Value → Bool) : String := if ok a then b.typeName else a.typeName
  if op.compares then
    let (a, b) := if op = greater ∨ op = atLeast then (b, a) else (a, b)
    if a.typeName = b.typeName then "attempt to compare two " ++ a.typeName ++ " values"
    else "attempt to compare " ++ a.typeName ++ " with " ++ b.typeName
  else if op = concat then
    "attempt to concatenate a " ++ culprit (fun v => v.text?.isSome) ++ " value"
  else if op.isBitwise then
    "attempt to perform bitwise operation on a " ++
      culprit (fun v => v matches .number _) ++ " value"
  else "attempt to perform arithmetic on a " ++ culprit (fun v => v.number?.isSome) ++ " value"

/-- What is wrong with an operand that has no operator. -/
def UnaryOp.complaint (op : UnaryOp) (a : Value) : String :=
  match op with
  | length => "attempt to get length of a " ++ a.typeName ++ " value"
  | bitNot => "attempt to perform bitwise operation on a " ++ a.typeName ++ " value"
  | _ => "attempt to perform arithmetic on a " ++ a.typeName ++ " value"

end Fieldbus.Scripting
