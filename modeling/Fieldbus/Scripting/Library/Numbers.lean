import Fieldbus.Scripting.Library.Basic
import Fieldbus.Scripting.Operator

/-!
# Functions that are built in: numbers

* `Library.ofNumbers`: the functions on numbers.
* `Library.constants`: the numbers that have a name.
-/

namespace Fieldbus.Scripting.Library

/-- A floating point number as a value. -/
def ofReal (x : Float) : Value := .number (.real x)

/-- A function of floating point numbers. -/
def realFunction (name : String) (f : Float → Float) : Entry :=
  ("math." ++ name, fun vs => return [ofReal (f (← number name vs 0).toFloat)])

/-- A number rounded to a whole one, if it is small enough. -/
def rounded (name : String) (f : Float → Float) (vs : List Value) : Action (List Value) := do
  match ← number name vs 0 with
  | .whole n => return [.number (.whole n)]
  | .real x =>
    let r := Number.real (f x)
    return [.number ((r.whole?.map Number.whole).getD r)]

/-- The number that comes first among some, by an order. -/
def extreme (name : String) (before : Number → Number → Bool) (vs : List Value) :
    Action (List Value) := do
  let n ← number name vs 0
  let rest ← (List.range (vs.length - 1)).mapM fun i => number name vs (i + 1)
  return [.number (rest.foldl (fun best m => if before m best then m else best) n)]

/-- The size of a number. -/
def absolute (vs : List Value) : Action (List Value) := do
  match ← number "abs" vs 0 with
  | .whole n => return [.number (.whole (if n < 0 then -n else n))]
  | .real x => return [ofReal (Float.abs x)]

/-- The remainder of a division, with the sign of the dividend. -/
def remainder (vs : List Value) : Action (List Value) := do
  match ← number "fmod" vs 0, ← number "fmod" vs 1 with
  | .whole a, .whole b =>
    if b = 0 then throw (badArgument "fmod" 1 "zero")
    return [.ofInt (Int.tmod a.toInt b.toInt)]
  | a, b => return [ofReal (Number.realRem a.toFloat b.toFloat)]

/-- A floating point number without its places after the point. -/
def truncated (x : Float) : Float := if x < 0 then Float.ceil x else Float.floor x

/-- A number as a whole part and a rest. -/
def parts (vs : List Value) : Action (List Value) := do
  let x := (← number "modf" vs 0).toFloat
  let front := truncated x
  let rest := if x.isInf then 0.0 else x - front
  return [ofReal front, ofReal rest]

/-- The whole number of the same value, if there is one. -/
def toInteger (vs : List Value) : Action (List Value) := do
  needed "tointeger" vs 0
  return [((arg vs 0).whole?.map fun n => .number (.whole n)).getD .nil]

/-- Whether a number is a whole one. -/
def kindOf (vs : List Value) : Action (List Value) := do
  needed "type" vs 0
  match arg vs 0 with
  | .number (.whole _) => return [.ofString "integer"]
  | .number (.real _) => return [.ofString "float"]
  | _ => return [.nil]

/-- Whether the bits of a whole number come before those of another one. -/
def bitsBelow (vs : List Value) : Action (List Value) := do
  let a ← whole "ult" vs 0
  let b ← whole "ult" vs 1
  return [.truth (decide ((Int64.ofInt a).toUInt64 < (Int64.ofInt b).toUInt64))]

/-- The logarithm of a number to a base. -/
def logarithm (vs : List Value) : Action (List Value) := do
  let x := (← number "log" vs 0).toFloat
  if (arg vs 1).isNil then return [ofReal (Float.log x)]
  let base := (← number "log" vs 1).toFloat
  if base == 2 then return [ofReal (Float.log2 x)]
  if base == 10 then return [ofReal (Float.log10 x)]
  return [ofReal (Float.log x / Float.log base)]

/-- The angle of a point. -/
def arcTangent (vs : List Value) : Action (List Value) := do
  let y := (← number "atan" vs 0).toFloat
  let x ← if (arg vs 1).isNil then pure 1.0 else return [ofReal (Float.atan2 y
    (← number "atan" vs 1).toFloat)]
  return [ofReal (Float.atan2 y x)]

/-- A number of a range. There is no chance here: it is the least one. -/
def chosen (vs : List Value) : Action (List Value) := do
  match vs with
  | [] => return [ofReal 0.5]
  | _ =>
    let low ← if vs.length = 1 then pure 1 else whole "random" vs 0
    let high ← whole "random" vs (vs.length - 1)
    if high < low then throw (badArgument "random" (vs.length - 1) "interval is empty")
    return [.ofInt low]

/-- The number whose circle has the circumference two. -/
def pi : Float := 3.141592653589793

/-- The functions on numbers. -/
def ofNumbers : List Entry :=
  [("math.abs", absolute), ("math.ceil", rounded "ceil" Float.ceil),
    ("math.floor", rounded "floor" Float.floor),
    ("math.max", extreme "max" fun m best => best.less m),
    ("math.min", extreme "min" fun m best => m.less best), ("math.fmod", remainder),
    ("math.modf", parts), ("math.tointeger", toInteger), ("math.type", kindOf),
    ("math.ult", bitsBelow), ("math.log", logarithm), ("math.atan", arcTangent),
    ("math.random", chosen), ("math.randomseed", fun _ => return []),
    realFunction "sqrt" Float.sqrt, realFunction "exp" Float.exp, realFunction "sin" Float.sin,
    realFunction "cos" Float.cos, realFunction "tan" Float.tan, realFunction "asin" Float.asin,
    realFunction "acos" Float.acos, realFunction "deg" fun x => x * (180.0 / pi),
    realFunction "rad" fun x => x * (pi / 180.0)]

/-- The numbers that have a name. -/
def constants : List (String × Value) :=
  [("math.pi", ofReal pi), ("math.huge", ofReal (Binary64.infinity false)),
    ("math.maxinteger", .ofInt Number.maxWhole), ("math.mininteger", .ofInt Number.minWhole)]

end Fieldbus.Scripting.Library
