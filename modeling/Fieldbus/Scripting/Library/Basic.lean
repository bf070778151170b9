import Fieldbus.Scripting.Heap

/-!
# Functions that are built in: the basic ones

* `Action`: what a function does with the heap; it may complain.
* `Library.text`, `Library.whole`, and so on: arguments of a certain kind.
* `Library.basic`: the functions on values of every kind.
-/

namespace Fieldbus.Scripting

/-- What a function does with the heap. It may complain. -/
abbrev Action (α : Type) := ExceptT String (StateM Heap) α

/-- A function that is built in, with its name. -/
abbrev Entry := String × (List Value → Action (List Value))

namespace Library

/-! ## Arguments -/

/-- An argument, by its place from zero on. -/
def arg (vs : List Value) (i : Nat) : Value := (vs[i]?).getD .nil

/-- What is wrong with an argument. -/
def badArgument (f : String) (i : Nat) (what : String) : String :=
  "bad argument #" ++ toString (i + 1) ++ " to '" ++ f ++ "' (" ++ what ++ ")"

/-- Complains that an argument is of the wrong kind. -/
def wrongKind {α : Type} (f : String) (vs : List Value) (i : Nat) (expected : String) : Action α :=
  let got := match vs[i]? with
    | some v => v.typeName
    | none => "no value"
  throw (badArgument f i (expected ++ " expected, got " ++ got))

/-- Complains that an argument is missing. -/
def needed (f : String) (vs : List Value) (i : Nat) : Action Unit := do
  if vs.length ≤ i then throw (badArgument f i "value expected")

/-- A text, or the text of a number. -/
def text (f : String) (vs : List Value) (i : Nat) : Action Bytes :=
  match (arg vs i).text? with
  | some s => return s
  | none => wrongKind f vs i "string"

/-- A number, or what a text spells. -/
def number (f : String) (vs : List Value) (i : Nat) : Action Number :=
  match (arg vs i).number? with
  | some n => return n
  | none => wrongKind f vs i "number"

/-- A whole number. -/
def whole (f : String) (vs : List Value) (i : Nat) : Action Int := do
  match (← number f vs i).whole? with
  | some n => return n.toInt
  | none => throw (badArgument f i "number has no integer representation")

/-- A whole number, if it is given. -/
def wholeOr (f : String) (vs : List Value) (i : Nat) (standard : Int) : Action Int :=
  if (arg vs i).isNil then return standard else whole f vs i

/-- A table. -/
def table (f : String) (vs : List Value) (i : Nat) : Action Nat :=
  match arg vs i with
  | .table place => return place
  | _ => wrongKind f vs i "table"

/-! ## Functions -/

/-- The name of the type of a value. -/
def typeOf (vs : List Value) : Action (List Value) := do
  needed "type" vs 0
  return [.ofString (arg vs 0).typeName]

/-- The text of a value that has no say in it. -/
def plainText (v : Value) : Bytes :=
  match v with
  | .nil => utf8 "nil"
  | .truth b => utf8 (if b then "true" else "false")
  | .number n => utf8 n.text
  | .text s => s
  | .table place => utf8 ("table: 0x" ++ toString place)
  | .function place => utf8 ("function: 0x" ++ toString place)
  | .builtin name => utf8 ("function: builtin: " ++ name)
  | .thread place => utf8 ("thread: 0x" ++ toString place)

/-- The value under a key of a table as it is. -/
def rawGet (vs : List Value) : Action (List Value) := do
  let t ← table "rawget" vs 0
  return [(← get).get t (arg vs 1)]

/-- Puts a value under a key of a table as it is. -/
def rawSet (vs : List Value) : Action (List Value) := do
  let t ← table "rawset" vs 0
  match Heap.keyFault? (arg vs 1) with
  | some message => throw message
  | none =>
    modify fun h => h.set t (arg vs 1) (arg vs 2)
    return [arg vs 0]

/-- The length of a table or a text as it is. -/
def rawLength (vs : List Value) : Action (List Value) := do
  match arg vs 0 with
  | .table t => return [.ofNat ((← get).table t).length]
  | .text s => return [.ofNat s.length]
  | _ => wrongKind "rawlen" vs 0 "table or string"

/-- The pair of a table that follows a key. -/
def next (vs : List Value) : Action (List Value) := do
  let t ← table "next" vs 0
  match ((← get).table t).next? (arg vs 1) with
  | none => throw "invalid key to 'next'"
  | some none => return [.nil]
  | some (some (key, v)) => return [key, v]

/-- The arguments from one on, or their number. -/
def select (vs : List Value) : Action (List Value) := do
  let rest := vs.tail
  match arg vs 0 with
  | .text [35] => return [.ofNat rest.length]
  | _ =>
    let n ← whole "select" vs 0
    if n < 0 then
      if n + rest.length < 0 then throw (badArgument "select" 0 "index out of range")
      return rest.drop (n + rest.length).toNat
    if n = 0 then throw (badArgument "select" 0 "index out of range")
    return rest.drop (n - 1).toNat

/-- The whole number that digits of a base spell, with a sign and white space around them. -/
def inBase? (base : Nat) (cs : List Char) : Option Int :=
  let cs := (((cs.dropWhile isSpace).reverse.dropWhile isSpace).reverse)
  let (negative, ds) := match cs with
    | '-' :: r => (true, r)
    | r => (false, r)
  if ds ≠ [] ∧ ds.all (fun c => (digitValue? c).any (· < base)) then
    some (if negative then -(spelled base ds : Int) else spelled base ds)
  else none

/-- The number that a value is or spells. -/
def toNumber (vs : List Value) : Action (List Value) := do
  if (arg vs 1).isNil then
    needed "tonumber" vs 0
    return [((arg vs 0).number?.map Value.number).getD .nil]
  let base ← whole "tonumber" vs 1
  match arg vs 0 with
  | .text s =>
    if base < 2 ∨ 36 < base then throw (badArgument "tonumber" 1 "base out of range")
    return [((inBase? base.toNat (s.map fun b => Char.ofNat b.toNat)).map Value.ofInt).getD .nil]
  | _ => wrongKind "tonumber" vs 0 "string"

/-- The metatable of a value, or what it shows instead. -/
def getMetatable (vs : List Value) : Action (List Value) := do
  needed "getmetatable" vs 0
  let h ← get
  match h.meta? (arg vs 0) with
  | none => return [.nil]
  | some place =>
    match h.get place (.ofString "__metatable") with
    | .nil => return [.table place]
    | v => return [v]

/-- Gives a table a metatable, or takes it away. -/
def setMetatable (vs : List Value) : Action (List Value) := do
  let t ← table "setmetatable" vs 0
  let m? : Option Nat ← match vs[1]? with
    | some Value.nil => pure none
    | some (Value.table m) => pure (some m)
    | _ => wrongKind "setmetatable" vs 1 "nil or table"
  if !((← get).handler (.table t) "__metatable").isNil then
    throw "cannot change a protected metatable"
  modify fun h => h.modify t fun t => { t with meta? := m? }
  return [.table t]

/-- What the metatable of a value holds for an event. -/
def handlerOf (vs : List Value) : Action (List Value) := do
  match arg vs 1 with
  | .text event =>
    match (← get).meta? (arg vs 0) with
    | none => return [.nil]
    | some place => return [(← get).get place (.text event)]
  | _ => return [.nil]

/-- The functions on values of every kind. -/
def basic : List Entry :=
  [("type", typeOf), ("rawget", rawGet), ("rawset", rawSet), ("rawlen", rawLength),
    ("rawequal", fun vs => return [.truth ((arg vs 0).same (arg vs 1))]), ("next", next),
    ("select", select), ("tonumber", toNumber), ("getmetatable", getMetatable),
    ("setmetatable", setMetatable), ("hidden.handler", handlerOf),
    ("hidden.tostring", fun vs => return [.text (plainText (arg vs 0))])]

end Library

end Fieldbus.Scripting
