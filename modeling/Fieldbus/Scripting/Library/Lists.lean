import Fieldbus.Scripting.Library.Basic

/-!
# Functions that are built in: lists

The items of a table at `1`, `2`, and so on are a list.

* `Library.ofLists`: the functions on lists.
-/

namespace Fieldbus.Scripting.Library

/-- The greatest number of values that a list is taken apart into. -/
def maxUnpacked : Int := 999000

/-- The value at a place of a list. -/
def itemAt (t : Nat) (i : Int) : Action Value := return (← get).get t (.ofInt i)

/-- Puts a value at a place of a list. -/
def putAt (t : Nat) (i : Int) (v : Value) : Action Unit := modify fun h => h.set t (.ofInt i) v

/-- The length of a list. -/
def lengthOf (t : Nat) : Action Int := return ((← get).table t).length

/-- The places from one to another. -/
def places (first last : Int) : List Int :=
  (List.range (last - first + 1).toNat).map fun i => first + Int.ofNat i

/-- Moves the items from one place to another by one place up. -/
def shiftUp (t : Nat) (first last : Int) : Action Unit :=
  (places first last).reverse.forM fun i => do putAt t (i + 1) (← itemAt t i)

/-- Moves the items behind a place, up to another one, by one place down. -/
def shiftDown (t : Nat) (first last : Int) : Action Unit := do
  (places first (last - 1)).forM fun i => do putAt t i (← itemAt t (i + 1))
  putAt t last .nil

/-- Adds an item at the end or at a place. -/
def insert (vs : List Value) : Action (List Value) := do
  let t ← table "insert" vs 0
  let n ← lengthOf t
  match vs with
  | [_, v] => putAt t (n + 1) v
  | [_, _, v] =>
    let i ← whole "insert" vs 1
    if i < 1 ∨ n + 1 < i then throw (badArgument "insert" 1 "position out of bounds")
    shiftUp t i n
    putAt t i v
  | _ => throw "wrong number of arguments to 'insert'"
  return []

/-- Takes an item away, at the end or at a place. -/
def remove (vs : List Value) : Action (List Value) := do
  let t ← table "remove" vs 0
  let n ← lengthOf t
  let i ← wholeOr "remove" vs 1 n
  if i ≠ n ∧ (i < 1 ∨ n + 1 < i) then throw (badArgument "remove" 1 "position out of bounds")
  let v ← itemAt t i
  if i < n then shiftDown t i n else putAt t i .nil
  return [v]

/-- The texts of the items, one after the other, with a separator. -/
def concat (vs : List Value) : Action (List Value) := do
  let t ← table "concat" vs 0
  let separator ← if (arg vs 1).isNil then pure [] else text "concat" vs 1
  let first ← wholeOr "concat" vs 2 1
  let last ← wholeOr "concat" vs 3 (← lengthOf t)
  let parts ← (places first last).mapM fun i => do
    match (← itemAt t i).text? with
    | some s => pure s
    | none => throw ("invalid value (at index " ++ toString i ++ ") in table for 'concat'")
  return [.text (List.intercalate separator parts)]

/-- The items as values. -/
def unpack (vs : List Value) : Action (List Value) := do
  let first ← wholeOr "unpack" vs 1 1
  match arg vs 0 with
  | .table t =>
    let last ← wholeOr "unpack" vs 2 (← lengthOf t)
    if maxUnpacked < last - first then throw "too many results to unpack"
    (places first last).mapM (itemAt t)
  | _ => throw ("attempt to index a " ++ (arg vs 0).typeName ++ " value")

/-- The arguments as a table, with their number. -/
def pack (vs : List Value) : Action (List Value) := do
  let t : Table := { items := vs.toArray, others := [(.ofString "n", .ofNat vs.length)] }
  return [← modifyGet fun h => h.addTable t]

/-- Puts a part of a list into a list. -/
def move (vs : List Value) : Action (List Value) := do
  let source ← table "move" vs 0
  let first ← whole "move" vs 1
  let last ← whole "move" vs 2
  let goal ← whole "move" vs 3
  let target ← if (arg vs 4).isNil then pure source else table "move" vs 4
  let offsets := (List.range (last - first + 1).toNat).map Int.ofNat
  let offsets := if first < goal ∧ goal ≤ last ∧ source = target then offsets.reverse else offsets
  offsets.forM fun i => do putAt target (goal + i) (← itemAt source (first + i))
  return [.table target]

/-- The functions on lists. -/
def ofLists : List Entry :=
  [("table.insert", insert), ("table.remove", remove), ("table.concat", concat),
    ("table.unpack", unpack), ("table.pack", pack), ("table.move", move)]

end Fieldbus.Scripting.Library
