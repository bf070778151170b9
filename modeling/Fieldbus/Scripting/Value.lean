import Fieldbus.Scripting.Tree

/-!
# Values of scripts

Tables, functions and coroutines are shared: values refer to them by their places.

* `Value`: the values.
* `Table`: items at `1`, `2`, and so on, and everything else in the order in which it came.
-/

namespace Fieldbus.Scripting

/-- A value. -/
inductive Value where
  | nil
  | truth (b : Bool)
  | number (n : Number)
  | text (s : Bytes)
  /-- A table, by its place. -/
  | table (place : Nat)
  /-- A function of a script, by its place. -/
  | function (place : Nat)
  /-- A function that is built in, by its name. -/
  | builtin (name : String)
  /-- A coroutine, by its place. -/
  | thread (place : Nat)
  deriving Inhabited

namespace Value

/-- The name of the type of a value. -/
def typeName : Value → String
  | nil => "nil"
  | truth _ => "boolean"
  | number _ => "number"
  | text _ => "string"
  | table _ => "table"
  | function _ | builtin _ => "function"
  | thread _ => "thread"

/-- Whether a value counts as true: everything does but `nil` and `false`. -/
def isTrue : Value → Bool
  | nil => false
  | truth b => b
  | _ => true

/-- Whether a value is missing. -/
def isNil : Value → Bool
  | nil => true
  | _ => false

/-- Whether two values are the same. Numbers are compared by what they stand for. -/
def same : Value → Value → Bool
  | nil, nil => true
  | truth a, truth b => a == b
  | number a, number b => a.compare? b == some .eq
  | text a, text b => a == b
  | table a, table b => a == b
  | function a, function b => a == b
  | builtin a, builtin b => a == b
  | thread a, thread b => a == b
  | _, _ => false

/-- A whole number. -/
def ofInt (n : Int) : Value := .number (.whole (Int64.ofInt n))

/-- A size. -/
def ofNat (n : Nat) : Value := ofInt n

/-- A text. -/
def ofString (s : String) : Value := .text (utf8 s)

/-- The number that a value is, or spells. -/
def number? : Value → Option Number
  | number n => some n
  | text s => Number.ofChars? (s.map fun b => Char.ofNat b.toNat)
  | _ => none

/-- The whole number that a value is, or spells. -/
def whole? (v : Value) : Option Int64 := v.number?.bind Number.whole?

/-- The text that a value is, or that a number has. -/
def text? : Value → Option Bytes
  | text s => some s
  | number n => some (utf8 n.text)
  | _ => none

/-- The key that a value counts as: floating point numbers count as whole ones where they can. -/
def asKey : Value → Value
  | number n => number ((n.whole?.map Number.whole).getD n)
  | v => v

end Value

/-- The first of some values. -/
def firstOf (vs : List Value) : Value := vs.head?.getD .nil

/-! ## Tables -/

/-- A table. -/
structure Table where
  /-- The items at `1`, `2`, and so on; some may be missing. -/
  items : Array Value := #[]
  /-- Everything else, in order. A value that was taken away leaves its key behind. -/
  others : List (Value × Value) := []
  /-- The metatable, by its place. -/
  meta? : Option Nat := none

namespace Table

/-- The place of a key among the items, or right behind them. -/
def itemPlace? (t : Table) : Value → Option Nat
  | .number (.whole n) =>
    let i := n.toInt
    if 1 ≤ i ∧ i ≤ t.items.size + 1 then some (i.toNat - 1) else none
  | _ => none

/-- What lies under a key that is no item. -/
def other (t : Table) (key : Value) : Value :=
  ((t.others.find? fun p => p.1.same key).map Prod.snd).getD .nil

/-- What lies under a key. -/
def get (t : Table) (key : Value) : Value :=
  let key := key.asKey
  match t.itemPlace? key with
  | some i => (t.items[i]?).getD (t.other key)
  | none => t.other key

/-- Puts a value under a key among pairs, in its place or at the end. -/
def put (key v : Value) : List (Value × Value) → List (Value × Value)
  | [] => if v.isNil then [] else [(key, v)]
  | p :: ps => if p.1.same key then (p.1, v) :: ps else p :: put key v ps

/-- Moves what lies right behind the items into them; at most `n` times. -/
def gather (t : Table) : Nat → Table
  | 0 => t
  | n + 1 =>
    let key := Value.ofNat (t.items.size + 1)
    match t.other key with
    | .nil => t
    | v => gather { t with
        items := t.items.push v, others := t.others.filter fun p => !p.1.same key } n

/-- Puts a value under a key. -/
def set (t : Table) (key v : Value) : Table :=
  let key := key.asKey
  match t.itemPlace? key with
  | some i =>
    if h : i < t.items.size then { t with items := t.items.set i v h }
    else if v.isNil then { t with others := put key v t.others }
    else
      let t := { t with
        items := t.items.push v, others := t.others.filter fun p => !p.1.same key }
      t.gather t.others.length
  | none => { t with others := put key v t.others }

/-- Puts items into a table, in place of what it holds under their keys. -/
def withItems (t : Table) (vs : List Value) : Table :=
  let others := t.items.toList.mapIdx (fun i v => (Value.ofNat (i + 1), v)) ++ t.others
  let kept := others.filter fun p => match p.1 with
    | .number (.whole n) => !(1 ≤ n.toInt && n.toInt ≤ vs.length)
    | _ => true
  { t with items := vs.toArray, others := kept }.gather kept.length

/-- A place below `high` where an item is there and the next one is missing, if there is an item
right below `low` and none at `high`. The places are halved at most `n` times. -/
def border (items : Array Value) : Nat → Nat → Nat → Nat
  | 0, low, _ => low
  | n + 1, low, high =>
    if high ≤ low + 1 then low
    else
      let middle := (low + high) / 2
      if ((items[middle - 1]?).getD .nil).isNil then border items n low middle
      else border items n middle high

/-- The length: a number of items after which one is missing. -/
def length (t : Table) : Nat :=
  let n := t.items.size
  match t.items.back? with
  | some .nil =>
    if 2 ≤ n ∧ !((t.items[n - 2]?).getD .nil).isNil then n - 1 else border t.items 64 0 n
  | _ => n

/-- The first of the next `n` items that is there, from a place on, with its key. -/
def itemFrom? (items : Array Value) : Nat → Nat → Option (Value × Value)
  | 0, _ => none
  | n + 1, i =>
    match items[i]? with
    | none => none
    | some .nil => itemFrom? items n (i + 1)
    | some v => some (.ofNat (i + 1), v)

/-- The first pair that is there, from the item at a place on. -/
def firstFrom (t : Table) (i : Nat) : Option (Value × Value) :=
  (itemFrom? t.items t.items.size i).or (t.others.find? fun p => !p.2.isNil)

/-- The pair that follows a key; the first one follows `nil`. There is none for a key that was never
there. -/
def next? (t : Table) (key : Value) : Option (Option (Value × Value)) :=
  let key := key.asKey
  match key with
  | .nil => some (t.firstFrom 0)
  | _ =>
    match (t.itemPlace? key).filter (· < t.items.size) with
    | some i => some (t.firstFrom (i + 1))
    | none =>
      match t.others.dropWhile fun p => !p.1.same key with
      | [] => none
      | _ :: r => some (r.find? fun p => !p.2.isNil)

end Table

end Fieldbus.Scripting
