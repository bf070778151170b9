import Fieldbus.Plugin.Script
import Fieldbus.Scripting.Prelude

/-!
# Sources of scripts

A source is run once. Then its entry function is called with an empty table, and the functions that
it registered are called with payloads; all of them share a heap.

* `Source.scalar`: a value as the host sees it.
* `Source.call`, `Source.look`: what the host does with values.
* `Source.script`: the script of a source, and the heap that it leaves behind.
-/

namespace Fieldbus.Source

open Scripting (Heap Value)

/-- A value as the host sees it. -/
def scalar : Value → Scalar
  | .nil => .nil
  | .truth b => .boolean b
  | .number (.whole n) => .integer n.toInt
  | .number n => .number n.text
  | .text s => .string s
  | .table _ => .table
  | .function _ | .builtin _ => .function
  | .thread _ => .thread

/-- The first value of a result. -/
def firstValue : Scripting.Machine.Result → Except ScriptError Value
  | .ok vs => .ok (Scripting.firstOf vs)
  | .error _ => .error {}

/-- Calls a value. -/
def call (f : Value) (args : List Value) (h : Heap) : Except ScriptError Value × Heap :=
  let (result, h) := Scripting.Machine.callFromHost h f args
  (firstValue result, h)

/-- Looks into a value. -/
def look (v : Value) (key : String) (h : Heap) : Except ScriptError Value × Heap :=
  let (result, h) := Scripting.Machine.run Scripting.Machine.patience
    (Scripting.Machine.look h [] 0 {} v (.ofString key))
  (firstValue result, h)

/-- A function of a script as the host calls it: with a payload and its length. -/
def payloadFunction (f : Value) : ScriptFunction Heap := fun input h =>
  let (result, h) := call f [.text input, .ofNat input.length] h
  (result.map scalar, h)

/-- What a script put in the place of a function. -/
def registered (v : Value) : Registered Heap :=
  if Heap.isFunction v then .function (payloadFunction v) else .value (scalar v)

/-- Whether a value may stand in the place of a function: as one, or as nothing. -/
def mayStand (v : Value) : Bool := v.isNil || Heap.isFunction v

/-- What the entry function gave: a table, by what it holds for the two directions, or another
value. If what is there for the first direction is refused, the second one is not looked at. -/
def returned (v : Value) (h : Heap) : Except ScriptError (Returned Heap) × Heap :=
  match v with
  | .table _ =>
    match look v Direction.north.field h with
    | (.error e, h) => (.error e, h)
    | (.ok north, h) =>
      if mayStand north then
        match look v Direction.south.field h with
        | (.error e, h) => (.error e, h)
        | (.ok south, h) => (.ok (.table (registered north) (registered south)), h)
      else (.ok (.table (registered north) (.value .nil)), h)
  | v => (.ok (.value (scalar v)), h)

/-- What the entry function does when it is called with an empty table. -/
def register (entry : Value) (h : Heap) : Except ScriptError (Returned Heap) × Heap :=
  let (t, h) := h.addTable {}
  match call entry [t] h with
  | (.error e, h) => (.error e, h)
  | (.ok v, h) => returned v h

/-- The script of a source, and the heap that it leaves behind; `path` names it. -/
def script (path : String) (source : Bytes) : Script Heap × Heap :=
  let h := Scripting.Prelude.heap
  match Scripting.readScript? source with
  | none => (.error {}, h)
  | some body =>
    let (f, h) := Scripting.Machine.program h path body
    match call f [] h with
    | (.error e, h) => (.error e, h)
    | (.ok _, h) =>
      match look (.table h.globals) entryName h with
      | (.error e, h) => (.error e, h)
      | (.ok entry, h) =>
        if Heap.isFunction entry then
          let (r, h) := register entry h
          (.ok (some r), h)
        else (.ok none, h)

end Fieldbus.Source
