import Fieldbus.Scripting.Library.Lists
import Fieldbus.Scripting.Library.Numbers
import Fieldbus.Scripting.Library.Packing
import Fieldbus.Scripting.Library.Text

/-!
# Functions that are built in

* `Library.entries`: all of them that need nothing but the heap.
* `Library.call`: calls one by its name.
* `Library.heap`: a heap in which scripts find them.
-/

namespace Fieldbus.Scripting.Library

/-- The functions that need nothing but the heap. -/
def entries : List Entry := basic ++ ofTexts ++ ofCharacters ++ ofPacking ++ ofLists ++ ofNumbers

/-- Calls a function by its name. -/
def call (name : String) (args : List Value) : Action (List Value) :=
  match entries.find? fun e => e.1 = name with
  | some (_, f) => f args
  | none => throw ("no function " ++ name)

/-- The functions that reach for the stack. -/
def reaching : List String :=
  ["error", "load", "pcall", "xpcall", "coroutine.create", "coroutine.resume", "coroutine.yield",
    "coroutine.status", "coroutine.running", "coroutine.isyieldable", "coroutine.close"]

/-- Everything that scripts find, by its name; what stands in front of a point is the table that it
lies in. -/
def everything : List (String × Value) :=
  (entries.map Prod.fst ++ reaching).map (fun name => (name, .builtin name)) ++ constants ++
    [("_VERSION", .ofString "Lua 5.4"), ("utf8.charpattern", .text
      ([91, 0, 45, 0x7F, 0xC2, 45, 0xFD, 93, 91, 0x80, 45, 0xBF, 93, 42]))]

/-- The tables of functions. -/
def tables : List String :=
  ["string", "table", "math", "utf8", "coroutine", "os", "io", "package", "hidden"]

/-- The place of a table of functions; global variables lie in front of them. -/
def tablePlace (name : String) : Nat := tables.idxOf name + 1

/-- Puts something where scripts find it. -/
def install (h : Heap) (name : String) (v : Value) : Heap :=
  match name.splitOn "." with
  | [t, name] => h.set (tablePlace t) (.ofString name) v
  | _ => h.set h.globals (.ofString name) v

/-- A heap in which scripts find everything; texts find their functions in themselves. -/
def heap : Heap :=
  let h : Heap := { tables := Array.replicate (tables.length + 1) {} }
  let h := everything.foldl (fun h e => install h e.1 e.2) h
  let h := (tables.filter (· ≠ "hidden")).foldl
    (fun h name => install h name (.table (tablePlace name))) h
  let h := install h "_G" (.table h.globals)
  let (_, h) := h.addTable { others := [(.ofString "__index", .table (tablePlace "string"))] }
  { h with textMeta? := some (tables.length + 1) }

end Fieldbus.Scripting.Library
