import Fieldbus.Scripting.Frame

/-!
# The heap

* `Heap`: what values refer to.
* `Heap.get`, `Heap.set`: reach into tables as they are, without asking their metatables.
* `Heap.lookup`, `Heap.store`: ask metatables too, and may come upon a function that is to be
  called.
-/

namespace Fieldbus.Scripting

/-- A function of a script. -/
structure Closure where
  params : List String
  takesFurther : Bool
  body : List Stmt
  vars : List (String × Nat)
  source : String

/-- A coroutine. -/
inductive Coroutine where
  | fresh (f : Value)
  /-- It waits, with these frames. -/
  | paused (frames : List Frame)
  /-- It runs, or waits for another one that runs. -/
  | active
  | dead

/-- What values refer to. -/
structure Heap where
  tables : Array Table := #[]
  cells : Array Value := #[]
  closures : Array Closure := #[]
  coroutines : Array Coroutine := #[]
  /-- The table of global variables, by its place. -/
  globals : Nat := 0
  /-- The metatable of texts, by its place. -/
  textMeta? : Option Nat := none

namespace Heap

variable (h : Heap)

/-! ## Contents -/

/-- The table at a place. -/
def table (place : Nat) : Table := (h.tables[place]?).getD {}

/-- Adds a table. -/
def addTable (t : Table) : Value × Heap :=
  (.table h.tables.size, { h with tables := h.tables.push t })

/-- What lies under a key of a table. -/
def get (place : Nat) (key : Value) : Value := (h.table place).get key

/-- Changes a table. -/
def modify (h : Heap) (place : Nat) (f : Table → Table) : Heap :=
  { h with tables := h.tables.modify place f }

/-- Puts a value under a key of a table. -/
def set (h : Heap) (place : Nat) (key v : Value) : Heap := h.modify place fun t => t.set key v

/-- Adds a variable with a value. -/
def addCell (v : Value) : Nat × Heap :=
  (h.cells.size, { h with cells := h.cells.push v })

/-- The value of a variable. -/
def cell (place : Nat) : Value := (h.cells[place]?).getD .nil

/-- Gives a variable a value. -/
def setCell (h : Heap) (place : Nat) (v : Value) : Heap :=
  { h with cells := h.cells.modify place fun _ => v }

@[simp] theorem cell_addCell (h : Heap) (v : Value) :
    (h.addCell v).2.cell (h.addCell v).1 = v := by
  simp [addCell, cell]

theorem cell_addCell_of_lt (h : Heap) (v : Value) {i : Nat} (hi : i < h.cells.size) :
    (h.addCell v).2.cell i = h.cell i := by
  simp [addCell, cell, Array.getElem?_push, Nat.ne_of_lt hi]

/-- Adds variables with values, as many as there are names; the ones declared last come first. -/
def addCells (h : Heap) (vars : List (String × Nat)) (names : List String) (vs : List Value) :
    List (String × Nat) × Heap :=
  match names with
  | [] => (vars, h)
  | name :: names =>
    let (place, h) := h.addCell (firstOf vs)
    addCells h ((name, place) :: vars) names vs.tail

/-- Adds a function. -/
def addClosure (c : Closure) : Value × Heap :=
  (.function h.closures.size, { h with closures := h.closures.push c })

/-- Adds a coroutine. -/
def addCoroutine (f : Value) : Value × Heap :=
  (.thread h.coroutines.size, { h with coroutines := h.coroutines.push (.fresh f) })

/-- Changes a coroutine. -/
def setCoroutine (h : Heap) (place : Nat) (c : Coroutine) : Heap :=
  { h with coroutines := h.coroutines.modify place fun _ => c }

/-! ## Metatables -/

/-- The metatable of a value, by its place. -/
def meta? : Value → Option Nat
  | .table place => (h.table place).meta?
  | .text _ => h.textMeta?
  | _ => none

/-- What the metatable of a value holds for an event. -/
def handler (v : Value) (event : String) : Value :=
  match h.meta? v with
  | none => .nil
  | some place => h.get place (.ofString event)

/-- Whether a value is a function. -/
def isFunction : Value → Bool
  | .function _ | .builtin _ => true
  | _ => false

/-- The number of metatables that are asked one after the other. -/
def metaLimit : Nat := 2000

/-- What a look into a value comes upon. -/
inductive Lookup where
  | found (v : Value)
  /-- A function that is to be called with a value and the key. -/
  | call (f v : Value)
  /-- Nothing: the value cannot be looked into. -/
  | fault (message : String)

/-- Looks into a value with a key; at most so many metatables are asked. -/
def lookup (h : Heap) : Nat → Value → Value → Lookup
  | 0, _, _ => .fault "'__index' chain too long; possible loop"
  | n + 1, v, key =>
    let own := match v with
      | .table place => h.get place key
      | _ => .nil
    if !own.isNil then .found own
    else
      match h.handler v "__index", v with
      | .nil, .table _ => .found .nil
      | .nil, v => .fault ("attempt to index a " ++ v.typeName ++ " value")
      | f, v => if isFunction f then .call f v else lookup h n f key

/-- What a change of a value comes upon. -/
inductive Store where
  /-- A table whose value under the key is to be changed. -/
  | found (place : Nat)
  /-- A function that is to be called with a value, the key and what is put there. -/
  | call (f v : Value)
  /-- Nothing: the value cannot be changed. -/
  | fault (message : String)

/-- Whether a value can be a key: what is missing cannot, nor can what is no number. -/
def keyFault? : Value → Option String
  | .nil => some "index is nil"
  | .number (.real x) => if x.isNaN then some "index is NaN" else none
  | _ => none

/-- Finds what has to be changed to put something under a key; at most so many metatables are
asked. -/
def store (h : Heap) : Nat → Value → Value → Store
  | 0, _, _ => .fault "'__newindex' chain too long; possible loop"
  | n + 1, v, key =>
    match v with
    | .table place =>
      if !(h.get place key).isNil then .found place
      else
        match h.handler v "__newindex" with
        | .nil => match keyFault? key with
          | none => .found place
          | some message => .fault message
        | f => if isFunction f then .call f v else store h n f key
    | v =>
      match h.handler v "__newindex" with
      | .nil => .fault ("attempt to index a " ++ v.typeName ++ " value")
      | f => if isFunction f then .call f v else store h n f key

end Heap

end Fieldbus.Scripting
