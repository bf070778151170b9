import Fieldbus.Plugin.Transform

/-!
# Scripts

What a host sees of a script once it was run: whether it defines the entry function, what the entry
function gives, and what the registered functions give. Running it is the interpreter's business.

* `Scalar`: a value that is not looked into.
* `Script`: what running a script leaves behind.
* `Script.load`: the transform that a script registers.
-/

namespace Fieldbus

/-- A value of a script that the host does not look into. -/
inductive Scalar where
  | nil
  | boolean (b : Bool)
  | integer (n : Int)
  /-- A floating point number, by its text. -/
  | number (text : String)
  | string (bytes : Bytes)
  | table
  | function
  | thread
  deriving DecidableEq, Repr

namespace Scalar

/-- The name of the type of a value. -/
def typeName : Scalar → String
  | nil => "nil"
  | boolean _ => "boolean"
  | integer _ => "integer"
  | number _ => "number"
  | string _ => "string"
  | table => "table"
  | function => "function"
  | thread => "thread"

/-- The bytes of a value: strings and numbers have some, nothing else has. -/
def bytes : Scalar → Bytes
  | integer n => utf8 (toString n)
  | number text => utf8 text
  | string bs => bs
  | _ => []

end Scalar

/-- A script raised an error. -/
structure ScriptError where
  deriving DecidableEq, Repr

/-- A function that a script registered. -/
abbrev ScriptFunction (σ : Type) := Bytes → σ → Except ScriptError Scalar × σ

/-- What a script put in the place of a function. -/
inductive Registered (σ : Type) where
  | function (f : ScriptFunction σ)
  /-- Something else, which is `nil` where nothing was put. -/
  | value (v : Scalar)

/-- What the entry function of a script gives. -/
inductive Returned (σ : Type) where
  /-- A table, by what it holds for the two directions. -/
  | table (north south : Registered σ)
  /-- Something that is no table. -/
  | value (v : Scalar)

/-- What running a script leaves behind: nothing if it raised an error. Otherwise it may have
defined the entry function, which may raise an error in turn. -/
abbrev Script (σ : Type) := Except ScriptError (Option (Except ScriptError (Returned σ)))

namespace Script

variable {σ : Type}

/-- A registered function as a host calls it. -/
def callback (f : ScriptFunction σ) : Callback σ := fun input s =>
  match f input s with
  | (.ok v, s) => (.ok v.bytes, s)
  | (.error _, s) => (.error .script, s)

/-- The function that was registered for a direction, if any. -/
def registered (d : Direction) : Registered σ → Except RegisterFault (Option (Callback σ))
  | .function f => .ok (some (callback f))
  | .value .nil => .ok none
  | .value v => .error (.noFunction d v.typeName)

/-- The functions that a table holds. -/
def functions (north south : Registered σ) :
    Except RegisterFault (Option (Callback σ) × Option (Callback σ)) := do
  let n ← registered .north north
  let s ← registered .south south
  if n.isNone && s.isNone then throw .noFunctions
  return (n, s)

/-- The transform that a script registers; `path` names it. -/
def load (path : String) : Script σ → Except PluginError (Transform σ)
  | .error _ => .error .script
  | .ok none => .error (.register path .noEntry)
  | .ok (some (.error _)) => .error .script
  | .ok (some (.ok (.value v))) => .error (.register path (.noTable v.typeName))
  | .ok (some (.ok (.table north south))) =>
    match functions north south with
    | .error cause => .error (.register path cause)
    | .ok (n, s) => .ok ⟨path, n, s⟩

end Script

end Fieldbus
