import Fieldbus.Plugin.Transform

/-!
# Libraries

What a host sees of a shared object: whether it can be loaded, whether it has the entry function,
and what that function registers. Loading it is the dynamic loader's business.

* `Buffer`: what a callback leaves behind.
* `Library`: a shared object.
* `Library.load`: the transform that it registers.
-/

namespace Fieldbus

/-- What a callback leaves behind. -/
inductive Buffer where
  /-- No buffer, whatever its size is said to be. -/
  | null (size : Nat)
  | data (bytes : Bytes)
  deriving DecidableEq, Repr

/-- The bytes in a buffer. -/
def Buffer.bytes : Buffer → Bytes
  | null _ => []
  | data bs => bs

/-- A function that a library registered. -/
abbrev LibraryFunction (σ : Type) := Bytes → σ → Buffer × σ

/-- What the entry function of a library reports and registers. -/
structure Driver (σ : Type) where
  status : Int
  /-- The function for payloads that go north. -/
  north : Option (LibraryFunction σ)
  /-- The function for payloads that go south. -/
  south : Option (LibraryFunction σ)

/-- A shared object. -/
inductive Library (σ : Type) where
  | refused
  | noEntry
  | entry (driver : Driver σ)

namespace Library

variable {σ : Type}

/-- A registered function as a host calls it. -/
def callback (f : LibraryFunction σ) : Callback σ := fun input s =>
  let (buffer, s) := f input s
  (.ok buffer.bytes, s)

/-- The transform that a library registers; `path` names it. -/
def load (path : String) : Library σ → Except PluginError (Transform σ)
  | refused => .error (.load path)
  | noEntry => .error (.missingSymbol path)
  | entry d =>
    if d.status ≠ 0 then .error (.register path (.status d.status))
    else if d.north.isNone && d.south.isNone then .error (.register path .noCallbacks)
    else .ok ⟨path, d.north.map callback, d.south.map callback⟩

end Library

end Fieldbus
