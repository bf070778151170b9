import Fieldbus.Plugin.Fault

/-!
# Transforms

A transform changes payloads on their way. It may have a function for either direction, and the
functions may share a state.

* `Transform`: a name and the two functions.
* `Transform.run`: what the function for a direction gives.
* `Transform.apply`: what becomes of a payload.
-/

namespace Fieldbus

/-- The function of a transform for one direction. An empty result is no result. -/
abbrev Callback (σ : Type) := Bytes → σ → Except PluginError Bytes × σ

/-- A transform whose functions share a state of type `σ`. -/
structure Transform (σ : Type) where
  name : String
  /-- The function for payloads that go north, if there is one. -/
  north : Option (Callback σ)
  /-- The function for payloads that go south, if there is one. -/
  south : Option (Callback σ)

/-- Why a payload goes no further. -/
inductive DropCause where
  | empty
  | error
  deriving DecidableEq, Repr

/-- What becomes of a payload. -/
inductive Verdict where
  | forward (bytes : Bytes)
  | drop (cause : DropCause)
  deriving DecidableEq, Repr

/-- The bytes that go on, if any. -/
def Verdict.payload? : Verdict → Option Bytes
  | forward bytes => some bytes
  | drop _ => none

/-- A function on a part of a state, as one on the whole state. -/
def Callback.within {σ τ : Type} (part : τ → σ) (put : σ → τ → τ) (f : Callback σ) : Callback τ :=
  fun input t =>
    let (r, s) := f input (part t)
    (r, put s t)

namespace Transform

variable {σ τ : Type}

/-- A transform on a part of a state, as one on the whole state. -/
def within (part : τ → σ) (put : σ → τ → τ) (t : Transform σ) : Transform τ :=
  ⟨t.name, t.north.map (Callback.within part put), t.south.map (Callback.within part put)⟩

/-- The function for a direction. -/
def callback (t : Transform σ) : Direction → Option (Callback σ)
  | .north => t.north
  | .south => t.south

/-- What the function for a direction gives; nothing if there is no function. -/
def run (t : Transform σ) (d : Direction) (input : Bytes) (s : σ) :
    Except PluginError (Option Bytes) × σ :=
  match t.callback d with
  | none => (.ok none, s)
  | some f =>
    match f input s with
    | (.ok output, s) => (.ok (some output), s)
    | (.error e, s) => (.error e, s)

/-- What the outcome of a transform means for the payload. -/
def verdict (input : Bytes) : Except PluginError (Option Bytes) → Verdict
  | .ok none => .forward input
  | .ok (some []) => .drop .empty
  | .ok (some output) => .forward output
  | .error _ => .drop .error

/-- What becomes of a payload. Without a function for its direction it goes on unchanged; an empty
result and a failure stop it. -/
def apply (t : Transform σ) (d : Direction) (input : Bytes) (s : σ) : Verdict × σ :=
  let (outcome, s) := t.run d input s
  (verdict input outcome, s)

/-- The transform that leaves everything as it is. -/
def passthrough : Transform σ := ⟨"passthrough", none, none⟩

end Transform

end Fieldbus
