import Fieldbus.Plugin.Catalogue
import Fieldbus.Plugin.Sniff
import Fieldbus.Plugin.Source

/-!
# Loading plugins

* `Plugin`: where a transform comes from.
* `Memory`: the state that transforms may share.
* `Plugin.load`: the transform, or why there is none.
-/

namespace Fieldbus

/-- Where a transform comes from. -/
inductive Plugin where
  /-- From nowhere: payloads stay as they are. -/
  | passthrough
  /-- A script that was run. -/
  | script (path : String) (s : Script Nat)
  /-- A library that was loaded. -/
  | library (path : String) (l : Library Nat)
  /-- A file with a given content. -/
  | file (path : String) (content : Bytes)
  /-- A file that cannot be read. -/
  | unreadable (path : String) (cause : ReadFault)

/-- The state of a transform. -/
structure Memory where
  count : Nat := 0
  heap : Scripting.Heap := {}

/-- A transform that was loaded, with the state in which it begins. -/
structure Loaded where
  transform : Transform Memory
  memory : Memory

namespace Plugin

/-- A transform of a counter. -/
def counting (t : Transform Nat) : Loaded :=
  ⟨t.within Memory.count fun n m => { m with count := n }, {}⟩

/-- A transform of a heap, which is given. -/
def scripted (h : Scripting.Heap) (t : Transform Scripting.Heap) : Loaded :=
  ⟨t.within Memory.heap fun h m => { m with heap := h }, { heap := h }⟩

/-- The transform in a file, which is read in one piece. There is no dynamic loader, so shared
objects are refused. -/
def loadFile (path : String) (content : Bytes) : Except PluginError Loaded :=
  match sniff path [.bytes content] with
  | .error e => .error e
  | .ok .native => (Library.refused.load path).map counting
  | .ok .script =>
    let (s, h) := Source.script path content
    (s.load path).map (scripted h)

/-- The transform of a plugin. -/
def load : Plugin → Except PluginError Loaded
  | passthrough => .ok ⟨.passthrough, {}⟩
  | script path s => (s.load path).map counting
  | library path l => (l.load path).map counting
  | file path content => loadFile path content
  | unreadable path cause => .error (.io path cause)

end Plugin

/-- A call of a transform: whether its own result or the verdict is asked for. -/
structure TransformCall where
  direction : Direction
  input : Bytes
  /-- Whether the function's own result is asked for. -/
  raw : Bool

/-- The answer to a call of a transform. -/
inductive TransformAnswer where
  | verdict (v : Verdict)
  | result (r : Except PluginError (Option Bytes))

namespace Transform

variable {σ : Type}

/-- Answers one call. -/
def answer (t : Transform σ) (c : TransformCall) (s : σ) : TransformAnswer × σ :=
  if c.raw then
    let (r, s) := t.run c.direction c.input s
    (.result r, s)
  else
    let (v, s) := t.apply c.direction c.input s
    (.verdict v, s)

/-- Answers calls one after the other. -/
def answers (t : Transform σ) (s : σ) : List TransformCall → List TransformAnswer
  | [] => []
  | c :: cs =>
    let (a, s) := t.answer c s
    a :: t.answers s cs

end Transform

end Fieldbus
