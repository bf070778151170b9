import Fieldbus.Text.Utf8

/-!
# Messages and frames

What travels on the bus.

* `Message`: any number of parts.
* `Frame`: a topic and a payload, which is a message of two parts.
* `Control`: what subscribers tell publishers about the topics that they follow.
-/

namespace Fieldbus

/-- A message, part by part. -/
abbrev Message := List Bytes

/-- A topic and a payload. -/
structure Frame where
  topic : Bytes
  payload : Bytes
  deriving DecidableEq, Repr, Inhabited

namespace Frame

/-- The frame that a message is, if it has two parts. -/
def ofMessage? : Message → Option Frame
  | [topic, payload] => some ⟨topic, payload⟩
  | _ => none

/-- The two parts of a frame. -/
def toMessage (f : Frame) : Message := [f.topic, f.payload]

/-- The topic as a text. -/
def topicText (f : Frame) : String := Utf8.lossy f.topic

@[simp] theorem ofMessage?_toMessage (f : Frame) : ofMessage? f.toMessage = some f := rfl

theorem ofMessage?_eq_some_iff {m : Message} {f : Frame} :
    ofMessage? m = some f ↔ m = f.toMessage := by
  refine ⟨fun h => ?_, fun h => h ▸ rfl⟩
  match m, h with
  | [_, _], h => cases h; rfl

end Frame

/-- A change in what a subscriber follows. -/
inductive Control where
  /-- It begins to follow the topics with a prefix. -/
  | subscribe (topic : Bytes)
  /-- It no longer follows them. -/
  | unsubscribe (topic : Bytes)
  deriving DecidableEq, Repr

namespace Control

/-- Reads a change: a byte that is one or zero, and the prefix. -/
def ofBytes? : Bytes → Option Control
  | 1 :: topic => some (.subscribe topic)
  | 0 :: topic => some (.unsubscribe topic)
  | _ => none

/-- The message in which a change is told. -/
def toMessage : Control → Message
  | subscribe topic => [1 :: topic]
  | unsubscribe topic => [0 :: topic]

end Control

end Fieldbus
