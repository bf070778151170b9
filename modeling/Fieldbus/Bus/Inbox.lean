import Fieldbus.Bus.Frame

/-!
# Inboxes

An inbox follows topics by their beginnings. A message reaches it if its first part begins with one
of the prefixes that it follows, and waits there until it is taken.

* `Inbox`: the prefixes, and the messages that wait.
* `Inbox.deliver`, `Inbox.take`: a message comes and goes.
* `Inbox.next`: the next message that is a frame.
* `Inbox.frames_deliver`, `Inbox.frames_next`: what this does to the frames that wait.
-/

namespace Fieldbus

/-- An inbox. -/
structure Inbox where
  /-- The beginnings of the topics that it follows. -/
  prefixes : List Bytes := []
  /-- The messages that wait, oldest first. -/
  waiting : List Message := []
  deriving DecidableEq, Repr, Inhabited

namespace Inbox

variable (b : Inbox)

/-- Whether a message is for this inbox. -/
def follows : Message → Bool
  | [] => false
  | topic :: _ => b.prefixes.any fun p => p.isPrefixOf topic

/-- A message comes by; it waits if it is for this inbox. -/
def deliver (m : Message) : Inbox :=
  if b.follows m then { b with waiting := b.waiting ++ [m] } else b

/-- Follows further topics. -/
def subscribe (topic : Bytes) : Inbox := { b with prefixes := b.prefixes ++ [topic] }

/-- Takes the oldest message. -/
def take : Option Message × Inbox :=
  match b.waiting with
  | [] => (none, b)
  | m :: rest => (some m, { b with waiting := rest })

/-- The oldest frame among messages, and the messages after it. -/
def firstFrame : List Message → Option Frame × List Message
  | [] => (none, [])
  | m :: rest =>
    match Frame.ofMessage? m with
    | some f => (some f, rest)
    | none => firstFrame rest

/-- Takes the oldest frame; the messages before it, which are none, are skipped. -/
def next : Option Frame × Inbox :=
  let (f, rest) := firstFrame b.waiting
  (f, { b with waiting := rest })

/-- The frames that wait. -/
def frames : List Frame := b.waiting.filterMap Frame.ofMessage?

/-- Takes the oldest frames, at most `count` of them. -/
def takeFrames (b : Inbox) : Nat → List Frame × Inbox
  | 0 => ([], b)
  | n + 1 =>
    match b.next with
    | (none, b) => ([], b)
    | (some f, b) =>
      let (fs, b) := takeFrames b n
      (f :: fs, b)

/-- Takes all frames. -/
def drain : List Frame × Inbox := b.takeFrames b.waiting.length

/-- A message that comes adds the frame that it is, if it is one and is for this inbox. -/
theorem frames_deliver (m : Message) :
    (b.deliver m).frames =
      b.frames ++ if b.follows m then (Frame.ofMessage? m).toList else [] := by
  unfold deliver
  split
  · cases h : Frame.ofMessage? m <;> simp [frames, h]
  · simp

theorem firstFrame_eq (ms : List Message) :
    (firstFrame ms).1.toList ++ (firstFrame ms).2.filterMap Frame.ofMessage? =
      ms.filterMap Frame.ofMessage? := by
  induction ms with
  | nil => rfl
  | cons m ms ih => cases h : Frame.ofMessage? m <;> simp [firstFrame, h, ih]

/-- What is taken is the first frame that waits, and the others stay. -/
theorem frames_next : b.next.1.toList ++ b.next.2.frames = b.frames := firstFrame_eq b.waiting

end Inbox

end Fieldbus
