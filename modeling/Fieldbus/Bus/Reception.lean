import Fieldbus.Bus.Inbox
import Fieldbus.Flow.Run

/-!
# Calls for the next frame

A subscriber is asked for the next frame and waits for it, but not longer than it is told. It waits
at its socket until a message is there and takes the message. If this is no frame, or if there is
none, it looks at the clock, and begins anew unless the time is over.

* `Reception`: an inbox, and what the call under way is about to do.
* `Reception.call`, `Reception.work`: a call begins and goes on.
* `Reception.step`, `Reception.run`: what may happen to a subscriber, and what its calls return.
-/

namespace Fieldbus

namespace Reception

/-- What the call under way is about to do, and the time at which it gives up. -/
inductive Phase where
  /-- No call is under way. -/
  | idle
  /-- It waits for a message. -/
  | waiting (deadline : Nat)
  /-- It takes the message that is there. -/
  | taking (deadline : Nat)
  /-- It looks at the clock. -/
  | timing (deadline : Nat)
  deriving DecidableEq, Repr, Inhabited

/-- How the socket behaves when it is used. -/
inductive Socket where
  | sound
  /-- A signal comes in between. A wait for a message ends early then, and no message can be taken.
  -/
  | interrupted
  | broken
  deriving DecidableEq, Repr, Inhabited

/-- What a call returns. -/
inductive Answer where
  | frame (f : Frame)
  /-- The time was over before there was a frame. -/
  | nothing
  /-- The socket is broken, or a signal came in when a message was to be taken. -/
  | failure
  deriving DecidableEq, Repr

/-- The frame that is returned. -/
def Answer.frame? : Answer → Option Frame
  | frame f => some f
  | nothing | failure => none

end Reception

/-- A subscriber's inbox, and the call for the next frame that is under way. -/
structure Reception where
  inbox : Inbox := {}
  phase : Reception.Phase := .idle
  deriving DecidableEq, Repr, Inhabited

namespace Reception

variable (r : Reception)

/-- A subscriber that follows some prefixes. -/
def start (prefixes : List Bytes) : Reception := { inbox := { prefixes := prefixes } }

/-- A call begins, at some time and for no longer than another. A subscriber is asked by one party
only, so this does nothing while another call is under way. -/
def call (now timeout : Nat) : Reception :=
  match r.phase with
  | .idle => { r with phase := .waiting (now + timeout) }
  | _ => r

/-- The call under way takes the oldest message, and is over if this is a frame. -/
def takeNext (deadline : Nat) : Reception × Option Answer :=
  match r.inbox.take with
  | (none, _) => ({ r with phase := .timing deadline }, none)
  | (some m, b) =>
    match Frame.ofMessage? m with
    | some f => (⟨b, .idle⟩, some (.frame f))
    | none => (⟨b, .timing deadline⟩, none)

/-- The call under way goes on. The wait for a message ends when one is there, but also for other
reasons. -/
def work (socket : Socket) (now : Nat) : Reception × Option Answer :=
  match r.phase, socket with
  | .idle, _ => (r, none)
  | .timing deadline, _ =>
    if deadline ≤ now then ({ r with phase := .idle }, some .nothing)
    else ({ r with phase := .waiting deadline }, none)
  | .waiting deadline, .sound =>
    if r.inbox.waiting.isEmpty then ({ r with phase := .timing deadline }, none)
    else ({ r with phase := .taking deadline }, none)
  | .taking deadline, .sound => r.takeNext deadline
  | .waiting deadline, .interrupted => ({ r with phase := .timing deadline }, none)
  | .taking _, .interrupted | .waiting _, .broken | .taking _, .broken =>
    ({ r with phase := .idle }, some .failure)

/-- What may happen to a subscriber. -/
inductive Step where
  /-- The relay passes a message on. -/
  | relayed (m : Message)
  /-- A further prefix is to be followed. -/
  | subscribe (topic : Bytes)
  | call (now timeout : Nat)
  /-- The call under way makes a step. -/
  | work (socket : Socket) (now : Nat)
  deriving DecidableEq, Repr

/-- Makes a step. -/
def step (r : Reception) : Step → Reception × List Answer
  | .relayed m => ({ r with inbox := r.inbox.deliver m }, [])
  | .subscribe topic => ({ r with inbox := r.inbox.subscribe topic }, [])
  | .call now timeout => (r.call now timeout, [])
  | .work socket now =>
    let (r, answer) := r.work socket now
    (r, answer.toList)

/-- Makes steps one after the other. -/
def run (r : Reception) (steps : List Step) : Reception × List Answer := runSteps step r steps

end Reception

end Fieldbus
