import Fieldbus.Flow.Run

/-!
# Pacing

A pacer keeps the sends on one device apart.

* `Pacer.remaining`: how long the next send has to wait.
* `Pacer.pace`: waits and records a send.
* `Pacer.calls`: a sequence of calls on any clock.
* `Pacer.run`: a sequence of operations on a clock that only waiting moves.
-/

namespace Fieldbus

/-- A pacer. All times are in one unit, which is the millisecond for the operations below. -/
structure Pacer where
  minDelay : Nat
  lastSend : Option Nat := none
  deriving DecidableEq, Repr

namespace Pacer

/-- How long a send has to wait at some time. -/
def remaining (p : Pacer) (now : Nat) : Nat :=
  match p.lastSend with
  | none => 0
  | some last => last + p.minDelay - now

/-- Waits for the next send and records it: how long the wait was, and the pacer after it. Waiting
may take longer than it has to, by `slack`. -/
def pace (p : Pacer) (now slack : Nat) : Nat × Pacer :=
  let wait := p.remaining now
  (wait, { p with lastSend := some (now + wait + slack) })

/-- Takes note of a send. -/
def note (p : Pacer) (now : Nat) : Pacer := { p with lastSend := some now }

/-- A call of `pace`. -/
structure Call where
  /-- The time at which it began. -/
  begun : Nat
  waited : Nat
  /-- The time that it took note of. -/
  sent : Nat
  deriving DecidableEq, Repr

/-- A call that begins at some time and waits longer than it has to, by `slack`. -/
def call (p : Pacer) (now slack : Nat) : Pacer × List Call :=
  let (wait, p) := p.pace now slack
  (p, [⟨now, wait, now + wait + slack⟩])

/-- Calls one after the other, each with the time at which it begins and its slack. -/
def calls (p : Pacer) (times : List (Nat × Nat)) : Pacer × List Call :=
  runSteps (fun p t => p.call t.1 t.2) p times

/-- An operation on a pacer. -/
inductive Step where
  /-- Waits for the next send. -/
  | pace
  /-- Asks for the least time between two sends. -/
  | minDelay
  /-- Asks how long a send would have to wait some seconds after the last one. -/
  | remaining (seconds : Nat)
  deriving DecidableEq, Repr

/-- The reply to an operation. -/
inductive Reply where
  | waited (b : Bool)
  | time (n : Nat)
  deriving DecidableEq, Repr

/-- Milliseconds as seconds, to the nearest; a half goes down. -/
def toSeconds (ms : Nat) : Nat := (ms + 499) / 1000

/-- Makes one operation at some time: the reply, the pacer and the time after it. -/
def step (p : Pacer) (now : Nat) : Step → Reply × Pacer × Nat
  | .pace =>
    let (wait, p) := p.pace now 0
    (.waited (0 < wait), p, now + wait)
  | .minDelay => (.time p.minDelay, p, now)
  | .remaining s =>
    (.time (toSeconds (p.remaining (p.lastSend.getD now + 1000 * s))), p, now)

/-- Makes operations one after the other. -/
def run (p : Pacer) (now : Nat) : List Step → List Reply
  | [] => []
  | s :: ss =>
    let (reply, p, now) := p.step now s
    reply :: p.run now ss

end Pacer

end Fieldbus
