import Fieldbus.Flow.Run
import Fieldbus.Serial.Port

/-!
# Sessions of a port

All that may be done with a port, in any order. A session begins when the port is opened and ends
when it is closed, whoever closes it.

* `Port.Step`, `Port.Answer`: what is asked of a port, and what it answers.
* `Port.run`: the port after some steps, and the answers.
* `Port.openings`: the number of sessions that began.
* `Port.StaysOpen`: one and the same session lasts all the time.
-/

namespace Fieldbus

namespace Port

/-- What may be asked of a port. -/
inductive Step where
  /-- It is to be opened, where opening its path gives a terminal or not. -/
  | openWith (found : Option Nat)
  | close
  | clearRunning
  | retire
  /-- Bytes are written to it, and this is what the device does with them. -/
  | write (outcome : DeviceWrite)
  | pollTarget
  /-- It is read from, and this is what the device gives. -/
  | readReady (generation : UInt64) (buffer : Bytes) (read : DeviceRead)
  | closeIfCurrent (generation : UInt64)
  deriving DecidableEq, Repr

/-- What a port answers. -/
inductive Answer where
  | opened (result : Except PortError Bool)
  /-- It was closed, by name or because a session ended; tells whether it was open. -/
  | closed (was : Bool)
  | written (result : Except PortError Nat)
  | target (found : Option (Nat × UInt64))
  | read (outcome : ReadOutcome) (buffer : Bytes)

/-- Whether an answer tells that a session began. -/
def Answer.begins : Answer → Bool
  | .opened (.ok true) => true
  | _ => false

/-- Does what is asked. -/
def step (p : Port) : Step → Port × List Answer
  | .openWith found => ((p.openWith found).2, [.opened (p.openWith found).1])
  | .close => (p.close.2, [.closed p.close.1])
  | .clearRunning => (p.clearRunning, [])
  | .retire => (p.retire, [])
  | .write outcome => ((p.write outcome).2, [.written (p.write outcome).1])
  | .pollTarget => (p, [.target p.pollTarget])
  | .readReady g buffer read =>
    let (outcome, buffer, p) := p.readReady g buffer read
    (p, [.read outcome buffer])
  | .closeIfCurrent g => ((p.closeIfCurrent g).2, [.closed (p.closeIfCurrent g).1])

/-- Does one thing after the other. -/
def run (p : Port) (steps : List Step) : Port × List Answer := runSteps step p steps

/-- The number of sessions that began. -/
def openings (answers : List Answer) : Nat := answers.countP Answer.begins

/-- The port is open before and after every step, so that its session does not end. -/
def StaysOpen : Port → List Step → Prop
  | p, [] => p.isOpen = true
  | p, s :: steps => p.isOpen = true ∧ (p.step s).1.StaysOpen steps

instance StaysOpen.decidable : (p : Port) → (steps : List Step) → Decidable (p.StaysOpen steps)
  | p, [] => inferInstanceAs (Decidable (p.isOpen = true))
  | p, s :: steps =>
    have := StaysOpen.decidable (p.step s).1 steps
    inferInstanceAs (Decidable (p.isOpen = true ∧ (p.step s).1.StaysOpen steps))

end Port

end Fieldbus
