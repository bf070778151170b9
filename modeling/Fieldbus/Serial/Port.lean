import Fieldbus.Descriptor
import Fieldbus.Logging.Event
import Fieldbus.Serial.Terminal

/-!
# Ports

A port is closed or has a terminal open. Every successful opening begins a session, which is known
by a generation number, so that what was found out about a session can be told to be out of date.
Each operation is one step: the port is locked while it lasts.

* `Port`: a descriptor, the open terminal, the generation, and whether the port is still managed.
* `Port.openWith`, `Port.close`, `Port.retire`: the life of a port.
* `Port.write`, `Port.readReady`, `Port.closeIfCurrent`: what is done with an open one.
* `PortEvent`: what is reported about it.
-/

namespace Fieldbus

/-- What ended a session. -/
inductive ClosedBy where
  | hangup
  | read
  | write
  /-- The path of the device went away. -/
  | vanished
  deriving DecidableEq, Repr

/-- How the end of a session is explained. -/
def ClosedBy.message : ClosedBy → String
  | hangup => "device hung up"
  | read => "read failed"
  | write => "write failed"
  | vanished => "device path no longer accessible"

/-- What is reported about a port. -/
inductive PortEvent where
  | opened
  /-- A session ended in a way that nobody asked for. -/
  | closed (cause : ClosedBy)
  deriving DecidableEq, Repr

/-- The log event of a port event. -/
def PortEvent.logEvent (d : Descriptor) : PortEvent → LogEvent
  | opened =>
    .ofLifecycle "port.opened" .success { uid := d.uid, device := d.device }
      ("opened at " ++ d.line.text)
  | closed cause =>
    .ofLifecycle "port.closed" .fault { uid := d.uid, device := d.device } cause.message

/-- A port. -/
structure Port where
  /-- What there is to know about it. -/
  descriptor : Descriptor
  /-- The open terminal, if any. -/
  terminal : Option Nat := none
  /-- The number of the latest session; there is none before the first. -/
  generation : UInt64 := 0
  /-- Whether the port is still managed. -/
  running : Bool := true
  deriving DecidableEq, Repr

namespace Port

variable (p : Port)

/-- The id of the port. -/
def id : String := p.descriptor.uid

/-- The path of its device. -/
def device : String := p.descriptor.device

/-- Whether a terminal is open. -/
def isOpen : Bool := p.terminal.isSome

/-- Opens a closed port that is still managed, where opening its path gives a terminal or not. Tells
whether a session began. -/
def openWith (found : Option Nat) : Except PortError Bool × Port :=
  if p.isOpen || !p.running then (.ok false, p)
  else
    match found with
    | none => (.error (.cannotOpen p.device), p)
    | some id => (.ok true, { p with terminal := some id, generation := p.generation + 1 })

/-- Closes the port. Tells whether it was open. -/
def close : Bool × Port := (p.isOpen, { p with terminal := none })

/-- The port is no longer managed; it will not be opened again. -/
def clearRunning : Port := { p with running := false }

/-- Ends the management of the port and closes it. -/
def retire : Port := p.clearRunning.close.2

/-- What a write means for the port, where `outcome` is what the device does with the bytes if there
is one. A fatal failure closes the port. -/
def write (outcome : DeviceWrite) : Except PortError Nat × Port :=
  match p.terminal with
  | none => (.error (.closed p.id), p)
  | some _ =>
    match outcome with
    | .accepted n => (.ok n, p)
    | .failed .transient => (.error (.io .transient), p)
    | .failed .fatal => (.error (.io .fatal), { p with terminal := none })

/-- What is to be watched: the open terminal and the session that it belongs to. -/
def pollTarget : Option (Nat × UInt64) := p.terminal.map fun id => (id, p.generation)

/-- Whether a session is the one that is open. -/
def isCurrent (generation : UInt64) : Bool := p.generation = generation && p.isOpen

/-- Closes the port if a session is still open. Tells whether it was. -/
def closeIfCurrent (generation : UInt64) : Bool × Port :=
  if p.isCurrent generation then (true, { p with terminal := none }) else (false, p)

/-- What became of a read. -/
inductive ReadOutcome where
  /-- These bytes go to the handler. -/
  | delivered (bs : Bytes)
  /-- There is nothing to read for now. -/
  | idle
  | stale
  /-- The read failed, and the port was closed. -/
  | closed
  deriving DecidableEq, Repr

/-- A buffer after a read has put bytes at its beginning. It does not become longer: bytes for which
there is no room are lost. -/
def fill (buffer bs : Bytes) : Bytes := bs.take buffer.length ++ buffer.drop bs.length

/-- Reads once into a buffer, if the session is still open, where `read` is what the device gives.
The handler gets as much of the buffer as was read. -/
def readReady (generation : UInt64) (buffer : Bytes) (read : DeviceRead) :
    ReadOutcome × Bytes × Port :=
  if !p.isCurrent generation then (.stale, buffer, p)
  else
    match read with
    | .bytes [] => (.idle, buffer, p)
    | .bytes bs =>
      let buffer := fill buffer bs
      (.delivered (buffer.take bs.length), buffer, p)
    | .failed .transient => (.idle, buffer, p)
    | .failed .fatal => (.closed, buffer, { p with terminal := none })

/-- The port, as logs show it. -/
def debugText : String :=
  "Port \x7b uid: " ++ Text.quoted p.id ++ ", device: " ++ Text.quoted p.device ++ ", open: " ++
    Text.truth p.isOpen ++ ", running: " ++ Text.truth p.running ++ " \x7d"

end Port

end Fieldbus
