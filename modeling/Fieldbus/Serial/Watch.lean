import Fieldbus.Flow.Run
import Fieldbus.Serial.Rig

/-!
# Ports under observation

A pass of the reader takes its time: it notes one port after the other, waits for all of them, and
then meets one after the other again. Meanwhile devices send and hang up, paths come and go, and
others write to ports, open and close them, add and remove them.

* `Devices.Change`: what happens at the far ends of the lines.
* `Rig.Event`: what goes into a line at one end and comes out of it at the other.
* `Rig.Round`, `Rig.advance`: how far a pass of the reader has come, and how it goes on.
* `Watch`, `Watch.run`: a rig and its reader, and all that happens to them.
-/

namespace Fieldbus

namespace Devices

/-- What happens at the far ends of the lines. -/
inductive Change where
  | feed (id : Nat) (data : Bytes)
  | drain (id count : Nat)
  /-- A device begins or ceases to take no more bytes. -/
  | stall (id : Nat) (stalled : Bool)
  | hangUp (id : Nat)
  /-- Paths go away, come back, or lead to something else. -/
  | relink (links : List (Path.Place × Node))
  /-- Which paths can be opened changes. -/
  | allow (access : Access)
  /-- A new terminal is plugged in. -/
  | plug (name : String)

variable (d : Devices)

/-- The terminal with an id; at one that is not there, nothing waits. -/
def line (id : Nat) : Terminal := (d.terminal? id).getD {}

/-- The bytes that wait for a port at a terminal. -/
def incoming (id : Nat) : Bytes := (d.line id).toPort

/-- The bytes that wait for a device at a terminal. -/
def outgoing (id : Nat) : Bytes := (d.line id).fromPort

end Devices

namespace Rig

/-- What goes into a line at one end and comes out of it at the other, and the passes of the reader.
-/
inductive Event where
  /-- The device at a terminal sent bytes. -/
  | fed (terminal : Nat) (data : Bytes)
  /-- The device at a terminal took bytes. -/
  | taken (terminal : Nat) (data : Bytes)
  /-- A handler got bytes, while its port had a terminal open. -/
  | handed (terminal : Option Nat) (d : Delivery)
  /-- Bytes were written to the port at a place, while it had a terminal open. -/
  | wrote (terminal : Option Nat) (place : Nat) (data : Bytes)
  /-- The reader began a pass; there is memory for the buffers of the ports at some places. -/
  | began (granted : Nat → Bool)

end Rig

/-- Lets something happen at the far ends. -/
def Devices.change (d : Devices) : Devices.Change → Devices × List Rig.Event
  | .feed id data =>
    match d.terminal? id with
    | none => (d, [])
    | some t => (d.update id (t.feed data), [.fed id data])
  | .drain id count =>
    match d.terminal? id with
    | none => (d, [])
    | some t => (d.update id (t.drain count).2, [.taken id (t.drain count).1])
  | .stall id stalled =>
    match d.terminal? id with
    | none => (d, [])
    | some t => (d.update id { t with stalled := stalled }, [])
  | .hangUp id =>
    match d.terminal? id with
    | none => (d, [])
    | some t => (d.update id { t with hungUp := true }, [])
  | .relink links => ({ d with links := links }, [])
  | .allow access => ({ d with access := access }, [])
  | .plug name => (d.addTerminal name, [])

namespace Rig

/-- How far a pass of the reader has come. -/
inductive Round where
  /-- It has noted some ports, and has yet to look at some members. -/
  | noting (granted : Nat → Bool) (noted : List Target) (members : List Nat)
  /-- It has yet to act on what waiting told about some ports. With none left, the pass is over. -/
  | acting (left : List (Target × Readiness × Bool))

variable (r : Rig)

/-- The terminal that the port at a place has open. -/
def source? (place : Nat) : Option Nat := (r.ports.port? place).bind Port.terminal

/-- The reader goes on with its pass, or begins the next one. -/
def advance (granted : Nat → Bool) : Round → Rig × Round × Effects
  | .acting [] => (r, .noting granted [] r.ports.snapshot, {})
  | .noting granted noted (place :: members) =>
    (r, .noting granted (noted ++ (r.target? place).toList) members, {})
  | .noting granted noted [] =>
    (r, .acting (noted.map fun t => (t, r.readiness t, granted t.place)), {})
  | .acting ((t, what, ok) :: left) =>
    let (r, e) := r.handle t what ok
    (r, .acting left, e)

/-- The pass that begins if the reader goes on now. -/
def beginning (granted : Nat → Bool) : Round → List Event
  | .acting [] => [.began granted]
  | _ => []

/-- What handlers got, together with the terminals that their ports had open. -/
def handings (e : Effects) : List Event := e.deliveries.map fun d => .handed (r.source? d.place) d

end Rig

/-- A rig and its reader. -/
structure Watch where
  rig : Rig := {}
  round : Rig.Round := .acting []

namespace Watch

/-- What may happen to a rig. The removal of a port is three steps, between which the reader may go
on. -/
inductive Step where
  /-- Something happens at the far ends. -/
  | change (c : Devices.Change)
  | add (d : Descriptor)
  /-- A port is taken out of the set. -/
  | unlink (uid : String)
  /-- The management of a port ends. -/
  | clearRunning (place : Nat)
  | openAt (place : Nat)
  | closeAt (place : Nat)
  /-- Somebody writes to a port. -/
  | write (place : Nat) (data : Bytes)
  /-- The monitor visits a port. -/
  | visit (place : Nat)
  | read (granted : Nat → Bool)

variable (w : Watch)

/-- The same reader with the rig in another state. -/
def withRig (r : Rig) : Watch := { w with rig := r }

/-- Makes a step: what comes after it, and what went into lines and came out of them. -/
def step (w : Watch) : Step → Watch × List Rig.Event
  | .change c =>
    let (d, es) := w.rig.devices.change c
    (w.withRig { w.rig with devices := d }, es)
  | .add d => (w.withRig { w.rig with ports := (w.rig.ports.add d).2 }, [])
  | .unlink uid => (w.withRig { w.rig with ports := (w.rig.ports.unlink uid).2 }, [])
  | .clearRunning place =>
    (w.withRig { w.rig with ports := w.rig.ports.clearRunning place }, [])
  | .openAt place => (w.withRig (w.rig.openAt w.rig.given? place).2.1, [])
  | .closeAt place => (w.withRig (w.rig.closeAt place).2, [])
  | .write place data =>
    let (result, r, _) := w.rig.writeAt place data
    (w.withRig r,
      result.toOption.toList.map fun n => .wrote (w.rig.source? place) place (data.take n))
  | .visit place => (w.withRig (w.rig.visit w.rig.given? place).1, [])
  | .read granted =>
    let (r, round, e) := w.rig.advance granted w.round
    (⟨r, round⟩, Rig.beginning granted w.round ++ w.rig.handings e)

/-- Makes steps one after the other. -/
def run (steps : List Step) : Watch × List Rig.Event := runSteps step w steps

end Watch

end Fieldbus
