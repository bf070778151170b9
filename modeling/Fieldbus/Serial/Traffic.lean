import Fieldbus.Serial.Watch

/-!
# Ports used by many at once

Reader, monitor and other threads use the ports of a set at the same time, and ports come and go
meanwhile. What is done with a port under its lock is one step, except for an opening, which first
looks at the port and then opens its path: the lock is held in between, but the management of the
port may end, since that takes no lock. A step that needs a lock waits while somebody has it.

* `Port.install`: the second half of an opening.
* `Patrol`: how far a pass of the monitor has come.
* `Removal`: how far a call that removes a port has come.
* `Traffic`, `Traffic.run`: a set with its workers and callers, and all that happens to it.
-/

namespace Fieldbus

namespace Port

/-- Whether an opening goes on after its look at the port. -/
def openable (p : Port) : Bool := !p.isOpen && p.running

/-- The second half of an opening, where opening the path gives a terminal or not. -/
def install (p : Port) (found : Option Nat) : Port :=
  match found with
  | none => p
  | some id => { p with terminal := some id, generation := p.generation + 1 }

end Port

/-- How far a pass of the monitor has come. -/
inductive Patrol where
  /-- It has yet to visit some ports. With none left, the pass is over. -/
  | visiting (left : List Nat)
  /-- A port is managed; the monitor is about to look for its path. -/
  | looking (place : Nat) (left : List Nat)
  /-- It is about to ask whether the port is open. -/
  | asking (place : Nat) (present : Bool) (left : List Nat)
  | closing (place : Nat) (left : List Nat)
  | opening (place : Nat) (left : List Nat)
  /-- It has the lock of a port and is about to open its path. -/
  | inside (place : Nat) (left : List Nat)
  deriving DecidableEq, Repr

/-- The place of the port that the monitor is opening. -/
def Patrol.inside? : Patrol → Option Nat
  | inside place _ => some place
  | _ => none

/-- How far a call that removes a port has come. -/
inductive Removal.Phase where
  /-- It is about to take the port out of the set. -/
  | unlinking
  /-- It is about to end the management of the port at a place. -/
  | retiring (place : Nat)
  /-- It is about to close this port. -/
  | closing (place : Nat)
  /-- It is over; the port that was removed had this place, if there was one. -/
  | finished (place : Option Nat)
  deriving DecidableEq, Repr

/-- A call that removes the port with a uid. -/
structure Removal where
  uid : String
  phase : Removal.Phase := .unlinking
  deriving DecidableEq, Repr

/-- A set of ports with its reader, its monitor and those who remove and open ports. -/
structure Traffic where
  watch : Watch := {}
  patrol : Patrol := .visiting []
  /-- The places of the ports that are being opened; their locks are held. -/
  openings : List Nat := []
  /-- The calls that remove ports, each at its place. -/
  removals : List Removal := []

namespace Traffic

/-- What may happen next. A step that cannot be made changes nothing. -/
inductive Step where
  /-- Something happens at the far ends. -/
  | change (c : Devices.Change)
  | add (d : Descriptor)
  /-- Somebody calls for the removal of a port. -/
  | callRemove (uid : String)
  /-- A removal goes on. -/
  | advance (call : Nat)
  /-- Somebody takes the lock of a port to open it, and looks at it. -/
  | beginOpen (place : Nat)
  /-- Somebody who has the lock of a port opens its path. -/
  | finishOpen (place : Nat)
  | close (place : Nat)
  | write (place : Nat) (data : Bytes)
  /-- The monitor goes on. -/
  | patrol
  /-- The reader goes on. -/
  | read (granted : Nat → Bool)

variable (t : Traffic)

/-- The ports, their devices, and the reader's buffer. -/
def rig : Rig := t.watch.rig

/-- A set without ports. -/
def start (devices : Devices) : Traffic := { watch := { rig := { devices := devices } } }

/-- A step of a rig and its reader. -/
def watching (s : Watch.Step) : Traffic × List Rig.Event :=
  ({ t with watch := (t.watch.step s).1 }, (t.watch.step s).2)

/-- The same with the monitor's pass further on. -/
def withPatrol (patrol : Patrol) : Traffic := { t with patrol := patrol }

@[simp] theorem rig_withPatrol (x : Patrol) : (t.withPatrol x).rig = t.rig := rfl

@[simp] theorem openings_withPatrol (x : Patrol) : (t.withPatrol x).openings = t.openings := rfl

@[simp] theorem withPatrol_withPatrol (x y : Patrol) :
    (t.withPatrol x).withPatrol y = t.withPatrol y := rfl

/-- Whether an opening of the port at a place goes on after its look at it. -/
def openable (place : Nat) : Bool := ((t.rig.ports.port? place).map Port.openable).getD false

/-- The second half of an opening. The lock is released. -/
def install (place : Nat) : Traffic :=
  { t with
    watch := t.watch.withRig
      { t.rig with ports := t.rig.ports.modify place fun p => p.install (t.rig.given? p) }
    openings := t.openings.filter fun i => i ≠ place }

/-- The lock that the reader needs to go on. -/
def readerNeeds : Rig.Round → Option Nat
  | .noting _ _ (place :: _) => some place
  | .acting ((target, _) :: _) => some target.place
  | .noting _ _ [] | .acting [] => none

/-- Puts a removal further. -/
def setRemoval (call : Nat) (uid : String) (phase : Removal.Phase) : Traffic :=
  { t with removals := t.removals.set call ⟨uid, phase⟩ }

/-- Puts a removal further that has come to some phase. -/
def remove (call : Nat) (uid : String) : Removal.Phase → Traffic
  | .unlinking =>
    match t.rig.ports.find? uid with
    | none => t.setRemoval call uid (.finished none)
    | some place => (t.watching (.unlink uid)).1.setRemoval call uid (.retiring place)
  | .retiring place => (t.watching (.clearRunning place)).1.setRemoval call uid (.closing place)
  | .closing place =>
    if place ∈ t.openings then t
    else (t.watching (.closeAt place)).1.setRemoval call uid (.finished (some place))
  | .finished _ => t

/-- The monitor goes on with its pass, or begins the next one. -/
def patrolOn : Patrol → Traffic
  | .visiting [] => t.withPatrol (.visiting t.rig.ports.snapshot)
  | .visiting (place :: left) =>
    if ((t.rig.ports.port? place).map Port.running).getD false then
      t.withPatrol (.looking place left)
    else t.withPatrol (.visiting left)
  | .looking place left =>
    let port := t.rig.ports.port? place
    t.withPatrol (.asking place ((port.map fun p => t.rig.devices.present p.device).getD false) left)
  | .asking place present left =>
    if place ∈ t.openings then t
    else
      match ((t.rig.ports.port? place).map Port.isOpen).getD false, present with
      | true, false => t.withPatrol (.closing place left)
      | false, true => t.withPatrol (.opening place left)
      | _, _ => t.withPatrol (.visiting left)
  | .closing place left =>
    if place ∈ t.openings then t
    else (t.watching (.closeAt place)).1.withPatrol (.visiting left)
  | .opening place left =>
    if place ∈ t.openings then t
    else if t.openable place then
      { t with openings := place :: t.openings, patrol := .inside place left }
    else t.withPatrol (.visiting left)
  | .inside place left => (t.install place).withPatrol (.visiting left)

/-- Makes a step: what comes after it, and what went into lines and came out of them. -/
def step : Step → Traffic × List Rig.Event
  | .change c => t.watching (.change c)
  | .add d => t.watching (.add d)
  | .callRemove uid => ({ t with removals := t.removals ++ [⟨uid, .unlinking⟩] }, [])
  | .advance call =>
    match t.removals[call]? with
    | none => (t, [])
    | some r => (t.remove call r.uid r.phase, [])
  | .beginOpen place =>
    if place ∉ t.openings ∧ t.openable place then
      ({ t with openings := place :: t.openings }, [])
    else (t, [])
  | .finishOpen place =>
    if place ∈ t.openings ∧ t.patrol.inside? ≠ some place then (t.install place, [])
    else (t, [])
  | .close place => if place ∈ t.openings then (t, []) else t.watching (.closeAt place)
  | .write place data =>
    if place ∈ t.openings then (t, []) else t.watching (.write place data)
  | .patrol => (t.patrolOn t.patrol, [])
  | .read granted =>
    if (readerNeeds t.watch.round).any fun place => place ∈ t.openings then (t, [])
    else t.watching (.read granted)

/-- Makes steps one after the other. -/
def run (steps : List Step) : Traffic × List Rig.Event := runSteps step t steps

end Traffic

end Fieldbus
