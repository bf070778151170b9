import Fieldbus.Serial.Port

/-!
# Sets of ports

A set knows its ports by their ids, in the order in which they were added. A port that was removed
lives on for those who still hold it; therefore ports have places, which are never used again.

* `PortSet`: the ports ever added, and the members.
* `PortSet.add`, `PortSet.unlink`, `PortSet.remove`: what changes the members.
* `PortSet.statuses`: the members and their state.
-/

namespace Fieldbus

/-- A member of a set. -/
structure Member where
  /-- The id under which it is known. -/
  key : String
  /-- The place of the port. -/
  place : Nat
  deriving DecidableEq, Repr

/-- A set of ports. -/
structure PortSet where
  /-- The ports ever added, each at its place. -/
  ports : List Port := []
  /-- The members, in the order in which they were added. -/
  members : List Member := []
  deriving Repr, Inhabited

/-- A port in a listing. -/
structure PortStatus where
  uid : String
  device : String
  isOpen : Bool
  deriving DecidableEq, Repr

/-- The port in a listing. -/
def Port.status (p : Port) : PortStatus := ⟨p.id, p.device, p.isOpen⟩

namespace PortSet

variable (s : PortSet)

/-- The port at a place. -/
def port? (place : Nat) : Option Port := s.ports[place]?

/-- Replaces the port at a place. -/
def update (place : Nat) (p : Port) : PortSet := { s with ports := s.ports.set place p }

/-- Changes the port at a place. -/
def modify (place : Nat) (f : Port → Port) : PortSet := { s with ports := s.ports.modify place f }

/-- The place of the member with an id. -/
def find? (id : String) : Option Nat := (s.members.find? fun m => m.key = id).map Member.place

/-- The number of members. -/
def size : Nat := s.members.length

/-- The places of the members. -/
def snapshot : List Nat := s.members.map Member.place

/-- Adds a closed port and tells its place. The descriptor is checked first. -/
def add (d : Descriptor) : Except PortError Nat × PortSet :=
  match d.fault? with
  | some cause => (.error (.invalid cause), s)
  | none =>
    if (s.find? d.uid).isSome then (.error (.duplicateId d.uid), s)
    else
      (.ok s.ports.length,
        { ports := s.ports ++ [{ descriptor := d }]
          members := s.members ++ [⟨d.uid, s.ports.length⟩] })

/-- Adds ports one after the other, up to the first that is not accepted. -/
def addAll : PortSet → List Descriptor → Except (String × PortError) Unit × PortSet
  | s, [] => (.ok (), s)
  | s, d :: ds =>
    match s.add d with
    | (.error e, s) => (.error (d.uid, e), s)
    | (.ok _, s) => addAll s ds

/-- Takes a port out of the set and tells its place. The port itself does not change. -/
def unlink (id : String) : Option Nat × PortSet :=
  match s.find? id with
  | none => (none, s)
  | some place => (some place, { s with members := s.members.filter fun m => m.key ≠ id })

/-- Ends the management of the port at a place. -/
def clearRunning (place : Nat) : PortSet := s.modify place Port.clearRunning

/-- Closes the port at a place. -/
def closeAt (place : Nat) : PortSet := s.modify place fun p => p.close.2

/-- Removes a port: takes it out of the set, ends its management, and closes it. Tells whether there
was one. -/
def remove (id : String) : Bool × PortSet :=
  match s.unlink id with
  | (none, s) => (false, s)
  | (some place, s) => (true, (s.clearRunning place).closeAt place)

/-- Whether a port has a terminal open, be it a member or not. -/
def holds (terminal : Nat) : Bool := s.ports.any fun p => p.terminal = some terminal

/-- The members and their state, in order. -/
def statuses : List PortStatus :=
  s.members.filterMap fun m => (s.port? m.place).map Port.status

end PortSet

end Fieldbus
