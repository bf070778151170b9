import Fieldbus.Device.Path
import Fieldbus.Serial.Fault

/-!
# Terminals

A terminal is a line with a port at one end and a device at the other. What either end sends waits
until the other takes it. Terminals are found by paths, which may be taken away and put back.

* `Terminal`: the bytes that wait, and whether the device is still there.
* `Terminal.read`, `Terminal.write`: what the port does.
* `Access`: which paths the system opens.
* `Devices`: the terminals, and what is found where.
* `Devices.present`, `Devices.openable?`: what a path leads to.
-/

namespace Fieldbus

/-- A terminal. -/
structure Terminal where
  /-- The bytes that wait for the port. -/
  toPort : Bytes := []
  /-- The bytes that wait for the device. -/
  fromPort : Bytes := []
  /-- Whether the device has hung up. -/
  hungUp : Bool := false
  /-- Whether the device takes no more bytes. -/
  stalled : Bool := false
  deriving DecidableEq, Repr, Inhabited

/-- What a read gives. -/
inductive DeviceRead where
  | bytes (bs : Bytes)
  | failed (fault : IoFault)
  deriving DecidableEq, Repr

/-- What a write gives. -/
inductive DeviceWrite where
  /-- The device took the first bytes. -/
  | accepted (count : Nat)
  /-- A failure, after which the device has none of the bytes. -/
  | failed (fault : IoFault)
  deriving DecidableEq, Repr

namespace Terminal

/-- Reads what waits, as far as it fits into a buffer. -/
def read (t : Terminal) (capacity : Nat) : DeviceRead × Terminal :=
  if t.hungUp then (.failed .fatal, t)
  else (.bytes (t.toPort.take capacity), { t with toPort := t.toPort.drop capacity })

/-- Writes bytes to the device. -/
def write (t : Terminal) (data : Bytes) : DeviceWrite × Terminal :=
  if t.hungUp then (.failed .fatal, t)
  else if t.stalled then (.failed .transient, t)
  else (.accepted data.length, { t with fromPort := t.fromPort ++ data })

/-- The device sends bytes. -/
def feed (t : Terminal) (data : Bytes) : Terminal :=
  { t with toPort := t.toPort ++ data }

/-- The device takes bytes. -/
def drain (t : Terminal) (count : Nat) : Bytes × Terminal :=
  (t.fromPort.take count, { t with fromPort := t.fromPort.drop count })

end Terminal

/-! ## Devices -/

/-- What a path leads to. -/
inductive Node where
  | terminal (id : Nat)
  /-- An ordinary file, which cannot be opened as a port. -/
  | file
  deriving DecidableEq, Repr

/-- What the system makes of a call that opens a path which leads to a terminal. Terminals are
opened for exclusive use. -/
structure Access where
  /-- Whether a path can be opened, where its terminal is open already or not. -/
  grants : String → Bool → Bool
  /-- A terminal that is open is not opened once more. -/
  exclusive : ∀ path, grants path true = false

/-- Whoever asks first is given the terminal. -/
def Access.unrestricted : Access := ⟨fun _ busy => !busy, fun _ => rfl⟩

instance : Inhabited Access := ⟨.unrestricted⟩

/-- The terminals, their names, and what is found where. A path may be taken away from a terminal,
and something else may be put in its place; the terminal keeps its name meanwhile. -/
structure Devices where
  /-- The terminals; the id of a terminal is its place. -/
  terminals : List Terminal := []
  /-- The names of the terminals, which are the paths at which they were plugged in first. -/
  names : List (String × Nat) := []
  /-- What is found where; every place occurs once. -/
  links : List (Path.Place × Node) := []
  /-- Which paths can be opened. -/
  access : Access := .unrestricted
  deriving Inhabited

namespace Devices

variable (d : Devices)

/-- The terminal with an id. -/
def terminal? (id : Nat) : Option Terminal := d.terminals[id]?

/-- Replaces the terminal with an id. -/
def update (id : Nat) (t : Terminal) : Devices := { d with terminals := d.terminals.set id t }

/-- The id of the terminal with a name. -/
def named? (name : String) : Option Nat := (d.names.find? fun n => n.1 = name).map Prod.snd

/-- What is found at a place. -/
def link? (place : Path.Place) : Option Node :=
  (d.links.find? fun l => l.1 = place).map Prod.snd

/-- What a path leads to. -/
def node? (path : String) : Option Node := (Path.place? (utf8 path)).bind d.link?

/-- Whether the device has hung up at a terminal. -/
def isDead (id : Nat) : Bool :=
  match d.terminal? id with
  | some t => t.hungUp
  | none => true

/-- Whether a path leads to something. One that leads to a terminal whose device has hung up leads
nowhere. -/
def present (path : String) : Bool :=
  match d.node? path with
  | some (.terminal id) => !d.isDead id
  | some .file => true
  | none => false

/-- The terminal to which a path leads, if its device has not hung up. -/
def openable? (path : String) : Option Nat :=
  match d.node? path with
  | some (.terminal id) => if d.isDead id then none else some id
  | _ => none

/-- Takes away what is found at a place. -/
def clear (place : Path.Place) : Devices :=
  { d with links := d.links.filter fun l => l.1 ≠ place }

/-- Puts something at a place. -/
def put (place : Path.Place) (node : Node) : Devices :=
  { d with links := (place, node) :: (d.clear place).links }

/-- Puts something where a path leads to. -/
def putAt (path : String) (node : Node) : Devices :=
  match Path.place? (utf8 path) with
  | none => d
  | some place => d.put place node

/-- Changes the terminal with a name, wherever it is plugged in. -/
def modify (name : String) (f : Terminal → Terminal) : Option Devices := do
  let id ← d.named? name
  let t ← d.terminal? id
  return d.update id (f t)

/-- Lets the device at the terminal with a name hang up for good; tells whether that is news. -/
def hangUp (name : String) : Bool × Devices :=
  match d.named? name with
  | none => (false, d)
  | some id =>
    match d.terminal? id with
    | none => (false, d)
    | some t => (!t.hungUp, d.update id { t with hungUp := true })

/-- Plugs in a new terminal. An earlier one of the same name is given up: its device hangs up. -/
def addTerminal (name : String) : Devices :=
  let d := (d.hangUp name).2
  let id := d.terminals.length
  { d with terminals := d.terminals ++ [({} : Terminal)], names := (name, id) :: d.names }.putAt
    name (.terminal id)

/-- Makes an ordinary file, unless something is found there that can be written to instead; tells
whether there is something now. -/
def addFile (path : String) : Bool × Devices :=
  match Path.place? (utf8 path) with
  | none => (false, d)
  | some place =>
    match d.link? place with
    | none => (true, d.put place .file)
    | some .file => (true, d)
    | some (.terminal id) => (!d.isDead id, d)

/-- Takes away what a path leads to, or leads the name of a terminal to it again; tells whether that
changed anything. -/
def setPlugged (name : String) (plugged : Bool) : Bool × Devices :=
  match Path.place? (utf8 name) with
  | none => (false, d)
  | some place =>
    match plugged, d.link? place, d.named? name with
    | false, some _, _ => (true, d.clear place)
    | true, none, some id => (true, d.put place (.terminal id))
    | _, _, _ => (false, d)

end Devices

end Fieldbus
