import Fieldbus.Serial.PortSet

/-!
# Ports at work

A rig is a set of ports together with the devices that they are opened on and the buffer that the
reader uses for all of them. Reader and monitor go over the ports in passes; each first notes
which ports there are, and meets them one after the other.

* `Rig`: devices, ports and buffer.
* `Rig.openAt`, `Rig.closeAt`, `Rig.writeAt`: what is done with one port.
* `Rig.capture`, `Rig.handle`, `Rig.readerPass`: a pass of the reader.
* `Rig.visit`, `Rig.monitorPass`: a pass of the monitor.
-/

namespace Fieldbus

/-- Ports, the devices that they are opened on, and the reader's buffer. -/
structure Rig where
  devices : Devices := {}
  ports : PortSet := {}
  /-- The buffer that the reader uses for all ports. -/
  buffer : Bytes := []
  deriving Inhabited

/-- Bytes that a port's handler gets. -/
structure Delivery where
  place : Nat
  uid : String
  bytes : Bytes
  deriving DecidableEq, Repr

/-- A report about a port. -/
structure Notice where
  place : Nat
  event : PortEvent
  deriving DecidableEq, Repr

/-- What a pass brings about besides the change of the rig. -/
structure Effects where
  deliveries : List Delivery := []
  notices : List Notice := []
  deriving DecidableEq, Repr

/-- One effect after another. -/
def Effects.append (a b : Effects) : Effects :=
  ⟨a.deliveries ++ b.deliveries, a.notices ++ b.notices⟩

instance : Append Effects := ⟨Effects.append⟩

namespace Rig

variable (r : Rig)

/-- The rig with another port at a place. -/
def setPort (place : Nat) (p : Port) : Rig := { r with ports := r.ports.update place p }

/-- The log event of a notice. -/
def logEvent? (n : Notice) : Option LogEvent :=
  (r.ports.port? n.place).map fun p => n.event.logEvent p.descriptor

/-! ## Single ports -/

/-- The terminal that the system gives when the path of a port is opened. -/
def given? (p : Port) : Option Nat :=
  (r.devices.openable? p.device).bind fun id =>
    if r.devices.access.grants p.device (r.ports.holds id) then some id else none

/-- Opens the port at a place, where `opens` is what opening the path of a port gives. -/
def openAt (opens : Port → Option Nat) (place : Nat) : Except PortError Bool × Rig × List Notice :=
  match r.ports.port? place with
  | none => (.ok false, r, [])
  | some p =>
    let (result, p) := p.openWith (opens p)
    let notices := match result with
      | .ok true => [⟨place, .opened⟩]
      | _ => []
    (result, r.setPort place p, notices)

/-- Closes the port at a place because somebody asks for it. -/
def closeAt (place : Nat) : Bool × Rig :=
  match r.ports.port? place with
  | none => (false, r)
  | some p =>
    let (was, p) := p.close
    (was, r.setPort place p)

/-- Writes to the port at a place. -/
def writeAt (place : Nat) (data : Bytes) : Except PortError Nat × Rig × List Notice :=
  match r.ports.port? place with
  | none => (.error (.closed ""), r, [])
  | some p =>
    match p.terminal.bind fun id => (r.devices.terminal? id).map fun t => (id, t) with
    | none =>
      let (result, p) := p.write (.failed .fatal)
      (result, r.setPort place p, [])
    | some (id, t) =>
      let (outcome, t) := t.write data
      let (result, p) := p.write outcome
      let notices := match outcome with
        | .failed .fatal => [⟨place, .closed .write⟩]
        | _ => []
      (result, { r.setPort place p with devices := r.devices.update id t }, notices)

/-- Writes to the member with an id. -/
def write (uid : String) (data : Bytes) : Except PortError Nat × Rig × List Notice :=
  match r.ports.find? uid with
  | none => (.error (.notFound uid), r, [])
  | some place => r.writeAt place data

/-! ## The reader -/

/-- An open port, as the reader noted it. -/
structure Target where
  place : Nat
  terminal : Nat
  generation : UInt64
  deriving DecidableEq, Repr

/-- What waiting for a terminal tells about it. -/
inductive Readiness where
  /-- The device has hung up or failed. -/
  | hangup
  /-- There is something to read. -/
  | readable
  | quiet
  deriving DecidableEq, Repr

/-- The port at a place as the reader notes it, if it is open. -/
def target? (place : Nat) : Option Target :=
  (r.ports.port? place).bind fun p => p.pollTarget.map fun (id, g) => ⟨place, id, g⟩

/-- Notes the members that are open. -/
def capture : List Target := r.ports.snapshot.filterMap r.target?

/-- What waiting for a noted terminal tells. -/
def readiness (t : Target) : Readiness :=
  match r.devices.terminal? t.terminal with
  | none => .hangup
  | some d =>
    if d.hungUp then .hangup
    else if d.toPort.isEmpty then .quiet
    else .readable

/-- A buffer of at least some size: the present one if it is large enough, or a longer one if there
is memory for it. -/
def grown? (buffer : Bytes) (capacity : Nat) (granted : Bool) : Option Bytes :=
  if capacity ≤ buffer.length then some buffer
  else if granted then some (buffer ++ List.replicate (capacity - buffer.length) 0)
  else none

/-- Reads from a noted port into the first bytes of a buffer. The device is asked for as many bytes
as this part of the buffer has room for. -/
def readAt (t : Target) (buffer : Bytes) (capacity : Nat) : Rig × Effects :=
  match r.ports.port? t.place with
  | none => ({ r with buffer := buffer }, {})
  | some p =>
    let given := if p.isCurrent t.generation then
        p.terminal.bind fun id => (r.devices.terminal? id).map fun d => (id, d)
      else none
    match given with
    | none => ({ r with buffer := buffer }, {})
    | some (id, d) =>
      let (read, d) := d.read (buffer.take capacity).length
      let (outcome, part, p) := p.readReady t.generation (buffer.take capacity) read
      let r :=
        { r.setPort t.place p with
          buffer := part ++ buffer.drop capacity, devices := r.devices.update id d }
      match outcome with
      | .delivered bs => (r, { deliveries := [⟨t.place, p.id, bs⟩] })
      | .closed => (r, { notices := [⟨t.place, .closed .read⟩] })
      | .idle | .stale => (r, {})

/-- Closes a noted port whose device has hung up, unless the session is over. -/
def hangUpAt (t : Target) : Rig × Effects :=
  match r.ports.port? t.place with
  | none => (r, {})
  | some p =>
    match p.closeIfCurrent t.generation with
    | (false, _) => (r, {})
    | (true, p) => (r.setPort t.place p, { notices := [⟨t.place, .closed .hangup⟩] })

/-- Acts on what waiting told about a noted port. If there is no memory for its buffer, the port is
passed over. -/
def handle (t : Target) (what : Readiness) (granted : Bool) : Rig × Effects :=
  match what with
  | .hangup => r.hangUpAt t
  | .quiet => (r, {})
  | .readable =>
    let capacity := ((r.ports.port? t.place).map fun p => p.descriptor.maxLen).getD 0
    match grown? r.buffer capacity granted with
    | none => (r, {})
    | some buffer => r.readAt t buffer capacity

/-- Acts on noted ports one after the other. -/
def handleAll (r : Rig) : List (Target × Readiness × Bool) → Rig × Effects
  | [] => (r, {})
  | (t, what, granted) :: rest =>
    let (r, e) := r.handle t what granted
    let (r, e') := r.handleAll rest
    (r, e ++ e')

/-- A pass of the reader: notes the open members, waits for all of them at once, and acts on what
that told. There is memory for the buffers of the ports at the places that are `granted`. -/
def readerPass (granted : Nat → Bool) : Rig × Effects :=
  r.handleAll (r.capture.map fun t => (t, r.readiness t, granted t.place))

/-! ## The monitor -/

/-- Visits the port at a place: an open one whose path is gone is closed, and a closed one whose
path is there is opened. -/
def visit (opens : Port → Option Nat) (place : Nat) : Rig × Effects :=
  match r.ports.port? place with
  | none => (r, {})
  | some p =>
    if !p.running then (r, {})
    else if p.isOpen then
      if r.devices.present p.device then (r, {})
      else
        let (was, r) := r.closeAt place
        (r, { notices := if was then [⟨place, .closed .vanished⟩] else [] })
    else if r.devices.present p.device then
      let (_, r, notices) := r.openAt opens place
      (r, { notices := notices })
    else (r, {})

/-- Visits ports one after the other. What opening a path gives may depend on what is open by then.
-/
def visitAll (opens : Rig → Port → Option Nat) (r : Rig) : List Nat → Rig × Effects
  | [] => (r, {})
  | place :: rest =>
    let (r, e) := r.visit (opens r) place
    let (r, e') := r.visitAll opens rest
    (r, e ++ e')

/-- A pass of the monitor: notes the members and visits each. -/
def monitorPass (opens : Rig → Port → Option Nat) : Rig × Effects :=
  r.visitAll opens r.ports.snapshot

/-! ## Until there is nothing left to do -/

/-- The number of bytes that wait for open members. -/
def waiting : Nat :=
  (r.capture.map fun t =>
    match r.devices.terminal? t.terminal with
    | some d => d.toPort.length
    | none => 0).foldl (· + ·) 0

/-- Passes of the reader, at most `fuel` of them, until no bytes wait for open members. -/
def readAll (r : Rig) : Nat → Rig × Effects
  | 0 => (r, {})
  | fuel + 1 =>
    let (r, e) := r.readerPass fun _ => true
    if r.waiting = 0 then (r, e)
    else
      let (r, e') := r.readAll fuel
      (r, e ++ e')

/-- What a started set does until there is nothing left to do: the monitor sees what changed, and
the reader takes what waits. -/
def settle : Rig × Effects :=
  let (r, e) := r.monitorPass given?
  let (r, e') := r.readAll (r.waiting + 1)
  (r, e ++ e')

end Rig

end Fieldbus
