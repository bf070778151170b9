import Fieldbus.Json.Decode
import Fieldbus.Serial.Crew
import Fieldbus.Serial.Rig

/-!
# A bench for ports

A bench is a rig whose devices are at hand: they can be plugged in, made to send, and looked at.
After every step of the operator a started set does all that there is to do.

* `Bench`: the rig, its workers, the ports that the operator holds, and what was delivered.
* `Bench.Step`, `Bench.Reply`: what the operator does and sees.
* `Bench.run`: the replies to a sequence of steps.
-/

namespace Fieldbus

/-- A rig whose devices are at hand. -/
structure Bench where
  /-- The ports and their devices. -/
  rig : Rig := {}
  crew : Crew := {}
  /-- The ports that the operator holds, by name; the latest of a name counts. -/
  held : List (String × Nat) := []
  /-- What was delivered and not yet collected, each with the greatest size allowed. -/
  delivered : List (Delivery × Nat) := []

namespace Bench

/-- How a step names a port. -/
inductive Who where
  /-- The member with an id. -/
  | member (uid : String)
  /-- The port that the operator holds under a name. -/
  | held (name : String)
  deriving DecidableEq, Repr

/-- What the operator does. -/
inductive Step where
  | plug (path : String)
  | unplug (path : String)
  | replug (path : String)
  /-- Makes a device hang up. -/
  | hangUp (path : String)
  | makeFile (path : String)
  /-- Makes a device send bytes. -/
  | feed (path : String) (data : Bytes)
  /-- Takes bytes from a device. -/
  | drain (path : String) (count : Nat)
  /-- Adds a port and holds it under a name. The descriptor may be undecodable. -/
  | add (d : Except Json.DecodeError Descriptor) (name : Option String)
  | remove (uid : String)
  | write (who : Who) (data : Bytes)
  | openPort (who : Who)
  | closePort (who : Who)
  | look (who : Who)
  | count
  | list
  | start
  | stop
  /-- Asks whether the workers should go on. -/
  | isRunning
  /-- Writes to a port until its device takes no more. -/
  | flood (uid : String)
  /-- Asks whether a port is open. -/
  | isOpen (uid : String)
  /-- Asks whether a port is closed. -/
  | isClosed (uid : String)
  /-- Collects what was delivered for a port. -/
  | collect (uid : String)

/-- What the operator sees. -/
inductive Reply where
  /-- The device is plugged in. -/
  | plugged
  | fed
  | added (uid : String)
  | truth (b : Bool)
  | count (n : Nat)
  | bytes (bs : Bytes)
  /-- The size of the set. -/
  | size (n : Nat)
  | statuses (l : List PortStatus)
  /-- A port, if there is one. -/
  | port (p : Option Port)
  /-- What was delivered, and whether every piece of it was of an allowed size. -/
  | collected (bs : Bytes) (allFit : Bool)
  | failed (e : PortError)
  /-- The descriptor cannot be decoded. -/
  | undecodable (e : Json.DecodeError)
  /-- There is nothing of that name. -/
  | unknown
  deriving Inhabited

variable (b : Bench)

/-- The place of the port that a step names. -/
def place? : Who → Option Nat
  | .member uid => b.rig.ports.find? uid
  | .held name => (b.held.find? fun h => h.1 = name).map Prod.snd

/-- What is said when the port that a step names is not there. -/
def absent : Who → Reply
  | .member uid => .failed (.notFound uid)
  | .held _ => .unknown

/-- The bench with other devices. -/
def setDevices (d : Devices) : Bench := { b with rig := { b.rig with devices := d } }

/-- Changes the device with a name. -/
def changeDevice (name : String) (reply : Reply) (f : Terminal → Terminal) : Reply × Bench :=
  match b.rig.devices.modify name f with
  | some d => (reply, b.setDevices d)
  | none => (.unknown, b)

/-- Takes bytes from the device with a name. -/
def drain (name : String) (count : Nat) : Reply × Bench :=
  match (b.rig.devices.named? name).bind b.rig.devices.terminal? with
  | none => (.unknown, b)
  | some t =>
    let (bs, t) := t.drain count
    let (_, b) := b.changeDevice name .fed fun _ => t
    (.bytes bs, b)

/-- Adds a port. -/
def add (d : Descriptor) (name : Option String) : Reply × Bench :=
  match b.rig.ports.add d with
  | (.error e, _) => (.failed e, b)
  | (.ok place, ports) =>
    (.added d.uid,
      { b with
        rig := { b.rig with ports := ports }, held := (name.getD d.uid, place) :: b.held })

/-- The reply to an operation that may fail. -/
def replyOf {α : Type} (onOk : α → Reply) : Except PortError α → Reply
  | .ok a => onOk a
  | .error e => .failed e

/-- The size of the blocks with which a port is flooded. -/
def floodBlock : Nat := 4096

/-- Writes to a port until its device takes no more: the last write fails. -/
def flood (uid : String) : Reply × Bench × List Notice :=
  let stalled := match (b.rig.ports.find? uid).bind b.rig.ports.port? with
    | some p =>
      match p.terminal with
      | some id =>
        match b.rig.devices.terminal? id with
        | some t => b.setDevices (b.rig.devices.update id { t with stalled := true })
        | none => b
      | none => b
    | none => b
  let (result, rig, notices) := stalled.rig.write uid (List.replicate floodBlock 0)
  (replyOf .count result, { stalled with rig := rig }, notices)

/-- Whether the member with an id is open. -/
def memberOpen (uid : String) : Bool :=
  match (b.rig.ports.find? uid).bind b.rig.ports.port? with
  | some p => p.isOpen
  | none => false

/-- Collects what was delivered for an id. -/
def collect (uid : String) : Reply × Bench :=
  let mine := b.delivered.filter fun d => d.1.uid = uid
  (.collected (mine.flatMap fun d => d.1.bytes)
      (mine.all fun d => 0 < d.1.bytes.length && d.1.bytes.length ≤ d.2),
    { b with delivered := b.delivered.filter fun d => d.1.uid ≠ uid })

/-- Makes one step of the operator: the reply, the bench, and what is reported meanwhile. -/
def act : Step → Reply × Bench × List Notice
  | .plug path => (.plugged, b.setDevices (b.rig.devices.addTerminal path), [])
  | .unplug path =>
    let (did, d) := b.rig.devices.setPlugged path false
    (.truth did, b.setDevices d, [])
  | .replug path =>
    let (did, d) := b.rig.devices.setPlugged path true
    (.truth did, b.setDevices d, [])
  | .hangUp path =>
    let (did, d) := b.rig.devices.hangUp path
    (.truth did, b.setDevices d, [])
  | .makeFile path =>
    let (did, d) := b.rig.devices.addFile path
    (.truth did, b.setDevices d, [])
  | .feed path data =>
    let (reply, b) := b.changeDevice path .fed fun t => t.feed data
    (reply, b, [])
  | .drain path count =>
    let (reply, b) := b.drain path count
    (reply, b, [])
  | .add (.error e) _ => (.undecodable e, b, [])
  | .add (.ok d) name =>
    let (reply, b) := b.add d name
    (reply, b, [])
  | .remove uid =>
    let (was, ports) := b.rig.ports.remove uid
    (.truth was, { b with rig := { b.rig with ports := ports } }, [])
  | .write who data =>
    match b.place? who with
    | none => (absent who, b, [])
    | some place =>
      let (result, rig, notices) := b.rig.writeAt place data
      (replyOf .count result, { b with rig := rig }, notices)
  | .openPort who =>
    match b.place? who with
    | none => (absent who, b, [])
    | some place =>
      let (result, rig, notices) := b.rig.openAt b.rig.given? place
      (replyOf .truth result, { b with rig := rig }, notices)
  | .closePort who =>
    match b.place? who with
    | none => (absent who, b, [])
    | some place =>
      let (was, rig) := b.rig.closeAt place
      (.truth was, { b with rig := rig }, [])
  | .look who => (.port ((b.place? who).bind b.rig.ports.port?), b, [])
  | .count => (.size b.rig.ports.size, b, [])
  | .list => (.statuses b.rig.ports.statuses, b, [])
  | .start =>
    let b := { b with crew := b.crew.start }
    (.truth b.crew.running, b, [])
  | .stop =>
    let b := { b with crew := b.crew.stop }
    (.truth b.crew.running, b, [])
  | .isRunning => (.truth b.crew.running, b, [])
  | .flood uid => b.flood uid
  | .isOpen uid => (.truth (b.memberOpen uid), b, [])
  | .isClosed uid => (.truth (!b.memberOpen uid), b, [])
  | .collect uid =>
    let (reply, b) := b.collect uid
    (reply, b, [])

/-- A delivery with the greatest size that its port allows. -/
def measured (d : Delivery) : Delivery × Nat :=
  (d, ((b.rig.ports.port? d.place).map fun p => p.descriptor.maxLen).getD 0)

/-- Lets a started set do all that there is to do. -/
def settle : Bench :=
  if b.crew.running then
    let (rig, e) := b.rig.settle
    { b with rig := rig, delivered := b.delivered ++ e.deliveries.map b.measured }
  else b

/-- The replies to a sequence of steps, each with the log events that it brought about. -/
def run (b : Bench) : List Step → List (Reply × List LogEvent)
  | [] => []
  | s :: ss =>
    let (reply, b, notices) := b.act s
    (reply, notices.filterMap b.rig.logEvent?) :: b.settle.run ss

end Bench

end Fieldbus
