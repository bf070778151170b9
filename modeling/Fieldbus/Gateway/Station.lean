import Fieldbus.Gateway.Serial
import Fieldbus.Serial.Journal

/-!
# The gateway for ports at work

The gateway and its endpoints, with all that happens to them: the relay passes messages on, the
worker of every endpoint goes on, the reader and the monitor go on, devices send, and paths come and
go.

The handler of every endpoint works by itself. It gets a frame, lets the pacer of its port hold it
back, and tries to write; all this takes time, in which everybody else goes on. The worker of the
endpoint waits for its handler.

* `Station`: the gateway, its endpoints, and how far the reader has come.
* `Station.create`: a gateway that was just started.
* `TimedStation`: the same, with how far its handlers have come, and the time.
* `TimedStation.work`: the worker of an endpoint goes on, or its handler does.
* `TimedStation.step`, `TimedStation.run`: what may happen, with what it brings about.
-/

namespace Fieldbus

/-- The gateway for ports, its endpoints, and how far its reader has come. -/
structure Station where
  gateway : SerialGateway := {}
  /-- The endpoints, in the order of the ports. -/
  endpoints : List Endpoint := []
  /-- How far the reader has come. -/
  round : Rig.Round := .acting []

namespace Station

/-- A gateway that was just started. -/
def create (devices : Devices) (bus : Addresses) (ds : List Descriptor) :
    Except GatewayFault Station := do
  let (g, es) ← SerialGateway.create devices bus ds
  return { gateway := g, endpoints := es }

end Station

namespace TimedStation

/-- How far a handler has come with a frame. -/
inductive Task where
  /-- It is about to call the pacer. -/
  | asking (f : Frame)
  /-- It looked at the clock, and waits. -/
  | waiting (f : Frame) (begun wait : Nat)
  | writing (f : Frame)
  deriving DecidableEq, Repr

/-- The frame that a handler has. -/
def Task.frame : Task → Frame
  | asking f => f
  | waiting f _ _ => f
  | writing f => f

/-- What a handler does. -/
inductive Deed where
  | got (f : Frame)
  /-- A call of the pacer is over. -/
  | paced (c : Pacer.Call)
  /-- It tried to write the payload of a frame. -/
  | tried (f : Frame) (time : Nat)
  deriving DecidableEq, Repr

/-- What happens at a gateway. -/
inductive Event where
  /-- The handler of a port did something, and the port may have answered to it. -/
  | did (uid : String) (deed : Deed) (answer : Option (Except PortError Nat))
  /-- Something went into a line or came out of it. -/
  | line (e : Rig.Event)
  | published (f : Frame)

end TimedStation

/-- A gateway on a clock. -/
structure TimedStation where
  station : Station := {}
  /-- How far the handlers have come, by the places of their endpoints. -/
  tasks : Nat → Option TimedStation.Task := fun _ => none
  clock : Nat := 0

namespace TimedStation

/-- What may happen to a gateway. -/
inductive Step where
  /-- Time passes. -/
  | tick (time : Nat)
  /-- The relay passes a message on, whoever published it. -/
  | relay (m : Message)
  /-- The worker of an endpoint goes on, or its handler does. If it tries to write, `outcome` is
  what the device of the port makes of it. -/
  | work (place : Nat) (outcome : DeviceWrite)
  /-- Something happens at the far ends. -/
  | change (c : Devices.Change)
  /-- The monitor visits a port. -/
  | visit (place : Nat)
  | read (granted : Nat → Bool)

/-- A gateway whose handlers have nothing to do yet. -/
def start (s : Station) (now : Nat) : TimedStation := { station := s, clock := now }

variable (t : TimedStation)

/-- The ports, their pacers and their workers. -/
def gateway : SerialGateway := t.station.gateway

/-- The ports and their devices. -/
def rig : Rig := t.gateway.rig

/-- Whether the port with an id is open. -/
def isOpen (uid : String) : Bool := ((t.rig.ports.find? uid).bind t.rig.source?).isSome

/-- The same with the gateway in another state. -/
def withGateway (g : SerialGateway) : TimedStation :=
  { t with station := { t.station with gateway := g } }

/-- The same with the ports and their devices in another state. -/
def withRig (r : Rig) : TimedStation := t.withGateway { t.gateway with rig := r }

/-- The same with another endpoint at a place. -/
def setEndpoint (place : Nat) (e : Endpoint) : TimedStation :=
  { t with station := { t.station with endpoints := t.station.endpoints.set place e } }

/-- The handler of the endpoint at a place comes further. -/
def setTask (place : Nat) (task : Option Task) : TimedStation :=
  { t with tasks := fun i => if i = place then task else t.tasks i }

/-- The worker of the endpoint at a place, which has nothing to wait for, makes a step. If it
handles a frame in it, the handler gets the frame. -/
def attend (place : Nat) (e : Endpoint) : TimedStation × List Event :=
  let e' := e.work.1
  let t := t.setEndpoint place e'
  match (e'.handled.drop e.handled.length).head? with
  | none => (t, [])
  | some f => (t.setTask place (some (.asking f)), [.did e.id (.got f) none])

/-- The worker of the endpoint at a place goes on, or its handler does. -/
def work (place : Nat) (outcome : DeviceWrite) : TimedStation × List Event :=
  match t.station.endpoints[place]? with
  | none => (t, [])
  | some e =>
    match t.tasks place with
    | none => t.attend place e
    | some (.asking f) =>
      (t.setTask place (some (.waiting f t.clock (t.gateway.heldBack e.id t.clock))), [])
    | some (.waiting f begun wait) =>
      if begun + wait ≤ t.clock then
        ((t.withGateway (t.gateway.note e.id t.clock)).setTask place (some (.writing f)),
          [.did e.id (.paced ⟨begun, wait, t.clock⟩) none])
      else (t, [])
    | some (.writing f) =>
      let (answer, r, _) := t.rig.writeTo e.id f.payload outcome
      ((t.withRig r).setTask place none, [.did e.id (.tried f t.clock) (some answer)])

/-- The reader goes on. What handlers of ports get, the endpoints of the ports publish. -/
def read (granted : Nat → Bool) : TimedStation × List Event :=
  let (r, round, e) := t.rig.advance granted t.station.round
  ({ t with station := { t.station with gateway := { t.gateway with rig := r }, round := round } },
    (Rig.beginning granted t.station.round ++ t.rig.handings e).map .line ++
      (SerialGateway.published e).map .published)

/-- Makes a step: what comes after it, and what it brings about. -/
def step (t : TimedStation) : Step → TimedStation × List Event
  | .tick time => ({ t with clock := t.clock + time }, [])
  | .relay m =>
    let endpoints := t.station.endpoints.map fun e => e.deliver m
    ({ t with station := { t.station with endpoints := endpoints } }, [])
  | .work place outcome => t.work place outcome
  | .change c =>
    let (d, es) := t.rig.devices.change c
    (t.withRig { t.rig with devices := d }, es.map .line)
  | .visit place => (t.withRig (t.rig.visit t.rig.given? place).1, [])
  | .read granted => t.read granted

/-- Makes steps one after the other. -/
def run (steps : List Step) : TimedStation × List Event := runSteps step t steps

end TimedStation

end Fieldbus
