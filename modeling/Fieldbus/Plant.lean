import Fieldbus.Bus.Network
import Fieldbus.Gateway.Serial
import Fieldbus.Gateway.Tcp
import Fieldbus.Plugin.Load
import Fieldbus.Serial.Watch

/-!
# Plants

A plant is a bus with everything on it: the relay, the endpoints and subscribers, the gateway for
ports with its devices, and the gateway for clients. Left alone, it does all that there is to do and
comes to rest; only frames that the pacers of ports hold back may still wait then.

* `Plant`: the parts, and the names by which an operator knows them.
* `Plant.onEndpoint`: something is done with an endpoint, and the frames that it handles meanwhile
  are put to use.
* `Plant.waitUntil`: time passes, and frames that were held back are written.
* `Plant.settle`: the plant is left alone.
-/

namespace Fieldbus

/-- What an endpoint is there for, besides what its handler does. -/
inductive Duty where
  /-- Its frames are staged for the clients. -/
  | stage
  /-- Its frames are written to a port. -/
  | write (uid : String)
  deriving DecidableEq, Repr

/-- An endpoint that the operator knows by name. -/
structure Guest where
  name : String
  /-- The place of the endpoint. -/
  place : Nat
  /-- How many of the frames that it handled the operator has seen. -/
  seen : Nat := 0
  deriving DecidableEq, Repr

/-- A frame for a port that the pacer of the port holds back. -/
structure Held where
  /-- The place of the endpoint that handles it. -/
  place : Nat
  uid : String
  payload : Bytes
  /-- The time at which it may be written. -/
  due : Nat
  deriving DecidableEq, Repr

/-- A bus with everything on it. -/
structure Plant where
  /-- The addresses of the bus. -/
  bus : Addresses := .standard
  /-- The relay and the peers. The first subscriber is the log, which follows everything. -/
  net : Network := {}
  /-- The endpoints that the operator knows. -/
  guests : List Guest := []
  /-- The subscribers that the operator knows, by name, each with its place. -/
  listeners : List (String × Nat) := []
  /-- How many frames the observer of the relay was shown. -/
  observed : Nat := 0
  serial : SerialGateway := {}
  /-- The gateway for clients, if there is one, and the place of its endpoint. -/
  tcp : Option (TcpGateway Memory × Nat) := none
  /-- What endpoints are there for, by their places. -/
  duties : List (Nat × Duty) := []
  /-- The frames that are held back, at most one for every endpoint. -/
  held : List Held := []
  /-- The time, in milliseconds. -/
  now : Nat := 0

namespace Plant

/-- The place of the log among the subscribers. -/
def logPlace : Nat := 0

/-- A plant with nothing on its bus but the log. -/
def bare (bus : Addresses) : Plant where
  bus := bus
  net := { subscribers := [{ south := bus.south, inbox := { prefixes := [[]] } }] }

variable (p : Plant)

/-- The inbox of the log. -/
def log : Inbox := ((p.net.subscriber? logPlace).map Subscriber.inbox).getD {}

/-- Replaces the inbox of the log. -/
def setLog (b : Inbox) : Plant :=
  match p.net.subscriber? logPlace with
  | some s => { p with net := p.net.setSubscriber logPlace { s with inbox := b } }
  | none => p

/-- Frames go to the bus. -/
def publishAll (fs : List Frame) : Plant := { p with net := p.net.publishAll p.bus.north fs }

/-! ## The gateway for clients -/

/-- Steps of the worker of the gateway for clients. -/
def workTcp (p : Plant) : Nat → Plant
  | 0 => p
  | n + 1 =>
    match p.tcp with
    | none => p
    | some (g, place) =>
      let (g, effects) := g.work
      workTcp ({ p with tcp := some (g, place) }.publishAll (TcpGateway.frames effects)) n

/-- Lets the worker of the gateway for clients take all that is staged. -/
def settleTcp : Plant :=
  match p.tcp with
  | none => p
  | some (g, _) => p.workTcp (3 * g.queue.length + 3)

/-! ## Endpoints -/

/-- The pacer of a port lets a payload go, and it is written. If the port is closed or fails, the
payload is lost. -/
def release (uid : String) (payload : Bytes) : Plant :=
  let g := p.serial.note uid p.now
  { p with serial := { g with rig := (g.rig.write uid payload).2.1 } }

/-- The endpoint at a place, which is there for something, has handled a frame. -/
def perform (i : Nat) (f : Frame) : Duty → Plant
  | .stage =>
    match p.tcp with
    | none => p
    | some (g, place) =>
      settleTcp { p with tcp := some ((g.stage ⟨.north, f.payload⟩).2, place) }
  | .write uid =>
    let wait := p.serial.heldBack uid p.now
    if wait = 0 then p.release uid f.payload
    else { p with held := p.held ++ [⟨i, uid, f.payload, p.now + wait⟩] }

/-- The frames that the endpoint at a place has handled. -/
def handled (i : Nat) : List Frame := ((p.net.endpoint? i).map Endpoint.handled).getD []

/-- Something is done with the endpoint at a place. The frames that it handles meanwhile are put to
use. -/
def onEndpoint (i : Nat) (f : Endpoint → Endpoint × List Frame) : Plant :=
  let before := (p.handled i).length
  let p := { p with net := (p.net.onEndpoint i f).1 }
  match (p.duties.find? fun d => d.1 = i).map Prod.snd with
  | none => p
  | some duty => ((p.handled i).drop before).foldl (fun p f => p.perform i f duty) p

/-- Whether the worker of the endpoint at a place waits for its handler. -/
def isBusy (i : Nat) : Bool := p.held.any fun h => h.place = i

/-- Steps of the worker of an endpoint. -/
def workEndpoint (p : Plant) (i : Nat) : Nat → Plant
  | 0 => p
  | n + 1 => if p.isBusy i then p else workEndpoint (p.onEndpoint i Endpoint.work) i n

/-- How many messages wait for the endpoint at a place. -/
def waitingAt (i : Nat) : Nat :=
  (((p.net.endpoint? i).bind fun e => e.custody.held?).getD {}).waiting.length

/-- Lets the worker of an endpoint take all that waits for it. -/
def settleEndpoint (i : Nat) : Plant := p.workEndpoint i (2 * p.waitingAt i + 2)

/-! ## Time -/

/-- The frame that may be written first. -/
def nextHeld? : Option Held :=
  (p.held.map Held.due).min?.bind fun due => p.held.find? fun h => h.due = due

/-- How many frames may be written before there are none left. -/
def backlog : Nat :=
  (List.range p.net.endpoints.length).foldl (fun n i => n + p.waitingAt i) p.held.length

/-- Waits until some time. What may be written by then is, at most `fuel` frames one after the
other, and the endpoints that held them back go on. -/
def waitUntil (p : Plant) (time : Nat) : Nat → Plant
  | 0 => { p with now := max p.now time }
  | fuel + 1 =>
    match p.nextHeld? with
    | none => { p with now := max p.now time }
    | some h =>
      if time < h.due then { p with now := max p.now time }
      else
        let p := { p with now := max p.now h.due, held := p.held.filter fun x => x.place ≠ h.place }
        waitUntil ((p.release h.uid h.payload).settleEndpoint h.place) time fuel

/-- Waits until a device has some bytes or no frame is held back. -/
def await (p : Plant) (path : String) (count : Nat) : Nat → Plant
  | 0 => p
  | fuel + 1 =>
    let devices := p.serial.rig.devices
    let there := (((devices.named? path).map devices.outgoing).getD []).length
    match p.nextHeld? with
    | some h =>
      if there < count then await (p.waitUntil h.due (p.backlog + 1)) path count fuel else p
    | none => p

/-! ## The relay -/

/-- Something is done with the relay. -/
def onRelay (f : Relay → Relay × List Relay.Effect) : Plant :=
  let (net, effects) := p.net.onRelay f
  { p with
    net := net
    observed := p.observed + (effects.filter fun x => match x with
      | .observed _ => true
      | _ => false).length }

/-- Steps of the worker of the relay. -/
def workRelay (p : Plant) : Nat → Plant
  | 0 => p
  | n + 1 => workRelay (p.onRelay fun r => r.work {}) n

/-- Lets the worker of the relay pass on all that waits. -/
def settleRelay : Plant :=
  let waiting := (p.net.relay.bind fun r => r.custody.held?).getD {}
  p.workRelay (2 * (waiting.data.length + waiting.control.length) + 2)

/-! ## Everything -/

/-- Lets every part do what there is to do, one after the other: the relay, the endpoints, the
gateway for clients, and the gateway for ports. -/
def round : Plant :=
  let p := p.settleRelay
  let p := (List.range p.net.endpoints.length).foldl settleEndpoint p
  let p := p.settleTcp
  let (g, frames) := p.serial.settle
  { p with serial := g }.publishAll frames

/-- How long a plant is left alone, in milliseconds. -/
def patience : Nat := 100

/-- Leaves the plant alone for a while. What endpoints send in the first round is not for endpoints,
so that nothing is left to do after the second but to wait. -/
def settle : Plant :=
  let p := p.round.round
  p.waitUntil (p.now + patience) (p.backlog + 1)

end Plant

end Fieldbus
