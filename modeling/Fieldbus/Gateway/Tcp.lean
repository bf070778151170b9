import Fieldbus.Bus.Endpoint
import Fieldbus.Flow.Fanout
import Fieldbus.Flow.Queue
import Fieldbus.Plugin.Transform

/-!
# The gateway for clients

Clients send payloads south to the bus, and payloads that come from the bus go north to all clients.
Payloads of both directions are staged in one queue. One worker takes them out, puts each through
the transform, and passes on what the transform lets through.

* `TcpGateway`: the queue, the transform, the clients and the worker.
* `TcpGateway.stage`: a payload is staged.
* `TcpGateway.offer`, `TcpGateway.take`, `TcpGateway.work`: what clients, the bus and the worker do,
  with what comes of it.
-/

namespace Fieldbus

/-- A payload that waits for the worker. -/
structure Staged where
  direction : Direction
  payload : Bytes
  deriving DecidableEq, Repr

namespace TcpGateway

/-- Where a payload comes from. -/
inductive Source where
  | client (name : String)
  | bus
  deriving DecidableEq, Repr

/-- Where payloads from a source go. -/
def Source.direction : Source → Direction
  | client _ => .south
  | bus => .north

/-- A payload that is to be staged. -/
structure Offer where
  source : Source
  payload : Bytes
  deriving DecidableEq, Repr

/-- The payload as it is staged. -/
def Offer.staged (o : Offer) : Staged := ⟨o.source.direction, o.payload⟩

/-- Where the worker is. -/
inductive Phase where
  /-- It is about to look whether it should go on. -/
  | looking
  /-- It is about to take a payload. -/
  | taking
  /-- It has taken a payload. -/
  | holding (s : Staged)
  /-- It should not go on, and is about to throw away what is staged. -/
  | clearing
  | ended
  deriving DecidableEq, Repr

/-- What happens at the gateway. -/
inductive Effect where
  | accepted (o : Offer)
  | rejected (o : Offer)
  /-- A payload was put through the transform. -/
  | transformed (s : Staged) (v : Verdict)
  /-- A frame goes to the bus. -/
  | published (f : Frame)
  /-- A payload goes to the clients. -/
  | broadcast (payload : Bytes)
  /-- The worker threw staged payloads away. -/
  | discarded (items : List Staged)
  | took (name : String) (what : Taken Bytes)
  deriving DecidableEq, Repr

end TcpGateway

/-- A gateway whose transform has a state of type `σ`. -/
structure TcpGateway (σ : Type) where
  /-- The id of its endpoint. -/
  uid : String
  transform : Transform σ
  /-- The state of the transform. -/
  state : σ
  queue : Queue Staged
  clients : Fanout Bytes
  /-- Whether the worker should go on. -/
  running : Bool := true
  /-- The worker, from its start until somebody has waited for its end. -/
  worker : Option TcpGateway.Phase := none

namespace TcpGateway

variable {σ : Type} (g : TcpGateway σ)

/-- A gateway without clients. -/
def create (uid : String) (capacity fanout : Nat) (t : Transform σ) (s : σ) : TcpGateway σ where
  uid := uid
  transform := t
  state := s
  queue := { capacity := some capacity }
  clients := .ofCapacity fanout

/-- Stages a payload, unless the queue is full. -/
def stage (s : Staged) : Bool × TcpGateway σ :=
  match g.queue.push s with
  | .ok queue => (true, { g with queue := queue })
  | .error _ => (false, g)

/-- A payload is offered, and staged unless the queue is full. -/
def offer (o : Offer) : TcpGateway σ × List Effect :=
  let (took, g) := g.stage o.staged
  (g, [if took then .accepted o else .rejected o])

/-- A client comes. -/
def enter (name : String) : TcpGateway σ := { g with clients := g.clients.enter name }

/-- A client goes. -/
def leave (name : String) : TcpGateway σ := { g with clients := g.clients.leave name }

/-- A client takes a payload, or learns how many it missed. -/
def take (name : String) : TcpGateway σ × List Effect :=
  let (what, clients) := g.clients.take name
  ({ g with clients := clients }, what.toList.map (.took name))

/-- Passes on what the transform let through. -/
def dispatch (d : Direction) (payload : Bytes) : TcpGateway σ × List Effect :=
  match d with
  | .south =>
    (g, (Frame.outgoing g.uid payload).toOption.toList.map .published)
  | .north => ({ g with clients := g.clients.send payload }, [.broadcast payload])

/-- Puts a payload through the transform and passes on what comes out. -/
def process (s : Staged) : TcpGateway σ × List Effect :=
  let (v, state) := g.transform.apply s.direction s.payload g.state
  let g := { g with state := state }
  match v.payload? with
  | none => (g, [.transformed s v])
  | some payload =>
    let (g, effects) := g.dispatch s.direction payload
    (g, .transformed s v :: effects)

/-- A step of the worker. -/
def work : TcpGateway σ × List Effect :=
  match g.worker with
  | some .looking => ({ g with worker := some (if g.running then .taking else .clearing) }, [])
  | some .taking =>
    let (item, queue) := g.queue.pop
    ({ g with queue := queue, worker := some ((item.map Phase.holding).getD .looking) }, [])
  | some (.holding s) => { g with worker := some .looking }.process s
  | some .clearing =>
    ({ g with queue := g.queue.clear.2, worker := some .ended }, [.discarded g.queue.toList])
  | some .ended | none => (g, [])

/-- Starts the worker, unless there is one: it has the transform. -/
def start : TcpGateway σ :=
  match g.worker with
  | none | some .ended => { g with worker := some .looking }
  | some _ => g

/-- Tells the worker to end. -/
def shutDown : TcpGateway σ := { g with running := false }

/-- Forgets a worker that has ended. -/
def join : TcpGateway σ :=
  match g.worker with
  | some .ended => { g with worker := none }
  | _ => g

/-- The frames among effects. -/
def frames (effects : List Effect) : List Frame :=
  effects.filterMap fun x => match x with
    | .published f => some f
    | _ => none

end TcpGateway

end Fieldbus
