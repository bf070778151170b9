import Fieldbus.Gateway.Tcp

/-!
# The gateway for clients at work

The gateway and its endpoint, with all that happens to them: the relay passes messages on, clients
come and go, send and take payloads, and the workers of the gateway and of the endpoint go on.

* `Server`: the gateway and its endpoint.
* `Server.create`: a gateway that was just started.
* `Server.step`, `Server.run`: what may happen, with what it brings about.
-/

namespace Fieldbus

/-- The gateway for clients and its endpoint. -/
structure Server (σ : Type) where
  gateway : TcpGateway σ
  endpoint : Endpoint

namespace Server

open TcpGateway (Effect Source)

/-- What may happen to a gateway. -/
inductive Step where
  /-- The relay passes a message on. -/
  | relay (m : Message)
  /-- The worker of the endpoint makes a step. -/
  | handle
  | enter (name : String)
  | leave (name : String)
  /-- A chunk of what a client sends is read. -/
  | read (name : String) (chunk : Bytes)
  /-- A client takes a payload, or learns how many it missed. -/
  | take (name : String)
  /-- The worker of the gateway makes a step. -/
  | work
  /-- The worker of the gateway is told to end. -/
  | shutDown
  deriving DecidableEq, Repr

variable {σ : Type}

/-- A gateway that was just started: its worker, and then its endpoint. -/
def create (uid : String) (bus : Addresses) (capacity fanout : Nat) (t : Transform σ) (s : σ) :
    Except BusError (Server σ) := do
  let e ← Endpoint.create uid bus (some .record)
  return { gateway := (TcpGateway.create uid capacity fanout t s).start
           endpoint := (e.listen true).2.1 }

/-- Something is done with the gateway. -/
def onGateway (f : TcpGateway σ → TcpGateway σ × List Effect) (s : Server σ) :
    Server σ × List Effect :=
  let (g, es) := f s.gateway
  ({ s with gateway := g }, es)

/-- The handler of the endpoint gets a frame. -/
def receive (s : Server σ) (f : Frame) : Server σ × List Effect :=
  s.onGateway fun g => g.offer ⟨.bus, f.payload⟩

/-- The worker of the endpoint makes a step, and the handler gets the frames that it handles in
it. -/
def handle (s : Server σ) : Server σ × List Effect :=
  let e := s.endpoint.work.1
  runSteps receive { s with endpoint := e } (e.handled.drop s.endpoint.handled.length)

/-- Makes a step: the gateway, and what it brings about. -/
def step (s : Server σ) : Step → Server σ × List Effect
  | .relay m => ({ s with endpoint := s.endpoint.deliver m }, [])
  | .handle => s.handle
  | .enter name => s.onGateway fun g => (g.enter name, [])
  | .leave name => s.onGateway fun g => (g.leave name, [])
  | .read name chunk => s.onGateway fun g => g.offer ⟨.client name, chunk⟩
  | .take name => s.onGateway fun g => g.take name
  | .work => s.onGateway TcpGateway.work
  | .shutDown => s.onGateway fun g => (g.shutDown, [])

/-- Makes steps one after the other. -/
def run (s : Server σ) (steps : List Step) : Server σ × List Effect := runSteps step s steps

end Server

end Fieldbus
