import Fieldbus.Bus.Endpoint
import Fieldbus.Bus.Relay

/-!
# Networks

A network consists of a relay and the peers around it: endpoints, and subscribers that only listen.
What a peer sends reaches the relay if it sends to the address of the relay, and what the relay
passes on reaches the peers that listen at its other address.

* `Network`: the relay and the peers, each known by its place.
* `Network.publish`, `Network.spread`: messages reach the relay and the peers.
* `Network.step`, `Network.run`: what may happen in a network.
-/

namespace Fieldbus

/-- A peer that only listens. -/
structure Subscriber where
  south : String
  inbox : Inbox := {}
  deriving DecidableEq, Repr, Inhabited

namespace Subscriber

/-- A subscriber that follows topics. -/
def create (south : String) (topics : List Bytes) : Except BusError Subscriber := do
  Url.connect south
  return { south := south, inbox := { prefixes := topics } }

end Subscriber

/-- A relay and the peers around it. -/
structure Network where
  relay : Option Relay := none
  endpoints : List Endpoint := []
  subscribers : List Subscriber := []

namespace Network

variable (n : Network)

/-- The endpoint at a place. -/
def endpoint? (i : Nat) : Option Endpoint := n.endpoints[i]?

/-- The subscriber at a place. -/
def subscriber? (i : Nat) : Option Subscriber := n.subscribers[i]?

/-- Replaces the endpoint at a place. -/
def setEndpoint (i : Nat) (e : Endpoint) : Network := { n with endpoints := n.endpoints.set i e }

/-- Replaces the subscriber at a place. -/
def setSubscriber (i : Nat) (s : Subscriber) : Network :=
  { n with subscribers := n.subscribers.set i s }

/-- A message goes to an address for publishers. It is lost if no relay is there; one without parts
does not exist. -/
def publish (north : String) (m : Message) : Network :=
  if m.isEmpty then n
  else
    { n with
      relay := n.relay.map fun r => if r.addresses.north = north then r.receive m else r }

/-- Frames go to an address for publishers. -/
def publishAll (north : String) (fs : List Frame) : Network :=
  fs.foldl (fun n f => n.publish north f.toMessage) n

/-- A subscriber at an address says that it follows a topic. -/
def announce (south : String) (topic : Bytes) : Network :=
  { n with
    relay := n.relay.map fun r =>
      if r.addresses.south = south then r.receiveControl (Control.subscribe topic).toMessage
      else r }

/-- A message reaches the peers at an address for subscribers. -/
def spread (south : String) (m : Message) : Network :=
  { n with
    endpoints := n.endpoints.map fun e => if e.addresses.south = south then e.deliver m else e
    subscribers := n.subscribers.map fun s =>
      if s.south = south then { s with inbox := s.inbox.deliver m } else s }

/-- What the relay brings about reaches the peers. -/
def carry (south : String) (effects : List Relay.Effect) : Network :=
  effects.foldl (fun n x => match x with
    | .south m => n.spread south m
    | .north _ | .observed _ => n) n

/-- Adds an endpoint and tells its place. -/
def addEndpoint (e : Endpoint) : Nat × Network :=
  (n.endpoints.length,
    announce { n with endpoints := n.endpoints ++ [e] } e.addresses.south (utf8 e.topics.subscribe))

/-- Adds a subscriber and tells its place. -/
def addSubscriber (s : Subscriber) : Nat × Network :=
  (n.subscribers.length,
    s.inbox.prefixes.foldl (fun n p => n.announce s.south p)
      { n with subscribers := n.subscribers ++ [s] })

/-- The subscriber at a place follows further topics. -/
def subscribe (i : Nat) (topic : Bytes) : Network :=
  match n.subscriber? i with
  | none => n
  | some s =>
    (n.setSubscriber i { s with inbox := s.inbox.subscribe topic }).announce s.south topic

/-- The relay changes, and what this brings about reaches the peers. -/
def onRelay (f : Relay → Relay × List Relay.Effect) : Network × List Relay.Effect :=
  match n.relay with
  | none => (n, [])
  | some r =>
    let (r, effects) := f r
    (carry { n with relay := some r } r.addresses.south effects, effects)

/-- The endpoint at a place changes, and the frames that it sends meanwhile are published. -/
def onEndpoint (i : Nat) (f : Endpoint → Endpoint × List Frame) : Network × List Frame :=
  match n.endpoint? i with
  | none => (n, [])
  | some e =>
    let (e', sent) := f e
    ((n.setEndpoint i e').publishAll e.addresses.north sent, sent)

/-- What may happen in a network. -/
inductive Step where
  /-- Somebody from outside publishes a message. -/
  | publish (north : String) (m : Message)
  /-- Something is done with the relay. -/
  | relay (a : Relay.Action)
  /-- Something is done with the endpoint at a place. -/
  | endpoint (i : Nat) (a : Endpoint.Action)

/-- What can be seen of a network. -/
inductive Effect where
  /-- The relay brought something about. -/
  | relay (x : Relay.Effect)
  /-- The endpoint at a place sent a frame. -/
  | sent (i : Nat) (f : Frame)
  deriving DecidableEq, Repr

/-- Makes a step. -/
def step (n : Network) : Step → Network × List Effect
  | .publish north m => (n.publish north m, [])
  | .relay a =>
    let (n, effects) := n.onRelay fun r => r.act a
    (n, effects.map .relay)
  | .endpoint i a =>
    let (n, sent) := n.onEndpoint i fun e => e.act a
    (n, sent.map (.sent i))

/-- Makes steps one after the other. -/
def run (n : Network) (steps : List Step) : Network × List Effect := runSteps step n steps

end Network

end Fieldbus
