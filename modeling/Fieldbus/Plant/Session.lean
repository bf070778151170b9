import Fieldbus.Plant.Operator
import Fieldbus.Plugin.Load
import Fieldbus.Serial.Bench

/-!
# Sessions at a plant

An operator does one thing after the other at a plant. After every step the plant is left alone
until it comes to rest.

* `Plant.Step`, `Plant.Reply`: what the operator does and sees.
* `Plant.act`: a step.
* `Plant.session`: the replies to a sequence of steps.
-/

namespace Fieldbus

namespace Plant

/-- What the operator does. -/
inductive Step where
  /-- Sets up a relay, at other addresses than those of the bus if they are given. -/
  | relay (north south : Option String)
  | stopRelay
  | startRelay
  /-- Asks how much the relay passed on. -/
  | stats
  /-- Takes the frames out of the log. -/
  | takeLog
  | publish (m : Message)
  /-- Connects a publisher to an address. -/
  | publisher (north : String)
  | subscriber (name : String) (topics : List Bytes) (south : Option String)
  /-- Lets a subscriber follow further topics. -/
  | subscribe (name : String) (topic : Bytes)
  /-- Takes the frames that reached a subscriber. -/
  | receive (name : String)
  /-- Makes an endpoint and calls it by a name, or else by its id. -/
  | endpoint (id : String) (name : Option String) (handler : Option Handler)
    (north south : Option String)
  | listen (name : String)
  | stop (name : String)
  | drop (name : String)
  | send (name : String) (payload : Bytes)
  /-- Asks for the frames that an endpoint handled since the last time. -/
  | handled (name : String)
  | look (name : String)
  /-- Runs the command that publishes. -/
  | operatorPublish (args : List String)
  /-- Runs the command that subscribes, and publishes frames meanwhile. -/
  | operatorSubscribe (args : List String) (frames : List Frame)
  /-- Runs the command that echoes, and sends payloads to the endpoint of an id meanwhile. -/
  | operatorEcho (uid : String) (args : List String) (payloads : List Bytes)
  /-- Sets up the gateway for clients. -/
  | gateway (id : String) (capacity fanout : Nat) (plugin : Plugin)
  /-- Starts the gateway for clients. -/
  | startGateway
  /-- Stops the gateway for clients. -/
  | stopGateway
  | stage (s : Staged)
  /-- A receiver of what clients get comes. -/
  | tap (name : String)
  | closeTap (name : String)
  | countTaps
  /-- Takes what waits for a receiver. -/
  | drainTap (name : String)
  /-- Asks a client to call from the outside. -/
  | dial
  /-- Something is done with a client from the outside. -/
  | client (name : String)
  /-- Something is done with a device. -/
  | device (s : Bench.Step)
  /-- Sets up the gateway for ports. The descriptors may be undecodable. -/
  | collector (ds : List (Except Json.DecodeError Descriptor))
  /-- Lets a device send, and watches what the endpoint of an id publishes. -/
  | feed (uid path : String) (data : Bytes)

/-- What the operator sees. -/
inductive Reply where
  | truth (b : Bool)
  | count (n : Nat)
  | frames (fs : List Frame)
  /-- How much the relay passed on, and how many frames its observer was shown. -/
  | stats (k : Relay.Counts) (observed : Nat)
  | published
  | connected
  | joined (e : Endpoint)
  | endpoint (e : Endpoint)
  | printed (output : String)
  /-- The arguments of a command are not accepted. -/
  | refused (e : Refusal)
  /-- A command or a gateway failed. -/
  | failed (chain : List String)
  /-- The gateway for clients was set up. -/
  | created
  /-- The gateway for clients was started. -/
  | started
  /-- The gateway for clients was stopped; so many payloads are staged. -/
  | stopped (queued : Nat)
  /-- Whether a payload was staged, and how many are, unless the worker takes them. -/
  | staged (accepted : Bool) (queued : Option Nat)
  /-- What a receiver missed and got. -/
  | received (missed : Nat) (payloads : List Bytes)
  /-- What was seen of a device. -/
  | device (r : Bench.Reply)
  /-- What an endpoint published, and whether it did so under its own topic. -/
  | observed (bytes : Bytes) (ownTopic : Bool)
  /-- An operation on the bus failed. -/
  | busError (e : BusError)
  /-- The plugin cannot be loaded. -/
  | pluginError (e : PluginError)
  /-- A descriptor cannot be decoded. -/
  | undecodable (e : Json.DecodeError)
  /-- Nobody can call from the outside. -/
  | unreachable
  /-- There is nothing of that name. -/
  | unknown

variable (p : Plant)

/-! ## Relay and peers -/

/-- The directories in which addresses of the bus can be bound. -/
def isDirectory (path : String) : Bool := path = "" || path = "." || path = "/tmp"

/-- Sets up a relay and starts it; it takes the place of an earlier one. The log begins to follow.
-/
def setUpRelay (north south : Option String) : Reply × Plant :=
  let a : Addresses := ⟨north.getD p.bus.north, south.getD p.bus.south⟩
  match Relay.create isDirectory a with
  | .error e => (.busError e, p)
  | .ok r =>
    let (_, r) := r.listen true
    let net := { p.net with relay := some r }.announce p.bus.south []
    (.truth r.isRunning, { p with net := net, observed := 0 })

/-- Does something with the relay and tells whether it runs. -/
def changeRelay (f : Relay → Relay × List Relay.Effect) : Reply × Plant :=
  let p := p.onRelay f
  match p.net.relay with
  | none => (.unknown, p)
  | some r => (.truth r.isRunning, p)

/-- The place of a subscriber. -/
def listener? (name : String) : Option Nat :=
  (p.listeners.find? fun l => l.1 = name).map Prod.snd

/-- Takes all frames out of the inbox of a subscriber. -/
def takeFrames (i : Nat) : List Frame × Plant :=
  match p.net.subscriber? i with
  | none => ([], p)
  | some s =>
    let (fs, b) := s.inbox.drain
    (fs, { p with net := p.net.setSubscriber i { s with inbox := b } })

/-- Connects a subscriber; it takes the place of one of the same name. -/
def connectSubscriber (name : String) (topics : List Bytes) (south : Option String) :
    Reply × Plant :=
  match Subscriber.create (south.getD p.bus.south) topics with
  | .error e => (.busError e, p)
  | .ok s =>
    let (i, net) := p.net.addSubscriber s
    (.connected,
      { p with net := net, listeners := (name, i) :: p.listeners.filter fun l => l.1 ≠ name })

/-! ## Endpoints -/

/-- The endpoint of a name. -/
def guest? (name : String) : Option (Guest × Endpoint) := do
  let g ← p.guests.find? fun g => g.name = name
  let e ← p.net.endpoint? g.place
  return (g, e)

/-- Gives the endpoint at a place up. -/
def closeEndpoint (i : Nat) : Plant :=
  p.onEndpoint i fun e =>
    let (e, sent) := e.stop
    (e.closed, sent)

/-- Gives the endpoint of a name up; tells whether there was one. -/
def dropGuest (name : String) : Bool × Plant :=
  match p.guest? name with
  | none => (false, p)
  | some (g, _) =>
    (true, { p with guests := p.guests.filter fun h => h.name ≠ name }.closeEndpoint g.place)

/-- Makes an endpoint; it takes the place of one of the same name. -/
def join (id : String) (name : Option String) (handler : Option Handler)
    (north south : Option String) : Reply × Plant :=
  match Endpoint.create id ⟨north.getD p.bus.north, south.getD p.bus.south⟩ handler with
  | .error e => (.busError e, p)
  | .ok e =>
    let (i, net) := p.net.addEndpoint e
    let (_, p) := { p with net := net }.dropGuest (name.getD id)
    (.joined e, { p with guests := ⟨name.getD id, i, 0⟩ :: p.guests })

/-- Does something with the endpoint of a name and tells about it. -/
def withGuest (name : String) (f : Guest → Endpoint → Reply × Plant) : Reply × Plant :=
  match p.guest? name with
  | none => (.unknown, p)
  | some (g, e) => f g e

/-- Whether the endpoint at a place listens. -/
def listening (i : Nat) : Bool := ((p.net.endpoint? i).map Endpoint.isListening).getD false

/-! ## Gateways -/

/-- Sets up the gateway for clients; it takes the place of an earlier one. -/
def setUpGateway (id : String) (capacity fanout : Nat) (plugin : Plugin) : Reply × Plant :=
  match plugin.load with
  | .error e => (.pluginError e, p)
  | .ok loaded =>
    match Endpoint.create id p.bus (some .record) with
    | .error e => (.busError e, p)
    | .ok e =>
      let p := match p.tcp with
        | some (_, i) => p.closeEndpoint i
        | none => p
      let (i, net) := p.net.addEndpoint e
      (.created,
        { p with
          net := net
          tcp := some (.create id capacity fanout loaded.transform loaded.memory, i)
          duties := (i, .stage) :: p.duties })

/-- Does something with the gateway for clients and tells about it. -/
def withGateway (f : TcpGateway Memory → Reply × TcpGateway Memory) : Reply × Plant :=
  match p.tcp with
  | none => (.unknown, p)
  | some (g, i) =>
    let (reply, g) := f g
    (reply, { p with tcp := some (g, i) })

/-- Starts the gateway for clients: its worker, and then its endpoint. -/
def startGateway : Reply × Plant :=
  match p.tcp with
  | none => (.unknown, p)
  | some (g, i) =>
    let p := { p with tcp := some (g.start, i) }
    (.started, p.onEndpoint i fun e => (e.listen true).2)

/-- Stops the gateway for clients: its endpoint, and then its worker, which is waited for. -/
def stopGateway : Reply × Plant :=
  match p.tcp with
  | none => (.unknown, p)
  | some (_, i) =>
    let p := p.onEndpoint i Endpoint.stop
    match p.tcp with
    | none => (.unknown, p)
    | some (g, i) =>
      let p := workTcp { p with tcp := some (g.shutDown, i) } 4
      p.withGateway fun g => (.stopped g.queue.length, g.join)

/-- Sets up the gateway for ports. -/
def setUpCollector (ds : List Descriptor) : Reply × Plant :=
  match SerialGateway.create p.serial.rig.devices p.bus ds with
  | .error e => (.failed e.chain, p)
  | .ok (g, es) =>
    let p := es.foldl (fun p e =>
      let (i, net) := p.net.addEndpoint e
      { p with net := net, duties := (i, .write e.id) :: p.duties }) { p with serial := g }
    (.count es.length, p)

/-- Does something with a device. Whoever takes bytes from it waits until they are there. -/
def withDevice (s : Bench.Step) : Reply × Plant :=
  let p := match s with
    | .drain path count => p.await path count (p.backlog + 1)
    | _ => p
  let b : Bench := { rig := p.serial.rig, crew := p.serial.crew }
  let (reply, b, _) := b.act s
  (.device reply, { p with serial := { p.serial with rig := b.rig } })

/-- Lets a device send, and watches what the endpoint of an id publishes meanwhile. The log keeps
the other frames only. -/
def feed (uid path : String) (data : Bytes) : Reply × Plant :=
  let topic := utf8 (Topics.ofId uid).publish
  let before := p.log.waiting.length
  match p.withDevice (.feed path data) with
  | (.device .fed, p) =>
    let p := p.settle
    let fresh := p.log.waiting.drop before
    let isOwn (m : Message) : Bool := match m with
      | t :: _ => topic.isPrefixOf t
      | [] => false
    let own := (fresh.filter isOwn).filterMap Frame.ofMessage?
    let rest := p.log.waiting.take before ++ fresh.filter fun m => !isOwn m
    (.observed (own.flatMap Frame.payload) (own.all fun f => f.topic = topic),
      p.setLog { p.log with waiting := rest })
  | other => other

/-! ## Steps -/

/-- What becomes of a command, as the operator sees it. -/
def Reply.ofCommand : CommandResult → Reply
  | .refused e => .refused e
  | .failed chain => .failed chain
  | .printed output => .printed output

/-- Makes one step of the operator. -/
def act : Step → Reply × Plant
  | .relay north south => p.setUpRelay north south
  | .stopRelay => p.changeRelay fun r => r.stop {}
  | .startRelay => p.changeRelay fun r => ((r.listen true).2, [])
  | .stats =>
    match p.net.relay with
    | none => (.unknown, p)
    | some r => (.stats r.counts p.observed, p)
  | .takeLog =>
    let (fs, p) := p.takeFrames logPlace
    (.frames fs, p)
  | .publish m => (.published, { p with net := p.net.publish p.bus.north m })
  | .publisher north =>
    match Url.connect north with
    | .error e => (.busError e, p)
    | .ok () => (.connected, p)
  | .subscriber name topics south => p.connectSubscriber name topics south
  | .subscribe name topic =>
    match p.listener? name with
    | none => (.unknown, p)
    | some i => (.frames [], { p with net := p.net.subscribe i topic })
  | .receive name =>
    match p.listener? name with
    | none => (.unknown, p)
    | some i =>
      let (fs, p) := p.takeFrames i
      (.frames fs, p)
  | .endpoint id name handler north south => p.join id name handler north south
  | .listen name =>
    p.withGuest name fun g e =>
      let (result, _) := e.listen true
      let p := p.onEndpoint g.place fun e => (e.listen true).2
      match result with
      | .error e => (.busError e, p)
      | .ok () => (.truth (p.listening g.place), p)
  | .stop name =>
    p.withGuest name fun g _ =>
      let p := p.onEndpoint g.place Endpoint.stop
      (.truth (p.listening g.place), p)
  | .drop name =>
    let (was, p) := p.dropGuest name
    (.truth was, p)
  | .send name payload =>
    p.withGuest name fun g e =>
      match e.outgoing payload with
      | .error e => (.busError e, p)
      | .ok f => (.count payload.length, p.onEndpoint g.place fun e => (e, [f]))
  | .handled name =>
    p.withGuest name fun g e =>
      let seen := p.guests.map fun h =>
        if h.name = name then { h with seen := e.handled.length } else h
      (.frames (e.handled.drop g.seen), { p with guests := seen })
  | .look name => p.withGuest name fun _ e => (.endpoint e, p)
  | .operatorPublish args =>
    match p.operatorPublish args with
    | (.printed _, p) => (.published, p)
    | (result, p) => (.ofCommand result, p)
  | .operatorSubscribe args frames =>
    let (result, p) := p.operatorSubscribe args frames
    (.ofCommand result, p)
  | .operatorEcho uid args payloads =>
    let topic := utf8 (Topics.ofId uid).subscribe
    let (result, p) := p.operatorEcho args (payloads.map fun payload => ⟨topic, payload⟩)
    (.ofCommand result, p)
  | .gateway id capacity fanout plugin => p.setUpGateway id capacity fanout plugin
  | .startGateway => p.startGateway
  | .stopGateway => p.stopGateway
  | .stage s =>
    p.withGateway fun g =>
      let (took, g) := g.stage s
      (.staged took (if g.worker.isNone then some g.queue.length else none), g)
  | .tap name =>
    p.withGateway fun g =>
      let g := g.enter name
      (.count g.clients.size, g)
  | .closeTap name =>
    p.withGateway fun g =>
      let g := g.leave name
      (.count g.clients.size, g)
  | .countTaps => p.withGateway fun g => (.count g.clients.size, g)
  | .drainTap name =>
    p.withGateway fun g =>
      match g.clients.drain name with
      | (none, _) => (.unknown, g)
      | (some (missed, payloads), clients) =>
        (.received missed payloads, { g with clients := clients })
  | .dial => (.unreachable, p)
  | .client _ => (.unknown, p)
  | .device s => p.withDevice s
  | .collector ds =>
    match ds.mapM id with
    | .error e => (.undecodable e, p)
    | .ok ds => p.setUpCollector ds
  | .feed uid path data => p.feed uid path data

/-- The replies to a sequence of steps, after each of which the plant is left alone. -/
def session (p : Plant) : List Step → List Reply
  | [] => []
  | s :: ss =>
    let (reply, p) := p.act s
    reply :: p.settle.session ss

end Plant

end Fieldbus
