import Fieldbus.Bus.Operator
import Fieldbus.CommandLine.Operator
import Fieldbus.Plant

/-!
# The operator's utility on a bus

* `CommandResult`: what becomes of a command.
* `Plant.operatorPublish`, `Plant.operatorSubscribe`, `Plant.operatorEcho`: the commands, run while
  the plant is at rest otherwise.
-/

namespace Fieldbus

/-- What becomes of a command. -/
inductive CommandResult where
  /-- Its arguments are not accepted. -/
  | refused (e : Refusal)
  /-- It fails; the reasons, outermost first. -/
  | failed (chain : List String)
  /-- It ends after it has printed something. -/
  | printed (output : String)
  deriving DecidableEq, Repr

namespace Plant

variable (p : Plant)

/-- The settings of the environment from which commands take the addresses of the bus. -/
def environment : List (String × String) :=
  [("EZMB_NORTH_URL", p.bus.north), ("EZMB_SOUTH_URL", p.bus.south)]

/-- Publishes a frame, and leaves the plant alone. -/
def publishOne (f : Frame) : Plant := (p.publishAll [f]).settle

/-- Publishes a payload as often as it is asked to. The payload is read before the bus is
connected. -/
def operatorPublish (args : List String) : CommandResult × Plant :=
  match PublishArgs.parse p.environment args with
  | .error e => (.refused e, p)
  | .ok a =>
    match readPayload a.payload a.hex with
    | .error e => (.failed e.chain, p)
    | .ok payload =>
      match Url.connect a.bus.north with
      | .error e => (.failed ["failed to connect to " ++ a.bus.north, e.message], p)
      | .ok () =>
        let frames := List.replicate a.count ⟨utf8 a.topic, payload⟩
        (.printed "", { p with net := p.net.publishAll a.bus.north frames })

/-- Shows the frames under some topics, while others publish `frames`. -/
def operatorSubscribe (args : List String) (frames : List Frame) : CommandResult × Plant :=
  match SubscribeArgs.parse p.environment args with
  | .error e => (.refused e, p)
  | .ok a =>
    match Subscriber.create a.bus.south (a.topics.map utf8) with
    | .error e => (.failed ["failed to connect to " ++ a.bus.south, e.message], p)
    | .ok s =>
      let (place, net) := p.net.addSubscriber s
      let p := frames.foldl publishOne { p with net := net }
      match p.net.subscriber? place with
      | none => (.printed "", p)
      | some s =>
        (.printed (s.inbox.shown a.count),
          { p with net := p.net.setSubscriber place { s with inbox := {} } })

/-- Shows the frames for an endpoint and sends their payloads back, while others publish
`frames`. -/
def operatorEcho (args : List String) (frames : List Frame) : CommandResult × Plant :=
  match EchoArgs.parse p.environment args with
  | .error e => (.refused e, p)
  | .ok a =>
    match Endpoint.create a.uid a.bus (some .echo) with
    | .error e => (.failed ["failed to create endpoint " ++ a.uid, e.message], p)
    | .ok e =>
      let (place, net) := p.net.addEndpoint (e.listen true).2.1
      let p := frames.foldl publishOne { p with net := net }.settle
      (.printed (Frame.printedAll (p.handled place)),
        p.onEndpoint place fun e =>
          let (e, sent) := e.stop
          (e.closed, sent))

end Plant

end Fieldbus
