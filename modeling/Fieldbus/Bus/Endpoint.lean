import Fieldbus.Bus.Address
import Fieldbus.Bus.Inbox
import Fieldbus.Bus.Topic
import Fieldbus.Bus.Url
import Fieldbus.Flow.Custody
import Fieldbus.Flow.Run
import Fieldbus.Text.Quoted

/-!
# Endpoints

An endpoint sends frames under one topic and passes those that come under another to its handler,
while its worker runs. The inbox of the endpoint and the handler change hands together: the worker
has them while it runs, and the endpoint at other times.

* `Handler`, `Reaction`: what is done about a frame.
* `Endpoint`: the inbox, its worker, and the frames handled so far.
* `Endpoint.listen`, `Endpoint.stop`, `Endpoint.halt`: the worker is started and stopped.
* `Endpoint.goOn`, `Endpoint.work`: a step of the worker.
* `Endpoint.run`: a run of the endpoint, with the frames that it sent.
-/

namespace Fieldbus

/-- What a handler does about a frame. -/
structure Reaction where
  /-- The payloads that it sends through its endpoint. -/
  sends : List Bytes := []
  /-- Whether it asks its endpoint to stop. -/
  stops : Bool := false
  /-- Whether it stops its endpoint itself, as others do, instead of asking for it. -/
  quits : Bool := false
  breaks : Bool := false
  deriving DecidableEq, Repr, Inhabited

/-- What is done about a frame, which may depend on the frames handled before. -/
abbrev Handler := List Frame → Frame → Reaction

/-- The frame in which the endpoint of an id sends a payload. Empty payloads are not sent. -/
def Frame.outgoing (id : String) : Bytes → Except BusError Frame
  | [] => .error .emptyPayload
  | payload => .ok ⟨utf8 (Topics.ofId id).publish, payload⟩

/-- An endpoint. -/
structure Endpoint where
  id : String
  /-- Where it sends to and where it listens. -/
  addresses : Addresses
  /-- What is done about frames. Without it the endpoint only sends. -/
  handler : Option Handler := none
  /-- The inbox and the worker. -/
  custody : Custody Inbox := {}
  /-- The frames that went to the handler, in order. -/
  handled : List Frame := []

namespace Endpoint

variable (e : Endpoint)

/-- The topics of the endpoint. -/
def topics : Topics := Topics.ofId e.id

/-- A new endpoint. The address where it listens is connected first. -/
def create (id : String) (a : Addresses) (handler : Option Handler) : Except BusError Endpoint := do
  Url.connect a.south
  Url.connect a.north
  let inbox : Inbox := { prefixes := [utf8 (Topics.ofId id).subscribe] }
  return { id := id, addresses := a, handler := handler
           custody := { own := handler.map fun _ => inbox } }

/-- Whether the worker should go on. -/
def isListening : Bool := e.custody.running

/-- A message comes by. -/
def deliver (m : Message) : Endpoint :=
  { e with custody := e.custody.map fun b => b.deliver m }

/-- The frame that a payload is sent in. -/
def outgoing (payload : Bytes) : Except BusError Frame := Frame.outgoing e.id payload

/-- The frame that a message is, if it is one and under the topic of the endpoint. -/
def accepted? (m : Message) : Option Frame :=
  (Frame.ofMessage? m).bind fun f => if e.topics.accepts f.topic then some f else none

/-- What the handler does about a frame. -/
def reaction (f : Frame) : Reaction :=
  match e.handler with
  | some h => h e.handled f
  | none => {}

/-- The worker, which holds an inbox, passes a frame to the handler. A handler that stops the
endpoint itself cannot wait for the worker, in which it runs, and lets go of it: the worker ends,
and the inbox goes with it. If somebody else waits for the worker, there is nothing to let go of. -/
def handle (waited : Bool) (b : Inbox) (f : Frame) : Endpoint × List Frame :=
  let reaction := e.reaction f
  let keeper : Keeper Inbox := if reaction.breaks then .broken else .looking b
  ({ e with
      custody :=
        { e.custody with
          running := e.custody.running && !(reaction.stops || reaction.quits)
          keeper := if reaction.quits && !waited then none else some keeper }
      handled := e.handled ++ [f] },
    reaction.sends.filterMap fun payload => (e.outgoing payload).toOption)

/-- A step of the worker, while somebody waits for its end or nobody does: it looks at the flag, or
takes a message. What is not an accepted frame is dropped. -/
def goOn (waited : Bool) : Endpoint × List Frame :=
  match e.custody.keeper with
  | some (.working b) =>
    let (m, b) := b.take
    match m.bind e.accepted? with
    | some f => e.handle waited b f
    | none => ({ e with custody := { e.custody with keeper := some (.looking b) } }, [])
  | _ => ({ e with custody := e.custody.look }, [])

/-- A step of the worker. -/
def work : Endpoint × List Frame := e.goOn false

/-- Clears the flag; the worker ends when it looks next. -/
def halt : Endpoint := { e with custody := e.custody.halt }

/-- Waits until a worker whose flag is clear has ended, and takes back what it holds. -/
def reclaim : Endpoint × List Frame :=
  let (e, sent) := e.goOn true
  let (e, sent') := e.goOn true
  ({ e with custody := e.custody.join }, sent ++ sent')

/-- Stops the worker. -/
def stop : Endpoint × List Frame := e.halt.reclaim

/-- The endpoint as a listener finds it: a worker whose flag is clear was waited for. -/
def readied : Endpoint × List Frame :=
  if e.custody.keeper.isSome then e.reclaim else (e, [])

/-- Starts the worker. This does nothing if there is one that should go on. -/
def listen (succeeds : Bool) : Except BusError Unit × Endpoint × List Frame :=
  if e.custody.keeper.isSome && e.isListening then (.ok (), e, [])
  else
    let (e, sent) := e.readied
    if e.custody.own.isNone then (.error (.noHandler e.id), e, sent)
    else
      let e' := { e with custody := e.custody.start succeeds }
      if succeeds then (.ok (), e', sent)
      else (.error (.noWorker ("endpoint-" ++ e.id)), e', sent)

/-- The endpoint after it was given up: it receives nothing and has no worker. -/
def closed : Endpoint := { e with custody := {} }

/-- What is done with an endpoint. -/
inductive Action where
  /-- A payload is to be sent. -/
  | send (payload : Bytes)
  /-- The worker is to be started, which succeeds or fails. -/
  | listen (succeeds : Bool)
  | stop
  | halt
  /-- The worker makes a step. -/
  | work
  deriving DecidableEq, Repr

/-- Does something with an endpoint: the endpoint, and the frames that it sends. -/
def act (e : Endpoint) : Action → Endpoint × List Frame
  | .send payload => (e, (e.outgoing payload).toOption.toList)
  | .listen succeeds => (e.listen succeeds).2
  | .stop => e.stop
  | .halt => (e.halt, [])
  | .work => e.work

/-- What happens to an endpoint. -/
inductive Step where
  | deliver (m : Message)
  | act (a : Action)
  deriving DecidableEq, Repr

/-- Makes a step: the endpoint, and the frames that it sends. -/
def step (e : Endpoint) : Step → Endpoint × List Frame
  | .deliver m => (e.deliver m, [])
  | .act a => e.act a

/-- Makes steps one after the other. -/
def run (e : Endpoint) (steps : List Step) : Endpoint × List Frame := runSteps step e steps

/-- The endpoint, as logs show it. -/
def debugText : String :=
  "Endpoint \x7b id: " ++ Text.quoted e.id ++ ", listening: " ++ Text.truth e.isListening ++
    ", send_only: " ++ Text.truth e.handler.isNone ++ " \x7d"

/-- The sending side of the endpoint, as logs show it. -/
def handleText : String :=
  "EndpointHandle \x7b id: " ++ Text.quoted e.id ++ ", topics: Topics \x7b publish: " ++
    Text.quoted e.topics.publish ++ ", subscribe: " ++ Text.quoted e.topics.subscribe ++
    " \x7d \x7d"

end Endpoint

/-! ## Handlers -/

namespace Handler

/-- Only takes note of frames. -/
def record : Handler := fun _ _ => {}

/-- Sends every payload back. -/
def echo : Handler := fun _ f => { sends := [f.payload] }

/-- Asks for a stop when it is told to. -/
def stopOn (word : Bytes) : Handler := fun _ f => { stops := f.payload = word }

/-- Stops the endpoint itself when it is told to. -/
def quitOn (word : Bytes) : Handler := fun _ f => { quits := f.payload = word }

/-- Breaks down when it is told to. -/
def breakOn (word : Bytes) : Handler := fun _ f => { breaks := f.payload = word }

end Handler

end Fieldbus
