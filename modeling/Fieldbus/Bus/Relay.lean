import Fieldbus.Bus.Address
import Fieldbus.Bus.Inbox
import Fieldbus.Bus.Url
import Fieldbus.Flow.Custody
import Fieldbus.Flow.Run

/-!
# The relay

The relay stands between publishers and subscribers. It passes every message of a publisher on to
the subscribers, and every change in what subscribers follow on to the publishers, while its worker
runs. What comes while the worker does not run waits at the sockets.

* `Relay`: the sockets, their worker, and the counts of what was passed on.
* `Relay.listen`, `Relay.stop`: the worker is started and stopped.
* `Relay.work`: a piece of the worker's work.
* `Relay.run`: a run of the relay, with what it passed on.
-/

namespace Fieldbus

namespace Relay

/-- What waits at the two sockets of a relay. -/
structure Sockets where
  /-- Messages of publishers, oldest first. -/
  data : List Message := []
  /-- Messages of subscribers about what they follow, oldest first. -/
  control : List Message := []
  deriving DecidableEq, Repr, Inhabited

/-- How much a relay passed on. -/
structure Counts where
  /-- Messages passed on to subscribers. -/
  forwarded : UInt64 := 0
  /-- Messages passed on to publishers. -/
  control : UInt64 := 0
  /-- Messages of publishers that were not frames. -/
  malformed : UInt64 := 0
  deriving DecidableEq, Repr, Inhabited

/-- What a relay brings about. -/
inductive Effect where
  | south (m : Message)
  | north (m : Message)
  | observed (f : Frame)
  deriving DecidableEq, Repr

/-- Whether the transport takes what a piece of work sends on either side. -/
structure Sending where
  /-- Whether it takes a message for the subscribers. -/
  south : Bool := true
  /-- Whether it takes a message for the publishers. -/
  north : Bool := true
  deriving DecidableEq, Repr, Inhabited

end Relay

/-- A relay. -/
structure Relay where
  addresses : Addresses
  custody : Custody Relay.Sockets := { own := some {} }
  counts : Relay.Counts := {}
  deriving Repr

namespace Relay

variable (r : Relay)

/-- A relay at two addresses. The one for publishers is taken first. -/
def create (isDirectory : String → Bool) (a : Addresses) : Except BusError Relay := do
  Url.attach isDirectory .bind a.north
  Url.attach isDirectory .bind a.south
  return { addresses := a }

/-- Whether the worker should go on. -/
def isRunning : Bool := r.custody.running

/-- A message of a publisher comes. -/
def receive (m : Message) : Relay :=
  { r with custody := r.custody.map fun s => { s with data := s.data ++ [m] } }

/-- A message of a subscriber comes. -/
def receiveControl (m : Message) : Relay :=
  { r with custody := r.custody.map fun s => { s with control := s.control ++ [m] } }

/-- Passes the oldest message of a publisher on. A frame is taken out of its message, shown to the
observer, and put into a message again; a message that is none is counted. -/
def forwardData (sent : Bool) (s : Sockets) (k : Counts) : Sockets × Counts × List Effect :=
  match s.data with
  | [] => (s, k, [])
  | m :: rest =>
    let (shown, k, out) : List Effect × Counts × Message := match Frame.ofMessage? m with
      | some f => ([.observed f], k, f.toMessage)
      | none => ([], { k with malformed := k.malformed + 1 }, m)
    if sent then
      ({ s with data := rest }, { k with forwarded := k.forwarded + 1 }, shown ++ [.south out])
    else ({ s with data := rest }, k, shown)

/-- Passes the oldest message of a subscriber on, whatever it says. -/
def forwardControl (sent : Bool) (s : Sockets) (k : Counts) : Sockets × Counts × List Effect :=
  match s.control with
  | [] => (s, k, [])
  | m :: rest =>
    if sent then
      ({ s with control := rest }, { k with control := k.control + 1 }, [.north m])
    else ({ s with control := rest }, k, [])

/-- A step of the worker: it looks at the flag, or passes on at most one message on either side. -/
def work (sending : Sending) : Relay × List Effect :=
  match r.custody.keeper with
  | some (.working s) =>
    let (s, k, data) := forwardData sending.south s r.counts
    let (s, k, control) := forwardControl sending.north s k
    ({ r with custody := { r.custody with keeper := some (.looking s) }, counts := k },
      data ++ control)
  | _ => ({ r with custody := r.custody.look }, [])

/-- Starts the worker. This does nothing if the sockets are not at hand. -/
def listen (succeeds : Bool) : Except BusError Unit × Relay :=
  if r.custody.own.isSome && !succeeds then
    (.error (.noWorker "relay"), { r with custody := r.custody.start false })
  else (.ok (), { r with custody := r.custody.start succeeds })

/-- Stops the worker: clears the flag, lets the worker finish what it is at, and takes the sockets
back. -/
def stop (sending : Sending) : Relay × List Effect :=
  let r := { r with custody := r.custody.halt }
  let (r, e) := r.work sending
  let (r, e') := r.work sending
  ({ r with custody := r.custody.join }, e ++ e')

/-- What is done with a relay. -/
inductive Action where
  /-- The worker is to be started, which succeeds or fails. -/
  | listen (succeeds : Bool)
  | stop (sending : Sending)
  /-- The worker makes a step. -/
  | work (sending : Sending)
  deriving DecidableEq, Repr

/-- Does something with a relay. -/
def act (r : Relay) : Action → Relay × List Effect
  | .listen succeeds => ((r.listen succeeds).2, [])
  | .stop sending => r.stop sending
  | .work sending => r.work sending

/-- What happens to a relay. -/
inductive Step where
  | data (m : Message)
  | control (m : Message)
  | act (a : Action)
  deriving DecidableEq, Repr

/-- Makes a step. -/
def step (r : Relay) : Step → Relay × List Effect
  | .data m => (r.receive m, [])
  | .control m => (r.receiveControl m, [])
  | .act a => r.act a

/-- Makes steps one after the other. -/
def run (r : Relay) (steps : List Step) : Relay × List Effect := runSteps step r steps

end Relay

end Fieldbus
