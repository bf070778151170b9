import Fieldbus.Bus.Endpoint
import Fieldbus.Flow.Pacer
import Fieldbus.Serial.Crew
import Fieldbus.Serial.Rig

/-!
# The gateway for ports

The gateway has an endpoint for every port. What a port reads is published by its endpoint, and the
frames for an endpoint are written to its port, no faster than the pacer of the port allows.

* `SerialGateway`: the ports, their workers, and the pacers.
* `SerialGateway.create`: registers ports and makes their endpoints.
* `SerialGateway.heldBack`, `SerialGateway.note`: how long a frame waits before it is written.
* `SerialGateway.published`: the frames in which endpoints publish what ports read.
-/

namespace Fieldbus

/-- Why a gateway could not be made. -/
inductive GatewayFault where
  /-- The endpoint of a port cannot be made. -/
  | endpoint (uid : String) (cause : BusError)
  /-- A port is not accepted. -/
  | port (uid : String) (cause : PortError)
  deriving DecidableEq, Repr

/-- The reasons, outermost first. -/
def GatewayFault.chain : GatewayFault → List String
  | endpoint uid cause => ["failed to create endpoint for port " ++ uid, cause.message]
  | port uid cause => ["failed to register port " ++ uid, cause.message]

/-- Ports and their pacers. -/
structure SerialGateway where
  /-- The ports and their devices. -/
  rig : Rig := {}
  /-- The workers of the ports. -/
  crew : Crew := {}
  /-- The pacers, by the ids of the ports. -/
  pacers : List (String × Pacer) := []

namespace SerialGateway

variable (g : SerialGateway)

/-- The ids of the ports. -/
def uids : List String := g.pacers.map Prod.fst

/-- The pacer of a port. -/
def pacer? (uid : String) : Option Pacer := (g.pacers.find? fun p => p.1 = uid).map Prod.snd

/-- Registers a port. -/
def register (d : Descriptor) : Except PortError SerialGateway :=
  match g.rig.ports.add d with
  | (.error e, _) => .error e
  | (.ok _, ports) =>
    .ok { g with
      rig := { g.rig with ports := ports }
      pacers := g.pacers ++ [(d.uid, { minDelay := d.minDelay })] }

/-- Registers ports one after the other and makes their endpoints, which listen. -/
def registerAll (bus : Addresses) :
    SerialGateway → List Descriptor → Except GatewayFault (SerialGateway × List Endpoint)
  | g, [] => .ok (g, [])
  | g, d :: ds => do
    let e ← (Endpoint.create d.uid bus (some fun _ _ => {})).mapError (.endpoint d.uid)
    let g ← (g.register d).mapError (.port d.uid)
    let (g, es) ← registerAll bus g ds
    return (g, (e.listen true).2.1 :: es)

/-- A gateway for ports on some devices, with its workers started, and its endpoints. -/
def create (devices : Devices) (bus : Addresses) (ds : List Descriptor) :
    Except GatewayFault (SerialGateway × List Endpoint) := do
  let (g, es) ← registerAll bus { rig := { devices := devices } } ds
  return ({ g with crew := g.crew.start }, es)

/-- Replaces the pacer of a port. -/
def setPacer (uid : String) (p : Pacer) : SerialGateway :=
  { g with pacers := g.pacers.map fun q => if q.1 = uid then (uid, p) else q }

/-- How long the pacer of a port holds a frame back. -/
def heldBack (uid : String) (now : Nat) : Nat :=
  ((g.pacer? uid).map fun p => p.remaining now).getD 0

/-- The pacer of a port takes note of a send. -/
def note (uid : String) (now : Nat) : SerialGateway :=
  match g.pacer? uid with
  | none => g
  | some p => g.setPacer uid (p.note now)

/-- The frames in which the endpoints publish what the ports read. -/
def published (e : Effects) : List Frame :=
  e.deliveries.filterMap fun d => (Frame.outgoing d.uid d.bytes).toOption

/-- Lets started workers do all that there is to do. -/
def settle : SerialGateway × List Frame :=
  if g.crew.running then
    let (rig, e) := g.rig.settle
    ({ g with rig := rig }, published e)
  else (g, [])

end SerialGateway

end Fieldbus
