/-!
# Faults of the bus

* `BusError`: why an operation of a relay, an endpoint or another peer failed.
-/

namespace Fieldbus

/-- How a socket is attached to an address. -/
inductive Attachment where
  | bind
  | connect
  deriving DecidableEq, Repr

/-- The verb for an attachment. -/
def Attachment.verb : Attachment → String
  | bind => "bind"
  | connect => "connect"

/-- Why an operation on the bus failed. -/
inductive BusError where
  /-- A socket cannot be attached to an address. -/
  | unattached (how : Attachment) (url : String)
  /-- There is nothing in the payload. -/
  | emptyPayload
  /-- The endpoint has no handler, or its receiver is gone. -/
  | noHandler (id : String)
  /-- A worker cannot be started. -/
  | noWorker (name : String)
  deriving DecidableEq, Repr

/-- The wording of an error. -/
def BusError.message : BusError → String
  | unattached how url => "failed to " ++ how.verb ++ " " ++ url
  | emptyPayload => "refusing to send an empty payload"
  | noHandler id => "endpoint '" ++ id ++ "' has no receive handler"
  | noWorker name => "failed to spawn " ++ name ++ " worker"

end Fieldbus
