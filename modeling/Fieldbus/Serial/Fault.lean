import Fieldbus.Invalid

/-!
# Faults of ports

* `IoFault`: whether an operation on a device may succeed later.
* `IoFault.ofErrno`: the fault of a system error number.
* `PortError`: why an operation on a port, or on a set of them, failed.
-/

namespace Fieldbus

/-- How a failed operation on a device leaves the device. -/
inductive IoFault where
  /-- The operation may succeed later. -/
  | transient
  /-- The device is of no more use. -/
  | fatal
  deriving DecidableEq, Repr

namespace IoFault

/-- The error numbers after which an operation may succeed later: interrupted, nothing to read or
no room to write, timed out. -/
def transientNumbers : List Int := [4, 11, 110]

/-- The fault of an error number. -/
def ofErrno (n : Int) : IoFault :=
  if n ∈ transientNumbers then .transient else .fatal

/-- The wording of a fault. -/
def message : IoFault → String
  | .transient => "transient I/O error"
  | .fatal => "fatal I/O error"

end IoFault

/-- Why an operation on a port failed. -/
inductive PortError where
  /-- There is a port with this id already. -/
  | duplicateId (id : String)
  /-- There is no port with this id. -/
  | notFound (id : String)
  /-- The port is not open. -/
  | closed (id : String)
  /-- The descriptor is not accepted. -/
  | invalid (cause : Invalid)
  | io (fault : IoFault)
  /-- The device cannot be opened. -/
  | cannotOpen (device : String)
  deriving DecidableEq, Repr

/-- The wording of an error. -/
def PortError.message : PortError → String
  | duplicateId id => "port '" ++ id ++ "' already exists"
  | notFound id => "port '" ++ id ++ "' not found"
  | closed id => "port '" ++ id ++ "' is closed"
  | invalid cause => cause.message
  | io fault => fault.message
  | cannotOpen device => "failed to open " ++ Text.quoted device

end Fieldbus
