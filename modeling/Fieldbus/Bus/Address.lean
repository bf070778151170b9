import Fieldbus.Device.Path
import Fieldbus.Json.Decode

/-!
# Addresses of a bus

A bus has two addresses. Publishers send to the north one and subscribers listen at the south one;
a relay stands between them.

* `Addresses`: the pair.
* `Addresses.standard`, `Addresses.inDirectory`: the usual pairs.
* `Addresses.ofJson`: decodes a pair.
-/

namespace Fieldbus

/-- The addresses of a bus. -/
structure Addresses where
  north : String
  south : String
  deriving DecidableEq, Repr, Inhabited

namespace Addresses

open Json

/-- The addresses used where none are given. -/
def standard : Addresses :=
  ⟨"ipc:///tmp/ezmb_north.ipc", "ipc:///tmp/ezmb_south.ipc"⟩

/-- The addresses of a bus whose sockets lie in a directory. -/
def inDirectory (directory : String) : Addresses :=
  ⟨"ipc://" ++ Path.join directory "north.ipc", "ipc://" ++ Path.join directory "south.ipc"⟩

/-- A pair of which either may not be given yet. -/
structure Draft where
  north : Option String := none
  south : Option String := none

/-- The first address that is not given. -/
def Draft.missing (d : Draft) : Option String :=
  if d.north.isNone then some "north"
  else if d.south.isNone then some "south"
  else none

/-- The two fields, neither of which has a default. -/
def record : Record Draft where
  name := "BusAddresses"
  fields := [
    .of "north" (text aString) fun s d => { d with north := some s },
    .of "south" (text aString) fun s d => { d with south := some s }]
  start := {}
  missing := Draft.missing

/-- Decodes a pair of addresses. -/
def ofJson (v : Json) : Except DecodeError Addresses := do
  let d ← record.decode v
  match d.north, d.south with
  | some north, some south => return ⟨north, south⟩
  | none, _ => throw (.missing "north")
  | some _, none => throw (.missing "south")

end Addresses

/-- The number of messages that a socket holds for a slow peer. -/
def highWaterMark : Nat := 1000

/-- The time after which a waiting worker looks whether it should go on, in milliseconds. -/
def pollInterval : Nat := 100

end Fieldbus
