/-!
# Fan-out

Every item that is sent goes to all receivers that are there at that time. For each receiver only
the latest items are kept; of the others it learns how many there were.

* `Fanout`: the receivers and what waits for them.
* `Fanout.send`: an item goes to all receivers.
* `Fanout.take`: a receiver takes an item, or learns what it missed.
* `Fanout.drain`: a receiver takes what waits for it.
-/

namespace Fieldbus

/-- A receiver. -/
structure Receiver (α : Type) where
  name : String
  /-- How many items were lost since it last took some. -/
  missed : Nat := 0
  /-- The items that wait for it, oldest first. -/
  waiting : List α := []
  deriving DecidableEq, Repr

/-- An item reaches a receiver, for which no more than `capacity` of them are kept. -/
def Receiver.put {α : Type} (capacity : Nat) (a : α) (r : Receiver α) : Receiver α :=
  let all := r.waiting ++ [a]
  let lost := all.length - capacity
  { r with missed := r.missed + lost, waiting := all.drop lost }

/-- What a receiver takes at a time. -/
inductive Taken (α : Type) where
  | item (a : α)
  /-- The news that items were lost, and how many. -/
  | missed (n : Nat)
  deriving DecidableEq, Repr

/-- A receiver takes one item. If some were lost before it, it learns of them first. -/
def Receiver.take {α : Type} (r : Receiver α) : Option (Taken α) × Receiver α :=
  if 0 < r.missed then (some (.missed r.missed), { r with missed := 0 })
  else
    match r.waiting with
    | [] => (none, r)
    | a :: rest => (some (.item a), { r with waiting := rest })

theorem Receiver.length_put_le {α : Type} (capacity : Nat) (a : α) (r : Receiver α) :
    (r.put capacity a).waiting.length ≤ capacity := by
  simp only [put, List.length_drop]
  omega

/-- Receivers. -/
structure Fanout (α : Type) where
  /-- How many items are kept for a receiver. -/
  capacity : Nat
  /-- The receivers, in the order in which they came. -/
  receivers : List (Receiver α) := []
  deriving DecidableEq, Repr

namespace Fanout

variable {α : Type} (f : Fanout α)

/-- A fan-out that keeps at least some number of items for a receiver. The number is rounded up to a
power of two. -/
def ofCapacity (n : Nat) : Fanout α := { capacity := (max n 1).nextPowerOfTwo }

/-- The number of receivers. -/
def size : Nat := f.receivers.length

/-- The receiver of a name. -/
def receiver? (name : String) : Option (Receiver α) := f.receivers.find? fun r => r.name = name

/-- A receiver goes. -/
def leave (name : String) : Fanout α :=
  { f with receivers := f.receivers.filter fun r => r.name ≠ name }

/-- A receiver comes; one of the same name goes. -/
def enter (name : String) : Fanout α :=
  let f := f.leave name
  { f with receivers := f.receivers ++ [{ name := name }] }

/-- An item goes to all receivers. -/
def send (a : α) : Fanout α :=
  { f with receivers := f.receivers.map (Receiver.put f.capacity a) }

/-- A receiver takes one item, or learns how many it missed. -/
def take (name : String) : Option (Taken α) × Fanout α :=
  ((f.receiver? name).bind fun r => r.take.1,
    { f with receivers := f.receivers.map fun r => if r.name = name then r.take.2 else r })

/-- A receiver takes what waits for it, and learns how many items it missed. -/
def drain (name : String) : Option (Nat × List α) × Fanout α :=
  ((f.receiver? name).map fun r => (r.missed, r.waiting),
    { f with
      receivers := f.receivers.map fun r =>
        if r.name = name then { r with missed := 0, waiting := [] } else r })

@[simp] theorem size_send (a : α) : (f.send a).size = f.size := by simp [send, size]

end Fanout

end Fieldbus
