import Fieldbus.Bytes

/-!
# Bounded queues

A queue hands out its items in the order in which it took them. It may have a capacity. Every
operation is one step, however many threads share the queue.

* `Queue`: the items, oldest first, and the capacity.
* `Queue.push`, `Queue.pop`, `Queue.clear`: the steps.
* `Queue.attempt`: a step of a consumer that waits for an item.
* `Queue.toList_push`, `Queue.toList_pop`: what the steps do to the items.
-/

namespace Fieldbus

/-- A queue. -/
structure Queue (α : Type) where
  /-- The greatest number of items, if there is one. -/
  capacity : Option Nat := none
  toList : List α := []
  deriving Repr

namespace Queue

variable {α : Type} (q : Queue α)

/-- The number of items. -/
def length : Nat := q.toList.length

/-- Whether there are no items. -/
def isEmpty : Bool := q.toList.isEmpty

/-- Whether the queue takes no more items. -/
def isFull : Bool :=
  match q.capacity with
  | none => false
  | some n => n ≤ q.length

/-- An item that a full queue hands back. -/
structure Full (α : Type) where
  item : α
  deriving DecidableEq, Repr

/-- What a producer is told about a full queue. -/
def fullMessage : String := "frame queue is full"

/-- Takes an item, or hands it back. -/
def push (a : α) : Except (Full α) (Queue α) :=
  if q.isFull then .error ⟨a⟩ else .ok { q with toList := q.toList ++ [a] }

/-- Hands out the oldest item. -/
def pop : Option α × Queue α :=
  match q.toList with
  | [] => (none, q)
  | a :: r => (some a, { q with toList := r })

/-- Throws all items away and counts them. -/
def clear : Nat × Queue α :=
  (q.length, { q with toList := [] })

/-- What a step of a waiting consumer gives. -/
inductive Attempt (α : Type) where
  | item (a : α)
  /-- There is none; the consumer goes on waiting. -/
  | wait
  /-- There is none, and the time is over. -/
  | giveUp
  deriving DecidableEq, Repr

/-- A step of a waiting consumer: it is woken, or its time is over. -/
def attempt (timeOver : Bool) : Attempt α × Queue α :=
  match q.toList with
  | [] => (if timeOver then .giveUp else .wait, q)
  | a :: r => (.item a, { q with toList := r })

/-- An item that was taken is the last. -/
theorem toList_push {a : α} {q' : Queue α} (h : q.push a = .ok q') :
    q'.toList = q.toList ++ [a] := by
  unfold push at h
  split at h
  · cases h
  · cases h; rfl

/-- What is handed out is the first item, and the others stay. -/
theorem toList_pop : q.pop.1.toList ++ q.pop.2.toList = q.toList := by
  unfold pop
  split <;> simp [*]

@[simp] theorem toList_clear : q.clear.2.toList = [] := rfl

theorem push_eq_error_iff {a : α} : q.push a = .error ⟨a⟩ ↔ q.isFull := by
  unfold push
  split <;> simp [*]

end Queue

end Fieldbus
