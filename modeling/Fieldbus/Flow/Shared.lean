import Fieldbus.Flow.Queue
import Fieldbus.Flow.Run

/-!
# Queues shared by threads

Any number of threads use one queue. A step is what a thread does from taking the lock of the queue
to releasing it, and steps of all threads may come in any order. A thread that waits for an item
looks for one when it calls, whenever it is woken, and once more when its time is over; in between
it does not have the lock.

* `SharedQueue`: the queue, and the threads that wait.
* `SharedQueue.look`: a look of a thread that waits for an item.
* `SharedQueue.step`, `SharedQueue.run`: what may happen, with what comes of it.
-/

namespace Fieldbus

namespace SharedQueue

/-- An item and the thread that pushed it. -/
structure Entry (α : Type) where
  producer : Nat
  item : α
  deriving DecidableEq, Repr

/-- What a thread calls for. -/
inductive Call (α : Type) where
  | push (a : α)
  | pop
  /-- Waits for an item, but no longer than some time. -/
  | await
  | clear
  | length
  deriving DecidableEq, Repr

/-- What may happen next. A step that cannot be made changes nothing. -/
inductive Step (α : Type) where
  | call (thread : Nat) (c : Call α)
  /-- A thread that waits is woken, by a push or by nobody, or its time is over. -/
  | wake (thread : Nat) (timeOver : Bool)
  deriving DecidableEq, Repr

/-- What comes of a call. -/
inductive Effect (α : Type) where
  | accepted (e : Entry α)
  /-- The item was handed back. -/
  | refused (e : Entry α)
  | popped (thread : Nat) (found : Option (Entry α))
  /-- A wait is over. -/
  | awaited (thread : Nat) (found : Option (Entry α))
  /-- The thread is told how many items it threw away. -/
  | cleared (thread count : Nat) (thrown : List (Entry α))
  | counted (thread count : Nat)
  deriving DecidableEq, Repr

end SharedQueue

/-- A queue and the threads that wait for an item of it. -/
structure SharedQueue (α : Type) where
  queue : Queue (SharedQueue.Entry α)
  waiting : List Nat := []

namespace SharedQueue

variable {α : Type} (s : SharedQueue α)

/-- An empty queue that nobody waits for. -/
def start (capacity : Option Nat) : SharedQueue α := { queue := { capacity := capacity } }

/-- A thread that waits for an item has the lock and looks for one. -/
def look (thread : Nat) (timeOver : Bool) : SharedQueue α × List (Effect α) :=
  let others := s.waiting.filter fun t => t ≠ thread
  match s.queue.attempt timeOver with
  | (.item e, queue) => (⟨queue, others⟩, [.awaited thread (some e)])
  | (.wait, queue) => (⟨queue, thread :: others⟩, [])
  | (.giveUp, queue) => (⟨queue, others⟩, [.awaited thread none])

/-- A thread that does not wait calls for something. -/
def call (thread : Nat) : Call α → SharedQueue α × List (Effect α)
  | .push a =>
    match s.queue.push ⟨thread, a⟩ with
    | .ok queue => ({ s with queue := queue }, [.accepted ⟨thread, a⟩])
    | .error full => (s, [.refused full.item])
  | .pop =>
    let (found, queue) := s.queue.pop
    ({ s with queue := queue }, [.popped thread found])
  | .await => s.look thread false
  | .clear =>
    let (count, queue) := s.queue.clear
    ({ s with queue := queue }, [.cleared thread count s.queue.toList])
  | .length => (s, [.counted thread s.queue.length])

/-- Makes a step: what comes after it, and what comes of the call that it completes. -/
def step (s : SharedQueue α) : Step α → SharedQueue α × List (Effect α)
  | .call thread c => if thread ∈ s.waiting then (s, []) else s.call thread c
  | .wake thread timeOver => if thread ∈ s.waiting then s.look thread timeOver else (s, [])

/-- Makes steps one after the other. -/
def run (steps : List (Step α)) : SharedQueue α × List (Effect α) := runSteps step s steps

end SharedQueue

end Fieldbus
