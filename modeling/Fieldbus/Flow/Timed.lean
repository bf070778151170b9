import Fieldbus.Flow.Queue

/-!
# A queue on a clock

Producers push at times to come, and a consumer may wait for them.

* `TimedQueue`: a queue, the time, and the pushes to come.
* `TimedQueue.await`: waits for an item.
* `TimedQueue.step`, `TimedQueue.run`: a sequence of operations and their replies.
-/

namespace Fieldbus

/-- A queue whose producers push at times to come. -/
structure TimedQueue where
  queue : Queue Bytes
  clock : Nat := 0
  /-- The pushes to come, each with its time, earliest first. -/
  coming : List (Nat × Bytes) := []
  /-- Whether there ever was a push to come. -/
  concurrent : Bool := false

/-- An operation on a queue. -/
inductive QueueStep where
  | push (item : Bytes)
  /-- Has an item pushed after some time. -/
  | pushLater (delay : Nat) (item : Bytes)
  | pop
  /-- Waits for an item, but no longer than some time. -/
  | popTimeout (limit : Nat)
  | clear
  | length
  /-- Asks whether there are none. -/
  | isEmpty

/-- The reply to an operation. -/
inductive QueueReply where
  | pushed
  /-- The item was handed back. -/
  | full (item : Bytes)
  /-- The item will be pushed. -/
  | scheduled
  /-- The oldest item, if there is one. -/
  | item (i : Option Bytes)
  | count (n : Nat)
  | truth (b : Bool)

namespace TimedQueue

/-- Puts a push behind those that come no later. -/
def schedule (t : Nat) (item : Bytes) : List (Nat × Bytes) → List (Nat × Bytes)
  | [] => [(t, item)]
  | p :: ps => if p.1 ≤ t then p :: schedule t item ps else (t, item) :: p :: ps

/-- The queue after a push whose producer does not look at the outcome. -/
def pushed (q : Queue Bytes) (item : Bytes) : Queue Bytes :=
  (q.push item).toOption.getD q

/-- Makes the pushes whose time has come. -/
def arrive (t : TimedQueue) : TimedQueue :=
  let due := t.coming.takeWhile fun p => p.1 ≤ t.clock
  { t with
    queue := due.foldl (fun q p => pushed q p.2) t.queue
    coming := t.coming.dropWhile fun p => p.1 ≤ t.clock }

/-- Waits for an item until a deadline, with the given pushes to come. -/
def await (deadline : Nat) (t : TimedQueue) : List (Nat × Bytes) → Option Bytes × TimedQueue
  | [] =>
    match t.queue.pop with
    | (some a, q) => (some a, { t with queue := q, coming := [] })
    | (none, _) => (none, { t with clock := max t.clock deadline, coming := [] })
  | p :: ps =>
    match t.queue.pop with
    | (some a, q) => (some a, { t with queue := q, coming := p :: ps })
    | (none, _) =>
      if p.1 ≤ deadline then
        await deadline { t with queue := pushed t.queue p.2, clock := max t.clock p.1 } ps
      else (none, { t with clock := max t.clock deadline, coming := p :: ps })

/-- Makes one operation. -/
def step (t : TimedQueue) : QueueStep → QueueReply × TimedQueue
  | .push item =>
    match t.queue.push item with
    | .ok q => (.pushed, { t with queue := q })
    | .error full => (.full full.item, t)
  | .pushLater delay item =>
    (.scheduled,
      { t with coming := schedule (t.clock + delay) item t.coming, concurrent := true })
  | .pop =>
    let (i, q) := t.queue.pop
    (.item i, { t with queue := q })
  | .popTimeout limit =>
    let (i, t) := t.await (t.clock + limit) t.coming
    (.item i, t)
  | .clear =>
    let (n, q) := t.queue.clear
    (.count n, { t with queue := q })
  | .length => (.count t.queue.length, t)
  | .isEmpty => (.truth t.queue.isEmpty, t)

/-- Makes operations one after the other. Each reply comes with the length of the queue after it, as
long as no other producer is about. -/
def run (t : TimedQueue) : List QueueStep → List (QueueReply × Option Nat)
  | [] => []
  | s :: ss =>
    let (reply, t) := t.arrive.step s
    (reply, if t.concurrent then none else some t.queue.length) :: t.run ss

end TimedQueue

end Fieldbus
