import Fieldbus.Flow.Shared
import Fieldbus.Flow.Timed

/-!
# Shared queues are first in, first out

Whatever threads do and in whatever order they get the lock, the calls have the outcomes that they
would have if one thread made them one after the other.

* `Allows`, `Legal`: the outcomes of calls that one thread makes.
* `Legal.conserves`, `Legal.fits`: nothing is lost, doubled or overtaken, and the queue does not
  outgrow its capacity.
* `step_cases`: a step completes no call, or one with an outcome that is allowed.
* `replies_await`: a wait on a clock is the wait of one of two threads.
* **`linearizable`**: the queue is bounded and first in, first out.
-/

namespace Fieldbus.SharedQueue

variable {α : Type}

/-- The items that the queue took, in order. -/
def accepted (es : List (Effect α)) : List (Entry α) :=
  es.filterMap fun x => match x with
    | .accepted e => some e
    | _ => none

/-- The items that left the queue, in order: one by one, or thrown away together. -/
def removed (es : List (Effect α)) : List (Entry α) :=
  es.flatMap fun x => match x with
    | .popped _ found | .awaited _ found => found.toList
    | .cleared _ _ thrown => thrown
    | .accepted _ | .refused _ | .counted _ _ => []

/-- The items of one thread. -/
def ofProducer (thread : Nat) (xs : List (Entry α)) : List (Entry α) :=
  xs.filter fun e => e.producer = thread

/-! ## One thread -/

/-- The outcomes of a call on a queue with some items, and the items after it. -/
def Allows (capacity : Option Nat) (xs : List (Entry α)) : Effect α → List (Entry α) → Prop
  | .accepted e, ys => capacity ≠ some xs.length ∧ ys = xs ++ [e]
  | .refused _, ys => capacity = some xs.length ∧ ys = xs
  | .popped _ found, ys | .awaited _ found, ys => found = xs.head? ∧ ys = xs.tail
  | .cleared _ count thrown, ys => count = xs.length ∧ thrown = xs ∧ ys = []
  | .counted _ count, ys => count = xs.length ∧ ys = xs

/-- The outcomes of calls that are made one after the other, and the items after them. -/
abbrev Legal (capacity : Option Nat) :
    List (Entry α) → List (Effect α) → List (Entry α) → Prop :=
  Traced (Allows capacity)

/-- The items are not more than the queue has room for. -/
def Fits (capacity : Option Nat) (xs : List (Entry α)) : Prop :=
  ∀ n, capacity = some n → xs.length ≤ n

variable {capacity : Option Nat} {xs ys zs : List (Entry α)} {e : Effect α}
  {es es' : List (Effect α)}

theorem accepted_cons : accepted (e :: es) = accepted [e] ++ accepted es := by
  rw [accepted, accepted, accepted, ← List.filterMap_append, List.singleton_append]

theorem removed_cons : removed (e :: es) = removed [e] ++ removed es := by
  rw [removed, removed, removed, ← List.flatMap_append, List.singleton_append]

theorem Allows.conserves (h : Allows capacity xs e ys) :
    xs ++ accepted [e] = removed [e] ++ ys := by
  cases e with
  | accepted x => obtain ⟨-, rfl⟩ := h; rfl
  | refused x => obtain ⟨-, rfl⟩ := h; simp [accepted, removed]
  | popped t found | awaited t found =>
    obtain ⟨rfl, rfl⟩ := h
    cases xs <;> simp [accepted, removed]
  | cleared t count thrown =>
    obtain ⟨-, rfl, rfl⟩ := h
    simp [accepted, removed]
  | counted t count => obtain ⟨-, rfl⟩ := h; simp [accepted, removed]

theorem Allows.fits (h : Allows capacity xs e ys) (fits : Fits capacity xs) : Fits capacity ys := by
  intro n hn
  have := fits n hn
  cases e with
  | accepted x =>
    obtain ⟨room, rfl⟩ := h
    have : n ≠ xs.length := fun full => room (hn.trans (congrArg some full))
    rw [List.length_append, List.length_singleton]
    omega
  | refused x | counted t count => obtain ⟨-, rfl⟩ := h; exact this
  | popped t found | awaited t found =>
    obtain ⟨-, rfl⟩ := h
    rw [List.length_tail]
    omega
  | cleared t count thrown =>
    obtain ⟨-, -, rfl⟩ := h
    exact Nat.zero_le n

/-- **Nothing is lost, doubled or overtaken.** -/
theorem Legal.conserves (h : Legal capacity xs es ys) : xs ++ accepted es = removed es ++ ys := by
  induction h with
  | nil xs => simp [accepted, removed]
  | cons now later ih =>
    rw [accepted_cons, removed_cons, ← List.append_assoc, now.conserves, List.append_assoc, ih,
      List.append_assoc]

theorem Legal.fits (h : Legal capacity xs es ys) (fits : Fits capacity xs) : Fits capacity ys := by
  induction h with
  | nil xs => exact fits
  | cons now later ih => exact ih (now.fits fits)

/-! ## Many threads -/

variable {s s' : SharedQueue α}

/-- The queue is not overfull. -/
def InBounds (s : SharedQueue α) : Prop := Fits s.queue.capacity s.queue.toList

theorem isFull_iff (bounds : s.InBounds) :
    s.queue.isFull = true ↔ s.queue.capacity = some s.queue.length := by
  unfold Queue.isFull
  cases hc : s.queue.capacity with
  | none => simp
  | some n =>
    have : s.queue.length ≤ n := bounds n hc
    simp only [decide_eq_true_eq, Option.some.injEq]
    omega

/-- A push is refused exactly if the queue is full. The thread then has its item back, and nothing
has changed. -/
theorem call_push (bounds : s.InBounds) (t : Nat) (a : α) :
    s.call t (.push a) =
      if s.queue.capacity = some s.queue.length then (s, [.refused ⟨t, a⟩])
      else
        ({ s with queue := { s.queue with toList := s.queue.toList ++ [⟨t, a⟩] } },
          [.accepted ⟨t, a⟩]) := by
  by_cases full : s.queue.isFull = true
  · rw [if_pos ((isFull_iff bounds).mp full)]
    simp only [call, Queue.push, full, if_true]
  · rw [if_neg fun h => full ((isFull_iff bounds).mpr h)]
    simp only [call, Queue.push, full, Bool.false_eq_true, if_false]

theorem call_pop (s : SharedQueue α) (t : Nat) :
    s.call t .pop =
      ({ s with queue := { s.queue with toList := s.queue.toList.tail } },
        [.popped t s.queue.toList.head?]) := by
  obtain ⟨⟨capacity, xs⟩, waiting⟩ := s
  cases xs <;> rfl

/-- A look finds the oldest item. Without one, the wait goes on or is over. -/
theorem look_cases (s : SharedQueue α) (t : Nat) (timeOver : Bool) :
    ((s.look t timeOver).2 = [] ∧ (s.look t timeOver).1.queue = s.queue ∧
      s.queue.toList = [] ∧ timeOver = false) ∨
    ((s.look t timeOver).2 = [.awaited t s.queue.toList.head?] ∧
      (s.look t timeOver).1.queue = { s.queue with toList := s.queue.toList.tail }) := by
  obtain ⟨⟨capacity, xs⟩, waiting⟩ := s
  cases xs with
  | nil =>
    cases timeOver with
    | false => exact .inl ⟨rfl, rfl, rfl, rfl⟩
    | true => exact .inr ⟨rfl, rfl⟩
  | cons x xs => exact .inr ⟨rfl, rfl⟩

/-- What a step does to the queue: nothing, or what one call does. -/
theorem step_cases (bounds : s.InBounds) (st : Step α) :
    ((s.step st).2 = [] ∧ (s.step st).1.queue = s.queue) ∨
    (∃ e, (s.step st).2 = [e] ∧ (s.step st).1.queue.capacity = s.queue.capacity ∧
      Allows s.queue.capacity s.queue.toList e (s.step st).1.queue.toList) := by
  have looks (t : Nat) (timeOver : Bool) :
      ((s.look t timeOver).2 = [] ∧ (s.look t timeOver).1.queue = s.queue) ∨
      (∃ e, (s.look t timeOver).2 = [e] ∧
        (s.look t timeOver).1.queue.capacity = s.queue.capacity ∧
        Allows s.queue.capacity s.queue.toList e (s.look t timeOver).1.queue.toList) := by
    rcases s.look_cases t timeOver with ⟨none, same, -, -⟩ | ⟨found, rest⟩
    · exact .inl ⟨none, same⟩
    · exact .inr ⟨_, found, by rw [rest], rfl, by rw [rest]⟩
  cases st with
  | wake t timeOver =>
    simp only [step]
    split
    · exact looks t timeOver
    · exact .inl ⟨rfl, rfl⟩
  | call t c =>
    simp only [step]
    split
    · exact .inl ⟨rfl, rfl⟩
    · cases c with
      | push a =>
        rw [call_push bounds]
        split
        · next full => exact .inr ⟨_, rfl, rfl, full, rfl⟩
        · next room => exact .inr ⟨_, rfl, rfl, room, rfl⟩
      | pop =>
        rw [call_pop]
        exact .inr ⟨_, rfl, rfl, rfl, rfl⟩
      | await => exact looks t false
      | clear => exact .inr ⟨_, rfl, rfl, rfl, rfl, rfl⟩
      | length => exact .inr ⟨_, rfl, rfl, rfl, rfl⟩

theorem allows_step (bounds : s.InBounds) {st : Step α} (h : e ∈ (s.step st).2) :
    Allows s.queue.capacity s.queue.toList e (s.step st).1.queue.toList := by
  rcases step_cases bounds st with ⟨none, -⟩ | ⟨e', one, -, allows⟩
  · rw [none] at h
    exact absurd h List.not_mem_nil
  · rw [one] at h
    rwa [List.mem_singleton.mp h]

theorem legal_run (capacity : Option Nat) (steps : List (Step α)) :
    ((start capacity).run steps).1.queue.capacity = capacity ∧
      Legal capacity [] ((start capacity).run steps).2
        ((start capacity).run steps).1.queue.toList := by
  refine runSteps_induction step
    (fun _ s es => s.queue.capacity = capacity ∧ Legal capacity [] es s.queue.toList) ?_
    (start capacity) ⟨rfl, .nil []⟩ steps
  rintro - s es ⟨rfl, legal⟩ st
  have bounds : s.InBounds := legal.fits fun n _ => Nat.zero_le n
  rcases step_cases bounds st with ⟨none, same⟩ | ⟨e, one, capacity, allows⟩
  · rw [none, same, List.append_nil]
    exact ⟨rfl, legal⟩
  · rw [one]
    exact ⟨capacity, legal.append (.cons allows (.nil _))⟩

/-! ## A wait on a clock -/

/-- A queue on a clock and one that threads share hold the same items and have the same capacity. -/
structure Mirrors (t : TimedQueue) (s : SharedQueue Bytes) : Prop where
  capacity : t.queue.capacity = s.queue.capacity
  items : t.queue.toList = s.queue.toList.map Entry.item

/-- Some steps of threads end with a reply to thread 0, after which the queue holds some items. -/
def Replies (s : SharedQueue Bytes) (reply : Option Bytes) (items : List Bytes) : Prop :=
  ∃ steps others found, (s.run steps).2 = others ++ [.awaited 0 found] ∧
    found.map Entry.item = reply ∧ (s.run steps).1.queue.toList.map Entry.item = items

theorem Replies.of_step {s : SharedQueue Bytes} (st : Step Bytes) {reply : Option Bytes}
    {items : List Bytes} (h : Replies (s.step st).1 reply items) : Replies s reply items := by
  obtain ⟨steps, others, found, last, hr, hi⟩ := h
  refine ⟨st :: steps, (s.step st).2 ++ others, found, ?_, hr, hi⟩
  show (s.step st).2 ++ ((s.step st).1.run steps).2 = _
  rw [last, List.append_assoc]

theorem await_of_empty {t : TimedQueue} (none : t.queue.toList = []) (deadline : Nat)
    (coming : List (Nat × Bytes)) :
    t.await deadline coming = match coming with
      | [] => (.none, { t with clock := max t.clock deadline, coming := [] })
      | p :: ps =>
        if p.1 ≤ deadline then
          TimedQueue.await deadline
            { t with queue := TimedQueue.pushed t.queue p.2, clock := max t.clock p.1 } ps
        else (.none, { t with clock := max t.clock deadline, coming := p :: ps }) := by
  have hp : t.queue.pop = (.none, t.queue) := by rw [Queue.pop, none]
  cases coming <;> rw [TimedQueue.await, hp]

theorem await_of_item {t : TimedQueue} (b : Bytes) (bs : List Bytes)
    (some : t.queue.toList = b :: bs) (deadline : Nat) (coming : List (Nat × Bytes)) :
    (t.await deadline coming).1 = .some b ∧ (t.await deadline coming).2.queue.toList = bs := by
  have hp : t.queue.pop = (.some b, { t.queue with toList := bs }) := by rw [Queue.pop, some]
  cases coming <;> rw [TimedQueue.await, hp] <;> exact ⟨rfl, rfl⟩

theorem replies_of_timeOver {s : SharedQueue Bytes} (waits : s.waiting = [0])
    (empty : s.queue.toList = []) : Replies s none [] := by
  have ends : s.step (.wake 0 true) = (⟨s.queue, []⟩, [.awaited 0 none]) := by
    simp [step, look, Queue.attempt, waits, empty]
  refine ⟨[.wake 0 true], [], none, ?_, rfl, ?_⟩
  · show (s.step (.wake 0 true)).2 ++ [] = _
    rw [ends]
    rfl
  · show (s.step (.wake 0 true)).1.queue.toList.map Entry.item = []
    rw [ends, empty]
    rfl

theorem pushed_eq (q : Queue Bytes) (b : Bytes) :
    TimedQueue.pushed q b = if q.isFull then q else { q with toList := q.toList ++ [b] } := by
  unfold TimedQueue.pushed Queue.push
  split <;> rfl

/-- While thread 0 waits, thread 1 makes the pushes whose time comes. -/
theorem replies_of_waits (deadline : Nat) (coming : List (Nat × Bytes)) {t : TimedQueue}
    {s : SharedQueue Bytes} (mirrors : Mirrors t s) (waits : s.waiting = [0])
    (empty : s.queue.toList = []) :
    Replies s (t.await deadline coming).1 (t.await deadline coming).2.queue.toList := by
  induction coming generalizing t s with
  | nil =>
    have none : t.queue.toList = [] := by rw [mirrors.items, empty, List.map_nil]
    rw [await_of_empty none]
    dsimp only
    rw [none]
    exact replies_of_timeOver waits empty
  | cons p ps ih =>
    have none : t.queue.toList = [] := by rw [mirrors.items, empty, List.map_nil]
    rw [await_of_empty none]
    dsimp only
    split
    · have bounds : s.InBounds := fun n _ => by rw [empty]; exact Nat.zero_le n
      have push : s.step (.call 1 (.push p.2)) = s.call 1 (.push p.2) := by simp [step, waits]
      refine Replies.of_step (.call 1 (.push p.2)) ?_
      rw [push, call_push bounds, pushed_eq]
      have alike : t.queue.isFull = s.queue.isFull := by
        simp [Queue.isFull, Queue.length, mirrors.capacity, none, empty]
      by_cases full : s.queue.capacity = some s.queue.length
      · -- there is no room, and the wait goes on as before
        rw [if_pos full, if_pos (alike ▸ (isFull_iff bounds).mpr full)]
        exact ih ⟨mirrors.capacity, mirrors.items⟩ waits empty
      · -- thread 0 is woken and finds the item
        rw [if_neg full, if_neg fun h => full ((isFull_iff bounds).mp (alike ▸ h))]
        obtain ⟨found, rest⟩ := await_of_item (t := { t with
          queue := { t.queue with toList := t.queue.toList ++ [p.2] }, clock := max t.clock p.1 })
          p.2 [] (by simp [none]) deadline ps
        rw [found, rest]
        refine ⟨[.wake 0 false], [], some ⟨1, p.2⟩, ?_, rfl, ?_⟩
        · simp [run, step, look, Queue.attempt, waits, empty]
        · simp [run, step, look, Queue.attempt, waits, empty]
    · rw [none]
      exact replies_of_timeOver waits empty

/-- **A wait on a clock** gives what a thread gets that waits while another one pushes. -/
theorem replies_await (deadline : Nat) (coming : List (Nat × Bytes)) {t : TimedQueue}
    {s : SharedQueue Bytes} (mirrors : Mirrors t s) (free : s.waiting = []) :
    Replies s (t.await deadline coming).1 (t.await deadline coming).2.queue.toList := by
  cases hs : s.queue.toList with
  | nil =>
    have waits : s.step (.call 0 .await) = ({ s with waiting := [0] }, []) := by
      simp [step, call, look, Queue.attempt, free, hs]
    refine Replies.of_step (.call 0 .await) ?_
    rw [waits]
    exact replies_of_waits deadline coming ⟨mirrors.capacity, mirrors.items⟩ rfl hs
  | cons e es =>
    obtain ⟨found, rest⟩ := await_of_item (t := t) e.item (es.map Entry.item)
      (by rw [mirrors.items, hs, List.map_cons]) deadline coming
    rw [found, rest]
    refine ⟨[.call 0 .await], [], some e, ?_, rfl, ?_⟩
    · simp [run, step, call, look, Queue.attempt, free, hs]
    · simp [run, step, call, look, Queue.attempt, free, hs]

/-! ## The main statement -/

/-- **A shared queue is a bounded queue, first in, first out.** In every run the calls have, in the
order in which they are completed, the outcomes that they would have one after the other. So the
items that the queue took are, in order, those that left it and those that are in it, and this is so
for the items of each thread; and there are never more in it than its capacity. At any time a push
is refused exactly if the queue is full, with the item handed back and nothing changed; who throws
the items away is told their number; and a wait ends once a look finds an item or its time is over,
and any wait that ends without an item finds the queue empty then. -/
theorem linearizable (capacity : Option Nat) (steps : List (Step α)) :
    let s := ((start capacity).run steps).1
    let es := ((start capacity).run steps).2
    Legal capacity [] es s.queue.toList ∧
    accepted es = removed es ++ s.queue.toList ∧
    (∀ t, ofProducer t (accepted es) =
      ofProducer t (removed es) ++ ofProducer t s.queue.toList) ∧
    (∀ n, capacity = some n → s.queue.length ≤ n) ∧
    (∀ t a, t ∉ s.waiting →
      (capacity = some s.queue.length → s.step (.call t (.push a)) = (s, [.refused ⟨t, a⟩])) ∧
      (capacity ≠ some s.queue.length →
        s.step (.call t (.push a)) =
          ({ s with queue := { s.queue with toList := s.queue.toList ++ [⟨t, a⟩] } },
            [.accepted ⟨t, a⟩]))) ∧
    (∀ t, t ∉ s.waiting →
      s.step (.call t .clear) =
        ({ s with queue := { s.queue with toList := [] } },
          [.cleared t s.queue.toList.length s.queue.toList]) ∧
      s.step (.call t .pop) =
        ({ s with queue := { s.queue with toList := s.queue.toList.tail } },
          [.popped t s.queue.toList.head?]) ∧
      s.step (.call t .length) = (s, [.counted t s.queue.toList.length])) ∧
    (∀ t ∈ s.waiting, ∀ timeOver, s.queue.toList ≠ [] ∨ timeOver = true →
      (s.step (.wake t timeOver)).2 = [.awaited t s.queue.toList.head?]) ∧
    (∀ st t, .awaited t none ∈ (s.step st).2 →
      s.queue.toList = [] ∧ (s.step st).1.queue.toList = []) := by
  intro s es
  obtain ⟨same, legal⟩ : s.queue.capacity = capacity ∧ Legal capacity [] es s.queue.toList :=
    legal_run capacity steps
  have bounds : s.InBounds := by
    unfold InBounds
    rw [same]
    exact legal.fits fun n _ => Nat.zero_le n
  have conserved : accepted es = removed es ++ s.queue.toList := legal.conserves
  refine ⟨legal, conserved, fun t => ?_, fun n hn => bounds n (same.trans hn),
    fun t a free => ⟨fun full => ?_, fun room => ?_⟩, fun t free => ⟨?_, ?_, ?_⟩,
    fun t waits timeOver ends => ?_, fun st t h => ?_⟩
  · rw [conserved, ofProducer, ofProducer, ofProducer, List.filter_append]
  · rw [step, if_neg free, call_push bounds, if_pos (same.trans full)]
  · rw [step, if_neg free, call_push bounds, if_neg (same ▸ room)]
  · rw [step, if_neg free]
    rfl
  · rw [step, if_neg free, call_pop]
  · rw [step, if_neg free]
    rfl
  · rw [step, if_pos waits]
    rcases s.look_cases t timeOver with ⟨-, -, empty, early⟩ | ⟨found, -⟩
    · exact absurd ends (by simp [empty, early])
    · exact found
  · obtain ⟨none, rest⟩ := allows_step bounds h
    have empty : s.queue.toList = [] := List.head?_eq_none_iff.mp none.symm
    exact ⟨empty, by rw [rest, empty, List.tail_nil]⟩

/-- Thread 0 is woken by a push, but another thread has taken the item before it looks; a push to
the full queue is refused, and a wait whose time is over ends with what is there. -/
theorem linearizable_taken_before :
    let steps : List (Step Nat) := [.call 0 .await, .call 1 (.push 7), .call 2 .pop, .wake 0 false,
      .call 1 (.push 8)]
    let s := ((start (some 1)).run steps).1
    let es := ((start (some 1)).run steps).2
    es = [.accepted ⟨1, 7⟩, .popped 2 (some ⟨1, 7⟩), .accepted ⟨1, 8⟩] ∧
      s.waiting = [0] ∧ s.queue.toList = [⟨1, 8⟩] ∧
      accepted es = removed es ++ [⟨1, 8⟩] ∧
      s.step (.call 1 (.push 9)) = (s, [.refused ⟨1, 9⟩]) ∧
      (s.step (.wake 0 true)).2 = [.awaited 0 (some ⟨1, 8⟩)] := by
  intro steps s es
  have waiting : s.waiting = [0] := by decide
  have items : s.queue.toList = [⟨1, 8⟩] := by decide
  obtain ⟨-, conserved, -, -, pushes, -, waits, -⟩ := linearizable (some 1) steps
  refine ⟨by decide, waiting, items, items ▸ conserved, ?_, ?_⟩
  · exact (pushes 1 9 (by decide)).1 (by decide)
  · rw [waits 0 (by decide) true (.inr rfl), items]
    rfl

end Fieldbus.SharedQueue
