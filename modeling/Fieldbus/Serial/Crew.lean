/-!
# The workers of a set

A set has two workers, a reader and a monitor. Any number of threads may start and stop them. The
steps below are those that a thread or a worker makes without being interrupted: a store of the
running flag, the taking of the lock, the start of a worker, the taking of the workers' handles, a
join, a worker's look at the flag.

* `Crew`: the flag, the lock, the handles, the workers alive and the calls under way.
* `Crew.step`: one step.
* `Crew.start`, `Crew.stop`: a call that nobody interrupts.
-/

namespace Fieldbus

/-- The two kinds of workers. -/
inductive WorkerKind where
  | reader
  | monitor
  deriving DecidableEq, Repr

/-- A worker. -/
structure Worker where
  kind : WorkerKind
  /-- Its number; no two workers have the same. -/
  number : Nat
  deriving DecidableEq, Repr

/-- How far a call to start or stop the workers has come. -/
inductive Call where
  /-- A start is about to take the lock. -/
  | starting
  /-- It has the lock, and is about to set the flag. -/
  | flagging
  /-- It has the lock, and is about to start a reader. -/
  | startingReader
  /-- It has the lock, and is about to start a monitor. -/
  | startingMonitor (reader : Worker)
  /-- It has the lock, could not start a monitor, and waits for the reader to end. -/
  | abandoning (reader : Worker)
  /-- A stop is about to clear the flag. -/
  | stopping
  /-- It is about to take the handles. -/
  | taking
  /-- It waits for workers to end, one after the other. -/
  | joining (workers : List Worker)
  /-- The call is over; a start may have failed. -/
  | finished (ok : Bool)
  deriving DecidableEq, Repr

/-- The workers of a set and those who start and stop them. -/
structure Crew where
  /-- Whether workers should go on. -/
  running : Bool := false
  /-- Whether somebody has the lock. -/
  locked : Bool := false
  /-- The workers that were started and not yet stopped. -/
  handles : Option (Worker × Worker) := none
  alive : List Worker := []
  /-- The number of workers ever started. -/
  started : Nat := 0
  /-- The calls, each at its place. -/
  calls : List Call := []
  deriving Repr, Inhabited

namespace Crew

/-- A step. One that cannot be made changes nothing. -/
inductive Step where
  /-- Somebody calls for a start. -/
  | callStart
  /-- Somebody calls for a stop. -/
  | callStop
  /-- A call goes on; if it starts a worker, that may succeed or fail. -/
  | advance (call : Nat) (succeeds : Bool)
  /-- A worker looks at the flag, and ends if it is clear. -/
  | look (worker : Worker)
  deriving DecidableEq, Repr

variable (c : Crew)

/-- Puts a call further. -/
def setCall (i : Nat) (call : Call) : Crew := { c with calls := c.calls.set i call }

/-- Starts a worker. -/
def spawn (kind : WorkerKind) : Worker × Crew :=
  let w : Worker := ⟨kind, c.started⟩
  (w, { c with alive := c.alive ++ [w], started := c.started + 1 })

/-- Puts the call at a place further, where `call` is how far it has come. -/
def advance (i : Nat) (succeeds : Bool) : Call → Crew
  | .starting =>
    if c.locked then c
    else if c.handles.isSome then c.setCall i (.finished true)
    else { c with locked := true }.setCall i .flagging
  | .flagging => { c with running := true }.setCall i .startingReader
  | .startingReader =>
    if succeeds then
      let (w, c) := c.spawn .reader
      c.setCall i (.startingMonitor w)
    else { c with running := false, locked := false }.setCall i (.finished false)
  | .startingMonitor reader =>
    if succeeds then
      let (w, c) := c.spawn .monitor
      { c with handles := some (reader, w), locked := false }.setCall i (.finished true)
    else { c with running := false }.setCall i (.abandoning reader)
  | .abandoning reader =>
    if c.alive.contains reader then c
    else { c with locked := false }.setCall i (.finished false)
  | .stopping => { c with running := false }.setCall i .taking
  | .taking =>
    if c.locked then c
    else
      match c.handles with
      | none => c.setCall i (.finished true)
      | some (reader, monitor) =>
        { c with handles := none }.setCall i (.joining [reader, monitor])
  | .joining [] => c.setCall i (.finished true)
  | .joining (w :: ws) => if c.alive.contains w then c else c.setCall i (.joining ws)
  | .finished _ => c

/-- Makes a step. -/
def step : Step → Crew
  | .callStart => { c with calls := c.calls ++ [.starting] }
  | .callStop => { c with calls := c.calls ++ [.stopping] }
  | .advance i succeeds =>
    match c.calls[i]? with
    | none => c
    | some call => c.advance i succeeds call
  | .look w => if c.running then c else { c with alive := c.alive.filter fun v => v ≠ w }

/-- Makes steps one after the other. -/
def run (steps : List Step) : Crew := steps.foldl step c

/-- A call for a start that nobody interrupts and that succeeds. -/
def start : Crew :=
  c.run (.callStart :: List.replicate 4 (.advance c.calls.length true))

/-- A call for a stop that nobody interrupts; the workers look at the flag meanwhile. -/
def stop : Crew :=
  let i := c.calls.length
  c.run ([.callStop, .advance i true, .advance i true] ++ c.alive.map .look ++
    List.replicate 3 (.advance i true))

end Crew

end Fieldbus
