import Fieldbus.Bus.Reception

/-!
# Showing frames

An operator has the frames under some topics shown, all of them or a number of them. A worker calls
for the next frame again and again, for a short time each, and looks in between whether it should
go on.

* `Showing`: the subscriber, the worker, and how many frames it has shown.
* `Showing.work`: a step of the worker.
* `Showing.step`, `Showing.run`: what may happen meanwhile, and the frames that are shown.
-/

namespace Fieldbus

namespace Showing

/-- What the worker is at. -/
inductive Stage where
  /-- It is about to look whether it should go on. -/
  | looking
  /-- A call for the next frame is under way. -/
  | calling
  | ended
  /-- A call failed, and the command with it. -/
  | failed
  deriving DecidableEq, Repr, Inhabited

/-- The longest time that a call takes, in milliseconds. -/
def slice : Nat := 100

end Showing

/-- A command that shows frames. -/
structure Showing where
  reception : Reception
  /-- The number of frames after which it ends. -/
  limit : Option Nat := none
  /-- Whether it should go on. -/
  running : Bool := true
  /-- The number of frames shown so far. -/
  received : Nat := 0
  stage : Showing.Stage := .looking
  deriving DecidableEq, Repr, Inhabited

namespace Showing

variable (s : Showing)

/-- A command that follows some prefixes. -/
def start (prefixes : List Bytes) (limit : Option Nat) : Showing :=
  { reception := .start prefixes, limit := limit }

/-- Whether there is to be another call. -/
def goesOn : Bool := s.running && s.limit.all fun n => s.received < n

/-- The worker makes a step. -/
def work (socket : Reception.Socket) (now : Nat) : Showing × List Frame :=
  match s.stage with
  | .looking =>
    if s.goesOn then
      ({ s with reception := s.reception.call now slice, stage := .calling }, [])
    else ({ s with stage := .ended }, [])
  | .calling =>
    match s.reception.work socket now with
    | (r, none) => ({ s with reception := r }, [])
    | (r, some (.frame f)) =>
      ({ s with reception := r, received := s.received + 1, stage := .looking }, [f])
    | (r, some .nothing) => ({ s with reception := r, stage := .looking }, [])
    | (r, some .failure) => ({ s with reception := r, stage := .failed }, [])
  | .ended | .failed => (s, [])

/-- What may happen while frames are shown. -/
inductive Step where
  /-- The relay passes a message on. -/
  | relayed (m : Message)
  /-- The command is told to end. -/
  | signal
  /-- The worker makes a step. -/
  | work (socket : Reception.Socket) (now : Nat)
  deriving DecidableEq, Repr

/-- Makes a step. -/
def step (s : Showing) : Step → Showing × List Frame
  | .relayed m =>
    ({ s with reception := { s.reception with inbox := s.reception.inbox.deliver m } }, [])
  | .signal => ({ s with running := false }, [])
  | .work socket now => s.work socket now

/-- Makes steps one after the other. -/
def run (s : Showing) (steps : List Step) : Showing × List Frame := runSteps step s steps

end Showing

end Fieldbus
