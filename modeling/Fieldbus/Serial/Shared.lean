import Fieldbus.Serial.Crew
import Fieldbus.Serial.Traffic

/-!
# Sets that threads share

Threads add ports to a set and remove them, write to them by their ids, list them, and start and
stop the workers of the set, all at the same time. Every worker makes passes of its own for as long
as it is alive; how many workers there are depends on who starts and stops them.

* `Pass`: how far a worker has come with its pass.
* `Writing`, `Listing`: how far a call has come that writes to a port or lists the ports.
* `SharedPorts`: a set with its workers and callers.
* `SharedPorts.step`, `SharedPorts.run`: what may happen, and how calls are answered.
-/

namespace Fieldbus

/-- Whether a pass of a reader is over. -/
def Rig.Round.isOver : Rig.Round → Bool
  | .acting [] => true
  | _ => false

/-- How far a worker has come with its pass: a reader, which has a buffer, or a monitor. -/
structure Pass where
  round : Rig.Round := .acting []
  buffer : Bytes := []
  patrol : Patrol := .visiting []

/-- Whether the pass is over. -/
def Pass.isOver (p : Pass) : Bool := p.round.isOver && p.patrol = .visiting []

namespace Traffic

/-- The set as a worker finds it that has come to some point of its pass. -/
def lend (t : Traffic) (p : Pass) : Traffic :=
  { t with watch := ⟨{ t.rig with buffer := p.buffer }, p.round⟩, patrol := p.patrol }

/-- How far the worker has come that uses the set. -/
def pass (t : Traffic) : Pass := ⟨t.watch.round, t.rig.buffer, t.patrol⟩

end Traffic

/-- How far a call has come that writes to the member with an id. -/
inductive Writing where
  /-- It is about to look for the member. -/
  | seeking (uid : String) (data : Bytes)
  /-- It is about to write to the port at a place. -/
  | sending (place : Nat) (data : Bytes)
  | finished (result : Except PortError Nat)

/-- A call that lists the members: it notes all of them, and then looks at one after the other. -/
structure Listing where
  /-- The places of the members that it noted. -/
  noted : List Nat
  /-- What it has seen of the first of them. -/
  seen : List PortStatus := []
  deriving DecidableEq, Repr

/-- A set of ports with its workers and callers. -/
structure SharedPorts where
  /-- The ports, and those who open, close and remove them. -/
  traffic : Traffic := {}
  crew : Crew := {}
  /-- How far workers have come, by their numbers. -/
  passes : Nat → Pass := fun _ => {}
  /-- The calls that write to members, each at its place. -/
  writings : List Writing := []
  /-- The calls that list the members, each at its place. -/
  listings : List Listing := []

namespace SharedPorts

/-- What may happen next. A step that cannot be made changes nothing. -/
inductive Step where
  /-- Somebody adds, removes, opens, closes or writes to a port, or something happens at the far
  ends. -/
  | use (a : Traffic.Step)
  /-- Somebody calls for bytes to be written to a member. -/
  | callWrite (uid : String) (data : Bytes)
  /-- Such a call goes on. -/
  | write (call : Nat)
  /-- Somebody calls for a listing, which notes the members. -/
  | callList
  /-- A listing looks at the next port. -/
  | list (call : Nat)
  /-- Somebody starts or stops the workers, or a worker looks at the flag. -/
  | crew (a : Crew.Step)
  /-- A worker goes on with its pass, or begins the next one. -/
  | work (w : Worker) (granted : Nat → Bool)

/-- How calls are answered. -/
inductive Effect where
  /-- A port was to be added. -/
  | added (d : Descriptor) (result : Except PortError Nat)
  /-- The member with an id was to be removed; tells whether there was one. -/
  | removed (uid : String) (was : Bool)
  /-- The member with an id was to be written to; tells whether there was one. -/
  | sought (uid : String) (was : Bool)
  /-- A listing noted the members with some ids. -/
  | noted (call : Nat) (uids : List String)
  /-- A listing looked at a port. -/
  | seen (call : Nat) (status : PortStatus)

variable (s : SharedPorts)

/-- A set without ports. -/
def start (devices : Devices) : SharedPorts := { traffic := .start devices }

/-- The ports. -/
def ports : PortSet := s.traffic.rig.ports

/-- Whether a worker has the lock of the port at a place, because it opens it. -/
def isLent (place : Nat) : Bool :=
  s.crew.alive.any fun w => (s.passes w.number).patrol.inside? = some place

/-- Whether others than the workers may make a step. -/
def isForUsers : Traffic.Step → Bool
  | .patrol | .read _ => false
  | .finishOpen place => !s.isLent place
  | _ => true

/-- How a step of a user is answered. -/
def answer : Traffic.Step → List Effect
  | .add d => [.added d (s.ports.add d).1]
  | .advance call =>
    match s.traffic.removals[call]? with
    | some ⟨uid, .unlinking⟩ => [.removed uid (s.ports.find? uid).isSome]
    | _ => []
  | _ => []

/-- Puts a call that writes further. -/
def setWriting (call : Nat) (w : Writing) : SharedPorts :=
  { s with writings := s.writings.set call w }

/-- A call that writes goes on, where it has come to some point. -/
def writeOn (call : Nat) : Writing → SharedPorts × List Effect
  | .seeking uid data =>
    match s.ports.find? uid with
    | none => (s.setWriting call (.finished (.error (.notFound uid))), [.sought uid false])
    | some place => (s.setWriting call (.sending place data), [.sought uid true])
  | .sending place data =>
    if place ∈ s.traffic.openings then (s, [])
    else
      ({ s with traffic := (s.traffic.step (.write place data)).1 }.setWriting call
        (.finished (s.traffic.rig.writeAt place data).1), [])
  | .finished _ => (s, [])

/-- A listing goes on, which waits for the lock of the port. -/
def listOn (call : Nat) (l : Listing) : SharedPorts × List Effect :=
  match l.noted[l.seen.length]? with
  | none => (s, [])
  | some place =>
    if place ∈ s.traffic.openings then (s, [])
    else
      match s.ports.port? place with
      | none => (s, [])
      | some p =>
        ({ s with listings := s.listings.set call { l with seen := l.seen ++ [p.status] } },
          [.seen call p.status])

/-- Those who start and stop workers go on. A worker looks at the flag when its pass is over. -/
def crewOn : Crew.Step → SharedPorts
  | .look w =>
    if (s.passes w.number).isOver then { s with crew := s.crew.step (.look w) } else s
  | a => { s with crew := s.crew.step a }

/-- A worker goes on. -/
def workOn (w : Worker) (granted : Nat → Bool) : SharedPorts :=
  let a : Traffic.Step := match w.kind with
    | .reader => .read granted
    | .monitor => .patrol
  let t := ((s.traffic.lend (s.passes w.number)).step a).1
  { s with
    traffic := t.lend {}
    passes := fun n => if n = w.number then t.pass else s.passes n }

/-- Makes a step: what comes after it, and how calls are answered. -/
def step (s : SharedPorts) : Step → SharedPorts × List Effect
  | .use a =>
    if s.isForUsers a then ({ s with traffic := (s.traffic.step a).1 }, s.answer a) else (s, [])
  | .callWrite uid data => ({ s with writings := s.writings ++ [.seeking uid data] }, [])
  | .write call =>
    match s.writings[call]? with
    | none => (s, [])
    | some w => s.writeOn call w
  | .callList =>
    ({ s with listings := s.listings ++ [{ noted := s.ports.snapshot }] },
      [.noted s.listings.length (s.ports.members.map Member.key)])
  | .list call =>
    match s.listings[call]? with
    | none => (s, [])
    | some l => s.listOn call l
  | .crew a => (s.crewOn a, [])
  | .work w granted => (if w ∈ s.crew.alive then s.workOn w granted else s, [])

/-- Makes steps one after the other. -/
def run (steps : List Step) : SharedPorts × List Effect := runSteps step s steps

end SharedPorts

end Fieldbus
