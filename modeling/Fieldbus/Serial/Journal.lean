import Fieldbus.Serial.Session
import Fieldbus.Serial.Watch

/-!
# Sessions on record

A port may be closed by the reader, by the monitor, by whoever writes to it, by its removal, or by
anybody by name. Each of them does this under the lock of the port and is told whether a session
ended. Whoever is told so, and did not ask for it, reports it once the lock is free again; until
then anything may happen.

* `Port.Step.atLock`, `Port.Answer.ends`: the steps that take the lock once, and what ends a
  session.
* `Rig.writeAs`, `Rig.writeTo`: a write, whatever the device does with the bytes.
* `Rig.vanishAt`: the monitor closes a port whose path is gone.
* `SessionId`, `Ending`, `Report`: a session, why it is over, and what is to be said about it.
* `Journal`, `Journal.run`: all this in any order, with a record of what began and ended and of what
  was reported.
-/

namespace Fieldbus

/-! ## Ports -/

namespace Port

/-- Whether an answer tells that a session ended. -/
def Answer.ends : Answer → Bool
  | .closed was => was
  | .read .closed _ => true
  | .written (.error (.io .fatal)) => true
  | _ => false

/-- The number of sessions that ended. -/
def closings (answers : List Answer) : Nat := answers.countP Answer.ends

/-- A step as steps each of which takes the lock at most once: the management of a port ends before
the port is closed. -/
def Step.atLock : Step → List Step
  | .retire => [.clearRunning, .close]
  | s => [s]

end Port

/-! ## Writes -/

/-- A terminal after a write of which the device makes what the outcome says. -/
def Terminal.given (t : Terminal) (data : Bytes) : DeviceWrite → Terminal
  | .accepted n => { t with fromPort := t.fromPort ++ data.take n }
  | .failed _ => t

/-- A device does not take more bytes than there are. -/
def DeviceWrite.Fits (data : Bytes) : DeviceWrite → Prop
  | .accepted n => n ≤ data.length
  | .failed _ => True

instance (data : Bytes) : (w : DeviceWrite) → Decidable (w.Fits data)
  | .accepted n => inferInstanceAs (Decidable (n ≤ data.length))
  | .failed _ => inferInstanceAs (Decidable True)

namespace Rig

variable (r : Rig)

/-- Writes to the port at a place, where `outcome` is what its device does with the bytes. -/
def writeAs (place : Nat) (data : Bytes) (outcome : DeviceWrite) :
    Except PortError Nat × Rig × List Notice :=
  match r.ports.port? place with
  | none => (.error (.closed ""), r, [])
  | some p =>
    match p.terminal.bind fun id => (r.devices.terminal? id).map fun t => (id, t) with
    | none =>
      let (result, p) := p.write (.failed .fatal)
      (result, r.setPort place p, [])
    | some (id, t) =>
      let (result, p) := p.write outcome
      let notices := match outcome with
        | .failed .fatal => [⟨place, .closed .write⟩]
        | _ => []
      (result,
        { r.setPort place p with devices := r.devices.update id (t.given data outcome) }, notices)

/-- Writes to the member with an id, where `outcome` is what its device does with the bytes. -/
def writeTo (uid : String) (data : Bytes) (outcome : DeviceWrite) :
    Except PortError Nat × Rig × List Notice :=
  match r.ports.find? uid with
  | none => (.error (.notFound uid), r, [])
  | some place => r.writeAs place data outcome

/-- The monitor closes the port at a place because its path is gone. -/
def vanishAt (place : Nat) : Bool × Rig × List Notice :=
  let (was, r) := r.closeAt place
  (was, r, if was then [⟨place, .closed .vanished⟩] else [])

/-- Whether there is a port at a place and it is open. -/
def isOpenAt (place : Nat) : Bool := ((r.ports.port? place).map Port.isOpen).getD false

end Rig

/-! ## The record -/

/-- A session; the sessions of a port are counted from one. -/
structure SessionId where
  place : Nat
  number : Nat
  deriving DecidableEq, Repr

/-- Why a session is over. -/
inductive Ending where
  /-- Somebody found out that the device is of no more use. -/
  | found (cause : ClosedBy)
  | removed
  /-- Somebody closed the port by name. -/
  | asked
  deriving DecidableEq, Repr

/-- Something that is to be said about a session. -/
structure Report where
  session : SessionId
  event : PortEvent
  deriving DecidableEq, Repr

/-- Ports in use. -/
structure Journal where
  rig : Rig := {}
  /-- The places of the ports whose sessions began, in order. -/
  begun : List Nat := []
  /-- What is yet to be reported. -/
  due : List Report := []

namespace Journal

/-- What goes on record. -/
inductive Entry where
  | began (s : SessionId)
  | ended (s : SessionId) (why : Ending)
  | reported (what : Report)
  deriving DecidableEq, Repr

/-- What may happen next. Everybody acts at any time and on what was noted at any time. -/
inductive Step where
  /-- Something happens at the far ends. -/
  | change (c : Devices.Change)
  | add (d : Descriptor)
  /-- A removal takes a port out of the set. -/
  | unlink (uid : String)
  /-- A removal ends the management of a port. -/
  | clearRunning (place : Nat)
  /-- A removal closes a port. -/
  | remove (place : Nat)
  | openAt (place : Nat)
  /-- Somebody closes a port by name. -/
  | closeAt (place : Nat)
  /-- Somebody writes to a port. -/
  | write (place : Nat) (data : Bytes) (outcome : DeviceWrite)
  /-- The monitor closes a port whose path it did not see. -/
  | vanish (place : Nat)
  /-- A reader acts on what waiting told about a noted port. -/
  | handle (t : Rig.Target) (what : Rig.Readiness) (granted : Bool)
  /-- One of those who have something to report does so. -/
  | report (index : Nat)

variable (j : Journal)

/-- The latest session of the port at a place. -/
def latest (place : Nat) : SessionId := ⟨place, j.begun.count place⟩

/-- What a call that may open the port at a place puts on record. -/
def opening (place : Nat) (answer : Port.Answer) : List Entry :=
  if answer.begins then [.began ⟨place, j.begun.count place + 1⟩] else []

/-- What a call that may close the port at a place puts on record. -/
def closing (place : Nat) (why : Ending) (answer : Port.Answer) : List Entry :=
  if answer.ends then [.ended (j.latest place) why] else []

/-- What a notice of the reader puts on record. -/
def observed (n : Notice) : List Entry :=
  match n.event with
  | .closed cause => [.ended (j.latest n.place) (.found cause)]
  | .opened => []

/-- The place of the port whose session began. -/
def Entry.opens? : Entry → Option Nat
  | .began s => some s.place
  | _ => none

/-- The journal after a call: the rig as it is left, what goes on record, and what the caller has to
report. -/
def next (r : Rig) (es : List Entry) (ns : List Notice) : Journal × List Entry :=
  let begun := j.begun ++ es.filterMap Entry.opens?
  ({ rig := r, begun := begun
     due := j.due ++ ns.map fun n => ⟨⟨n.place, begun.count n.place⟩, n.event⟩ }, es)

/-- Makes a step: what comes after it, and what goes on record. -/
def step (j : Journal) : Step → Journal × List Entry
  | .change c => j.next { j.rig with devices := (j.rig.devices.change c).1 } [] []
  | .add d => j.next { j.rig with ports := (j.rig.ports.add d).2 } [] []
  | .unlink uid => j.next { j.rig with ports := (j.rig.ports.unlink uid).2 } [] []
  | .clearRunning place => j.next { j.rig with ports := j.rig.ports.clearRunning place } [] []
  | .remove place =>
    let (was, r) := j.rig.closeAt place
    j.next r (j.closing place .removed (.closed was)) []
  | .openAt place =>
    let (answer, r, ns) := j.rig.openAt j.rig.given? place
    j.next r (j.opening place (.opened answer)) ns
  | .closeAt place =>
    let (was, r) := j.rig.closeAt place
    j.next r (j.closing place .asked (.closed was)) []
  | .write place data outcome =>
    let (answer, r, ns) := j.rig.writeAs place data outcome
    j.next r (j.closing place (.found .write) (.written answer)) ns
  | .vanish place =>
    let (was, r, ns) := j.rig.vanishAt place
    j.next r (j.closing place (.found .vanished) (.closed was)) ns
  | .handle t what granted =>
    let (r, e) := j.rig.handle t what granted
    j.next r (e.notices.flatMap j.observed) e.notices
  | .report index =>
    match j.due[index]? with
    | none => (j, [])
    | some what => ({ j with due := j.due.eraseIdx index }, [.reported what])

/-- Makes steps one after the other. -/
def run (steps : List Step) : Journal × List Entry := runSteps step j steps

/-! ### Reading the record -/

/-- Whether a session of the port at a place began. -/
def Entry.beginsAt (place : Nat) : Entry → Bool
  | .began s => s.place = place
  | _ => false

/-- Whether a session of the port at a place ended. -/
def Entry.endsAt (place : Nat) : Entry → Bool
  | .ended s _ => s.place = place
  | _ => false

/-- Why a session is over, once for every time that it ended. -/
def endings (s : SessionId) (log : List Entry) : List Ending :=
  log.filterMap fun
    | .ended t why => if t = s then some why else none
    | _ => none

/-- What is said about a session that ended. -/
def Report.fault? (s : SessionId) (what : Report) : Option ClosedBy :=
  match what with
  | ⟨t, .closed cause⟩ => if t = s then some cause else none
  | _ => none

/-- What was reported. -/
def Entry.report? : Entry → Option Report
  | .reported what => some what
  | _ => none

/-- What was reported about the end of a session. -/
def faults (s : SessionId) (log : List Entry) : List ClosedBy :=
  (log.filterMap Entry.report?).filterMap (Report.fault? s)

/-- What is yet to be reported about the end of a session. -/
def owed (s : SessionId) : List ClosedBy := j.due.filterMap (Report.fault? s)

/-- A session began and is not open any more. -/
def Over (s : SessionId) : Prop :=
  1 ≤ s.number ∧ s.number + (if j.rig.isOpenAt s.place then 1 else 0) ≤ j.begun.count s.place

instance (s : SessionId) : Decidable (j.Over s) := by unfold Over; infer_instance

end Journal

end Fieldbus
