import Fieldbus.Proofs.Serial.Isolation
import Fieldbus.Serial.Journal
import Mathlib.Data.List.Perm.Basic

/-!
# Every session ends once

* `Port.Balanced`: sessions that began are over or open (`Port.balanced_run`).
* `Rig.Wrote`: what becomes of a write.
* `Rig.Lined`: the terminals that ports have open are there.
* `Rig.Closes`: the session of one port is over.
* `Journal.Turn`: what a step puts on record (`Journal.turn_step`).
* `Journal.Kept`: what the record says about every session (`Journal.kept_run`).
* **`Journal.each_session_ends_once`**: every session ends at most once, and whoever found out that
  it is over reports this once.
-/

namespace Fieldbus

/-! ## Ports -/

namespace Port

variable {p : Port} {steps : List Step}

theorem isOpen_of_current {g : UInt64} (h : p.isCurrent g = true) : p.isOpen = true := by
  rw [isCurrent, Bool.and_eq_true] at h
  exact h.2

/-- Sessions that begin in a step and those that end in it make up for the change of the port. -/
def Balanced (p : Port) (answers : List Answer) (q : Port) : Prop :=
  openings answers + (if p.isOpen then 1 else 0) = closings answers + if q.isOpen then 1 else 0

theorem balanced_openWith (p : Port) (found : Option Nat) :
    p.Balanced [.opened (p.openWith found).1] (p.openWith found).2 := by
  unfold openWith
  split
  · exact rfl
  · next h =>
    have closed : p.isOpen = false := by simp_all
    cases found with
    | none => exact rfl
    | some id =>
      rw [Balanced, closed]
      rfl

theorem balanced_close (p : Port) : p.Balanced [.closed p.close.1] p.close.2 := by
  have after : p.close.2.isOpen = false := rfl
  rw [Balanced, after, close]
  cases p.isOpen <;> rfl

theorem balanced_write (p : Port) (outcome : DeviceWrite) :
    p.Balanced [.written (p.write outcome).1] (p.write outcome).2 := by
  cases h : p.terminal with
  | none =>
    simp only [write, h]
    exact rfl
  | some id =>
    have opened : p.isOpen = true := by rw [isOpen, h]; rfl
    simp only [write, h]
    cases outcome with
    | accepted n => exact rfl
    | failed cause =>
      cases cause with
      | transient => exact rfl
      | fatal =>
        rw [Balanced, opened]
        rfl

theorem balanced_readReady (p : Port) (g : UInt64) (buffer : Bytes) (read : DeviceRead) :
    p.Balanced [.read (p.readReady g buffer read).1 (p.readReady g buffer read).2.1]
      (p.readReady g buffer read).2.2 := by
  cases current : p.isCurrent g with
  | false =>
    simp only [readReady, current]
    exact rfl
  | true =>
    simp only [readReady, current, Bool.not_true, Bool.false_eq_true, if_false]
    cases read with
    | bytes bs => cases bs <;> exact rfl
    | failed cause =>
      cases cause with
      | transient => exact rfl
      | fatal =>
        rw [Balanced, isOpen_of_current current]
        rfl

theorem balanced_closeIfCurrent (p : Port) (g : UInt64) :
    p.Balanced [.closed (p.closeIfCurrent g).1] (p.closeIfCurrent g).2 := by
  cases current : p.isCurrent g with
  | false =>
    simp only [closeIfCurrent, current]
    exact rfl
  | true =>
    rw [closeIfCurrent, current, Balanced, isOpen_of_current current]
    rfl

theorem balanced_step (p : Port) {s : Step} (once : s ≠ .retire) :
    p.Balanced (p.step s).2 (p.step s).1 := by
  cases s with
  | openWith found => exact balanced_openWith p found
  | close => exact balanced_close p
  | clearRunning | pollTarget => exact rfl
  | retire => exact absurd rfl once
  | write outcome => exact balanced_write p outcome
  | readReady g buffer read => exact balanced_readReady p g buffer read
  | closeIfCurrent g => exact balanced_closeIfCurrent p g

theorem Balanced.trans {q q' : Port} {as as' : List Answer} (h : p.Balanced as q)
    (h' : q.Balanced as' q') : p.Balanced (as ++ as') q' := by
  unfold Balanced openings closings at *
  rw [List.countP_append, List.countP_append]
  omega

theorem Balanced.difference {q : Port} {answers : List Answer} (h : p.Balanced answers q) :
    (openings answers : Int) - closings answers =
      (if q.isOpen then 1 else 0) - if p.isOpen then 1 else 0 := by
  unfold Balanced at h
  by_cases before : p.isOpen = true <;> by_cases after : q.isOpen = true <;>
    simp only [before, after, if_true, Bool.false_eq_true, if_false] at h ⊢ <;> omega

theorem atLock_ne_retire {s t : Step} (h : t ∈ s.atLock) : t ≠ .retire := by
  cases s <;> simp only [Step.atLock, List.mem_cons, List.not_mem_nil, or_false] at h
  case retire => rcases h with rfl | rfl <;> exact Step.noConfusion
  all_goals
    subst h
    exact Step.noConfusion

/-- **Sessions that began are over or open,** whatever is done in which order. -/
theorem balanced_run (p : Port) (steps : List Step) :
    p.Balanced (p.run (steps.flatMap Step.atLock)).2 (p.run (steps.flatMap Step.atLock)).1 := by
  refine runSteps_relation step (fun q q' as => q.Balanced as q') (fun _ => rfl) Balanced.trans _
    (fun q s hs => ?_) p
  obtain ⟨t, -, ht⟩ := List.mem_flatMap.mp hs
  exact balanced_step q (atLock_ne_retire ht)

theorem run_atLock (p : Port) (steps : List Step) :
    (p.run (steps.flatMap Step.atLock)).1 = (p.run steps).1 := by
  induction steps generalizing p with
  | nil => rfl
  | cons s steps ih =>
    have first : (p.run s.atLock).1 = (p.step s).1 := by cases s <;> rfl
    rw [List.flatMap_cons, run, runSteps_append]
    show ((p.run s.atLock).1.run (steps.flatMap Step.atLock)).1 = ((p.step s).1.run steps).1
    rw [first, ih]

end Port

namespace Rig

variable {r r' : Rig} {es : List Event} {place i : Nat} {p q : Port}

/-! ## Writes -/

/-- What becomes of a write. -/
inductive Wrote (r : Rig) (place : Nat) (data : Bytes) (outcome : DeviceWrite) :
    Except PortError Nat × Rig × List Notice → Prop where
  | missing (none : r.ports.port? place = none) :
    Wrote r place data outcome (.error (.closed ""), r, [])
  | closed {p : Port} (port : r.ports.port? place = some p) (closed : p.terminal = none) :
    Wrote r place data outcome (.error (.closed p.id), r, [])
  /-- The port is open on a terminal that is not there. -/
  | lost {p : Port} {id : Nat} (port : r.ports.port? place = some p)
      (opened : p.terminal = some id) (gone : r.devices.terminal? id = none) :
    Wrote r place data outcome
      (.error (.io .fatal), r.setPort place { p with terminal := none }, [])
  | accepted {p : Port} {id : Nat} {t : Terminal} {n : Nat} (port : r.ports.port? place = some p)
      (opened : p.terminal = some id) (line : r.devices.terminal? id = some t)
      (took : outcome = .accepted n) :
    Wrote r place data outcome
      (.ok n,
        { r with devices := r.devices.update id { t with fromPort := t.fromPort ++ data.take n } },
        [])
  | transient {p : Port} {id : Nat} (port : r.ports.port? place = some p)
      (opened : p.terminal = some id) (failed : outcome = .failed .transient) :
    Wrote r place data outcome (.error (.io .transient), r, [])
  | fatal {p : Port} {id : Nat} (port : r.ports.port? place = some p)
      (opened : p.terminal = some id) (failed : outcome = .failed .fatal) :
    Wrote r place data outcome
      (.error (.io .fatal), r.setPort place { p with terminal := none },
        [⟨place, .closed .write⟩])

theorem writeAs_cases (r : Rig) (place : Nat) (data : Bytes) (outcome : DeviceWrite) :
    Wrote r place data outcome (r.writeAs place data outcome) := by
  cases h : r.ports.port? place with
  | none =>
    simp only [writeAs, h]
    exact .missing h
  | some p =>
    cases hid : p.terminal with
    | none =>
      simp only [writeAs, h, hid, Option.bind_none, Port.write]
      rw [setPort_self h]
      exact .closed h hid
    | some id =>
      cases ht : r.devices.terminal? id with
      | none =>
        simp only [writeAs, h, hid, ht, Option.bind_some, Option.map_none, Port.write]
        exact .lost h hid ht
      | some t =>
        simp only [writeAs, h, hid, ht, Option.bind_some, Option.map_some, Port.write]
        cases outcome with
        | accepted n =>
          dsimp only [Terminal.given]
          rw [setPort_self h]
          exact .accepted h hid ht rfl
        | failed cause =>
          cases cause with
          | transient =>
            dsimp only [Terminal.given]
            rw [setPort_self h, Devices.update_self ht]
            exact .transient h hid rfl
          | fatal =>
            dsimp only [Terminal.given]
            rw [Devices.update_self ht]
            exact .fatal h hid rfl

theorem move_writeAs (r : Rig) (place : Nat) (data : Bytes) (outcome : DeviceWrite) :
    ∃ es, Move r es (r.writeAs place data outcome).2.1 := by
  generalize hx : r.writeAs place data outcome = x
  cases hx ▸ r.writeAs_cases place data outcome with
  | missing | closed | transient => exact ⟨[], .refl r⟩
  | lost port | fatal port => exact ⟨[], .closes port r.buffer⟩
  | accepted port opened line => exact ⟨_, .writes port opened line _⟩

/-! ## Lines that are there -/

/-- The terminals that ports have open are there. -/
def Lined (r : Rig) : Prop :=
  ∀ ⦃i p id⦄, r.ports.port? i = some p → p.terminal = some id → id < r.devices.terminals.length

theorem length_change (d : Devices) (c : Devices.Change) :
    d.terminals.length ≤ (d.change c).1.terminals.length := by
  have hangUp (name : String) : (d.hangUp name).2.terminals.length = d.terminals.length := by
    unfold Devices.hangUp
    split
    · rfl
    · split
      · rfl
      · exact List.length_set
  have putAt (d : Devices) (path : String) (node : Node) :
      (d.putAt path node).terminals = d.terminals := by
    unfold Devices.putAt
    split <;> rfl
  cases c with
  | relink links | allow access => exact Nat.le_refl _
  | plug name =>
    simp only [Devices.change, Devices.addTerminal, putAt, List.length_append, hangUp]
    omega
  | feed | drain | stall | hangUp =>
    simp only [Devices.change]
    split
    · exact Nat.le_refl _
    · simp [Devices.update]

theorem lt_of_given {id : Nat} (h : r.given? p = some id) : id < r.devices.terminals.length := by
  have leads := (given?_eq_some h).1
  unfold Devices.openable? at leads
  split at leads
  · split at leads
    · cases leads
    · next alive =>
      obtain rfl := Option.some.inj leads
      by_contra beyond
      apply alive
      rw [Devices.isDead, Devices.terminal?, List.getElem?_eq_none (Nat.le_of_not_lt beyond)]
  · cases leads

theorem Move.lined (m : Move r es r') (h : r.Lined) : r'.Lined := by
  intro i x id hx hid
  cases m with
  | rest | begins => exact h hx hid
  | reads port opened line =>
    simp only [Devices.update, List.length_set]
    exact h hx hid
  | writes port opened line =>
    simp only [Devices.update, List.length_set]
    exact h hx hid
  | opens port closed given =>
    rw [port?_setPort port] at hx
    split at hx
    · obtain rfl := Option.some.inj hx
      obtain rfl := Option.some.inj hid
      exact lt_of_given (r := r) given
    · exact h hx hid
  | ends port same ends buffer =>
    replace hx := (port?_setPort port).symm.trans hx
    split at hx
    · obtain rfl := Option.some.inj hx
      rcases ends with ends | ends
      · rw [ends] at hid
        cases hid
      · exact h port (ends.symm.trans hid)
    · exact h hx hid

theorem Regroup.lined (g : Regroup r r') (h : r.Lined) : r'.Lined := by
  intro i x id hx hid
  rw [g.devices]
  cases g with
  | members => exact h hx hid
  | adds d valid members =>
    rw [PortSet.port?, List.getElem?_append] at hx
    split at hx
    · exact h hx hid
    · obtain rfl : x = { descriptor := d } := by simpa using List.mem_of_getElem? hx
      cases hid

/-! ## Ports that are open -/

theorem isOpenAt_of (h : r.ports.port? place = some p) : r.isOpenAt place = p.isOpen := by
  rw [isOpenAt, h]
  rfl

theorem isOpenAt_setPort (h : r.ports.port? place = some p) (q : Port) (i : Nat) :
    (r.setPort place q).isOpenAt i = if place = i then q.isOpen else r.isOpenAt i := by
  rw [isOpenAt, port?_setPort h]
  split <;> rfl

theorem Regroup.isOpenAt (g : Regroup r r') (i : Nat) : r'.isOpenAt i = r.isOpenAt i := by
  cases g with
  | members => rfl
  | adds d valid members =>
    simp only [Rig.isOpenAt, PortSet.port?, List.getElem?_append]
    split
    · rfl
    · next beyond =>
      -- the port that is added is closed, as are those that are not there
      rw [List.getElem?_eq_none (Nat.le_of_not_lt beyond)]
      rcases i - r.ports.ports.length with _ | k <;> rfl

theorem isOpenAt_clearRunning (r : Rig) (place i : Nat) :
    ({ r with ports := r.ports.clearRunning place } : Rig).isOpenAt i = r.isOpenAt i := by
  simp only [isOpenAt, PortSet.clearRunning, PortSet.port?_modify]
  cases r.ports.port? i with
  | none => rfl
  | some p =>
    rw [Option.map_some]
    split <;> rfl

/-- The session of the port at a place is over, and nothing else changed. -/
def Closes (r : Rig) (place : Nat) (r' : Rig) : Prop :=
  ∀ i, r'.isOpenAt i = if place = i then false else r.isOpenAt i

theorem closes_setPort (h : r.ports.port? place = some p) (buffer : Bytes) :
    r.Closes place { r.setPort place { p with terminal := none } with buffer := buffer } :=
  isOpenAt_setPort h _

theorem Closes.still (h : r.Closes place r') (closed : r.isOpenAt place = false) (i : Nat) :
    r'.isOpenAt i = r.isOpenAt i := by
  rw [h i]
  split
  · next here => rw [← here, closed]
  · rfl

theorem closes_closeAt (r : Rig) (place : Nat) :
    (r.closeAt place).1 = r.isOpenAt place ∧ r.Closes place (r.closeAt place).2 := by
  cases h : r.ports.port? place with
  | none =>
    have closed : r.isOpenAt place = false := by rw [isOpenAt, h]; rfl
    have same : r.closeAt place = (false, r) := by simp only [closeAt, h]
    rw [same, closed]
    refine ⟨rfl, fun i => ?_⟩
    split
    · next here => exact here ▸ closed
    · rfl
  | some p =>
    simp only [closeAt, h]
    exact ⟨(isOpenAt_of h).symm, closes_setPort h r.buffer⟩

theorem openAt_turn (r : Rig) (opens : Port → Option Nat) (place : Nat) :
    ((r.openAt opens place).1 = .ok true ∧ (r.openAt opens place).2.2 = [⟨place, .opened⟩] ∧
        r.isOpenAt place = false ∧
        ∀ i, (r.openAt opens place).2.1.isOpenAt i = if place = i then true else r.isOpenAt i) ∨
      ((Port.Answer.opened (r.openAt opens place).1).begins = false ∧
        (r.openAt opens place).2 = (r, [])) := by
  unfold openAt
  cases h : r.ports.port? place with
  | none => exact .inr ⟨rfl, rfl⟩
  | some p =>
    dsimp only
    cases refused : p.isOpen || !p.running with
    | true =>
      refine .inr ?_
      simp only [Port.openWith, refused, if_true]
      rw [setPort_self h]
      exact ⟨rfl, rfl⟩
    | false =>
      cases found : opens p with
      | none =>
        refine .inr ?_
        simp only [Port.openWith, refused, Bool.false_eq_true, if_false]
        rw [setPort_self h]
        exact ⟨rfl, rfl⟩
      | some id =>
        refine .inl ?_
        simp only [Port.openWith, refused, Bool.false_eq_true, if_false]
        refine ⟨trivial, trivial, ?_, isOpenAt_setPort h _⟩
        rw [isOpenAt_of h]
        exact (Bool.or_eq_false_iff.mp refused).1

theorem writeAs_turn (r : Rig) (place : Nat) (data : Bytes) (outcome : DeviceWrite) :
    ((r.writeAs place data outcome).1 = .error (.io .fatal) ∧ r.isOpenAt place = true ∧
        r.Closes place (r.writeAs place data outcome).2.1 ∧
        ((r.writeAs place data outcome).2.2 = [⟨place, .closed .write⟩] ∨
          (r.writeAs place data outcome).2.2 = [] ∧ ¬ r.Lined)) ∨
      ((Port.Answer.written (r.writeAs place data outcome).1).ends = false ∧
        (r.writeAs place data outcome).2.2 = [] ∧
        ∀ i, (r.writeAs place data outcome).2.1.isOpenAt i = r.isOpenAt i) := by
  generalize hx : r.writeAs place data outcome = x
  cases hx ▸ r.writeAs_cases place data outcome with
  | missing | closed | transient | accepted => exact .inr ⟨rfl, rfl, fun _ => rfl⟩
  | lost port opened gone =>
    have astray : ¬ r.Lined := by
      intro lined
      exact absurd (lined port opened) (Nat.not_lt_of_le (List.getElem?_eq_none_iff.mp gone))
    refine .inl ⟨rfl, ?_, closes_setPort port r.buffer, .inr ⟨rfl, astray⟩⟩
    rw [isOpenAt_of port, Port.isOpen, opened]
    rfl
  | fatal port opened failed =>
    refine .inl ⟨rfl, ?_, closes_setPort port r.buffer, .inl rfl⟩
    rw [isOpenAt_of port, Port.isOpen, opened]
    rfl

theorem handle_turn (r : Rig) (t : Target) (what : Readiness) (granted : Bool) :
    (∃ cause, (r.handle t what granted).2.notices = [⟨t.place, .closed cause⟩] ∧
        r.isOpenAt t.place = true ∧ r.Closes t.place (r.handle t what granted).1) ∨
      ((r.handle t what granted).2.notices = [] ∧
        ∀ i, (r.handle t what granted).1.isOpenAt i = r.isOpenAt i) := by
  generalize hx : r.handle t what granted = x
  cases hx ▸ r.handled t what granted with
  | rests | reads => exact .inr ⟨rfl, fun _ => rfl⟩
  | @closes p port fatal cause buffer =>
    obtain ⟨-, id, opened⟩ := isCurrent_iff.mp fatal.1
    refine .inl ⟨cause, rfl, ?_, closes_setPort port buffer⟩
    rw [isOpenAt_of port, Port.isOpen, opened]
    rfl

/-- The monitor does nothing about a port, or opens it, or closes it because its path is gone. -/
theorem visit_eq_openAt_or_vanishAt (r : Rig) (opens : Port → Option Nat) (place : Nat) :
    r.visit opens place = (r, {}) ∨
      r.visit opens place =
        ((r.openAt opens place).2.1, { notices := (r.openAt opens place).2.2 }) ∨
      r.visit opens place = ((r.vanishAt place).2.1, { notices := (r.vanishAt place).2.2 }) := by
  cases h : r.ports.port? place with
  | none => exact .inl (by simp only [visit, h])
  | some p =>
    cases running : p.running with
    | false => exact .inl (by simp [visit, h, running])
    | true =>
      rw [visit_of_running h running]
      split
      · split
        · exact .inl rfl
        · exact .inr (.inr rfl)
      · split
        · exact .inr (.inl rfl)
        · exact .inl rfl

end Rig

/-! ## Steps on record -/

namespace Ending

/-- What is reported about the end of a session. -/
def cause? : Ending → Option ClosedBy
  | found cause => some cause
  | removed | asked => none

/-- The notices of whoever ended the session of the port at a place. -/
def notices (place : Nat) (why : Ending) : List Notice :=
  why.cause?.toList.map fun cause => ⟨place, .closed cause⟩

end Ending

namespace Journal

variable {j j' : Journal} {place : Nat} {log es : List Entry} {s : SessionId}

/-- What a step makes of a journal, and what it puts on record. -/
inductive Turn (j : Journal) : Journal × List Entry → Prop where
  | rests {r : Rig} (still : ∀ i, r.isOpenAt i = j.rig.isOpenAt i) :
      Turn j ({ j with rig := r }, [])
  | begins {r : Rig} {place : Nat} (closed : j.rig.isOpenAt place = false)
      (opened : ∀ i, r.isOpenAt i = if place = i then true else j.rig.isOpenAt i) :
      Turn j
        ({ rig := r, begun := j.begun ++ [place]
           due := j.due ++ [⟨⟨place, j.begun.count place + 1⟩, .opened⟩] },
          [.began ⟨place, j.begun.count place + 1⟩])
  | ends {r : Rig} {place : Nat} (why : Ending) (opened : j.rig.isOpenAt place = true)
      (closes : j.rig.Closes place r) :
      Turn j
        ({ j with
           rig := r
           due := j.due ++ why.cause?.toList.map fun cause => ⟨j.latest place, .closed cause⟩ },
          [.ended (j.latest place) why])
  /-- A port is closed whose terminal is not there. -/
  | loses {r : Rig} {place : Nat} (opened : j.rig.isOpenAt place = true)
      (closes : j.rig.Closes place r) (astray : ¬ j.rig.Lined) :
      Turn j ({ j with rig := r }, [.ended (j.latest place) (.found .write)])
  | reports {index : Nat} {what : Report} (due : j.due[index]? = some what) :
      Turn j ({ j with due := j.due.eraseIdx index }, [.reported what])
  /-- Nothing is left to be reported at an index. -/
  | idles : Turn j (j, [])

theorem turn_still {r : Rig} (still : ∀ i, r.isOpenAt i = j.rig.isOpenAt i) :
    j.Turn (j.next r [] []) := by
  have same : j.next r [] [] = ({ j with rig := r }, []) := by simp [next]
  rw [same]
  exact .rests still

theorem turn_ends {r : Rig} (why : Ending) (opened : j.rig.isOpenAt place = true)
    (closes : j.rig.Closes place r) :
    j.Turn (j.next r [.ended (j.latest place) why] (why.notices place)) := by
  have same : j.next r [.ended (j.latest place) why] (why.notices place) =
      ({ j with
         rig := r
         due := j.due ++ why.cause?.toList.map fun cause => ⟨j.latest place, .closed cause⟩ },
        [.ended (j.latest place) why]) := by
    have none : [Entry.ended (j.latest place) why].filterMap Entry.opens? = [] := rfl
    simp only [next, none, List.append_nil, Ending.notices, List.map_map]
    rfl
  rw [same]
  exact .ends why opened closes

theorem turn_closeAt (j : Journal) (place : Nat) (why : Ending) :
    j.Turn (j.next (j.rig.closeAt place).2 (j.closing place why (.closed (j.rig.closeAt place).1))
      (if (j.rig.closeAt place).1 then why.notices place else [])) := by
  obtain ⟨was, closes⟩ := j.rig.closes_closeAt place
  rw [was]
  cases opened : j.rig.isOpenAt place with
  | false => exact turn_still (closes.still opened)
  | true => exact turn_ends why opened closes

theorem turn_openAt (j : Journal) (place : Nat) : j.Turn (j.step (.openAt place)) := by
  let opens := j.rig.given?
  show j.Turn (j.next (j.rig.openAt opens place).2.1
    (j.opening place (.opened (j.rig.openAt opens place).1)) (j.rig.openAt opens place).2.2)
  rcases j.rig.openAt_turn opens place with ⟨answer, notices, closed, opened⟩ | ⟨answer, rest⟩
  · have same : j.next (j.rig.openAt opens place).2.1 [.began ⟨place, j.begun.count place + 1⟩]
        [⟨place, .opened⟩] =
        ({ rig := (j.rig.openAt opens place).2.1, begun := j.begun ++ [place]
           due := j.due ++ [⟨⟨place, j.begun.count place + 1⟩, .opened⟩] },
          [.began ⟨place, j.begun.count place + 1⟩]) := by
      simp [next, Entry.opens?]
    have begins : (Port.Answer.opened (.ok true)).begins = true := rfl
    rw [answer, notices, opening, begins, if_pos rfl, same]
    exact .begins closed opened
  · rw [opening, answer, if_neg Bool.false_ne_true, rest]
    exact turn_still fun _ => rfl

theorem turn_step (j : Journal) (s : Step) : j.Turn (j.step s) := by
  cases s with
  | change c => exact turn_still fun _ => rfl
  | add d => exact turn_still (j.rig.regroup_add d).isOpenAt
  | unlink uid => exact turn_still (j.rig.regroup_unlink uid).isOpenAt
  | clearRunning place => exact turn_still (j.rig.isOpenAt_clearRunning place)
  | remove place =>
    have turn := j.turn_closeAt place .removed
    have silent : (if (j.rig.closeAt place).1 then Ending.removed.notices place else []) = [] :=
      ite_self []
    rwa [silent] at turn
  | openAt place => exact j.turn_openAt place
  | closeAt place =>
    have turn := j.turn_closeAt place .asked
    have silent : (if (j.rig.closeAt place).1 then Ending.asked.notices place else []) = [] :=
      ite_self []
    rwa [silent] at turn
  | write place data outcome =>
    show j.Turn (j.next (j.rig.writeAs place data outcome).2.1
      (j.closing place (.found .write) (.written (j.rig.writeAs place data outcome).1))
      (j.rig.writeAs place data outcome).2.2)
    rcases j.rig.writeAs_turn place data outcome with
      ⟨answer, opened, closes, notices | ⟨silent, astray⟩⟩ | ⟨answer, silent, still⟩
    · rw [answer, notices]
      exact turn_ends (.found .write) opened closes
    · rw [answer, silent]
      have same : j.next (j.rig.writeAs place data outcome).2.1
          [.ended (j.latest place) (.found .write)] [] =
          ({ j with rig := (j.rig.writeAs place data outcome).2.1 },
            [.ended (j.latest place) (.found .write)]) := by
        simp [next, Entry.opens?]
      exact same ▸ .loses opened closes astray
    · rw [closing, answer, if_neg Bool.false_ne_true, silent]
      exact turn_still still
  | vanish place => exact j.turn_closeAt place (.found .vanished)
  | handle t what granted =>
    show j.Turn (j.next (j.rig.handle t what granted).1
      ((j.rig.handle t what granted).2.notices.flatMap j.observed)
      (j.rig.handle t what granted).2.notices)
    rcases j.rig.handle_turn t what granted with ⟨cause, notices, opened, closes⟩ | ⟨silent, still⟩
    · rw [notices]
      exact turn_ends (.found cause) opened closes
    · rw [silent]
      exact turn_still still
  | report index =>
    cases due : j.due[index]? with
    | none =>
      simp only [step, due]
      exact .idles
    | some what =>
      simp only [step, due]
      exact .reports due

theorem rig_step (j : Journal) (s : Step) :
    (∃ es, Rig.Move j.rig es (j.step s).1.rig) ∨ Rig.Regroup j.rig (j.step s).1.rig ∨
      ∃ c, (j.step s).1.rig = { j.rig with devices := (j.rig.devices.change c).1 } := by
  cases s with
  | change c => exact .inr (.inr ⟨c, rfl⟩)
  | add d => exact .inr (.inl (j.rig.regroup_add d))
  | unlink uid => exact .inr (.inl (j.rig.regroup_unlink uid))
  | clearRunning place => exact .inl ⟨[], j.rig.move_clearRunning place⟩
  | remove place | closeAt place | vanish place => exact .inl ⟨[], j.rig.move_closeAt place⟩
  | openAt place => exact .inl ⟨[], j.rig.move_openAt place⟩
  | write place data outcome => exact .inl (j.rig.move_writeAs place data outcome)
  | handle t what granted => exact .inl ⟨_, j.rig.move_handle t what granted⟩
  | report index =>
    cases due : j.due[index]? with
    | none | some what =>
      simp only [step, due]
      exact .inl ⟨[], .refl j.rig⟩

theorem lined_step (lined : j.rig.Lined) (s : Step) : (j.step s).1.rig.Lined := by
  rcases j.rig_step s with ⟨es, move⟩ | regroup | ⟨c, changed⟩
  · exact move.lined lined
  · exact regroup.lined lined
  · rw [changed]
    intro i p id port opened
    exact Nat.lt_of_lt_of_le (lined port opened) (Rig.length_change j.rig.devices c)

/-! ## The whole record -/

theorem endings_append (s : SessionId) (log es : List Entry) :
    endings s (log ++ es) = endings s log ++ endings s es :=
  List.filterMap_append

theorem faults_append (s : SessionId) (log es : List Entry) :
    faults s (log ++ es) = faults s log ++ faults s es := by
  unfold faults
  rw [List.filterMap_append, List.filterMap_append]

/-- A journal and what is on record. -/
structure Kept (j : Journal) (log : List Entry) : Prop where
  begun : ∀ place, log.countP (Entry.beginsAt place) = j.begun.count place
  /-- Sessions that began are over or open. -/
  ended : ∀ place, log.countP (Entry.endsAt place) + (if j.rig.isOpenAt place then 1 else 0) =
    j.begun.count place
  once : ∀ s, (endings s log).length = if j.Over s then 1 else 0
  /-- What was found out is reported or due. -/
  told : ∀ s, (faults s log ++ j.owed s).Perm ((endings s log).filterMap Ending.cause?)

theorem over_congr (begun : j'.begun.count s.place = j.begun.count s.place)
    (still : j'.rig.isOpenAt s.place = j.rig.isOpenAt s.place) : j'.Over s ↔ j.Over s := by
  unfold Over
  rw [begun, still]

theorem Kept.initial (devices : Devices) : Kept { rig := { devices := devices } } [] where
  begun place := rfl
  ended place := rfl
  once s := by
    have none : ¬ Over { rig := { devices := devices } } s := by
      intro past
      have : s.number ≤ 0 := Nat.le_trans (Nat.le_add_right ..) past.2
      exact absurd past.1 (by omega)
    rw [if_neg none]
    rfl
  told s := .nil

theorem Kept.rests (h : j.Kept log) {r : Rig} (still : ∀ i, r.isOpenAt i = j.rig.isOpenAt i) :
    Kept { j with rig := r } log where
  begun := h.begun
  ended place := by
    rw [still place]
    exact h.ended place
  once s := by
    rw [h.once s]
    have same : Over { j with rig := r } s ↔ j.Over s := over_congr rfl (still s.place)
    exact if_congr same.symm rfl rfl
  told := h.told

theorem Kept.begins (h : j.Kept log) {r : Rig} (closed : j.rig.isOpenAt place = false)
    (opened : ∀ i, r.isOpenAt i = if place = i then true else j.rig.isOpenAt i) :
    Kept
      { rig := r, begun := j.begun ++ [place]
        due := j.due ++ [⟨⟨place, j.begun.count place + 1⟩, .opened⟩] }
      (log ++ [.began ⟨place, j.begun.count place + 1⟩]) where
  begun i := by
    have := h.begun i
    simp only [List.countP_append, List.countP_singleton, List.count_append, List.count_singleton,
      Entry.beginsAt, beq_iff_eq, decide_eq_true_eq]
    omega
  ended i := by
    have := h.ended i
    have none : [Entry.began ⟨place, j.begun.count place + 1⟩].countP (Entry.endsAt i) = 0 := rfl
    simp only [List.countP_append, none, List.count_append, List.count_singleton, opened i,
      beq_iff_eq]
    by_cases here : place = i
    · subst here
      rw [closed] at this
      simp only [if_true, Bool.false_eq_true, if_false] at this ⊢
      omega
    · simp only [here, if_false]
      omega
  once s := by
    rw [endings_append, List.length_append, h.once s]
    have same : Over
        { rig := r, begun := j.begun ++ [place]
          due := j.due ++ [⟨⟨place, j.begun.count place + 1⟩, .opened⟩] } s ↔ j.Over s := by
      simp only [Over, List.count_append, List.count_singleton, opened, beq_iff_eq]
      by_cases here : place = s.place
      · rw [← here, closed]
        simp only [if_true, Bool.false_eq_true, if_false]
        omega
      · simp only [here, if_false, Nat.add_zero]
    exact (Nat.add_zero _).trans (if_congr same.symm rfl rfl)
  told s := by
    have quiet : endings s [.began ⟨place, j.begun.count place + 1⟩] = [] := rfl
    have unsaid : faults s [.began ⟨place, j.begun.count place + 1⟩] = [] := rfl
    rw [endings_append, faults_append, quiet, unsaid, List.append_nil, List.append_nil, owed,
      List.filterMap_append]
    exact (List.append_nil (j.owed s)).symm ▸ h.told s

theorem Kept.ends (h : j.Kept log) {r : Rig} (why : Ending) (opened : j.rig.isOpenAt place = true)
    (closes : j.rig.Closes place r) :
    Kept
      { j with
        rig := r
        due := j.due ++ why.cause?.toList.map fun cause => ⟨j.latest place, .closed cause⟩ }
      (log ++ [.ended (j.latest place) why]) where
  begun i := by
    rw [List.countP_append, h.begun i]
    rfl
  ended i := by
    have := h.ended i
    simp only [List.countP_append, List.countP_singleton, Entry.endsAt, latest, closes i,
      decide_eq_true_eq]
    by_cases here : place = i
    · subst here
      rw [opened] at this
      simp only [if_true, Bool.false_eq_true, if_false] at this ⊢
      omega
    · simp only [here, if_false]
      omega
  once s := by
    -- the latest session is over now; every other one is over if it was before
    have began : 1 ≤ j.begun.count place := by
      have := h.ended place
      rw [opened, if_pos rfl] at this
      omega
    rw [endings_append, List.length_append, h.once s]
    by_cases here : j.latest place = s
    · subst here
      have now : endings (j.latest place) [.ended (j.latest place) why] = [why] := by
        simp [endings]
      have before : ¬ j.Over (j.latest place) := by
        simp only [Over, latest, opened, if_true]
        omega
      have after : Over
          { j with
            rig := r
            due := j.due ++ why.cause?.toList.map fun cause => ⟨j.latest place, .closed cause⟩ }
          (j.latest place) := by
        simp only [Over, latest, closes place, if_true, Bool.false_eq_true, if_false]
        omega
      rw [now, if_neg before, if_pos after]
      rfl
    · have now : endings s [.ended (j.latest place) why] = [] := by
        simp [endings, here]
      have same : Over
          { j with
            rig := r
            due := j.due ++ why.cause?.toList.map fun cause => ⟨j.latest place, .closed cause⟩ } s ↔
          j.Over s := by
        simp only [Over, closes s.place]
        by_cases at_ : place = s.place
        · have other : s.number ≠ j.begun.count place := by
            intro number
            exact here (by rw [latest, number.symm, at_])
          rw [← at_, opened]
          simp only [if_true, Bool.false_eq_true, if_false]
          omega
        · rw [if_neg at_]
      rw [now]
      exact (Nat.add_zero _).trans (if_congr same.symm rfl rfl)
  told s := by
    have unsaid : faults s [.ended (j.latest place) why] = [] := rfl
    rw [endings_append, faults_append, List.filterMap_append, unsaid, List.append_nil, owed,
      List.filterMap_append, ← List.append_assoc]
    refine List.Perm.append (h.told s) (.of_eq ?_)
    -- what is due now is about the session that ended
    by_cases here : j.latest place = s
    · cases why <;> simp [endings, here, Ending.cause?, Report.fault?]
    · cases why <;> simp [endings, here, Ending.cause?, Report.fault?]

theorem Kept.reports (h : j.Kept log) {index : Nat} {what : Report}
    (due : j.due[index]? = some what) :
    Kept { j with due := j.due.eraseIdx index } (log ++ [.reported what]) where
  begun i := by
    rw [List.countP_append, h.begun i]
    rfl
  ended i := by
    rw [List.countP_append, ← h.ended i]
    rfl
  once s := by
    rw [endings_append, List.length_append, h.once s]
    exact (Nat.add_zero _).trans (if_congr (over_congr rfl rfl).symm rfl rfl)
  told s := by
    obtain ⟨hi, rfl⟩ := List.getElem?_eq_some_iff.mp due
    have quiet : endings s [.reported j.due[index]] = [] := rfl
    have said : faults s [.reported j.due[index]] =
        [j.due[index]].filterMap (Report.fault? s) := rfl
    rw [endings_append, faults_append, quiet, said, List.append_nil, List.append_assoc, owed,
      ← List.filterMap_append]
    -- what is reported now was due before
    have moved : (j.due[index] :: j.due.eraseIdx index).Perm j.due :=
      List.getElem_cons_eraseIdx_perm hi
    exact ((moved.filterMap (Report.fault? s)).append_left _).trans (h.told s)

theorem kept_step (lined : j.rig.Lined) (h : j.Kept log) (s : Step) :
    (j.step s).1.Kept (log ++ (j.step s).2) := by
  generalize hx : j.step s = x
  cases hx ▸ turn_step j s with
  | rests still => exact (List.append_nil log).symm ▸ h.rests still
  | begins closed opened => exact h.begins closed opened
  | ends why opened closes => exact h.ends why opened closes
  | loses opened closes astray => exact absurd lined astray
  | reports due => exact h.reports due
  | idles => exact (List.append_nil log).symm ▸ h

theorem kept_run (devices : Devices) (steps : List Step) :
    let start : Journal := { rig := { devices := devices } }
    (start.run steps).1.rig.Lined ∧ (start.run steps).1.Kept (start.run steps).2 := by
  intro start
  refine runSteps_induction step (fun _ j log => j.rig.Lined ∧ j.Kept log) ?_ start ?_ steps
  · intro _ j log ⟨lined, kept⟩ s
    exact ⟨lined_step lined s, kept_step lined kept s⟩
  · exact ⟨fun _ _ _ port => by simp [start, PortSet.port?] at port, .initial devices⟩

theorem eq_of_perm_short {α : Type} {xs ys : List α} (perm : xs.Perm ys) (short : ys.length ≤ 1) :
    xs = ys := by
  match ys with
  | [] => exact List.perm_nil.mp perm
  | [y] => exact List.perm_singleton.mp perm
  | _ :: _ :: _ => simp only [List.length_cons] at short; omega

theorem Kept.said (h : j.Kept log) (s : SessionId) :
    faults s log ++ j.owed s = (endings s log).filterMap Ending.cause? := by
  refine eq_of_perm_short (h.told s) (Nat.le_trans (List.length_filterMap_le ..) ?_)
  rw [h.once s]
  split <;> omega

theorem run_reports (j : Journal) :
    j.run (List.replicate j.due.length (.report 0)) =
      ({ j with due := [] }, j.due.map .reported) := by
  obtain ⟨rig, begun, due⟩ := j
  induction due with
  | nil => rfl
  | cons what due ih =>
    show ((run ⟨rig, begun, due⟩ (List.replicate due.length (.report 0))).1,
      Entry.reported what :: (run ⟨rig, begun, due⟩ (List.replicate due.length (.report 0))).2) = _
    rw [ih]
    rfl

theorem Kept.open_iff (h : j.Kept log) (place : Nat) :
    (log.countP (Entry.beginsAt place) : Int) - log.countP (Entry.endsAt place) =
      if j.rig.isOpenAt place then 1 else 0 := by
  rw [h.begun place, ← h.ended place]
  split <;> omega

theorem Kept.fate (h : j.Kept log) (s : SessionId) :
    match endings s log with
    | [] => ¬ j.Over s ∧ faults s log = [] ∧ j.owed s = []
    | [.found cause] => j.Over s ∧ faults s log ++ j.owed s = [cause]
    | [_] => j.Over s ∧ faults s log = [] ∧ j.owed s = []
    | _ => False := by
  have once := h.once s
  have said := h.said s
  by_cases past : j.Over s
  · rw [if_pos past] at once
    obtain ⟨why, ended⟩ := List.length_eq_one_iff.mp once
    rw [ended] at said ⊢
    cases why with
    | found cause => exact ⟨past, said⟩
    | removed | asked => exact ⟨past, List.append_eq_nil_iff.mp said⟩
  · rw [if_neg past] at once
    rw [List.length_eq_zero_iff.mp once] at said ⊢
    exact ⟨past, List.append_eq_nil_iff.mp said⟩

/-- **Every session ends at most once, and its end is reported once.** Whatever is done with a port
in which order, sessions that began are over or open. With any ports and anybody who may close them,
a session that began has ended exactly if it is not open any more, and has done so once. What was
found out then is reported once or still due, and once nobody has anything left to report, it was
reported. Nothing is reported about the end of a session that is not over, was removed or was closed
by name. -/
theorem each_session_ends_once :
    (∀ (p : Port) (steps : List Port.Step),
      let q := (p.run (steps.flatMap Port.Step.atLock)).1
      let answers := (p.run (steps.flatMap Port.Step.atLock)).2
      q = (p.run steps).1 ∧
        (Port.openings answers : Int) - Port.closings answers =
          (if q.isOpen then 1 else 0) - if p.isOpen then 1 else 0) ∧
      ∀ (devices : Devices) (steps : List Step),
        let start : Journal := { rig := { devices := devices } }
        let j := (start.run steps).1
        let log := (start.run steps).2
        let told := j.run (List.replicate j.due.length (.report 0))
        (∀ place,
          (log.countP (Entry.beginsAt place) : Int) - log.countP (Entry.endsAt place) =
            if j.rig.isOpenAt place then 1 else 0) ∧
          (∀ s,
            match endings s log with
            | [] => ¬ j.Over s ∧ faults s log = [] ∧ j.owed s = []
            | [.found cause] => j.Over s ∧ faults s log ++ j.owed s = [cause]
            | [_] => j.Over s ∧ faults s log = [] ∧ j.owed s = []
            | _ => False) ∧
          told.1 = { j with due := [] } ∧
            ∀ s, faults s (log ++ told.2) = (endings s log).filterMap Ending.cause? := by
  refine ⟨fun p steps => ?_, fun devices steps => ?_⟩
  · intro q answers
    exact ⟨p.run_atLock steps, (p.balanced_run steps).difference⟩
  · intro start j log told
    have kept : j.Kept log := (kept_run devices steps).2
    refine ⟨kept.open_iff, kept.fate, ?_⟩
    have rest : told = ({ j with due := [] }, j.due.map .reported) := run_reports j
    rw [rest]
    refine ⟨rfl, fun s => ?_⟩
    have last : faults s (j.due.map .reported) = j.owed s := by
      have all : Entry.report? ∘ Entry.reported = some := rfl
      rw [faults, List.filterMap_map, all, List.filterMap_some, owed]
    rw [faults_append, last, kept.said s]

/-! A device hangs up while its port is open. A writer, the reader and the monitor all find out, in
any order, and whoever is first ends the session. -/
example :
    let d : Descriptor := { uid := "A", device := "/dev/a" }
    let devices : Devices :=
      { terminals := [{}], links := [(⟨true, [utf8 "dev", utf8 "a"]⟩, .terminal 0)] }
    let write : Step := .write 0 [1] (.failed .fatal)
    let read : Step := .handle ⟨0, 0, 1⟩ .hangup true
    let found (order : List Step) : List Ending × List ClosedBy :=
      let steps := [.add d, .openAt 0, .change (.hangUp 0)] ++ order ++ [.report 1]
      let log := (run { rig := { devices := devices } } steps).2
      (endings ⟨0, 1⟩ log, faults ⟨0, 1⟩ log)
    found [write, read, .vanish 0] = ([.found .write], [.write]) ∧
      found [read, .vanish 0, write] = ([.found .hangup], [.hangup]) ∧
      found [.vanish 0, write, read] = ([.found .vanished], [.vanished]) := by
  decide +kernel

end Journal

end Fieldbus
