import Fieldbus.Proofs.Serial.Journal

/-!
# Every byte of a write is accounted for

A write is answered by the set of ports, by the port or by the device. Whoever answers, the answer
tells what the device has and what became of the port.

* `Terminal.given_write`, `Rig.write_eq_writeTo`: what a terminal does with the bytes is one of the
  outcomes of which this speaks.
* `Rig.closed_iff`: a write is answered that the port is closed exactly if it is.
* `Journal.closed_run`: a closed port stays closed until a session begins.
* **`Rig.writes_accounted`**: what a write changes, by its answer.
-/

namespace Fieldbus

/-! ## Outcomes -/

theorem Terminal.given_write (t : Terminal) (data : Bytes) :
    (t.write data).1.Fits data ∧ t.given data (t.write data).1 = (t.write data).2 := by
  cases hung : t.hungUp with
  | true =>
    rw [write_of_hungUp hung]
    exact ⟨trivial, rfl⟩
  | false =>
    cases stalled : t.stalled with
    | true =>
      rw [write_of_stalled hung stalled]
      exact ⟨trivial, rfl⟩
    | false =>
      rw [write_of_ready hung stalled]
      refine ⟨Nat.le_refl _, ?_⟩
      rw [given, List.take_length]

namespace Rig

variable {r : Rig} {place : Nat} {p : Port}

theorem writeAt_eq_writeAs (r : Rig) (place : Nat) (data : Bytes) :
    ∃ outcome : DeviceWrite,
      outcome.Fits data ∧ r.writeAt place data = r.writeAs place data outcome := by
  cases h : r.ports.port? place with
  | none => exact ⟨.failed .fatal, trivial, by simp only [writeAt, writeAs, h]⟩
  | some p =>
    cases line : p.terminal.bind fun id => (r.devices.terminal? id).map fun t => (id, t) with
    | none => exact ⟨.failed .fatal, trivial, by simp only [writeAt, writeAs, h, line]⟩
    | some found =>
      obtain ⟨id, t⟩ := found
      obtain ⟨fits, given⟩ := t.given_write data
      refine ⟨(t.write data).1, fits, ?_⟩
      simp only [writeAt, writeAs, h, line]
      exact given ▸ rfl

/-- What a device does with the bytes is one of the outcomes. -/
theorem write_eq_writeTo (r : Rig) (uid : String) (data : Bytes) :
    ∃ outcome : DeviceWrite,
      outcome.Fits data ∧ r.write uid data = r.writeTo uid data outcome := by
  cases h : r.ports.find? uid with
  | none => exact ⟨.failed .fatal, trivial, by simp only [write, writeTo, h]⟩
  | some place =>
    obtain ⟨outcome, fits, same⟩ := r.writeAt_eq_writeAs place data
    exact ⟨outcome, fits, by simp only [write, writeTo, h, same]⟩

/-! ## Closed ports -/

theorem writeAs_of_closed (port : r.ports.port? place = some p) (closed : r.isOpenAt place = false)
    (data : Bytes) (outcome : DeviceWrite) :
    r.writeAs place data outcome = (.error (.closed p.id), r, []) := by
  have none : p.terminal = none := by
    rw [isOpenAt_of port, Port.isOpen] at closed
    exact Option.isNone_iff_eq_none.mp (Option.isSome_eq_false_iff.mp closed)
  simp only [writeAs, port, none, Option.bind_none, Port.write]
  rw [setPort_self port]

/-- A write is answered that the port is closed exactly if it is. -/
theorem closed_iff (r : Rig) (place : Nat) (data : Bytes) (outcome : DeviceWrite) :
    (∃ id, (r.writeAs place data outcome).1 = .error (.closed id)) ↔ r.isOpenAt place = false := by
  constructor
  · rintro ⟨id, answer⟩
    generalize hx : r.writeAs place data outcome = x at answer
    cases hx ▸ r.writeAs_cases place data outcome with
    | missing none => rw [isOpenAt, none]; rfl
    | closed port closed => rw [isOpenAt_of port, Port.isOpen, closed]; rfl
    | lost | accepted | transient | fatal => cases answer
  · intro closed
    cases port : r.ports.port? place with
    | none => exact ⟨"", by simp only [writeAs, port]⟩
    | some p => exact ⟨p.id, by rw [writeAs_of_closed port closed]⟩

end Rig

/-! ## Until a session begins -/

namespace Journal

variable {j : Journal} {place : Nat}

theorem closed_step (closed : j.rig.isOpenAt place = false) (s : Step)
    (none : (j.step s).2.countP (Entry.beginsAt place) = 0) :
    (j.step s).1.rig.isOpenAt place = false := by
  generalize hx : j.step s = x at none ⊢
  cases hx ▸ turn_step j s with
  | rests still => exact (still place).trans closed
  | @begins r i was opened =>
    have elsewhere : i ≠ place := by
      rintro rfl
      simp [Entry.beginsAt] at none
    rw [opened place, if_neg elsewhere, closed]
  | ends why opened closes | loses opened closes =>
    rw [closes place, closed]
    exact ite_self false
  | reports | idles => exact closed

/-- A closed port stays closed until a session begins. -/
theorem closed_run (closed : j.rig.isOpenAt place = false) (steps : List Step)
    (none : (j.run steps).2.countP (Entry.beginsAt place) = 0) :
    (j.run steps).1.rig.isOpenAt place = false := by
  let Keeps (j j' : Journal) (log : List Entry) : Prop :=
    log.countP (Entry.beginsAt place) = 0 → j.rig.isOpenAt place = false →
      j'.rig.isOpenAt place = false
  have keeps : Keeps j (j.run steps).1 (j.run steps).2 := by
    refine runSteps_relation step Keeps (fun _ _ h => h) ?_ steps ?_ j
    · intro j₁ j₂ j₃ log log' first second none closed
      rw [List.countP_append, Nat.add_eq_zero_iff] at none
      exact second none.2 (first none.1 closed)
    · intro j s _ none closed
      exact closed_step closed s none
  exact keeps none closed

theorem descriptor_run {d : Descriptor} (h : (j.rig.ports.port? place).map Port.descriptor = some d)
    (steps : List Step) :
    ((j.run steps).1.rig.ports.port? place).map Port.descriptor = some d := by
  refine runSteps_invariant step
    (fun j => (j.rig.ports.port? place).map Port.descriptor = some d) ?_ j steps h
  intro j s h
  rcases j.rig_step s with ⟨es, move⟩ | regroup | ⟨c, changed⟩
  · rw [move.descriptor place, h]
  · obtain ⟨p, port, same⟩ := Option.map_eq_some_iff.mp h
    rw [regroup.port? port, Option.map_some, same]
  · rw [changed]
    exact h

/-- Writes to the port at a place are answered that it is closed as long as it is, which it is until
a session begins, whatever happens. -/
def ClosedFrom (r : Rig) (place : Nat) (id : String) : Prop :=
  ∀ (j : Journal) (steps : List Step), j.rig = r →
    let later := (j.run steps).1.rig
    ((j.run steps).2.countP (Entry.beginsAt place) = 0 → later.isOpenAt place = false) ∧
      ∀ data outcome,
        if later.isOpenAt place then
          ∀ id', (later.writeAs place data outcome).1 ≠ .error (.closed id')
        else later.writeAs place data outcome = (.error (.closed id), later, [])

theorem closedFrom {r : Rig} {p : Port} (port : r.ports.port? place = some p)
    (closed : p.terminal = none) : ClosedFrom r place p.id := by
  rintro j steps rfl
  constructor
  · intro none
    refine closed_run ?_ steps none
    rw [Rig.isOpenAt_of port, Port.isOpen, closed]
    rfl
  · intro data outcome
    cases opened : (j.run steps).1.rig.isOpenAt place with
    | true =>
      rw [if_pos rfl]
      intro id answer
      have := (Rig.closed_iff _ place data outcome).mp ⟨id, answer⟩
      exact Bool.false_ne_true (this.symm.trans opened)
    | false =>
      rw [if_neg Bool.false_ne_true]
      have found : (j.rig.ports.port? place).map Port.descriptor = some p.descriptor := by
        rw [port, Option.map_some]
      have same := descriptor_run found steps
      obtain ⟨q, later, kept⟩ := Option.map_eq_some_iff.mp same
      rw [Rig.writeAs_of_closed later opened, Port.id, kept, Port.id]

end Journal

/-! ## What a write changes -/

namespace Rig

/-- **Every byte of a write is accounted for.** If a write succeeds, the device has exactly as many
of the first bytes as it is told, and nothing else changed. If there is no such member, the port is
closed or the failure is transient, nothing changed at all. After a fatal failure the device has
none of the bytes, the session of this one port is over and nothing else changed; from then on
writes to the port are answered that it is closed, until a session begins. -/
theorem writes_accounted (r : Rig) (uid : String) (data : Bytes) {outcome : DeviceWrite}
    (fits : outcome.Fits data) :
    let after := (r.writeTo uid data outcome).2.1
    match (r.writeTo uid data outcome).1 with
    | .ok n =>
      outcome = .accepted n ∧ n ≤ data.length ∧
        ∃ place id t, r.ports.find? uid = some place ∧ r.source? place = some id ∧
          r.devices.terminal? id = some t ∧
          after =
            { r with
              devices := r.devices.update id { t with fromPort := t.fromPort ++ data.take n } }
    | .error (.notFound id) => id = uid ∧ r.ports.find? uid = none ∧ after = r
    | .error (.closed _) =>
      ∃ place, r.ports.find? uid = some place ∧ r.isOpenAt place = false ∧ after = r
    | .error (.io .transient) => outcome = .failed .transient ∧ after = r
    | .error (.io .fatal) =>
      ∃ place p, r.ports.find? uid = some place ∧ r.ports.port? place = some p ∧
        p.isOpen = true ∧ (r.line? p ≠ none → outcome = .failed .fatal) ∧
        after = r.setPort place { p with terminal := none } ∧
        Journal.ClosedFrom after place p.id
    | .error _ => False := by
  cases member : r.ports.find? uid with
  | none =>
    have answer : r.writeTo uid data outcome = (.error (.notFound uid), r, []) := by
      simp only [writeTo, member]
    rw [answer]
    exact ⟨rfl, rfl, rfl⟩
  | some place =>
    have wrote : Wrote r place data outcome (r.writeTo uid data outcome) := by
      simp only [writeTo, member]
      exact r.writeAs_cases place data outcome
    have past {p : Port} (port : r.ports.port? place = some p) :
        Journal.ClosedFrom (r.setPort place { p with terminal := none }) place p.id := by
      refine Journal.closedFrom (p := { p with terminal := none }) ?_ rfl
      rw [port?_setPort port, if_pos rfl]
    generalize r.writeTo uid data outcome = x at wrote ⊢
    cases wrote with
    | missing none => exact ⟨place, rfl, by rw [isOpenAt, none]; rfl, rfl⟩
    | closed port closed =>
      exact ⟨place, rfl, by rw [isOpenAt_of port, Port.isOpen, closed]; rfl, rfl⟩
    | lost port opened gone =>
      refine ⟨place, _, rfl, port, ?_, fun there => ?_, rfl, past port⟩
      · rw [Port.isOpen, opened]
        rfl
      · exact absurd (by rw [line?, opened, Option.bind_some, gone]) there
    | accepted port opened line took =>
      subst took
      refine ⟨rfl, fits, place, _, _, rfl, ?_, line, rfl⟩
      rw [source?_of port, opened]
    | transient port opened failed => exact ⟨failed, rfl⟩
    | fatal port opened failed =>
      refine ⟨place, _, rfl, port, ?_, fun _ => failed, rfl, past port⟩
      rw [Port.isOpen, opened]
      rfl

/-- A short write to one of two ports, and a fatal failure after it. -/
theorem writes_accounted_twice :
    let r : Rig :=
      { devices := { terminals := [{}, {}] }
        ports :=
          { ports :=
              [⟨{ uid := "U1", device := "/dev/ttyS1" }, some 0, 1, true⟩,
                ⟨{ uid := "U2", device := "/dev/ttyS2" }, some 1, 1, true⟩]
            members := [⟨"U1", 0⟩, ⟨"U2", 1⟩] } }
    let r' := (r.writeTo "U1" [1, 2, 3] (.accepted 2)).2.1
    let r'' := (r'.writeTo "U1" [4] (.failed .fatal)).2.1
    (DeviceWrite.accepted 2).Fits [1, 2, 3] ∧ r'.devices.outgoing 0 = [1, 2] ∧
      (DeviceWrite.failed .fatal).Fits [4] ∧ r''.devices = r'.devices ∧
      r''.isOpenAt 0 = false ∧ r''.isOpenAt 1 = true ∧ Journal.ClosedFrom r'' 0 "U1" := by
  intro r r' r''
  have fits : (DeviceWrite.accepted 2).Fits [1, 2, 3] := by decide
  have fits' : (DeviceWrite.failed .fatal).Fits [4] := trivial
  obtain ⟨-, -, place, id, t, member, opened, line, after⟩ := r.writes_accounted "U1" [1, 2, 3] fits
  have here : r.ports.find? "U1" = some 0 := by decide
  obtain rfl : 0 = place := Option.some.inj (here.symm.trans member)
  obtain rfl : 0 = id := Option.some.inj opened
  obtain rfl : ({} : Terminal) = t := Option.some.inj line
  obtain ⟨place', p, member', port, -, -, after', closed⟩ := r'.writes_accounted "U1" [4] fits'
  have here' : r'.ports.find? "U1" = some 0 := by decide
  obtain rfl : 0 = place' := Option.some.inj (here'.symm.trans member')
  obtain rfl : ⟨{ uid := "U1", device := "/dev/ttyS1" }, some 0, 1, true⟩ = p :=
    Option.some.inj port
  refine ⟨fits, ?_, fits', ?_, ?_, ?_, closed⟩
  · exact (congrArg (fun x => x.devices.outgoing 0) after).trans rfl
  · exact (congrArg Rig.devices after').trans rfl
  · exact (congrArg (fun x => x.isOpenAt 0) after').trans rfl
  · exact (congrArg (fun x => x.isOpenAt 1) after').trans rfl

end Rig

end Fieldbus
