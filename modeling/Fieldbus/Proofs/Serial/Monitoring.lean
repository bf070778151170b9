import Fieldbus.Proofs.Serial.Roll

/-!
# Passes of the monitor

In a pass the monitor visits one member after the other. What becomes of a port depends only on this
port, on whether its path is there, and on what opening the path gives; a port that is visited once
more stays as it is. Therefore ports do not get into each other's way, and it does not matter in
which order, or how often, they are visited in a pass.

* `Port.meet`: what the monitor makes of a port.
* `Port.Met`: what becomes of a managed port that the monitor visits.
* `Rig.patrol`: a pass, where what opening gives depends on the path.
* `Rig.port?_visitAll`: what visits make of each port.
* `Rig.Tick`, `Rig.ticks`: devices change and the monitor makes passes.
* **`Rig.monitor_converges`**: after a pass every member is as it should be, and another pass
  changes nothing.
-/

namespace Fieldbus

namespace PortSet

variable {s s' s'' : PortSet} {place : Nat} {p : Port}

theorem Stays.trans (h : Stays s s') (h' : Stays s' s'') : Stays s s'' := by
  refine ⟨h'.members.trans h.members, fun {i p} hp => ?_⟩
  obtain ⟨q, hq, descriptor, running⟩ := h.port hp
  obtain ⟨q', hq', descriptor', running'⟩ := h'.port hq
  exact ⟨q', hq', descriptor'.trans descriptor, running'.trans running⟩

theorem InOrder.nodup_snapshot (h : s.InOrder) : s.snapshot.Nodup := by
  refine List.Nodup.map_on (fun m hm m' hm' same => ?_) (List.Nodup.of_map _ h.distinct)
  obtain ⟨p, hp, id, -⟩ := h.listed m hm
  obtain ⟨p', hp', id', -⟩ := h.listed m' hm'
  rw [same, hp'] at hp
  obtain rfl := Option.some.inj hp
  exact List.inj_on_of_nodup_map h.distinct hm hm' (id.symm.trans id')

theorem InOrder.snapshot_split (h : s.InOrder) (member : place ∈ s.snapshot) :
    ∃ before after, s.snapshot = before ++ place :: after ∧ place ∉ before ∧ place ∉ after := by
  obtain ⟨before, after, split⟩ := List.append_of_mem member
  have distinct := h.nodup_snapshot
  rw [split] at distinct
  obtain ⟨-, rest, apart⟩ := List.nodup_append.mp distinct
  exact ⟨before, after, split, fun hb => apart _ hb _ List.mem_cons_self rfl,
    (List.nodup_cons.mp rest).1⟩

end PortSet

/-! ## One port -/

namespace Port

/-- What becomes of a managed port that the monitor visits, where its path is there or not and
opening it gives a terminal or not. -/
inductive Met (p : Port) (present : Bool) (found : Option Nat) : Port → Prop where
  | stays (opened : p.isOpen = true) (there : present = true) : Met p present found p
  | vanishes (opened : p.isOpen = true) (gone : present = false) :
    Met p present found { p with terminal := none }
  | opens (closed : p.isOpen = false) (there : present = true) {id : Nat} (got : found = some id) :
    Met p present found { p with terminal := some id, generation := p.generation + 1 }
  | waits (closed : p.isOpen = false) (no : present = false ∨ found = none) :
    Met p present found p

/-- What the monitor makes of a port. -/
def meet (present : Bool) (found : Option Nat) (p : Port) : Port :=
  if !p.running then p
  else if p.isOpen then (if present then p else p.close.2)
  else if present then (p.openWith found).2
  else p

variable {p q : Port} {present : Bool} {found : Option Nat}

theorem meet_of_retired (retired : p.running = false) : p.meet present found = p := by
  simp [meet, retired]

theorem met_meet (present : Bool) (found : Option Nat) (managed : p.running = true) :
    p.Met present found (p.meet present found) := by
  unfold meet
  cases opened : p.isOpen with
  | true =>
    cases present with
    | true => simpa [managed, opened] using Met.stays opened rfl
    | false => simpa [managed, opened, close] using Met.vanishes opened rfl
  | false =>
    cases present with
    | false => simpa [managed, opened] using Met.waits opened (.inl rfl)
    | true =>
      cases found with
      | none => simpa [managed, opened, openWith] using Met.waits opened (.inr rfl)
      | some id => simpa [managed, opened, openWith] using Met.opens opened rfl rfl

theorem meet_keeps (p : Port) (present : Bool) (found : Option Nat) :
    (p.meet present found).descriptor = p.descriptor ∧
      (p.meet present found).running = p.running := by
  cases managed : p.running with
  | false =>
    rw [meet_of_retired managed]
    exact ⟨rfl, managed⟩
  | true =>
    generalize hq : p.meet present found = q
    cases hq ▸ met_meet present found managed <;> exact ⟨rfl, managed⟩

/-- There is nothing to do about an open port whose path is there, or a closed one whose path is not
there or cannot be opened. -/
theorem meet_of_settled (open_ : p.isOpen = true → present = true)
    (closed : p.isOpen = false → present = true → found = none) : p.meet present found = p := by
  cases managed : p.running with
  | false => exact meet_of_retired managed
  | true =>
    unfold meet
    cases opened : p.isOpen with
    | true => simp [open_ opened]
    | false =>
      cases present with
      | false => simp
      | true => simp [closed opened rfl, openWith, opened, managed]

/-- **A second visit changes nothing.** -/
theorem meet_meet (p : Port) (present : Bool) (found : Option Nat) :
    (p.meet present found).meet present found = p.meet present found := by
  cases managed : p.running with
  | false => rw [meet_of_retired managed, meet_of_retired managed]
  | true =>
    generalize hq : p.meet present found = q
    cases hq ▸ met_meet present found managed with
    | stays opened there =>
      exact meet_of_settled (fun _ => there) fun closed => by rw [opened] at closed; cases closed
    | vanishes opened gone =>
      exact meet_of_settled (fun reopened => by cases reopened) fun _ there => by
        rw [gone] at there; cases there
    | opens closed there got =>
      exact meet_of_settled (fun _ => there) fun shut => by cases shut
    | waits closed no =>
      refine meet_of_settled (fun opened => by rw [closed] at opened; cases opened) ?_
      intro _ there
      rcases no with gone | none
      · rw [gone] at there; cases there
      · exact none

/-- A visit leaves a port open exactly if its path is there, unless this one cannot be opened. -/
theorem Met.isOpen_iff (m : p.Met present found q)
    (openable : present = true → found.isSome = true) : q.isOpen = true ↔ present = true := by
  cases m with
  | stays opened there => exact iff_of_true opened there
  | vanishes opened gone =>
    rw [gone]
    exact iff_of_false Bool.false_ne_true Bool.false_ne_true
  | opens closed there got => exact iff_of_true rfl there
  | waits closed no =>
    have absent : present = false := by
      rcases no with gone | none
      · exact gone
      · by_contra there
        have found := openable ((Bool.not_eq_false _).mp there)
        rw [none] at found
        cases found
    rw [closed, absent]

end Port

namespace Rig

variable {r r' : Rig} {place i : Nat} {p q : Port} {places : List Nat}
  {opens : Port → Option Nat} {paths : String → Option Nat}

/-! ## One visit -/

theorem visit_of_running (h : r.ports.port? place = some p) (running : p.running = true) :
    r.visit opens place =
      if p.isOpen then
        if r.devices.present p.device then (r, {})
        else
          ((r.closeAt place).2,
            { notices := if (r.closeAt place).1 then [⟨place, .closed .vanished⟩] else [] })
      else if r.devices.present p.device then
        ((r.openAt opens place).2.1, { notices := (r.openAt opens place).2.2 })
      else (r, {}) := by
  simp only [visit, h, running, Bool.not_true, Bool.false_eq_true, if_false]

theorem closeAt_of_port (h : r.ports.port? place = some p) :
    (r.closeAt place).2 = r.setPort place p.close.2 := by
  simp only [closeAt, h]

theorem openAt_of_port (h : r.ports.port? place = some p) :
    (r.openAt opens place).2.1 = r.setPort place (p.openWith (opens p)).2 := by
  simp only [openAt, h]

/-- **A visit** changes the port that is visited as it should, and nothing else. -/
theorem visit_eq (h : r.ports.port? place = some p) :
    (r.visit opens place).1 =
      r.setPort place (p.meet (r.devices.present p.device) (opens p)) := by
  cases running : p.running with
  | false =>
    rw [Port.meet_of_retired running, setPort_self h]
    simp [visit, h, running]
  | true =>
    rw [visit_of_running h running, Port.meet, running]
    cases p.isOpen <;> cases r.devices.present p.device <;>
      simp [setPort_self h, closeAt_of_port h, openAt_of_port h]

theorem visit_of_missing (h : r.ports.port? place = none) :
    r.visit opens place = (r, {}) := by
  simp only [visit, h]

theorem visit_of_settled
    (settled : ∀ p, r.ports.port? place = some p →
      p.meet (r.devices.present p.device) (opens p) = p) : r.visit opens place = (r, {}) := by
  cases h : r.ports.port? place with
  | none => exact visit_of_missing h
  | some p =>
    cases running : p.running with
    | false => simp [visit, h, running]
    | true =>
      have same := settled p h
      rw [visit_of_running h running]
      generalize hq : p.meet (r.devices.present p.device) (opens p) = q at same
      cases hq ▸ Port.met_meet (r.devices.present p.device) (opens p) running with
      | stays opened there => simp [opened, there]
      | vanishes opened gone =>
        rw [← same] at opened
        cases opened
      | opens closed there got =>
        rw [← same] at closed
        cases closed
      | waits closed no =>
        cases there : r.devices.present p.device with
        | false => simp [closed]
        | true =>
          have none : opens p = none := by
            rcases no with gone | none
            · rw [gone] at there
              cases there
            · exact none
          simp [closed, openAt, h, Port.openWith, running, none, setPort_self h]

/-! ## All visits of a pass -/

/-- What visits leave of a rig. -/
structure Patrolled (r r' : Rig) : Prop where
  devices : r'.devices = r.devices
  buffer : r'.buffer = r.buffer
  stays : PortSet.Stays r.ports r'.ports

theorem Patrolled.refl (r : Rig) : Patrolled r r := ⟨rfl, rfl, .refl r.ports⟩

theorem Patrolled.trans {r'' : Rig} (h : Patrolled r r') (h' : Patrolled r' r'') :
    Patrolled r r'' :=
  ⟨h'.devices.trans h.devices, h'.buffer.trans h.buffer, h.stays.trans h'.stays⟩

theorem patrolled_visit (r : Rig) (opens : Port → Option Nat) (place : Nat) :
    Patrolled r (r.visit opens place).1 := by
  cases h : r.ports.port? place with
  | none =>
    rw [visit_of_missing h]
    exact .refl r
  | some p =>
    rw [visit_eq h]
    refine ⟨rfl, rfl, rfl, fun {i p'} hp' => ?_⟩
    rw [port?_setPort h]
    split
    · next same =>
      obtain rfl := Option.some.inj ((same ▸ h).symm.trans hp')
      exact ⟨_, rfl, p.meet_keeps _ _⟩
    · exact ⟨p', hp', rfl, rfl⟩

/-- A pass of the monitor, where the system answers a call that opens a path with a terminal or with
a failure, whatever else is open. -/
def patrol (r : Rig) (paths : String → Option Nat) : Rig × Effects :=
  r.monitorPass fun _ p => paths p.device

theorem patrolled_visitAll (r : Rig) (opens : Rig → Port → Option Nat) (places : List Nat) :
    Patrolled r (r.visitAll opens places).1 := by
  induction places generalizing r with
  | nil => exact .refl r
  | cons place places ih => exact (patrolled_visit r (opens r) place).trans (ih _)

theorem patrolled_patrol (r : Rig) (paths : String → Option Nat) :
    Patrolled r (r.patrol paths).1 :=
  patrolled_visitAll r _ r.ports.snapshot

theorem port?_visit_eq (opens : Port → Option Nat) (place : Nat) (h : r.ports.port? i = some p) :
    (r.visit opens place).1.ports.port? i =
      some (if place = i then p.meet (r.devices.present p.device) (opens p) else p) := by
  cases h' : r.ports.port? place with
  | none =>
    have other : place ≠ i := fun same => by rw [same, h] at h'; cases h'
    rw [visit_of_missing h', if_neg other, h]
  | some q =>
    rw [visit_eq h', port?_setPort h']
    split
    · next same =>
      obtain rfl := Option.some.inj ((same ▸ h').symm.trans h)
      rfl
    · exact h

theorem port?_visit_of_none (h : r.ports.port? i = none) :
    (r.visit opens place).1.ports.port? i = none := by
  cases h' : r.ports.port? place with
  | none => rw [visit_of_missing h', h]
  | some q =>
    have other : place ≠ i := fun same => by rw [same, h] at h'; cases h'
    rw [visit_eq h', port?_setPort h', if_neg other, h]

/-- **What visits make of a port:** what one visit makes of it if it is visited, be it once or more
often, and nothing otherwise. -/
theorem port?_visitAll (r : Rig) (h : r.ports.port? i = some p) :
    (r.visitAll (fun _ p => paths p.device) places).1.ports.port? i =
      some (if i ∈ places then p.meet (r.devices.present p.device) (paths p.device) else p) := by
  induction places generalizing r p with
  | nil => exact h.trans (congrArg some (if_neg List.not_mem_nil).symm)
  | cons place places ih =>
    have first := port?_visit_eq (fun p => paths p.device) place h
    refine (ih _ first).trans (congrArg some ?_)
    rw [(patrolled_visit r _ place).devices]
    by_cases here : place = i
    · -- the port is visited now, and another visit changes nothing
      have device : (p.meet (r.devices.present p.device) (paths p.device)).device = p.device :=
        congrArg Descriptor.device (p.meet_keeps _ _).1
      rw [if_pos here, device, Port.meet_meet, ite_self, if_pos (here ▸ List.mem_cons_self)]
    · have same : i ∈ place :: places ↔ i ∈ places :=
        List.mem_cons.trans (or_iff_right (Ne.symm here))
      simp only [if_neg here, same]

theorem port?_visitAll_of_none {opens : Rig → Port → Option Nat} (r : Rig)
    (h : r.ports.port? i = none) : (r.visitAll opens places).1.ports.port? i = none := by
  induction places generalizing r with
  | nil => exact h
  | cons place places ih => exact ih _ (port?_visit_of_none h)

theorem visitAll_of_settled {opens : Rig → Port → Option Nat}
    (h : ∀ place ∈ places, r.visit (opens r) place = (r, {})) :
    r.visitAll opens places = (r, {}) := by
  induction places with
  | nil => rfl
  | cons place places ih =>
    obtain ⟨first, rest⟩ := List.forall_mem_cons.mp h
    simp only [visitAll, first, ih rest]
    rfl

/-! ## A whole pass -/

/-- **Every member is met,** and every other port stays as it is. -/
theorem port?_patrol (h : r.ports.port? place = some p) :
    (r.patrol paths).1.ports.port? place =
      some (if place ∈ r.ports.snapshot then
        p.meet (r.devices.present p.device) (paths p.device) else p) :=
  port?_visitAll r h

/-- **Another pass changes nothing.** -/
theorem patrol_patrol (r : Rig) (paths : String → Option Nat) :
    (r.patrol paths).1.patrol paths = ((r.patrol paths).1, {}) := by
  have pass := patrolled_patrol r paths
  have snapshot : (r.patrol paths).1.ports.snapshot = r.ports.snapshot := by
    rw [PortSet.snapshot, pass.stays.members]
    rfl
  refine visitAll_of_settled fun place member => visit_of_settled fun q hq => ?_
  rw [snapshot] at member
  cases h : r.ports.port? place with
  | none =>
    have gone : (r.patrol paths).1.ports.port? place = none := port?_visitAll_of_none r h
    rw [gone] at hq
    cases hq
  | some p =>
    rw [port?_patrol h, if_pos member] at hq
    obtain rfl := Option.some.inj hq
    have device : (p.meet (r.devices.present p.device) (paths p.device)).device = p.device :=
      congrArg Descriptor.device (p.meet_keeps _ _).1
    rw [pass.devices, device, Port.meet_meet]

/-! ## Runs of the monitor -/

/-- What happens where only devices change and the monitor makes passes. Which paths can be opened
may be different in every pass. -/
inductive Tick where
  | change (c : Devices.Change)
  | pass (paths : String → Option Nat)

def tick (r : Rig) : Tick → Rig
  | .change c => { r with devices := (r.devices.change c).1 }
  | .pass paths => (r.patrol paths).1

def ticks (r : Rig) (ts : List Tick) : Rig := ts.foldl tick r

theorem stays_ticks (r : Rig) (ts : List Tick) : PortSet.Stays r.ports (r.ticks ts).ports := by
  induction ts generalizing r with
  | nil => exact .refl r.ports
  | cons t ts ih =>
    refine PortSet.Stays.trans ?_ (ih (r.tick t))
    cases t with
    | change c => exact .refl r.ports
    | pass paths => exact (patrolled_patrol r paths).stays

/-! ## The main statement -/

/-- **A pass of the monitor converges,** whatever ports there are, whichever paths are there and
whichever of them can be opened. After a pass every managed member that was open is open in the same
session if its path is there and closed otherwise, and every one that was closed is open in a new
session, whose generation is the next one, if its path is there and can be opened, and closed
otherwise. Nothing else changes. Another pass changes nothing and reports nothing. Therefore,
whatever devices do between passes, a port is open right after a pass exactly if its path is there,
provided that it can be opened if it is there. -/
theorem monitor_converges (r : Rig) (paths : String → Option Nat) :
    (∀ place p, place ∈ r.ports.snapshot → r.ports.port? place = some p →
      ∃ q, (r.patrol paths).1.ports.port? place = some q ∧
        (p.running = true → p.Met (r.devices.present p.device) (paths p.device) q) ∧
        (p.running = false → q = p)) ∧
    ((∀ place, place ∉ r.ports.snapshot →
        (r.patrol paths).1.ports.port? place = r.ports.port? place) ∧
      (r.patrol paths).1.ports.members = r.ports.members ∧
      (r.patrol paths).1.devices = r.devices ∧ (r.patrol paths).1.buffer = r.buffer) ∧
    (r.patrol paths).1.patrol paths = ((r.patrol paths).1, {}) ∧
    ∀ (ts : List Tick) (place : Nat) (p₀ : Port), place ∈ r.ports.snapshot →
      r.ports.port? place = some p₀ → p₀.running = true →
      let now := r.ticks ts
      (now.devices.present p₀.device = true → (paths p₀.device).isSome = true) →
      ∃ q, (now.patrol paths).1.ports.port? place = some q ∧ q.descriptor = p₀.descriptor ∧
        (q.isOpen = true ↔ now.devices.present p₀.device = true) := by
  have pass := patrolled_patrol r paths
  refine ⟨fun place p member hp => ?_, ⟨fun place other => ?_, pass.stays.members, pass.devices,
    pass.buffer⟩, patrol_patrol r paths, ?_⟩
  · rw [port?_patrol hp, if_pos member]
    exact ⟨_, rfl, Port.met_meet _ _, Port.meet_of_retired⟩
  · cases hp : r.ports.port? place with
    | none => exact port?_visitAll_of_none r hp
    | some p => rw [port?_patrol hp, if_neg other]
  · intro ts place p₀ member hp₀ managed now openable
    have stays : PortSet.Stays r.ports now.ports := stays_ticks r ts
    obtain ⟨p, hp, descriptor, running⟩ := stays.port hp₀
    have member' : place ∈ now.ports.snapshot := by
      rw [PortSet.snapshot, stays.members]
      exact member
    have device : p₀.device = p.device := congrArg Descriptor.device descriptor.symm
    rw [device] at openable ⊢
    refine ⟨_, (port?_patrol hp).trans (congrArg some (if_pos member')),
      (p.meet_keeps _ _).1.trans descriptor, ?_⟩
    exact (Port.met_meet _ _ (running.trans managed)).isOpen_iff openable

/-- The path of an open port is gone, and that of a closed one is there. Then the path comes back,
cannot be opened in one pass, and can be in the next. -/
theorem monitor_converges_vanished :
    let a : Descriptor := { uid := "A", device := "/dev/a" }
    let b : Descriptor := { uid := "B", device := "/dev/b" }
    let pathA : Path.Place := ⟨true, [utf8 "dev", utf8 "a"]⟩
    let pathB : Path.Place := ⟨true, [utf8 "dev", utf8 "b"]⟩
    let r : Rig :=
      { devices := { terminals := [{}, {}], links := [(pathB, .terminal 1)] }
        ports :=
          { ports := [{ descriptor := a, terminal := some 0, generation := 7 }, { descriptor := b }]
            members := [⟨"A", 0⟩, ⟨"B", 1⟩] } }
    let paths (path : String) : Option Nat := if path = "/dev/a" then some 0 else some 1
    let shut (_ : String) : Option Nat := none
    let back : Tick := .change (.relink [(pathA, .terminal 0), (pathB, .terminal 1)])
    (r.patrol paths).1.ports.ports =
        [{ descriptor := a, generation := 7 },
          { descriptor := b, terminal := some 1, generation := 1 }] ∧
      (r.patrol paths).1.patrol paths = ((r.patrol paths).1, {}) ∧
      ((r.ticks [.pass paths, back, .pass shut]).ports.port? 0).map Port.isOpen = some false ∧
      ∃ q, ((r.ticks [.pass paths, back, .pass shut]).patrol paths).1.ports.port? 0 = some q ∧
        q.isOpen = true ∧ q.generation = 8 := by
  intro a b pathA pathB r paths shut back
  obtain ⟨-, -, again, run⟩ := monitor_converges r paths
  obtain ⟨q, hq, -, returns⟩ := run [.pass paths, back, .pass shut] 0 _ (by decide) rfl rfl
    fun _ => by decide
  have session : (((r.ticks [.pass paths, back, .pass shut]).patrol paths).1.ports.port? 0).map
      Port.generation = some 8 := by decide
  rw [hq] at session
  exact ⟨by decide, again, by decide, q, hq, returns.mpr (by decide), Option.some.inj session⟩

end Rig

end Fieldbus
