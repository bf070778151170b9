import Fieldbus.Proofs.Serial.Reading
import Fieldbus.Proofs.Serial.Session
import Fieldbus.Serial.Traffic

/-!
# What many do to one port

Whoever makes a step, it does one of a few things to the ports and their locks. Without interruption
the steps of an opening, a removal and a visit of the monitor are what these are as a whole.

* `Rig.Ebbs`: ports stay as they are, except that sessions may end.
* `Traffic.Shift`: what a step does to the ports and their locks.
* `Traffic.Orderly`: what every step keeps.
* **`Traffic.shift_step`**: every step is a shift.
* `Traffic.open_alone`, `Traffic.remove_alone`, `Traffic.visit_alone`: what is not interrupted.
-/

namespace Fieldbus

open Rig

namespace Port

theorem openWith_eq (p : Port) (found : Option Nat) :
    (p.openWith found).2 = if p.openable then p.install found else p := by
  have same : p.openable = !(p.isOpen || !p.running) := by
    rw [openable, Bool.not_or, Bool.not_not]
  unfold openWith
  rw [same]
  cases p.isOpen || !p.running with
  | true => rfl
  | false => cases found <;> rfl

theorem install_id (p : Port) (found : Option Nat) : (p.install found).id = p.id := by
  cases found <;> rfl

end Port

namespace Rig

variable {r r' : Rig} {place i : Nat} {p q : Port}

/-- The ports stay as they are, except that sessions may end. -/
structure Ebbs (r r' : Rig) : Prop where
  members : r'.ports.members = r.ports.members
  port : ∀ i, r'.ports.port? i = r.ports.port? i ∨
    r'.ports.port? i = (r.ports.port? i).map fun p => { p with terminal := none }

theorem Ebbs.of_ports (h : r'.ports = r.ports) : Ebbs r r' :=
  ⟨by rw [h], fun i => .inl (by rw [h])⟩

theorem Ebbs.of_update (h : r.ports.port? place = some p)
    (hq : q = p ∨ q = { p with terminal := none }) (ports : r'.ports = r.ports.update place q) :
    Ebbs r r' := by
  refine ⟨by rw [ports]; rfl, fun i => ?_⟩
  rw [ports, PortSet.port?_update h]
  split
  · next hi =>
    subst hi
    rcases hq with rfl | rfl
    · exact .inl h.symm
    · exact .inr (by rw [h]; rfl)
  · exact .inl rfl

theorem closeAt_eq (r : Rig) (place : Nat) :
    (r.closeAt place).2 = { r with ports := r.ports.closeAt place } := by
  unfold closeAt PortSet.closeAt
  cases h : r.ports.port? place with
  | none => rw [PortSet.modify_of_none h]
  | some p =>
    rw [PortSet.modify_of_some h]
    rfl

theorem openAt_eq (r : Rig) (place : Nat) :
    (r.openAt r.given? place).2.1 =
      { r with
        ports := r.ports.modify place fun p =>
          if p.openable then p.install (r.given? p) else p } := by
  unfold openAt
  cases h : r.ports.port? place with
  | none => rw [PortSet.modify_of_none h]
  | some p =>
    rw [PortSet.modify_of_some h, ← Port.openWith_eq]
    rfl

theorem ebbs_closeAt (r : Rig) (place : Nat) : Ebbs r (r.closeAt place).2 := by
  unfold closeAt
  cases h : r.ports.port? place with
  | none => exact .of_ports rfl
  | some p => exact .of_update h (.inr rfl) rfl

theorem ebbs_writeAt (r : Rig) (place : Nat) (data : Bytes) :
    Ebbs r (r.writeAt place data).2.1 := by
  unfold writeAt
  cases h : r.ports.port? place with
  | none => exact .of_ports rfl
  | some p =>
    dsimp only
    split
    · exact .of_update h (p.write_cases _) rfl
    · exact .of_update h (p.write_cases _) rfl

theorem ebbs_readAt (r : Rig) (t : Target) (buffer : Bytes) (capacity : Nat) :
    Ebbs r (r.readAt t buffer capacity).1 := by
  unfold readAt
  cases h : r.ports.port? t.place with
  | none => exact .of_ports rfl
  | some p =>
    dsimp only
    split
    · exact .of_ports rfl
    · split <;> exact .of_update h (p.readReady_cases _ _ _) rfl

theorem ebbs_hangUpAt (r : Rig) (t : Target) : Ebbs r (r.hangUpAt t).1 := by
  unfold hangUpAt
  cases h : r.ports.port? t.place with
  | none => exact .of_ports rfl
  | some p =>
    cases hc : p.isCurrent t.generation with
    | false =>
      simp only [Port.closeIfCurrent, hc]
      exact .of_ports rfl
    | true =>
      simp only [Port.closeIfCurrent, hc]
      exact .of_update h (.inr rfl) rfl

theorem ebbs_handle (r : Rig) (t : Target) (what : Readiness) (granted : Bool) :
    Ebbs r (r.handle t what granted).1 := by
  cases what with
  | quiet => exact .of_ports rfl
  | hangup => exact ebbs_hangUpAt r t
  | readable =>
    simp only [handle]
    split
    · exact .of_ports rfl
    · exact ebbs_readAt r t _ _

theorem ebbs_advance (r : Rig) (granted : Nat → Bool) (round : Round) :
    Ebbs r (r.advance granted round).1 := by
  cases round with
  | noting g noted members => cases members <;> exact .of_ports rfl
  | acting left =>
    cases left with
    | nil => exact .of_ports rfl
    | cons x left => exact ebbs_handle r _ _ _

end Rig

namespace Traffic

variable {t t' : Traffic} {place i : Nat} {p : Port}

/-- What a step does to the ports and their locks. -/
inductive Shift (t t' : Traffic) : Prop where
  /-- Nothing, except that sessions may end. -/
  | ebbs (rig : Ebbs t.rig t'.rig) (locks : t'.openings = t.openings)
  | adds (d : Descriptor) (ports : t'.rig.ports = (t.rig.ports.add d).2)
      (locks : t'.openings = t.openings)
  | unlinks (uid : String) (ports : t'.rig.ports = (t.rig.ports.unlink uid).2)
      (locks : t'.openings = t.openings)
  /-- The management of a port ends, whoever has its lock. -/
  | retires (place : Nat) (ports : t'.rig.ports = t.rig.ports.clearRunning place)
      (locks : t'.openings = t.openings)
  /-- Somebody takes the lock of a port that may be opened. -/
  | begins (place : Nat) (openable : t.openable place = true) (ports : t'.rig.ports = t.rig.ports)
      (locks : t'.openings = place :: t.openings)
  /-- Somebody who has the lock opens the port, or fails to, and releases the lock. -/
  | opens (place : Nat) (held : place ∈ t.openings) (after : t'.rig = (t.install place).rig)
      (locks : t'.openings = (t.install place).openings)

/-- Ports that are being opened are closed so far; the monitor has the lock of the port that it
opens; and a member has the uid under which it is known. -/
structure Orderly (t : Traffic) : Prop where
  locked : ∀ place ∈ t.openings, ∃ p, t.rig.ports.port? place = some p ∧ p.terminal = none
  inside : ∀ place, t.patrol.inside? = some place → place ∈ t.openings
  keyed : ∀ m ∈ t.rig.ports.members, ∃ p, t.rig.ports.port? m.place = some p ∧ p.id = m.key

theorem shift_of_rig (rig : t'.rig = t.rig) (locks : t'.openings = t.openings) : Shift t t' :=
  .ebbs (.of_ports (by rw [rig])) locks

theorem shift_remove (t : Traffic) (call : Nat) (uid : String) (phase : Removal.Phase) :
    Shift t (t.remove call uid phase) := by
  cases phase with
  | unlinking =>
    simp only [remove]
    split
    · exact shift_of_rig rfl rfl
    · exact .unlinks uid rfl rfl
  | retiring place => exact .retires place rfl rfl
  | closing place =>
    simp only [remove]
    split
    · exact shift_of_rig rfl rfl
    · exact .ebbs (ebbs_closeAt t.rig place) rfl
  | finished place => exact shift_of_rig rfl rfl

theorem shift_patrolOn (h : t.Orderly) : Shift t (t.patrolOn t.patrol) := by
  cases hp : t.patrol with
  | visiting left =>
    cases left with
    | nil => exact shift_of_rig rfl rfl
    | cons place left =>
      simp only [patrolOn]
      split <;> exact shift_of_rig rfl rfl
  | looking place left => exact shift_of_rig rfl rfl
  | asking place present left =>
    simp only [patrolOn]
    split
    · exact shift_of_rig rfl rfl
    · split <;> exact shift_of_rig rfl rfl
  | closing place left =>
    simp only [patrolOn]
    split
    · exact shift_of_rig rfl rfl
    · exact .ebbs (ebbs_closeAt t.rig place) rfl
  | opening place left =>
    simp only [patrolOn]
    split
    · exact shift_of_rig rfl rfl
    · split
      · next openable => exact .begins place openable rfl rfl
      · exact shift_of_rig rfl rfl
  | inside place left => exact .opens place (h.inside place (by rw [hp]; rfl)) rfl rfl

/-- **Every step is a shift.** -/
theorem shift_step (h : t.Orderly) (s : Step) : Shift t (t.step s).1 := by
  cases s with
  | change c => exact .ebbs (.of_ports rfl) rfl
  | add d => exact .adds d rfl rfl
  | callRemove uid => exact shift_of_rig rfl rfl
  | advance call =>
    simp only [step]
    split
    · exact shift_of_rig rfl rfl
    · exact shift_remove t call _ _
  | beginOpen place =>
    simp only [step]
    split
    · next h => exact .begins place h.2 rfl rfl
    · exact shift_of_rig rfl rfl
  | finishOpen place =>
    simp only [step]
    split
    · next h => exact .opens place h.1 rfl rfl
    · exact shift_of_rig rfl rfl
  | close place =>
    simp only [step]
    split
    · exact shift_of_rig rfl rfl
    · exact .ebbs (ebbs_closeAt t.rig place) rfl
  | write place data =>
    simp only [step]
    split
    · exact shift_of_rig rfl rfl
    · exact .ebbs (ebbs_writeAt t.rig place data) rfl
  | patrol => exact shift_patrolOn h
  | read granted =>
    simp only [step]
    split
    · exact shift_of_rig rfl rfl
    · exact .ebbs (ebbs_advance t.rig granted t.watch.round) rfl

/-! ## What a shift keeps -/

/-- A port stays as it is, or its session ends, or its management, or whoever has its lock opens it.
-/
theorem Shift.port_cases (s : Shift t t') (h : t.rig.ports.port? i = some p) :
    t'.rig.ports.port? i = some p ∨ t'.rig.ports.port? i = some { p with terminal := none } ∨
      t'.rig.ports.port? i = some p.clearRunning ∨
      (i ∈ t.openings ∧ i ∉ t'.openings ∧
        ∃ found, t'.rig.ports.port? i = some (p.install found)) := by
  cases s with
  | ebbs rig locks =>
    rcases rig.port i with same | ends
    · exact .inl (same.trans h)
    · exact .inr (.inl (ends.trans (by rw [h]; rfl)))
  | adds d ports locks =>
    rw [ports]
    exact .inl ((regroup_add t.rig d).port? h)
  | unlinks uid ports locks =>
    rw [ports]
    exact .inl ((regroup_unlink t.rig uid).port? h)
  | retires place ports locks =>
    rw [ports, PortSet.clearRunning, PortSet.port?_modify, h, Option.map_some]
    split
    · exact .inr (.inr (.inl rfl))
    · exact .inl rfl
  | begins place openable ports locks =>
    rw [ports]
    exact .inl h
  | opens place held after locks =>
    have port : t'.rig.ports.port? i =
        some (if place = i then p.install (t.rig.given? p) else p) := by
      rw [after]
      exact PortSet.port?_modify.trans (by rw [h]; rfl)
    rw [port]
    split
    · next hi =>
      subst hi
      exact .inr (.inr (.inr ⟨held, by simp [locks, install], _, rfl⟩))
    · exact .inl rfl

theorem Shift.members (s : Shift t t') {m : Member} (hm : m ∈ t'.rig.ports.members) :
    m ∈ t.rig.ports.members ∨ m.place = t.rig.ports.ports.length ∧
      ∃ p, t'.rig.ports.port? m.place = some p ∧ p.id = m.key := by
  cases s with
  | ebbs rig locks => exact .inl (rig.members ▸ hm)
  | adds d ports locks =>
    rcases t.rig.ports.add_cases d with same | ⟨-, added⟩
    · rw [ports, same] at hm
      exact .inl hm
    · rw [ports, added] at hm
      rw [ports, added]
      rcases List.mem_append.mp hm with old | new
      · exact .inl old
      · obtain rfl := List.mem_singleton.mp new
        exact .inr ⟨rfl, { descriptor := d }, by simp [PortSet.port?], rfl⟩
  | unlinks uid ports locks =>
    rw [ports] at hm
    unfold PortSet.unlink at hm
    split at hm
    · exact .inl hm
    · exact .inl (List.mem_filter.mp hm).1
  | retires place ports locks =>
    rw [ports] at hm
    exact .inl hm
  | begins place openable ports locks =>
    rw [ports] at hm
    exact .inl hm
  | opens place held after locks =>
    rw [after] at hm
    exact .inl hm

/-- Whoever has a lock had it before, or has just taken it. -/
theorem Shift.openings (s : Shift t t') (hp : place ∈ t'.openings) :
    place ∈ t.openings ∨ t.openable place = true ∧ t'.rig.ports = t.rig.ports := by
  cases s with
  | ebbs _ locks | adds _ _ locks | unlinks _ _ locks | retires _ _ locks =>
    exact .inl (locks ▸ hp)
  | begins place' openable ports locks =>
    rw [locks] at hp
    rcases List.mem_cons.mp hp with rfl | old
    · exact .inr ⟨openable, ports⟩
    · exact .inl old
  | opens place' held after locks =>
    rw [locks] at hp
    exact .inl (List.mem_filter.mp hp).1

theorem openable_iff :
    t.openable place = true ↔
      ∃ p, t.rig.ports.port? place = some p ∧ p.terminal = none ∧ p.running = true := by
  unfold openable
  cases t.rig.ports.port? place <;> simp [Port.openable, Port.isOpen]

theorem Shift.kept (s : Shift t t') (h : t.rig.ports.port? i = some p) :
    ∃ q, t'.rig.ports.port? i = some q ∧ q.id = p.id ∧ (p.running = false → q.running = false) := by
  rcases s.port_cases h with h' | h' | h' | ⟨-, -, found, h'⟩
  · exact ⟨_, h', rfl, id⟩
  · exact ⟨_, h', rfl, id⟩
  · exact ⟨_, h', rfl, fun _ => rfl⟩
  · exact ⟨_, h', p.install_id found, by cases found <;> exact id⟩

theorem Shift.locked (s : Shift t t')
    (h : ∀ place ∈ t.openings, ∃ p, t.rig.ports.port? place = some p ∧ p.terminal = none) :
    ∀ place ∈ t'.openings, ∃ p, t'.rig.ports.port? place = some p ∧ p.terminal = none := by
  intro place hp
  rcases s.openings hp with old | ⟨openable, ports⟩
  · obtain ⟨p, port, closed⟩ := h place old
    rcases s.port_cases port with h' | h' | h' | ⟨-, gone, -⟩
    · exact ⟨_, h', closed⟩
    · exact ⟨_, h', rfl⟩
    · exact ⟨_, h', closed⟩
    · exact absurd hp gone
  · obtain ⟨p, port, closed, -⟩ := openable_iff.mp openable
    exact ⟨p, by rw [ports, port], closed⟩

theorem Shift.keyed (s : Shift t t')
    (h : ∀ m ∈ t.rig.ports.members, ∃ p, t.rig.ports.port? m.place = some p ∧ p.id = m.key) :
    ∀ m ∈ t'.rig.ports.members, ∃ p, t'.rig.ports.port? m.place = some p ∧ p.id = m.key := by
  intro m hm
  rcases s.members hm with old | ⟨-, new⟩
  · obtain ⟨p, port, key⟩ := h m old
    obtain ⟨q, port', id, -⟩ := s.kept port
    exact ⟨q, port', id.trans key⟩
  · exact new

/-! ## What every step keeps -/

theorem remove_patrol (t : Traffic) (call : Nat) (uid : String) (phase : Removal.Phase) :
    (t.remove call uid phase).patrol = t.patrol ∧
      (t.remove call uid phase).openings = t.openings := by
  cases phase with
  | unlinking => simp only [remove]; split <;> exact ⟨rfl, rfl⟩
  | retiring place => exact ⟨rfl, rfl⟩
  | closing place => simp only [remove]; split <;> exact ⟨rfl, rfl⟩
  | finished place => exact ⟨rfl, rfl⟩

/-- The monitor has the lock of the port that it opens, since it takes it before it goes inside. -/
theorem inside_patrolOn (t : Traffic) :
    (t.patrolOn t.patrol).patrol.inside? = some place → place ∈ (t.patrolOn t.patrol).openings := by
  have outside {t' : Traffic} (h : t'.patrol.inside? = none) :
      t'.patrol.inside? = some place → place ∈ t'.openings :=
    fun h' => absurd (h.symm.trans h') (by simp)
  cases hp : t.patrol with
  | visiting left =>
    cases left with
    | nil => exact outside rfl
    | cons i left =>
      simp only [patrolOn]
      split <;> exact outside rfl
  | looking i left => exact outside rfl
  | asking i present left =>
    simp only [patrolOn]
    split
    · exact outside (by rw [hp]; rfl)
    · split <;> exact outside rfl
  | closing i left =>
    simp only [patrolOn]
    split
    · exact outside (by rw [hp]; rfl)
    · exact outside rfl
  | opening i left =>
    simp only [patrolOn]
    split
    · exact outside (by rw [hp]; rfl)
    · split
      · intro h
        obtain rfl := Option.some.inj h
        exact List.mem_cons_self
      · exact outside rfl
  | inside i left => exact outside rfl

/-- Nobody else releases the lock that the monitor has. -/
theorem inside_step (h : ∀ place, t.patrol.inside? = some place → place ∈ t.openings) (s : Step) :
    ∀ place, (t.step s).1.patrol.inside? = some place → place ∈ (t.step s).1.openings := by
  intro place
  cases s with
  | change | add | callRemove => exact h place
  | advance call =>
    simp only [step]
    split
    · exact h place
    · next r _ =>
      obtain ⟨patrol, openings⟩ := remove_patrol t call r.uid r.phase
      rw [patrol, openings]
      exact h place
  | beginOpen i =>
    simp only [step]
    split
    · exact fun hp => List.mem_cons_of_mem i (h place hp)
    · exact h place
  | finishOpen i =>
    simp only [step]
    split
    · next free =>
      intro hp
      refine List.mem_filter.mpr ⟨h place hp, ?_⟩
      -- whoever else finishes an opening releases the lock of another port
      have other : place ≠ i := fun same => free.2 (same ▸ hp)
      simpa using other
    · exact h place
  | patrol => exact inside_patrolOn t
  | close | write | read =>
    simp only [step]
    split <;> exact h place

theorem Orderly.step (h : t.Orderly) (s : Step) : (t.step s).1.Orderly where
  locked := (shift_step h s).locked h.locked
  inside := inside_step h.inside s
  keyed := (shift_step h s).keyed h.keyed

theorem orderly_start (devices : Devices) : (start devices).Orderly where
  locked := by simp [start]
  inside := by simp [start, Patrol.inside?]
  keyed := by simp [start, rig]

theorem Orderly.run (h : t.Orderly) (steps : List Step) : (t.run steps).1.Orderly :=
  runSteps_invariant Traffic.step Orderly (fun _ s h => h.step s) t steps h

/-! ## Without interruption -/

theorem install_begun (free : place ∉ t.openings) (openable : t.openable place = true) :
    ({ t with openings := place :: t.openings } : Traffic).install place =
      (t.watching (.openAt place)).1 := by
  obtain ⟨p, port, closed, running⟩ := openable_iff.mp openable
  have goes : p.openable = true := by simp [Port.openable, Port.isOpen, closed, running]
  have released : (place :: t.openings).filter (fun i => i ≠ place) = t.openings := by
    rw [List.filter_cons_of_neg (by simp), List.filter_eq_self]
    intro i hi
    have : i ≠ place := fun same => free (same ▸ hi)
    simpa using this
  show ({ t with
    watch := t.watch.withRig { t.rig with ports := t.rig.ports.modify place _ }
    openings := (place :: t.openings).filter fun i => i ≠ place } : Traffic) =
      { t with watch := t.watch.withRig (t.rig.openAt t.rig.given? place).2.1 }
  rw [openAt_eq, released, PortSet.modify_of_some port, PortSet.modify_of_some port, if_pos goes]
  rfl

theorem openAt_of_not_openable (stays : ¬ t.openable place = true) :
    (t.watching (.openAt place)).1 = t := by
  show ({ t with watch := t.watch.withRig (t.rig.openAt t.rig.given? place).2.1 } : Traffic) = t
  have same : t.rig.ports.modify place
      (fun p => if p.openable then p.install (t.rig.given? p) else p) = t.rig.ports := by
    cases port : t.rig.ports.port? place with
    | none => rw [PortSet.modify_of_none port]
    | some p =>
      have closed : ¬ p.openable = true := by
        unfold Traffic.openable at stays
        rwa [port] at stays
      rw [PortSet.modify_of_some port, if_neg closed]
      exact PortSet.update_self port
  rw [openAt_eq, same]
  rfl

/-- The two halves of an opening are an opening. -/
theorem open_alone (h : t.Orderly) (free : place ∉ t.openings) :
    (t.run [.beginOpen place, .finishOpen place]).1 = (t.watching (.openAt place)).1 := by
  show ((t.step (.beginOpen place)).1.step (.finishOpen place)).1 = _
  by_cases openable : t.openable place
  · have outside : t.patrol.inside? ≠ some place := fun inside => free (h.inside place inside)
    have first : t.step (.beginOpen place) = ({ t with openings := place :: t.openings }, []) :=
      if_pos ⟨free, openable⟩
    have second : ({ t with openings := place :: t.openings } : Traffic).step (.finishOpen place) =
        (({ t with openings := place :: t.openings } : Traffic).install place, []) :=
      if_pos ⟨List.mem_cons_self, outside⟩
    rw [first, second, install_begun free openable]
  · have first : t.step (.beginOpen place) = (t, []) := if_neg fun h => openable h.2
    have second : t.step (.finishOpen place) = (t, []) := if_neg fun h => free h.1
    rw [first, second, openAt_of_not_openable openable]

/-- The same with a removal called for last, which has come to some phase. -/
def calling (t : Traffic) (cs : List Removal) (uid : String) (phase : Removal.Phase) : Traffic :=
  { t with removals := cs ++ [⟨uid, phase⟩] }

theorem advance_calling (t : Traffic) (cs : List Removal) (uid : String) (phase : Removal.Phase) :
    ((t.calling cs uid phase).step (.advance cs.length)).1 =
      match phase with
      | .unlinking =>
        match t.rig.ports.find? uid with
        | none => t.calling cs uid (.finished none)
        | some place => (t.watching (.unlink uid)).1.calling cs uid (.retiring place)
      | .retiring place => (t.watching (.clearRunning place)).1.calling cs uid (.closing place)
      | .closing place =>
        if place ∈ t.openings then t.calling cs uid phase
        else (t.watching (.closeAt place)).1.calling cs uid (.finished (some place))
      | .finished _ => t.calling cs uid phase := by
  have last : (t.calling cs uid phase).step (.advance cs.length) =
      ((t.calling cs uid phase).remove cs.length uid phase, []) := by
    simp [step, calling]
  rw [last]
  have puts (t : Traffic) (phase' : Removal.Phase) :
      (t.calling cs uid phase).setRemoval cs.length uid phase' = t.calling cs uid phase' := by
    simp [setRemoval, calling]
  cases phase with
  | unlinking =>
    show (match t.rig.ports.find? uid with | none => _ | some place => _) = _
    split
    · exact puts t _
    · exact puts (t.watching (.unlink uid)).1 _
  | retiring place => exact puts (t.watching (.clearRunning place)).1 _
  | closing place =>
    by_cases held : place ∈ t.openings
    · exact (if_pos held).trans (if_pos held).symm
    · refine (if_neg held).trans (Eq.trans ?_ (if_neg held).symm)
      exact puts (t.watching (.closeAt place)).1 _
  | finished place => rfl

/-- The phases of a removal are a removal. -/
theorem remove_alone {uid : String} (free : ∀ place ∈ t.rig.ports.find? uid, place ∉ t.openings) :
    (t.run (.callRemove uid :: List.replicate 3 (.advance t.removals.length))).1 =
      { t with
        watch := t.watch.withRig { t.rig with ports := (t.rig.ports.remove uid).2 }
        removals := t.removals ++ [⟨uid, .finished (t.rig.ports.find? uid)⟩] } := by
  have called : (t.step (.callRemove uid)).1 = t.calling t.removals uid .unlinking := rfl
  show ((((t.step (.callRemove uid)).1.step (.advance t.removals.length)).1.step
    (.advance t.removals.length)).1.step (.advance t.removals.length)).1 = _
  rw [called, advance_calling]
  cases h : t.rig.ports.find? uid with
  | none =>
    simp only [advance_calling, PortSet.remove, PortSet.unlink, h]
    rfl
  | some place =>
    simp only [advance_calling]
    refine (if_neg (free place h)).trans ?_
    have unlinked : t.rig.ports.remove uid =
        (true, ((t.rig.ports.unlink uid).2.clearRunning place).closeAt place) := by
      simp only [PortSet.remove, PortSet.unlink, h]
    show ({ t with watch := t.watch.withRig (Rig.closeAt _ place).2, removals := _ } : Traffic) = _
    rw [closeAt_eq, unlinked]
    rfl

theorem run_patrol (t : Traffic) (n : Nat) :
    (t.run (List.replicate (n + 1) .patrol)).1 =
      ((t.patrolOn t.patrol).run (List.replicate n .patrol)).1 := rfl

theorem run_asking {left : List Nat} (visiting : t.patrol = .visiting (place :: left))
    (free : place ∉ t.openings) (port : t.rig.ports.port? place = some p)
    (running : p.running = true) (n : Nat) :
    (t.run (List.replicate (n + 3) .patrol)).1 =
      ((t.withPatrol (match p.isOpen, t.rig.devices.present p.device with
        | true, false => .closing place left
        | false, true => .opening place left
        | _, _ => .visiting left)).run (List.replicate n .patrol)).1 := by
  have looks : t.patrolOn (.visiting (place :: left)) = t.withPatrol (.looking place left) := by
    simp [patrolOn, port, running]
  have asks : (t.withPatrol (.looking place left)).patrolOn (.looking place left) =
      t.withPatrol (.asking place (t.rig.devices.present p.device) left) := by
    simp [patrolOn, port]
  rw [run_patrol, visiting, looks, run_patrol]
  show (((t.withPatrol (.looking place left)).patrolOn (.looking place left)).run _).1 = _
  rw [asks, run_patrol]
  congr 2
  show (t.withPatrol _).patrolOn (.asking place (t.rig.devices.present p.device) left) = _
  simp only [patrolOn, openings_withPatrol, free, if_false, rig_withPatrol, port, Option.map_some,
    Option.getD_some, withPatrol_withPatrol]
  cases p.isOpen <;> cases t.rig.devices.present p.device <;> rfl

/-- The phases of a visit are a visit. -/
theorem visit_alone {left : List Nat} (visiting : t.patrol = .visiting (place :: left))
    (free : place ∉ t.openings) :
    ∃ n, (t.run (List.replicate n .patrol)).1 =
      (t.watching (.visit place)).1.withPatrol (.visiting left) := by
  have whole : (t.watching (.visit place)).1.withPatrol (.visiting left) =
      { t with
        watch := t.watch.withRig (t.rig.visit t.rig.given? place).1
        patrol := .visiting left } := rfl
  rw [whole]
  cases port : t.rig.ports.port? place with
  | none =>
    refine ⟨1, ?_⟩
    rw [run_patrol, visiting]
    simp only [patrolOn, port, Rig.visit]
    rfl
  | some p =>
    cases running : p.running with
    | false =>
      refine ⟨1, ?_⟩
      rw [run_patrol, visiting]
      simp only [patrolOn, port, Rig.visit, Option.map_some, Option.getD_some, running]
      rfl
    | true =>
      have asked := run_asking visiting free port running
      cases opened : p.isOpen <;> cases present : t.rig.devices.present p.device <;>
        simp only [opened, present] at asked
      · -- the port is closed, and its path is gone: there is nothing to do
        refine ⟨3, (asked 0).trans ?_⟩
        simp only [Rig.visit, port, running, opened, present]
        rfl
      · -- the port is closed, and its path is there
        have openable : t.openable place = true := by
          simp [Traffic.openable, port, Port.openable, opened, running]
        have begins : (t.withPatrol (.opening place left)).patrolOn (.opening place left) =
            { t with openings := place :: t.openings, patrol := .inside place left } :=
          (if_neg free).trans (if_pos openable)
        refine ⟨5, (asked 2).trans ?_⟩
        rw [run_patrol]
        show (((t.withPatrol (.opening place left)).patrolOn (.opening place left)).run _).1 = _
        rw [begins, run_patrol]
        have installed := install_begun (t := t.withPatrol (.inside place left)) free openable
        refine (congrArg (fun u => u.withPatrol (.visiting left)) installed).trans ?_
        simp only [Rig.visit, port, running, opened, present]
        rfl
      · -- the port is open, and its path is gone
        have closes : (t.withPatrol (.closing place left)).patrolOn (.closing place left) =
            (t.watching (.closeAt place)).1.withPatrol (.visiting left) := if_neg free
        refine ⟨4, (asked 1).trans ?_⟩
        rw [run_patrol]
        show (((t.withPatrol (.closing place left)).patrolOn (.closing place left)).run _).1 = _
        rw [closes]
        simp only [Rig.visit, port, running, opened, present]
        rfl
      · -- the port is open, and its path is there
        refine ⟨3, (asked 0).trans ?_⟩
        simp only [Rig.visit, port, running, opened, present]
        rfl

end Traffic

end Fieldbus
