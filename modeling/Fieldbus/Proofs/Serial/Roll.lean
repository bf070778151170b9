import Fieldbus.Proofs.Serial.Traffic
import Mathlib.Data.List.Nodup

/-!
# The members of a set as a list of ports

A set of ports is, for its users, the list of those ports that are members, in the order in which
they were added.

* `PortSet.roll`: this list.
* `PortSet.InOrder`: members are known under their own ids, each under another, and are managed.
* `PortSet.InOrder.add`, `PortSet.InOrder.unlink`: how the list changes.
* `PortSet.Stays`: ports change, and the list does not, except that sessions begin and end.
* `Traffic.Step.regroups`, `Traffic.stays_step`: nobody changes the list who does not add or remove
  a port.
-/

namespace Fieldbus

namespace PortSet

variable {s s' : PortSet} {d : Descriptor} {uid : String} {place : Nat}

/-- The ports that are members, in order. -/
def roll (s : PortSet) : List Port := s.members.filterMap fun m => s.port? m.place

/-- Members are known under their own ids, each under another, and are managed. -/
structure InOrder (s : PortSet) : Prop where
  listed : ∀ m ∈ s.members, ∃ p, s.port? m.place = some p ∧ p.id = m.key ∧ p.running = true
  distinct : (s.members.map Member.key).Nodup

theorem map_roll {α : Type} {f : Port → α} {g : Member → α}
    (h : ∀ m ∈ s.members, ∃ p, s.port? m.place = some p ∧ f p = g m) :
    s.roll.map f = s.members.map g := by
  rw [roll, List.map_filterMap, ← List.filterMap_eq_map]
  refine List.filterMap_congr fun m hm => ?_
  obtain ⟨p, hp, same⟩ := h m hm
  rw [hp, Option.map_some, same]
  rfl

theorem statuses_eq (s : PortSet) : s.statuses = s.roll.map Port.status := by
  rw [roll, List.map_filterMap]
  rfl

theorem InOrder.ids (h : s.InOrder) : s.roll.map Port.id = s.members.map Member.key :=
  map_roll fun m hm => (h.listed m hm).imp fun _ hp => ⟨hp.1, hp.2.1⟩

theorem InOrder.running (h : s.InOrder) : ∀ p ∈ s.roll, p.running = true := by
  intro p hp
  obtain ⟨m, hm, port⟩ := List.mem_filterMap.mp hp
  obtain ⟨q, port', -, running⟩ := h.listed m hm
  rw [port] at port'
  obtain rfl := Option.some.inj port'
  exact running

theorem InOrder.find?_isSome_iff (h : s.InOrder) :
    (s.find? uid).isSome = true ↔ uid ∈ s.roll.map Port.id := by
  rw [h.ids, find?, Option.isSome_map, List.find?_isSome]
  simp

/-! ## What changes the list -/

theorem add_of_fault {cause : Invalid} (fault : d.fault? = some cause) :
    s.add d = (.error (.invalid cause), s) := by
  rw [PortSet.add, fault]

theorem add_of_taken (valid : d.Valid) (taken : (s.find? d.uid).isSome = true) :
    s.add d = (.error (.duplicateId d.uid), s) := by
  unfold PortSet.add
  rw [show d.fault? = none from valid]
  exact if_pos taken

/-- A port that is added comes last. The others stay as they are. -/
theorem InOrder.add (h : s.InOrder) (valid : d.Valid) (fresh : d.uid ∉ s.roll.map Port.id) :
    (s.add d).1 = .ok s.ports.length ∧ (s.add d).2.InOrder ∧
      (s.add d).2.roll = s.roll ++ [{ descriptor := d }] := by
  have unknown : s.find? d.uid = none := by
    rw [← Option.not_isSome_iff_eq_none, h.find?_isSome_iff]
    exact fresh
  rw [add_of_fresh valid unknown]
  have old : ∀ i p, s.port? i = some p → (s.ports ++ [{ descriptor := d }])[i]? = some p :=
    fun i p hp => (List.getElem?_append_left (List.getElem?_eq_some_iff.mp hp).1).trans hp
  refine ⟨rfl, ⟨fun m hm => ?_, ?_⟩, ?_⟩
  · rcases List.mem_append.mp hm with before | new
    · obtain ⟨p, port, known⟩ := h.listed m before
      exact ⟨p, old _ _ port, known⟩
    · obtain rfl := List.mem_singleton.mp new
      exact ⟨{ descriptor := d }, List.getElem?_concat_length, rfl, rfl⟩
  · rw [List.map_append, List.map_singleton, ← List.concat_eq_append]
    exact List.Nodup.concat (h.ids ▸ fresh) h.distinct
  · rw [roll, List.filterMap_append, roll]
    congr 1
    · refine List.filterMap_congr fun m hm => ?_
      obtain ⟨p, port, -⟩ := h.listed m hm
      rw [port]
      exact old _ _ port
    · simp [port?]

/-- How a call is answered that adds a port: the descriptor is checked first, and then the id. -/
theorem InOrder.add_cases (h : s.InOrder) (d : Descriptor) :
    (∃ cause, d.fault? = some cause ∧ s.add d = (.error (.invalid cause), s)) ∨
    (d.Valid ∧ d.uid ∈ s.roll.map Port.id ∧ s.add d = (.error (.duplicateId d.uid), s)) ∨
    (d.Valid ∧ d.uid ∉ s.roll.map Port.id ∧ (s.add d).1 = .ok s.ports.length ∧
      (s.add d).2.InOrder ∧ (s.add d).2.roll = s.roll ++ [{ descriptor := d }]) := by
  cases hf : d.fault? with
  | some cause => exact .inl ⟨cause, rfl, add_of_fault hf⟩
  | none =>
    by_cases taken : d.uid ∈ s.roll.map Port.id
    · exact .inr (.inl ⟨hf, taken, add_of_taken hf (h.find?_isSome_iff.mpr taken)⟩)
    · exact .inr (.inr ⟨hf, taken, h.add hf taken⟩)

theorem unlink_eq (s : PortSet) (uid : String) :
    (s.unlink uid).2 = { s with members := s.members.filter fun m => m.key ≠ uid } := by
  unfold PortSet.unlink
  cases hf : s.find? uid with
  | some place => rfl
  | none =>
    rw [find?, Option.map_eq_none_iff, List.find?_eq_none] at hf
    rw [List.filter_eq_self.mpr fun m hm => by simpa using hf m hm]

/-- A port that is taken out leaves the others in their order. -/
theorem InOrder.unlink (h : s.InOrder) (uid : String) :
    (s.unlink uid).2.InOrder ∧ (s.unlink uid).2.roll = s.roll.filter fun p => p.id ≠ uid := by
  rw [unlink_eq]
  refine ⟨⟨fun m hm => h.listed m (List.mem_filter.mp hm).1, ?_⟩, ?_⟩
  · exact h.distinct.sublist (List.filter_sublist.map _)
  · rw [roll, List.filterMap_filter, roll, List.filter_filterMap]
    refine List.filterMap_congr fun m hm => ?_
    obtain ⟨p, port, id, -⟩ := h.listed m hm
    simp only [port?] at port ⊢
    rw [port, ← id]
    by_cases hp : p.id = uid <;> simp [hp, Option.filter]

theorem InOrder.clearRunning (h : s.InOrder) (unlisted : place ∉ s.snapshot) :
    (s.clearRunning place).InOrder ∧ (s.clearRunning place).roll = s.roll := by
  have same : ∀ m ∈ s.members, (s.clearRunning place).port? m.place = s.port? m.place := by
    intro m hm
    have other : place ≠ m.place := fun h => unlisted (h ▸ List.mem_map_of_mem hm)
    rw [PortSet.clearRunning, port?_modify]
    simp only [if_neg other, Option.map_id']
  exact ⟨⟨fun m hm => (same m hm).symm ▸ h.listed m hm, h.distinct⟩, List.filterMap_congr same⟩

/-! ## What does not -/

/-- The members stay the same, and no port is managed otherwise than before. -/
structure Stays (s s' : PortSet) : Prop where
  members : s'.members = s.members
  port : ∀ {i p}, s.port? i = some p →
    ∃ q, s'.port? i = some q ∧ q.descriptor = p.descriptor ∧ q.running = p.running

theorem Stays.refl (s : PortSet) : Stays s s := ⟨rfl, fun hp => ⟨_, hp, rfl, rfl⟩⟩

theorem Stays.inOrder (st : Stays s s') (h : s.InOrder) : s'.InOrder := by
  refine ⟨fun m hm => ?_, st.members ▸ h.distinct⟩
  obtain ⟨p, port, id, running⟩ := h.listed m (st.members ▸ hm)
  obtain ⟨q, port', same, managed⟩ := st.port port
  exact ⟨q, port', (congrArg Descriptor.uid same).trans id, managed.trans running⟩

theorem Stays.roll (st : Stays s s') (h : s.InOrder) :
    s'.roll.map Port.descriptor = s.roll.map Port.descriptor := by
  rw [PortSet.roll, PortSet.roll, List.map_filterMap, List.map_filterMap, st.members]
  refine List.filterMap_congr fun m hm => ?_
  obtain ⟨p, port, -⟩ := h.listed m hm
  obtain ⟨q, port', same, -⟩ := st.port port
  rw [port, port', Option.map_some, Option.map_some, same]

theorem stays_modify {f : Port → Port}
    (h : ∀ p, (f p).descriptor = p.descriptor ∧ (f p).running = p.running) :
    Stays s (s.modify place f) := by
  refine ⟨rfl, fun {i p} hp => ⟨if place = i then f p else p, ?_, ?_⟩⟩
  · rw [port?_modify, hp]
    rfl
  · split
    · exact h p
    · exact ⟨rfl, rfl⟩

end PortSet

theorem Rig.Ebbs.stays {r r' : Rig} (h : Rig.Ebbs r r') : PortSet.Stays r.ports r'.ports := by
  refine ⟨h.members, fun {i p} hp => ?_⟩
  rcases h.port i with same | ends
  · exact ⟨p, same.trans hp, rfl, rfl⟩
  · exact ⟨{ p with terminal := none }, ends.trans (by rw [hp]; rfl), rfl, rfl⟩

namespace Traffic

open PortSet

variable {t : Traffic}

/-- Whether a step may change who is a member, or end the management of a port. -/
def Step.regroups : Step → Bool
  | .add _ | .advance _ => true
  | _ => false

theorem stays_install (t : Traffic) (place : Nat) :
    Stays t.rig.ports (t.install place).rig.ports :=
  stays_modify fun p => by cases t.rig.given? p <;> exact ⟨rfl, rfl⟩

theorem stays_patrolOn (t : Traffic) (patrol : Patrol) :
    Stays t.rig.ports (t.patrolOn patrol).rig.ports := by
  cases patrol with
  | visiting left =>
    cases left with
    | nil => exact .refl _
    | cons place left =>
      simp only [patrolOn]
      split <;> exact .refl _
  | looking place left => exact .refl _
  | asking place present left =>
    simp only [patrolOn]
    split
    · exact .refl _
    · split <;> exact .refl _
  | closing place left =>
    simp only [patrolOn]
    split
    · exact .refl _
    · exact (Rig.ebbs_closeAt t.rig place).stays
  | opening place left =>
    simp only [patrolOn]
    split
    · exact .refl _
    · split <;> exact .refl _
  | inside place left => exact t.stays_install place

/-- **Nobody changes the members** who does not add or remove a port. -/
theorem stays_step (t : Traffic) {a : Step} (keeps : a.regroups = false) :
    Stays t.rig.ports (t.step a).1.rig.ports := by
  cases a with
  | change c => exact .refl _
  | add d => cases keeps
  | callRemove uid => exact .refl _
  | advance call => cases keeps
  | beginOpen place =>
    simp only [step]
    split <;> exact .refl _
  | finishOpen place =>
    simp only [step]
    split
    · exact t.stays_install place
    · exact .refl _
  | close place =>
    simp only [step]
    split
    · exact .refl _
    · exact (Rig.ebbs_closeAt t.rig place).stays
  | write place data =>
    simp only [step]
    split
    · exact .refl _
    · exact (Rig.ebbs_writeAt t.rig place data).stays
  | patrol => exact t.stays_patrolOn t.patrol
  | read granted =>
    simp only [step]
    split
    · exact .refl _
    · exact (Rig.ebbs_advance t.rig granted t.watch.round).stays

end Traffic

end Fieldbus
