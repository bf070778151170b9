import Fieldbus.Proofs.Serial.Move

/-!
# Which port has which device

Paths go away and come back, and ports are closed and opened again. A port that is open has
nevertheless always the device to which its path leads, if the path never leads to another one.

* `Devices.LeadsTo`: the only terminal to which a path may lead.
* `Rig.Wired`: every port has a device of its own.
* **`Rig.Move.wired`**: every move keeps this.
* `Rig.Wired.change`: so does what happens at the far ends, if it leads no path elsewhere.
-/

namespace Fieldbus

/-! ## Paths -/

namespace Devices

variable {d : Devices} {path : String} {id : Nat}

/-- A path leads to the terminal with an id, or to none. -/
def LeadsTo (d : Devices) (path : String) (id : Nat) : Prop :=
  d.node? path ∈ [none, some .file, some (.terminal id)]

instance : Decidable (d.LeadsTo path id) := inferInstanceAs (Decidable (_ ∈ _))

theorem LeadsTo.openable? (h : d.LeadsTo path id) {i : Nat} (hi : d.openable? path = some i) :
    i = id ∧ i < d.terminals.length := by
  unfold Devices.openable? at hi
  split at hi
  · next j leads =>
    split at hi
    · cases hi
    · next alive =>
      obtain rfl := Option.some.inj hi
      refine ⟨?_, ?_⟩
      · simpa [LeadsTo, leads] using h
      · refine Nat.lt_of_not_le fun beyond => alive ?_
        have none : d.terminal? j = none := List.getElem?_eq_none beyond
        simp [isDead, none]
  · cases hi

theorem length_update (t : Terminal) : (d.update id t).terminals.length = d.terminals.length :=
  List.length_set

theorem terminals_putAt (d : Devices) (node : Node) :
    (d.putAt path node).terminals = d.terminals := by
  unfold putAt
  split <;> rfl

theorem length_change (d : Devices) (c : Change) :
    d.terminals.length ≤ (d.change c).1.terminals.length := by
  cases c with
  | relink | allow => exact Nat.le_refl _
  | plug name =>
    have same : (d.hangUp name).2.terminals.length = d.terminals.length := by
      unfold hangUp
      split
      · rfl
      · split
        · rfl
        · exact length_update _
    simp only [change, addTerminal, terminals_putAt, List.length_append, same]
    exact Nat.le_add_right _ _
  | feed | drain | stall | hangUp =>
    simp only [change]
    split
    · exact Nat.le_refl _
    · exact Nat.le_of_eq (length_update _).symm

end Devices

/-! ## Rigs whose ports have devices of their own -/

namespace Rig

/-- The path of every port leads to the device that `T` gives it only, and an open port has that
device. -/
structure Wired (T : Descriptor → Nat) (r : Rig) : Prop where
  /-- Paths lead to the devices of their ports. -/
  leads : ∀ {i p}, r.ports.port? i = some p → r.devices.LeadsTo p.device (T p.descriptor)
  /-- An open port has its own device. -/
  own : ∀ {i p id}, r.ports.port? i = some p → p.terminal = some id →
    id = T p.descriptor ∧ id < r.devices.terminals.length

variable {T : Descriptor → Nat} {r r' : Rig} {es : List Event}

theorem Wired.update (h : Wired T r) (id : Nat) (t : Terminal) :
    Wired T { r with devices := r.devices.update id t } where
  leads := h.leads
  own hp hid := ⟨(h.own hp hid).1, Devices.length_update (d := r.devices) t ▸ (h.own hp hid).2⟩

theorem Wired.setPort (h : Wired T r) {place : Nat} {p q : Port}
    (port : r.ports.port? place = some p) (same : q.descriptor = p.descriptor)
    (own : ∀ id, q.terminal = some id → id = T p.descriptor ∧ id < r.devices.terminals.length) :
    Wired T (r.setPort place q) := by
  refine ⟨fun {i x} hx => ?_, fun {i x id} hx hid => ?_⟩
  all_goals
    rw [port?_setPort port] at hx
    split at hx
  · obtain rfl := Option.some.inj hx
    rw [Port.device, same]
    exact h.leads port
  · exact h.leads hx
  · obtain rfl := Option.some.inj hx
    rw [same]
    exact own id hid
  · exact h.own hx hid

/-- **A port never has the device of another one.** Every move keeps this. -/
theorem Move.wired (m : Move r es r') (h : Wired T r) : Wired T r' := by
  cases m with
  | rest | begins => exact ⟨h.leads, h.own⟩
  | @reads _ p id t port opened line alive waits buffer =>
    have := h.update id { t with toPort := t.toPort.drop p.descriptor.maxLen }
    exact ⟨this.leads, this.own⟩
  | writes port opened line data => exact h.update _ _
  | @opens place p id port closed given =>
    refine h.setPort port rfl fun id' hid => ?_
    obtain rfl := Option.some.inj hid
    exact (h.leads port).openable? (given?_eq_some given).1
  | @ends place p q port same ends buffer =>
    have := h.setPort port same.1 (q := q) fun id hid => by
      rcases ends with ends | ends
      · exact absurd (ends.symm.trans hid) (by simp)
      · exact h.own port (ends.symm.trans hid)
    exact ⟨this.leads, this.own⟩

/-- Something happens at the far ends, and paths still lead to no other terminals. -/
theorem Wired.change (h : Wired T r) (c : Devices.Change)
    (leads : ∀ {i p}, r.ports.port? i = some p →
      (r.devices.change c).1.LeadsTo p.device (T p.descriptor)) :
    Wired T { r with devices := (r.devices.change c).1 } where
  leads := leads
  own hp hid := ⟨(h.own hp hid).1, Nat.lt_of_lt_of_le (h.own hp hid).2 (r.devices.length_change c)⟩

end Rig

end Fieldbus
