import Fieldbus.Proofs.Serial.Traffic

/-!
# Ports that were removed

A removal ends the management of a port and closes it afterwards. Whoever has looked at the port
before may still open it, but has its lock until this is done; the removal closes the port after
that, and nobody who looks at it later opens it.

* `Traffic.Gone`: a port that is closed for good.
* `Traffic.Gone.shift`: it stays exactly as it is, whoever does something.
* `Traffic.Reached`: what a removal has achieved in each of its phases.
* **`Traffic.removal_final`**: a port that was removed stays closed, and those who still know it do
  nothing.
-/

namespace Fieldbus

open Rig

namespace Traffic

variable {t t' : Traffic} {place : Nat} {p : Port}

/-- A port that is closed, no longer managed, being opened by nobody and no member. -/
structure Gone (t : Traffic) (place : Nat) (p : Port) : Prop where
  port : t.rig.ports.port? place = some p
  closed : p.terminal = none
  retired : p.running = false
  free : place ∉ t.openings
  unlisted : place ∉ t.rig.ports.snapshot

/-- A place is never used again. -/
theorem Shift.unlisted (s : Shift t t') (h : t.rig.ports.port? place = some p)
    (unlisted : place ∉ t.rig.ports.snapshot) : place ∉ t'.rig.ports.snapshot := by
  intro listed
  obtain ⟨m, hm, rfl⟩ := List.mem_map.mp listed
  rcases s.members hm with old | ⟨new, -⟩
  · exact unlisted (List.mem_map_of_mem old)
  · have : m.place < t.rig.ports.ports.length := (List.getElem?_eq_some_iff.mp h).1
    omega

/-- A port that is gone stays exactly as it is. -/
theorem Gone.shift (g : t.Gone place p) (s : Shift t t') : t'.Gone place p where
  port := by
    rcases s.port_cases g.port with h | h | h | ⟨held, -⟩
    · exact h
    · rw [h, ← g.closed]
    · rw [h, Port.clearRunning, ← g.retired]
    · exact absurd held g.free
  closed := g.closed
  retired := g.retired
  free := by
    intro held
    rcases s.openings held with old | ⟨openable, -⟩
    · exact g.free old
    · obtain ⟨q, port, -, running⟩ := openable_iff.mp openable
      obtain rfl := Option.some.inj (g.port.symm.trans port)
      exact absurd (g.retired.symm.trans running) (by simp)
  unlisted := s.unlisted g.port g.unlisted

/-! ## Removals -/

/-- What a removal has achieved. -/
def Reached (t : Traffic) (c : Removal) : Prop :=
  match c.phase with
  | .unlinking | .finished none => True
  | .retiring place =>
    place ∉ t.rig.ports.snapshot ∧ ∃ p, t.rig.ports.port? place = some p ∧ p.id = c.uid
  | .closing place =>
    place ∉ t.rig.ports.snapshot ∧
      ∃ p, t.rig.ports.port? place = some p ∧ p.id = c.uid ∧ p.running = false
  | .finished (some place) => ∃ p, t.Gone place p ∧ p.id = c.uid

theorem Reached.shift {c : Removal} (h : t.Reached c) (s : Shift t t') : t'.Reached c := by
  obtain ⟨uid, phase⟩ := c
  cases phase with
  | unlinking => trivial
  | retiring place =>
    obtain ⟨unlisted, p, port, id⟩ := h
    obtain ⟨q, port', id', -⟩ := s.kept port
    exact ⟨s.unlisted port unlisted, q, port', id'.trans id⟩
  | closing place =>
    obtain ⟨unlisted, p, port, id, retired⟩ := h
    obtain ⟨q, port', id', stays⟩ := s.kept port
    exact ⟨s.unlisted port unlisted, q, port', id'.trans id, stays retired⟩
  | finished found =>
    cases found with
    | none => trivial
    | some place =>
      obtain ⟨p, gone, id⟩ := h
      exact ⟨p, gone.shift s, id⟩

theorem unlisted_unlink {s : PortSet} {uid : String}
    (keyed : ∀ m ∈ s.members, ∃ p, s.port? m.place = some p ∧ p.id = m.key)
    (found : s.find? uid = some place) :
    place ∉ (s.unlink uid).2.snapshot ∧
      ∃ p, (s.unlink uid).2.port? place = some p ∧ p.id = uid := by
  obtain ⟨m, hm, rfl⟩ := Option.map_eq_some_iff.mp found
  obtain rfl : m.key = uid := by simpa using List.find?_some hm
  obtain ⟨p, port, id⟩ := keyed m (List.mem_of_find?_eq_some hm)
  simp only [PortSet.unlink, found]
  refine ⟨?_, p, port, id⟩
  -- another member of this place would be the same port, and so have the same uid
  intro listed
  obtain ⟨m', hm', same⟩ := List.mem_map.mp listed
  obtain ⟨member, other⟩ := List.mem_filter.mp hm'
  obtain ⟨p', port', id'⟩ := keyed m' member
  rw [same, port] at port'
  obtain rfl := Option.some.inj port'
  exact absurd (id'.symm.trans id) (by simpa using other)

/-- Every phase of a removal achieves what it should. -/
theorem reached_remove (h : t.Orderly) {call : Nat} {uid : String} {phase : Removal.Phase}
    (reached : t.Reached ⟨uid, phase⟩) :
    ∀ c ∈ (t.remove call uid phase).removals,
      c ∈ t.removals ∨ (t.remove call uid phase).Reached c := by
  intro c hc
  cases phase with
  | unlinking =>
    simp only [remove] at hc ⊢
    split at hc
    · next none =>
      rcases List.mem_or_eq_of_mem_set hc with old | rfl
      · exact .inl old
      · exact .inr trivial
    · next place found =>
      rcases List.mem_or_eq_of_mem_set hc with old | rfl
      · exact .inl old
      · exact .inr (unlisted_unlink h.keyed found)
  | retiring place =>
    rcases List.mem_or_eq_of_mem_set hc with old | rfl
    · exact .inl old
    · obtain ⟨unlisted, p, port, id⟩ := reached
      refine .inr ⟨unlisted, p.clearRunning, ?_, id, rfl⟩
      show (t.rig.ports.clearRunning place).port? place = _
      rw [PortSet.clearRunning, PortSet.port?_modify, port, Option.map_some, if_pos rfl]
  | closing place =>
    simp only [remove] at hc ⊢
    split at hc
    · exact .inl hc
    · next free =>
      rcases List.mem_or_eq_of_mem_set hc with old | rfl
      · exact .inl old
      · obtain ⟨unlisted, p, port, id, retired⟩ := reached
        rw [if_neg free]
        refine .inr ⟨{ p with terminal := none }, ⟨?_, rfl, retired, free, ?_⟩, id⟩
        · show (t.rig.closeAt place).2.ports.port? place = _
          rw [closeAt_eq]
          show (t.rig.ports.closeAt place).port? place = _
          rw [PortSet.closeAt, PortSet.port?_modify, port, Option.map_some, if_pos rfl]
          rfl
        · show place ∉ (t.rig.closeAt place).2.ports.snapshot
          rw [closeAt_eq]
          exact unlisted
  | finished found => exact .inl hc

theorem removals_patrolOn (t : Traffic) (patrol : Patrol) :
    (t.patrolOn patrol).removals = t.removals := by
  cases patrol with
  | visiting left =>
    cases left with
    | nil => rfl
    | cons place left =>
      simp only [patrolOn]
      split <;> rfl
  | looking place left => rfl
  | asking place present left =>
    simp only [patrolOn]
    split
    · rfl
    · split <;> rfl
  | closing place left =>
    simp only [patrolOn]
    split <;> rfl
  | opening place left =>
    simp only [patrolOn]
    split
    · rfl
    · split <;> rfl
  | inside place left => rfl

theorem removals_step (t : Traffic) (s : Step) {c : Removal} (hc : c ∈ (t.step s).1.removals) :
    c ∈ t.removals ∨ c.phase = .unlinking ∨
      ∃ call r, r ∈ t.removals ∧ (t.step s).1 = t.remove call r.uid r.phase := by
  cases s with
  | change | add => exact .inl hc
  | callRemove uid =>
    rcases List.mem_append.mp hc with before | new
    · exact .inl before
    · exact .inr (.inl (by rw [List.mem_singleton.mp new]))
  | advance call =>
    cases hr : t.removals[call]? with
    | none =>
      simp only [step, hr] at hc
      exact .inl hc
    | some r => exact .inr (.inr ⟨call, r, List.mem_of_getElem? hr, by simp only [step, hr]⟩)
  | patrol => exact .inl (removals_patrolOn t t.patrol ▸ hc)
  | beginOpen | finishOpen | close | write | read =>
    simp only [step] at hc
    split at hc <;> exact .inl hc

theorem reached_step (h : t.Orderly) (all : ∀ c ∈ t.removals, t.Reached c) (s : Step) :
    ∀ c ∈ (t.step s).1.removals, (t.step s).1.Reached c := by
  intro c hc
  rcases removals_step t s hc with before | new | ⟨call, r, hr, goes⟩
  · exact (all c before).shift (shift_step h s)
  · unfold Reached
    rw [new]
    trivial
  · -- one removal goes on, and the others keep what they have achieved
    have shift := shift_step h s
    rw [goes] at hc shift ⊢
    rcases reached_remove h (all r hr) c hc with before | now
    · exact (all c before).shift shift
    · exact now

theorem reached_run (devices : Devices) (steps : List Step) :
    ∀ c ∈ ((start devices).run steps).1.removals, ((start devices).run steps).1.Reached c := by
  have both := runSteps_invariant Traffic.step
    (fun t => t.Orderly ∧ ∀ c ∈ t.removals, t.Reached c)
    (fun _ s h => ⟨h.1.step s, reached_step h.1 h.2 s⟩) (start devices) steps
    ⟨orderly_start devices, by simp [start]⟩
  exact both.2

/-! ## What comes after a removal -/

theorem opened_of_handed (t : Traffic) (s : Step) {source : Option Nat} {d : Delivery}
    (hd : .handed source d ∈ (t.step s).2) :
    ∃ p id, t.rig.ports.port? d.place = some p ∧ p.terminal = some id := by
  have watched {s : Watch.Step} (hd : .handed source d ∈ (t.watching s).2) :
      ∃ p id, t.rig.ports.port? d.place = some p ∧ p.terminal = some id := by
    obtain ⟨p, id, -, port, opened, -⟩ := Watch.handed_step t.watch s hd
    exact ⟨p, id, port, opened⟩
  cases s with
  | change | add => exact watched hd
  | callRemove | patrol => exact absurd hd (by simp [step])
  | advance | beginOpen | finishOpen =>
    simp only [step] at hd
    split at hd <;> exact absurd hd (by simp)
  | close | write | read =>
    simp only [step] at hd
    split at hd
    · exact absurd hd (by simp)
    · exact watched hd

theorem Gone.run (g : t.Gone place p) (h : t.Orderly) (more : List Step) :
    (t.run more).1.Gone place p ∧
      ∀ source d, .handed source d ∈ (t.run more).2 → d.place ≠ place := by
  induction more generalizing t with
  | nil => exact ⟨g, fun _ _ hd => absurd hd (by simp [Traffic.run])⟩
  | cons s more ih =>
    obtain ⟨gone, quiet⟩ := ih (g.shift (shift_step h s)) (h.step s)
    refine ⟨gone, fun source d hd => ?_⟩
    rcases List.mem_append.mp hd with now | later
    · rintro rfl
      obtain ⟨q, id, port, opened⟩ := opened_of_handed t s now
      obtain rfl := Option.some.inj (g.port.symm.trans port)
      exact absurd (g.closed.symm.trans opened) (by simp)
    · exact quiet source d later

/-- Whoever still knows a port that is gone does nothing: it is not opened, nothing is written to it
or read from it, and handling an event of it changes at most the reader's buffer. -/
structure Final (r : Rig) (place : Nat) (uid : String) : Prop where
  opens : ∀ found, r.openAt found place = (.ok false, r, [])
  writes : ∀ data, r.writeAt place data = (.error (.closed uid), r, [])
  target : r.target? place = none
  handles : ∀ target : Target, target.place = place → ∀ what granted, ∃ buffer,
    r.handle target what granted = ({ r with buffer := buffer }, {})

theorem Gone.final (g : t.Gone place p) : Final t.rig place p.id where
  opens found := by
    have stays (found : Option Nat) : p.openWith found = (.ok false, p) := by
      unfold Port.openWith
      rw [g.retired, Bool.not_false, Bool.or_true]
      rfl
    simp only [openAt, g.port, stays]
    rw [setPort_self g.port]
  writes data := writeAt_of_closed g.port g.closed data
  target := by
    rw [Rig.target?, g.port, Option.bind_some, Port.pollTarget, g.closed]
    rfl
  handles := by
    rintro target rfl what granted
    have stale : p.isCurrent target.generation = false := by
      rw [Port.isCurrent, Port.isOpen, g.closed]
      simp
    cases what with
    | quiet => exact ⟨t.rig.buffer, rfl⟩
    | hangup =>
      have closes : p.closeIfCurrent target.generation = (false, p) := by
        rw [Port.closeIfCurrent, stale]
        rfl
      refine ⟨t.rig.buffer, ?_⟩
      simp only [handle, hangUpAt, g.port, closes]
    | readable =>
      simp only [handle]
      split
      · exact ⟨t.rig.buffer, rfl⟩
      · next buffer _ => exact ⟨buffer, readAt_of_not_current g.port stale buffer _⟩

/-- **A removal is final.** When the removal of a uid is over and there was such a port, then
whatever is done afterwards, the port that was removed is as it was, closed and no longer managed.
It cannot be opened, written to or watched, its handler gets nothing more, and no event of it
changes any port or device. A port that is added under the same uid has another place. -/
theorem removal_final (devices : Devices) (steps more : List Step) {call : Nat} {uid : String}
    {place : Nat}
    (returned : ((start devices).run steps).1.removals[call]? =
      some ⟨uid, .finished (some place)⟩) :
    let before := ((start devices).run steps).1
    let after := before.run more
    ∃ p, p.id = uid ∧ p.isOpen = false ∧ before.rig.ports.port? place = some p ∧
      after.1.rig.ports.port? place = some p ∧
      Final after.1.rig place uid ∧
      (∀ source d, .handed source d ∈ after.2 → d.place ≠ place) ∧
      ∀ place', after.1.rig.ports.find? uid = some place' → place' ≠ place := by
  intro before after
  obtain ⟨p, gone, id⟩ := reached_run devices steps _ (List.mem_of_getElem? returned)
  have orderly : before.Orderly := (orderly_start devices).run steps
  obtain ⟨later, quiet⟩ := gone.run orderly more
  have final : Final (before.run more).1.rig place uid := by
    rw [← show p.id = uid from id]
    exact later.final
  refine ⟨p, id, ?_, gone.port, later.port, final, quiet, fun place' found same => ?_⟩
  · rw [Port.isOpen, gone.closed]
    rfl
  · obtain ⟨m, hm, hp⟩ := Option.map_eq_some_iff.mp found
    exact later.unlisted (List.mem_map.mpr ⟨m, List.mem_of_find?_eq_some hm, hp.trans same⟩)

/-- The monitor has looked at a port and is about to open its path when the port is removed; the
removal waits for it. Then a port of the same uid is added, and the first one is opened again by
somebody who still knows it. -/
theorem removal_final_midway :
    let d : Descriptor := { uid := "U1", device := "/dev/a" }
    let devices : Devices :=
      { terminals := [{ toPort := [1, 2, 3] }]
        links := [(⟨true, [utf8 "dev", utf8 "a"]⟩, .terminal 0)] }
    let steps : List Step := .add d :: List.replicate 5 .patrol ++
      [.callRemove "U1", .advance 0, .advance 0, .advance 0, .patrol, .advance 0]
    let more : List Step := [.add d, .beginOpen 0, .finishOpen 0, .write 0 [9]]
    let before := ((start devices).run steps).1
    before.removals = [⟨"U1", .finished (some 0)⟩] ∧
      before.rig.ports.ports = [{ descriptor := d, generation := 1, running := false }] ∧
      (before.run more).1.rig.ports.find? "U1" = some 1 ∧
      Final (before.run more).1.rig 0 "U1" := by
  intro d devices steps more before
  have removed : before.removals = [⟨"U1", .finished (some 0)⟩] := by decide
  have returned : before.removals[0]? = some ⟨"U1", .finished (some 0)⟩ := by rw [removed]; rfl
  obtain ⟨-, -, -, -, -, final, -, -⟩ := removal_final devices steps more returned
  exact ⟨removed, by decide, by decide, final⟩

end Traffic

end Fieldbus
