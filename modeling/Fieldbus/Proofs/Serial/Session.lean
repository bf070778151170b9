import Fieldbus.Proofs.Serial.Move
import Fieldbus.Serial.Session
import Mathlib.Algebra.Group.Nat.Defs

/-!
# Sessions and what was noted about them

The generation grows when a session begins and stays as it is when one ends. So a port that is
closed may still have the generation of the session that ended, and a port that is open may have
another one. Both together tell whether the session that was noted is still the one that is open.

* `Port.step_cases`: a step leaves the session alone, or ends it, or begins one.
* `Port.generation_run`: generations count the sessions.
* `Port.staysOpen_iff`: a session lasts if no other one begins and the port is open at the end.
* `Port.Stale`, `Port.Live`: what becomes of those who come with a generation.
* **`Port.stale_inert`**: nobody acts on a session that is over.
-/

namespace Fieldbus

namespace Port

variable {p : Port} {steps : List Step}

/-! ## Steps -/

theorem readReady_cases (p : Port) (g : UInt64) (buffer : Bytes) (read : DeviceRead) :
    (p.readReady g buffer read).2.2 = p ∨
      (p.readReady g buffer read).2.2 = { p with terminal := none } := by
  unfold readReady
  split
  · exact .inl rfl
  · split
    · exact .inl rfl
    · exact .inl rfl
    · exact .inl rfl
    · exact .inr rfl

theorem write_cases (p : Port) (outcome : DeviceWrite) :
    (p.write outcome).2 = p ∨ (p.write outcome).2 = { p with terminal := none } := by
  unfold write
  split
  · exact .inl rfl
  · split
    · exact .inl rfl
    · exact .inl rfl
    · exact .inr rfl

/-- A step leaves the session alone, or ends it, or begins one. -/
theorem step_cases (p : Port) (s : Step) :
    (p.step s).1.generation = p.generation ∧ openings (p.step s).2 = 0 ∧
        ((p.step s).1.terminal = p.terminal ∨ (p.step s).1.terminal = none) ∨
      p.isOpen = false ∧ openings (p.step s).2 = 1 ∧
        (p.step s).1.generation = p.generation + 1 ∧ (p.step s).1.isOpen = true := by
  have ends {q : Port} (h : q = p ∨ q = { p with terminal := none }) :
      q.generation = p.generation ∧ (q.terminal = p.terminal ∨ q.terminal = none) := by
    rcases h with rfl | rfl
    · exact ⟨rfl, .inl rfl⟩
    · exact ⟨rfl, .inr rfl⟩
  cases s with
  | openWith found =>
    simp only [step, openWith]
    split
    · exact .inl ⟨rfl, rfl, .inl rfl⟩
    · next h =>
      have closed : p.isOpen = false := by
        simp only [Bool.or_eq_true, not_or] at h
        simpa using h.1
      cases found with
      | none => exact .inl ⟨rfl, rfl, .inl rfl⟩
      | some id => exact .inr ⟨closed, rfl, rfl, rfl⟩
  | close => exact .inl ⟨rfl, rfl, .inr rfl⟩
  | clearRunning => exact .inl ⟨rfl, rfl, .inl rfl⟩
  | retire => exact .inl ⟨rfl, rfl, .inr rfl⟩
  | write outcome =>
    obtain ⟨same, terminal⟩ := ends (p.write_cases outcome)
    exact .inl ⟨same, rfl, terminal⟩
  | pollTarget => exact .inl ⟨rfl, rfl, .inl rfl⟩
  | readReady g buffer read =>
    obtain ⟨same, terminal⟩ := ends (p.readReady_cases g buffer read)
    exact .inl ⟨same, rfl, terminal⟩
  | closeIfCurrent g =>
    simp only [step, closeIfCurrent]
    split
    · exact .inl ⟨rfl, rfl, .inr rfl⟩
    · exact .inl ⟨rfl, rfl, .inl rfl⟩

/-! ## Runs -/

theorem openings_run_cons (p : Port) (s : Step) (steps : List Step) :
    openings (p.run (s :: steps)).2 =
      openings (p.step s).2 + openings ((p.step s).1.run steps).2 :=
  List.countP_append

/-- Generations count the sessions. -/
theorem generation_run (p : Port) (steps : List Step) :
    (p.run steps).1.generation = p.generation + UInt64.ofNat (openings (p.run steps).2) := by
  induction steps generalizing p with
  | nil => simp [run, openings]
  | cons s steps ih =>
    have rest : (p.run (s :: steps)).1.generation = ((p.step s).1.run steps).1.generation := rfl
    rw [rest, ih, openings_run_cons, UInt64.ofNat_add, ← UInt64.add_assoc]
    rcases step_cases p s with ⟨same, none, -⟩ | ⟨-, one, next, -⟩
    · rw [same, none]
      simp
    · rw [next, one]
      rfl

/-- If no session begins, the port keeps its terminal or loses it. -/
theorem terminal_run (none : openings (p.run steps).2 = 0) :
    (p.run steps).1.terminal = p.terminal ∨ (p.run steps).1.terminal = Option.none := by
  induction steps generalizing p with
  | nil => exact .inl rfl
  | cons s steps ih =>
    rw [openings_run_cons, Nat.add_eq_zero_iff] at none
    rcases step_cases p s with ⟨-, -, kept | lost⟩ | ⟨-, one, -, -⟩
    · rw [← kept]
      exact ih none.2
    · rcases ih none.2 with h | h
      · exact .inr (h.trans lost)
      · exact .inr h
    · omega

/-- A session lasts if no other one begins and the port is open at the end. -/
theorem staysOpen_iff (opened : p.isOpen = true) :
    p.StaysOpen steps ↔ openings (p.run steps).2 = 0 ∧ (p.run steps).1.isOpen = true := by
  induction steps generalizing p with
  | nil => exact ⟨fun h => ⟨rfl, h⟩, fun h => h.2⟩
  | cons s steps ih =>
    have rest : (p.run (s :: steps)).1 = ((p.step s).1.run steps).1 := rfl
    rw [StaysOpen, openings_run_cons, Nat.add_eq_zero_iff, rest]
    rcases step_cases p s with ⟨-, none, -⟩ | ⟨closed, -, -, -⟩
    · constructor
      · rintro ⟨-, stays⟩
        have now : (p.step s).1.isOpen = true := by
          cases steps with
          | nil => exact stays
          | cons => exact stays.1
        obtain ⟨later, last⟩ := (ih now).mp stays
        exact ⟨⟨none, later⟩, last⟩
      · rintro ⟨⟨-, later⟩, last⟩
        -- the port is open at the end, so it cannot have lost its terminal in this step
        have now : (p.step s).1.isOpen = true := by
          unfold isOpen at last ⊢
          rcases terminal_run later with kept | lost
          · rwa [← kept]
          · rw [lost] at last
            exact absurd last (by simp)
        exact ⟨opened, (ih now).mpr ⟨later, last⟩⟩
    · exact absurd opened (by simp [closed])

/-! ## What was noted -/

/-- Whoever comes with this generation does nothing to the port: nothing is read, no handler gets
anything, and a session that is open stays open. -/
structure Stale (g : UInt64) (q : Port) : Prop where
  read : ∀ buffer given, q.readReady g buffer given = (.stale, buffer, q)
  close : q.closeIfCurrent g = (false, q)
  readAt : ∀ (r : Rig) (t : Rig.Target) buffer capacity, r.ports.port? t.place = some q →
    t.generation = g → r.readAt t buffer capacity = ({ r with buffer := buffer }, {})
  hangUpAt : ∀ (r : Rig) (t : Rig.Target), r.ports.port? t.place = some q →
    t.generation = g → r.hangUpAt t = (r, {})

/-- Whoever comes with this generation acts on the session that is open at this terminal: the bytes
are those of its device, as many as there is room for, and it is this session that is closed. -/
structure Live (id : Nat) (g : UInt64) (q : Port) : Prop where
  target : q.pollTarget = some (id, g)
  read : ∀ buffer bs, bs ≠ [] → bs.length ≤ buffer.length →
    q.readReady g buffer (.bytes bs) = (.delivered bs, fill buffer bs, q)
  close : q.closeIfCurrent g = (true, q.close.2)
  readAt : ∀ (r : Rig) (t : Rig.Target) (d : Terminal) buffer capacity,
    r.ports.port? t.place = some q → t.generation = g → r.devices.terminal? id = some d →
    let room := (buffer.take capacity).length
    (r.readAt t buffer capacity).1.devices = r.devices.update id (d.read room).2 ∧
      (r.readAt t buffer capacity).2.deliveries.flatMap Delivery.bytes =
        if d.hungUp then [] else d.toPort.take room
  hangUpAt : ∀ (r : Rig) (t : Rig.Target), r.ports.port? t.place = some q →
    t.generation = g → (r.hangUpAt t).1 = r.setPort t.place q.close.2

theorem stale_of_not_current {g : UInt64} (past : p.isCurrent g = false) : p.Stale g where
  read buffer given := by
    unfold readReady
    rw [past]
    rfl
  close := by
    unfold closeIfCurrent
    rw [past]
    rfl
  readAt r t buffer capacity h hg := Rig.readAt_of_not_current h (hg ▸ past) buffer capacity
  hangUpAt r t h hg := by
    subst hg
    simp [Rig.hangUpAt, h, closeIfCurrent, past]

theorem live_of_current {g : UInt64} {id : Nat} (current : p.isCurrent g = true)
    (held : p.terminal = some id) : p.Live id g where
  target := by
    rw [pollTarget, held, (Rig.isCurrent_iff.mp current).1]
    rfl
  read buffer bs hbs room := Rig.readReady_of_current current hbs room
  close := by
    unfold closeIfCurrent
    rw [current]
    rfl
  readAt r t d buffer capacity h hg hd := by
    subst hg
    intro room
    have size : (buffer.take capacity).length = room := rfl
    cases hh : d.hungUp with
    | true =>
      rw [Rig.readAt_of_hungUp h current held hd hh, Terminal.read_of_hungUp hh,
        Devices.update_self hd]
      exact ⟨rfl, rfl⟩
    | false =>
      rw [Terminal.read_of_alive hh]
      by_cases hw : d.toPort.take room = []
      · have rest : d.toPort.drop room = d.toPort := by
          have whole := List.take_append_drop room d.toPort
          rwa [hw, List.nil_append] at whole
        rw [Rig.readAt_of_silent h current held hd size hh hw, rest, hw, Devices.update_self hd]
        exact ⟨rfl, rfl⟩
      · rw [Rig.readAt_of_waits h current held hd size hh hw]
        exact ⟨rfl, List.append_nil _⟩
  hangUpAt r t h hg := by
    rw [Rig.hangUpAt_of_current h (hg ▸ current)]
    rfl

/-- **Nobody acts on a session that is over.** What was noted about an open port is a terminal and a
generation. Whatever is done with the port afterwards, as long as fewer than `2 ^ 64` sessions
begin: once the session that was noted has ended, whoever comes with its generation finds it stale,
be another session open or not; while it lasts, they act on exactly this session. What is noted
later has the same generation only if it is the same session. -/
theorem stale_inert {id : Nat} {g : UInt64} (noted : p.pollTarget = some (id, g))
    (few : openings (p.run steps).2 < 2 ^ 64) :
    (¬ p.StaysOpen steps → (p.run steps).1.Stale g) ∧
      (p.StaysOpen steps → (p.run steps).1.Live id g) ∧
      ∀ id' g', (p.run steps).1.pollTarget = some (id', g') → (g' = g ↔ p.StaysOpen steps) := by
  obtain ⟨id, terminal, here⟩ := Option.map_eq_some_iff.mp noted
  obtain ⟨rfl, rfl⟩ := Prod.mk.inj here
  have opened : p.isOpen = true := by rw [isOpen, terminal]; rfl
  have same : (p.run steps).1.generation = p.generation ↔ openings (p.run steps).2 = 0 := by
    rw [generation_run, UInt64.add_eq_left, ← UInt64.toNat_inj, UInt64.toNat_ofNat',
      Nat.mod_eq_of_lt few, UInt64.toNat_zero]
  have current : (p.run steps).1.isCurrent p.generation = true ↔ p.StaysOpen steps := by
    rw [staysOpen_iff opened, ← same, isCurrent]
    simp
  refine ⟨fun past => ?_, fun stays => live_of_current (current.mpr stays) ?_, ?_⟩
  · exact stale_of_not_current (Bool.eq_false_iff.mpr fun h => past (current.mp h))
  · obtain ⟨none, last⟩ := (staysOpen_iff opened).mp stays
    rcases terminal_run none with kept | lost
    · exact kept.trans terminal
    · exact absurd last (by simp [isOpen, lost])
  · intro id' g' later
    obtain ⟨id'', ht, hg⟩ := Option.map_eq_some_iff.mp later
    obtain ⟨rfl, rfl⟩ := Prod.mk.inj hg
    rw [← current, isCurrent, isOpen, ht]
    simp

/-- A port that was opened again while an event of its first session was still to be handled. -/
theorem stale_inert_reopened :
    let p : Port := ⟨{ uid := "U1", device := "/dev/ttyS1" }, some 3, 1, true⟩
    let steps : List Step := [.write (.failed .fatal), .openWith (some 4), .openWith (some 5)]
    p.pollTarget = some (3, 1) ∧ (p.run steps).1.pollTarget = some (4, 2) ∧
      (p.run steps).1.Stale 1 := by
  intro p steps
  have noted : p.pollTarget = some (3, 1) := by decide
  have few : openings (p.run steps).2 < 2 ^ 64 := by decide
  have past : ¬ p.StaysOpen steps := by decide
  exact ⟨noted, by decide, (stale_inert noted few).1 past⟩

end Port

end Fieldbus
