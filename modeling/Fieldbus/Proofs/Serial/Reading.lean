import Fieldbus.Proofs.Serial.Move

/-!
# What handlers get

One buffer serves all ports, and a pass of the reader is interrupted by whatever else happens. What
handlers get is nevertheless what the devices sent, and a port that stays open gets all of it within
as many passes as its buffer needs.

* `Watch.step_cases`: a step is a move, or happens at the far ends, or changes nothing but the set.
* `Watch.Serves`: a member has a terminal open in a session.
* `Rig.Round.Meets`: the pass that is under way will still read from a port.
* `Watch.Progress`: how much of what waited has been handed over, counted in passes.
* `Watch.Progress.step`: every step keeps this while the port stays open.
* **`Watch.handed_exactly`**: handlers get what devices sent, in order, in chunks that fit, and in
  time.
-/

namespace Fieldbus

open Rig

namespace Watch

variable {w : Watch} {es : List Event} {s : Step}

/-- A step is a move, or happens at the far ends, or changes nothing but the set. -/
theorem step_cases (w : Watch) (s : Step) :
    Move w.rig (w.step s).2 (w.step s).1.rig ∨
      (∃ c, (w.step s).2 = (w.rig.devices.change c).2 ∧
        (w.step s).1.rig = { w.rig with devices := (w.rig.devices.change c).1 }) ∨
      (w.step s).2 = [] ∧ Regroup w.rig (w.step s).1.rig := by
  cases s with
  | change c => exact .inr (.inl ⟨c, rfl, rfl⟩)
  | add d => exact .inr (.inr ⟨rfl, regroup_add w.rig d⟩)
  | unlink uid => exact .inr (.inr ⟨rfl, regroup_unlink w.rig uid⟩)
  | clearRunning place => exact .inl (move_clearRunning w.rig place)
  | openAt place => exact .inl (move_openAt w.rig place)
  | closeAt place => exact .inl (move_closeAt w.rig place)
  | write place data => exact .inl (move_writeAt w.rig place data)
  | visit place => exact .inl (move_visit w.rig place)
  | read granted => exact .inl (move_advance w.rig granted w.round)

theorem run_cons (w : Watch) (s : Step) (steps : List Step) :
    w.run (s :: steps) =
      (((w.step s).1.run steps).1, (w.step s).2 ++ ((w.step s).1.run steps).2) := rfl

theorem run_append (w : Watch) (steps more : List Step) :
    w.run (steps ++ more) =
      (((w.run steps).1.run more).1, (w.run steps).2 ++ ((w.run steps).1.run more).2) :=
  runSteps_append step w steps more

/-! ## What every step keeps -/

theorem sound_step (h : Sound w.rig) (s : Step) : Sound (w.step s).1.rig := by
  rcases step_cases w s with m | ⟨c, -, hr⟩ | ⟨-, g⟩
  · exact m.sound h
  · rw [hr]
    exact ⟨h.valid, h.exclusive⟩
  · exact g.sound h

theorem sound_run (h : Sound w.rig) (steps : List Step) : Sound (w.run steps).1.rig :=
  runSteps_invariant step (fun w => Sound w.rig) (fun _ s h => sound_step h s) w steps h

theorem descriptor_step {place : Nat} {p : Port} (h : w.rig.ports.port? place = some p)
    (s : Step) :
    ∃ p', (w.step s).1.rig.ports.port? place = some p' ∧ p'.descriptor = p.descriptor := by
  rcases step_cases w s with m | ⟨c, -, hr⟩ | ⟨-, g⟩
  · have hd := m.descriptor place
    rw [h] at hd
    exact Option.map_eq_some_iff.mp hd
  · rw [hr]
    exact ⟨p, h, rfl⟩
  · exact ⟨p, g.port? h, rfl⟩

theorem incoming_step (w : Watch) (s : Step) (id : Nat) :
    w.rig.devices.incoming id ++ sentBy id (w.step s).2 =
      handedFrom id (w.step s).2 ++ (w.step s).1.rig.devices.incoming id := by
  rcases step_cases w s with m | ⟨c, hs, hr⟩ | ⟨hs, g⟩
  · exact m.incoming id
  · rw [hs, hr, (w.rig.devices.no_transfer_change id c).1, List.nil_append]
    exact (w.rig.devices.bytes_change id c).1.symm
  · rw [hs, g.devices]
    exact List.append_nil _

theorem incoming_run (w : Watch) (steps : List Step) (id : Nat) :
    w.rig.devices.incoming id ++ sentBy id (w.run steps).2 =
      handedFrom id (w.run steps).2 ++ (w.run steps).1.rig.devices.incoming id := by
  induction steps generalizing w with
  | nil => exact List.append_nil _
  | cons s steps ih =>
    rw [run_cons, sentBy_append, handedFrom_append, ← List.append_assoc, incoming_step,
      List.append_assoc, ih, List.append_assoc]

theorem handed_step (w : Watch) (s : Step) {source : Option Nat} {d : Delivery}
    (hd : .handed source d ∈ (w.step s).2) :
    ∃ p id t, w.rig.ports.port? d.place = some p ∧ p.terminal = some id ∧
      w.rig.devices.terminal? id = some t ∧ (t.read p.descriptor.maxLen).1 = .bytes d.bytes ∧
      source = some id ∧ d.uid = p.id ∧ 1 ≤ d.bytes.length ∧
      d.bytes.length ≤ p.descriptor.maxLen := by
  rcases step_cases w s with m | ⟨c, hs, -⟩ | ⟨hs, -⟩
  · exact m.handed hd
  · rw [hs] at hd
    exact absurd hd ((w.rig.devices.no_transfer_change 0 c).2.2.2.2 source d)
  · rw [hs] at hd
    exact absurd hd (by simp)

/-! ## Passes of the reader -/

/-- What handlers got, without where it came from. -/
def deliveries (es : List Event) : List Delivery :=
  es.filterMap fun
    | .handed _ d => some d
    | _ => none

theorem deliveries_append (es es' : List Event) :
    deliveries (es ++ es') = deliveries es ++ deliveries es' := by
  simp [deliveries, List.filterMap_append]

theorem deliveries_handings (r : Rig) (e : Effects) : deliveries (r.handings e) = e.deliveries := by
  rw [deliveries, handings, List.filterMap_map]
  exact List.filterMap_some

variable (granted : Nat → Bool)

theorem run_noting (r : Rig) (noted : List Target) (members : List Nat) :
    run ⟨r, .noting granted noted members⟩ (List.replicate members.length (.read granted)) =
      (⟨r, .noting granted (noted ++ members.filterMap r.target?) []⟩, []) := by
  induction members generalizing noted with
  | nil => simp [run]
  | cons place members ih =>
    have hstep : step ⟨r, .noting granted noted (place :: members)⟩ (.read granted) =
        (⟨r, .noting granted (noted ++ (r.target? place).toList) members⟩, []) := rfl
    rw [List.length_cons, List.replicate_succ, run_cons, hstep, ih, List.filterMap_cons]
    cases r.target? place <;> simp

theorem run_acting (r : Rig) (left : List (Target × Readiness × Bool)) :
    (run ⟨r, .acting left⟩ (List.replicate left.length (.read granted))).1 =
        ⟨(r.handleAll left).1, .acting []⟩ ∧
      deliveries (run ⟨r, .acting left⟩ (List.replicate left.length (.read granted))).2 =
        (r.handleAll left).2.deliveries := by
  induction left generalizing r with
  | nil => exact ⟨rfl, rfl⟩
  | cons x left ih =>
    obtain ⟨t, what, ok⟩ := x
    have hstep : step ⟨r, .acting ((t, what, ok) :: left)⟩ (.read granted) =
        (⟨(r.handle t what ok).1, .acting left⟩, r.handings (r.handle t what ok).2) := rfl
    obtain ⟨h1, h2⟩ := ih (r.handle t what ok).1
    rw [List.length_cons, List.replicate_succ, run_cons, hstep]
    refine ⟨h1, ?_⟩
    rw [deliveries_append, deliveries_handings, h2]
    rfl

theorem run_pass (r : Rig) :
    ∃ n, (run ⟨r, .acting []⟩ (List.replicate n (.read granted))).1 =
        ⟨(r.readerPass granted).1, .acting []⟩ ∧
      deliveries (run ⟨r, .acting []⟩ (List.replicate n (.read granted))).2 =
        (r.readerPass granted).2.deliveries := by
  -- it begins, looks at every member, waits, and acts
  have first : step ⟨r, .acting []⟩ (.read granted) =
      (⟨r, .noting granted [] r.ports.snapshot⟩, [.began granted]) := rfl
  have waits : step ⟨r, .noting granted r.capture []⟩ (.read granted) =
      (⟨r, .acting (r.capture.map fun t => (t, r.readiness t, granted t.place))⟩, []) := rfl
  have noting := run_noting granted r [] r.ports.snapshot
  obtain ⟨h1, h2⟩ := run_acting granted r
    (r.capture.map fun t => (t, r.readiness t, granted t.place))
  refine ⟨(r.ports.snapshot.length +
    ((r.capture.map fun t => (t, r.readiness t, granted t.place)).length + 1)) + 1, ?_⟩
  rw [List.replicate_succ, run_cons, first, ← List.replicate_append_replicate, run_append,
    noting]
  rw [List.nil_append, show r.ports.snapshot.filterMap r.target? = r.capture from rfl,
    List.replicate_succ, run_cons, waits]
  exact ⟨h1, h2⟩

/-! ## Open ports -/

/-- A member has a terminal open in a session. -/
structure Serves (t : Target) (p : Port) (w : Watch) : Prop where
  /-- The port is at its place. -/
  port : w.rig.ports.port? t.place = some p
  /-- The terminal is open. -/
  terminal : p.terminal = some t.terminal
  /-- The session is the noted one. -/
  generation : p.generation = t.generation
  /-- The port is a member. -/
  member : t.place ∈ w.rig.ports.snapshot

/-- A port that has a terminal open after a step as well is in the same session. -/
theorem Serves.step {t : Target} {p : Port} (h : Serves t p w) (s : Step)
    (opened : (w.step s).1.rig.source? t.place = some t.terminal)
    (member : t.place ∈ (w.step s).1.rig.ports.snapshot) :
    ∃ p', Serves t p' (w.step s).1 ∧ p'.descriptor = p.descriptor := by
  obtain ⟨p', hp', hpd⟩ := descriptor_step h.port s
  have hid' : p'.terminal = some t.terminal := by rwa [source?_of hp'] at opened
  have hg : p'.generation = p.generation := by
    rcases step_cases w s with m | ⟨c, -, hr⟩ | ⟨-, g⟩
    · exact (m.session h.port hp' h.terminal hid').2
    · rw [hr] at hp'
      rw [Option.some.inj (h.port.symm.trans hp')]
    · rw [Option.some.inj ((g.port? h.port).symm.trans hp')]
  exact ⟨p', ⟨hp', hid', hg.trans h.generation, member⟩, hpd⟩

theorem Serves.isCurrent {t : Target} {p : Port} (h : Serves t p w) :
    p.isCurrent t.generation = true :=
  isCurrent_iff.mpr ⟨h.generation, _, h.terminal⟩

theorem Serves.target? {t : Target} {p : Port} (h : Serves t p w) :
    w.rig.target? t.place = some t := by
  simp [Rig.target?, h.port, Port.pollTarget, h.terminal, h.generation]

end Watch

/-- The pass that is under way will still read from a noted port, or note it first. -/
def Rig.Round.Meets (t : Target) : Round → Prop
  | .noting granted noted members => granted t.place = true ∧ (t ∈ noted ∨ t.place ∈ members)
  | .acting left => ∃ what, (t, what, true) ∈ left ∧ what ≠ .quiet

namespace Watch

variable {w : Watch} {es : List Event} {s : Step} {t : Target} {p : Port}

theorem Serves.incoming_step (h : Serves t p w) (sound : Sound w.rig) (s : Step) :
    w.rig.devices.incoming t.terminal ++ sentBy t.terminal (w.step s).2 =
      handedTo t.place (w.step s).2 ++ (w.step s).1.rig.devices.incoming t.terminal := by
  have same : handedTo t.place (w.step s).2 = handedFrom t.terminal (w.step s).2 := by
    rcases step_cases w s with m | ⟨c, hs, -⟩ | ⟨hs, -⟩
    · exact m.handedTo_eq sound h.port h.terminal
    · rw [hs, (w.rig.devices.no_transfer_change t.terminal c).1,
        (w.rig.devices.no_transfer_change t.place c).2.2.1]
    · rw [hs]
      rfl
  rw [same]
  exact Watch.incoming_step w s t.terminal

/-- Acting on what waiting told about a port, which stays open, takes all that waits from its
terminal, or as much as its buffer holds. -/
theorem Serves.handle (h : Serves t p w) {what : Readiness} (told : what ≠ .quiet)
    (opened : (w.rig.handle t what true).1.source? t.place = some t.terminal) :
    (w.rig.handle t what true).1.devices.incoming t.terminal = [] ∨
      (handedTo t.place (w.rig.handings (w.rig.handle t what true).2)).length =
        p.descriptor.maxLen := by
  -- a port that was closed has no terminal open
  have closed (r : Rig) (hr : w.rig.setPort t.place { p with terminal := none } = r) :
      r.source? t.place ≠ some t.terminal := by
    rw [← hr, source?_of ((port?_setPort h.port).trans (if_pos rfl))]
    simp
  cases what with
  | quiet => exact absurd rfl told
  | hangup =>
    refine absurd opened (closed _ ?_)
    show _ = (w.rig.hangUpAt t).1
    rw [hangUpAt_of_current h.port h.isCurrent]
  | readable =>
    obtain ⟨buffer, room, reads⟩ := handle_granted h.port
    rw [reads] at opened ⊢
    cases hd : w.rig.devices.terminal? t.terminal with
    | none =>
      rw [readAt_of_missing h.port h.terminal hd]
      exact .inl (by simp [Devices.incoming, Devices.line, hd])
    | some d =>
      cases hh : d.hungUp with
      | true =>
        rw [readAt_of_hungUp h.port h.isCurrent h.terminal hd hh] at opened
        exact absurd opened (closed (w.rig.setPort t.place { p with terminal := none }) rfl)
      | false =>
        by_cases hw : d.toPort.take p.descriptor.maxLen = []
        · rw [readAt_of_silent h.port h.isCurrent h.terminal hd room hh hw]
          rcases List.take_eq_nil_iff.mp hw with hm | hm
          · exact .inr hm.symm
          · exact .inl (by rw [Devices.incoming, Devices.line_of hd, hm])
        · rw [readAt_of_waits h.port h.isCurrent h.terminal hd room hh hw]
          rcases Nat.le_total d.toPort.length p.descriptor.maxLen with hle | hle
          · left
            rw [Devices.incoming, Devices.line_update_self hd]
            exact List.drop_eq_nil_of_le hle
          · right
            simp [handings, Rig.handedTo, List.length_take, Nat.min_eq_left hle]

theorem Serves.meets_step (h : Serves t p w) (s : Step)
    (opened : (w.step s).1.rig.source? t.place = some t.terminal) (meets : w.round.Meets t) :
    (w.step s).1.round.Meets t ∨ (w.step s).1.rig.devices.incoming t.terminal = [] ∨
      (handedTo t.place (w.step s).2).length = p.descriptor.maxLen := by
  obtain ⟨rig, round⟩ := w
  cases s with
  | read granted =>
    cases round with
    | noting g noted members =>
      obtain ⟨hg, ht⟩ := meets
      cases members with
      | cons place members =>
        refine .inl ⟨hg, ?_⟩
        rcases ht with ht | ht
        · exact .inl (List.mem_append_left _ ht)
        · rcases List.mem_cons.mp ht with rfl | ht
          · -- the port is noted as it is
            exact .inl (List.mem_append_right _ (by simp [h.target?]))
          · exact .inr ht
      | nil =>
        replace ht : t ∈ noted := ht.resolve_right (by simp)
        cases hr : rig.readiness t with
        | quiet =>
          exact .inr (.inl (incoming_of_quiet hr))
        | hangup | readable =>
          refine .inl ⟨rig.readiness t, List.mem_map.mpr ⟨t, ht, by rw [hg]⟩, ?_⟩
          rw [hr]
          simp
    | acting left =>
      obtain ⟨what, hx, told⟩ := meets
      cases left with
      | nil => exact absurd hx (by simp)
      | cons x left =>
        rcases List.mem_cons.mp hx with rfl | hx
        · exact .inr (h.handle told opened)
        · exact .inl ⟨what, hx, told⟩
  | _ => exact .inl meets

theorem passes_step (member : t.place ∈ w.rig.ports.snapshot) (s : Step) :
    passes t.place (w.step s).2 = 0 ∨
      passes t.place (w.step s).2 = 1 ∧ ¬ w.round.Meets t ∧ (w.step s).1.round.Meets t := by
  obtain ⟨rig, round⟩ := w
  cases s with
  | read granted =>
    cases round with
    | noting g noted members => cases members <;> exact .inl rfl
    | acting left =>
      cases left with
      | nil =>
        cases hg : granted t.place with
        | false => exact .inl (by simp [Watch.step, Rig.advance, beginning, handings, passes, hg])
        | true =>
          refine .inr ⟨by simp [Watch.step, Rig.advance, beginning, handings, passes, hg], ?_,
            hg, .inr member⟩
          rintro ⟨what, hx, -⟩
          exact absurd hx (by simp)
      | cons x left => exact .inl (passes_handings rig t.place _)
  | change c => exact .inl (rig.devices.no_transfer_change t.place c).2.2.2.1
  | write place data => exact .inl (by simp [Watch.step, passes, List.countP_eq_zero])
  | _ => exact .inl rfl

/-- How much of what waited for a port has been handed over, while the port stayed open. Every pass
that has met the port has handed over as much as the buffer of the port holds, or all that waited.
-/
structure Progress (t : Target) (waiting : Bytes) (maxLen : Nat) (w : Watch) (es : List Event) :
    Prop where
  /-- The rig is sound. -/
  sound : Sound w.rig
  /-- The port is still open. -/
  serves : ∃ p, Serves t p w ∧ p.descriptor.maxLen = maxLen
  /-- What waited and what came since was handed over or waits. -/
  incoming : waiting ++ sentBy t.terminal es =
    handedTo t.place es ++ w.rig.devices.incoming t.terminal
  /-- The passes that have met the port have handed over enough. -/
  paced : waiting.length ≤ (handedTo t.place es).length ∨
    passes t.place es * maxLen ≤ (handedTo t.place es).length ∨
      w.round.Meets t ∧ passes t.place es * maxLen ≤ (handedTo t.place es).length + maxLen

theorem Progress.step {waiting : Bytes} {maxLen : Nat} (h : Progress t waiting maxLen w es)
    (s : Step) (opened : (w.step s).1.rig.source? t.place = some t.terminal)
    (member : t.place ∈ (w.step s).1.rig.ports.snapshot) :
    Progress t waiting maxLen (w.step s).1 (es ++ (w.step s).2) := by
  obtain ⟨p, serves, rfl⟩ := h.serves
  obtain ⟨p', serves', hpd⟩ := serves.step s opened member
  have incoming : waiting ++ sentBy t.terminal (es ++ (w.step s).2) =
      handedTo t.place (es ++ (w.step s).2) ++ (w.step s).1.rig.devices.incoming t.terminal := by
    rw [sentBy_append, handedTo_append, ← List.append_assoc, h.incoming, List.append_assoc,
      serves.incoming_step h.sound, List.append_assoc]
  refine ⟨sound_step h.sound s, ⟨p', serves', by rw [hpd]⟩, incoming, ?_⟩
  have hlen := congrArg List.length incoming
  simp only [handedTo_append, passes_append, List.length_append, Nat.add_mul] at hlen ⊢
  rcases passes_step serves.member s with hk | ⟨hk, not, meets'⟩
  · rw [hk, Nat.zero_mul]
    rcases h.paced with paced | paced | ⟨meets, paced⟩
    · left; omega
    · right; left; omega
    · rcases serves.meets_step s opened meets with meets' | empty | full
      · exact .inr (.inr ⟨meets', by omega⟩)
      · left
        rw [empty, List.length_nil] at hlen
        omega
      · right; left; omega
  · -- a pass begins, so no other one is under way
    rw [hk, Nat.one_mul]
    rcases h.paced with paced | paced | ⟨meets, -⟩
    · left; omega
    · exact .inr (.inr ⟨meets', by omega⟩)
    · exact absurd meets not

/-- The port at a place is a member and has a terminal open. -/
def Opens (place id : Nat) (w : Watch) : Prop :=
  w.rig.source? place = some id ∧ place ∈ w.rig.ports.snapshot

instance (place id : Nat) (w : Watch) : Decidable (w.Opens place id) := by
  unfold Opens
  infer_instance

/-- The port at a place is a member and has a terminal open, all the time while steps are made. -/
def StaysOpen (place id : Nat) : Watch → List Step → Prop
  | w, [] => w.Opens place id
  | w, s :: steps => w.Opens place id ∧ (w.step s).1.StaysOpen place id steps

instance StaysOpen.decidable (place id : Nat) :
    (w : Watch) → (steps : List Step) → Decidable (w.StaysOpen place id steps)
  | w, [] => inferInstanceAs (Decidable (w.Opens place id))
  | w, s :: steps =>
    have := StaysOpen.decidable place id (w.step s).1 steps
    inferInstanceAs (Decidable (w.Opens place id ∧ (w.step s).1.StaysOpen place id steps))

theorem StaysOpen.now {place id : Nat} {steps : List Step} (h : w.StaysOpen place id steps) :
    w.Opens place id := by
  cases steps with
  | nil => exact h
  | cons s steps => exact h.1

theorem Progress.run {waiting : Bytes} {maxLen : Nat} (steps : List Step) {w : Watch}
    {es : List Event} (h : Progress t waiting maxLen w es)
    (stays : w.StaysOpen t.place t.terminal steps) :
    Progress t waiting maxLen (w.run steps).1 (es ++ (w.run steps).2) := by
  induction steps generalizing w es with
  | nil =>
    rw [show w.run [] = (w, []) from rfl, List.append_nil]
    exact h
  | cons s steps ih =>
    obtain ⟨opened, member⟩ := stays.2.now
    rw [run_cons, ← List.append_assoc]
    exact ih (h.step s opened member) stays.2

/-- After as many passes as the buffer of a port needs, all that waited has been handed over. -/
theorem Progress.delivered {waiting : Bytes} {maxLen : Nat} (h : Progress t waiting maxLen w es)
    (idle : w.round = .acting [])
    (enough : (waiting.length + maxLen - 1) / maxLen ≤ passes t.place es) :
    waiting <+: handedTo t.place es := by
  obtain ⟨p, serves, rfl⟩ := h.serves
  have hle : waiting.length ≤ (handedTo t.place es).length := by
    rcases h.paced with paced | paced | ⟨meets, -⟩
    · exact paced
    · have pos : 0 < p.descriptor.maxLen := (h.sound.valid serves.port).maxLen_pos
      have ceil := Nat.lt_div_mul_add pos (a := waiting.length + p.descriptor.maxLen - 1)
      have enough := Nat.mul_le_mul_right p.descriptor.maxLen enough
      omega
    · -- no port is left to act on
      rw [idle] at meets
      obtain ⟨what, hx, -⟩ := meets
      exact absurd hx (by simp)
  exact List.prefix_of_prefix_length_le ⟨_, rfl⟩ ⟨_, h.incoming.symm⟩ hle

/-- **What handlers get.** Let everything happen in any order. Whatever a handler gets next is what
a read from the terminal that its port has open gives, between one byte and as many as the port
allows, under the id of the port. All that handlers have got from a terminal is, in order, all that
waited there and came since, up to what still waits. A port that stays open gets all this itself,
and after as many passes as its buffer needs for what waited it has got that. -/
theorem handed_exactly (devices : Devices) (buffer : Bytes) (steps : List Step) :
    let r := run { rig := { devices := devices, buffer := buffer } } steps
    (∀ s source d, .handed source d ∈ (r.1.step s).2 →
      ∃ p id t, r.1.rig.ports.port? d.place = some p ∧ p.terminal = some id ∧
        r.1.rig.devices.terminal? id = some t ∧
        (t.read p.descriptor.maxLen).1 = .bytes d.bytes ∧
        source = some id ∧ d.uid = p.id ∧ 1 ≤ d.bytes.length ∧
        d.bytes.length ≤ p.descriptor.maxLen) ∧
    (∀ id, devices.incoming id ++ sentBy id r.2 =
      handedFrom id r.2 ++ r.1.rig.devices.incoming id) ∧
    ∀ place id p more, r.1.rig.ports.port? place = some p → r.1.StaysOpen place id more →
      let waiting := r.1.rig.devices.incoming id
      let v := r.1.run more
      waiting ++ sentBy id v.2 = handedTo place v.2 ++ v.1.rig.devices.incoming id ∧
        (v.1.round = .acting [] →
          (waiting.length + p.descriptor.maxLen - 1) / p.descriptor.maxLen ≤ passes place v.2 →
          waiting <+: handedTo place v.2) := by
  intro r
  refine ⟨fun s source d hd => handed_step r.1 s hd,
    fun id => incoming_run { rig := { devices := devices, buffer := buffer } } steps id, ?_⟩
  intro place id p more hp stays waiting v
  obtain ⟨opened, member⟩ := stays.now
  rw [source?_of hp] at opened
  have start : Progress ⟨place, id, p.generation⟩ waiting p.descriptor.maxLen r.1 [] := {
    sound := sound_run (.initial devices buffer) steps
    serves := ⟨p, ⟨hp, opened, rfl, member⟩, rfl⟩
    incoming := List.append_nil _
    paced := .inr (.inl (by simp [passes])) }
  have after := start.run more stays
  rw [List.nil_append] at after
  exact ⟨after.incoming, fun idle enough => after.delivered idle enough⟩

/-- A port whose buffer holds two bytes has five of them waiting, and a sixth comes while the reader
is under way. After three passes, in which another port is read into the same buffer, its handler
has got what waited. -/
theorem handed_exactly_two_ports :
    let a : Descriptor := { uid := "A", device := "/dev/a", maxLen := 2 }
    let b : Descriptor := { uid := "B", device := "/dev/b", maxLen := 8 }
    let devices : Devices :=
      { terminals := [{ toPort := [1, 2, 3, 4, 5] }, { toPort := [9, 9, 9] }]
        links := [(⟨true, [utf8 "dev", utf8 "a"]⟩, .terminal 0),
          (⟨true, [utf8 "dev", utf8 "b"]⟩, .terminal 1)] }
    let steps : List Step := [.add a, .add b, .openAt 1, .openAt 0]
    let pass : List Step := List.replicate 6 (.read fun _ => true)
    let more := pass ++ .change (.feed 0 [6]) :: pass ++ pass
    let r := run { rig := { devices := devices, buffer := [7] } } steps
    r.1.StaysOpen 0 0 more ∧ [1, 2, 3, 4, 5] <+: handedTo 0 (r.1.run more).2 := by
  intro a b devices steps pass more
  have h := (handed_exactly devices [7] steps).2.2 0 0
    { descriptor := a, terminal := some 0, generation := 1 } more
  -- the runs are compared by name from here on, and computed only where that is asked for
  revert h
  generalize hr : run { rig := { devices := devices, buffer := [7] } } steps = r
  intro h
  have port : r.1.rig.ports.port? 0 =
      some { descriptor := a, terminal := some 0, generation := 1 } := by rw [← hr]; decide
  have waits : r.1.rig.devices.incoming 0 = [1, 2, 3, 4, 5] := by rw [← hr]; decide
  have stays : r.1.StaysOpen 0 0 more := by rw [← hr]; decide
  have idle : (r.1.run more).1.round = .acting [] := by
    have rests : (match (r.1.run more).1.round with
        | .acting left => some left
        | .noting _ _ _ => none) = some [] := by rw [← hr]; decide
    split at rests
    · next h => rw [h, Option.some.inj rests]
    · exact absurd rests (by simp)
  have passes : passes 0 (r.1.run more).2 = 3 := by rw [← hr]; decide
  obtain ⟨-, enough⟩ := h port stays
  rw [← waits]
  refine ⟨stays, enough idle ?_⟩
  rw [waits, passes]
  decide
end Watch

end Fieldbus
