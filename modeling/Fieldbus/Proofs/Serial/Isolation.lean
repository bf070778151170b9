import Fieldbus.Proofs.Serial.Monitoring

/-!
# One reader for many ports

The reader meets the ports one after the other and uses one buffer for all of them. What it does
about a port depends on this port, on its line, and on what waiting told about it. Other ports may
come and go meanwhile, hang up, fail, ask for more memory than there is, or be used by anybody.

* `Rig.Seated`: a port is at a place, with a line that no other port has open.
* `Port.served`: what becomes of a port that the reader meets.
* `Rig.Handled`: what the reader does when it meets a port, and where.
* `Watch.Spares`, `Watch.Turn`: what leaves a port alone, and a run in which the reader meets it.
* `Rig.Fatal`: what the reader closes a port for.
* **`Watch.faults_stay_apart`**: what becomes of a port is the same whatever the others are.
-/

namespace Fieldbus

namespace Rig

variable {r r' : Rig} {place i : Nat} {p q : Port} {line : Option Terminal} {es : List Event}

/-- The line that a port has open. -/
def line? (r : Rig) (p : Port) : Option Terminal := p.terminal.bind r.devices.terminal?

/-- A port is at a place, and no other port has its line open. -/
structure Seated (r : Rig) (place : Nat) (p : Port) (line : Option Terminal) : Prop where
  port : r.ports.port? place = some p
  line : r.line? p = line
  sole : ∀ {i q id}, r.ports.port? i = some q → q.terminal = some id → p.terminal = some id →
    i = place

/-- What the handler of the port at a place was called with. -/
def calls (place : Nat) (ds : List Delivery) : List (String × Bytes) :=
  ds.filterMap fun d => if d.place = place then some (d.uid, d.bytes) else none

/-- What waiting tells about a line. -/
def told : Option Terminal → Readiness
  | none => .hangup
  | some d => if d.hungUp then .hangup else if d.toPort.isEmpty then .quiet else .readable

end Rig

/-- What becomes of a port and its line when the reader acts on what waiting told about a session,
and what the handler is called with. -/
def Port.served (p : Port) (line : Option Terminal) (generation : UInt64) (what : Rig.Readiness) :
    Port × Option Terminal × List (String × Bytes) :=
  if p.isCurrent generation then
    match what, line with
    | .hangup, _ => ({ p with terminal := none }, none, [])
    | .readable, some d =>
      if d.hungUp then ({ p with terminal := none }, none, [])
      else
        let bs := d.toPort.take p.descriptor.maxLen
        (p, some { d with toPort := d.toPort.drop p.descriptor.maxLen },
          if bs = [] then [] else [(p.id, bs)])
    | _, _ => (p, line, [])
  else (p, line, [])

namespace Rig

variable {r r' : Rig} {place i : Nat} {p q : Port} {line : Option Terminal} {es : List Event}
  {t : Target} {what : Readiness} {granted : Bool}

theorem served_of_stale {generation : UInt64} (hc : p.isCurrent generation = false) :
    p.served line generation what = (p, line, []) := by
  simp only [Port.served, hc, Bool.false_eq_true, if_false]

theorem served_readable {generation : UInt64} (hc : p.isCurrent generation = true) (d : Terminal) :
    p.served (some d) generation .readable =
      if d.hungUp then ({ p with terminal := none }, none, [])
      else
        (p, some { d with toPort := d.toPort.drop p.descriptor.maxLen },
          if d.toPort.take p.descriptor.maxLen = [] then []
          else [(p.id, d.toPort.take p.descriptor.maxLen)]) := by
  simp only [Port.served, hc, if_true]

@[simp] theorem calls_nil (place : Nat) : calls place [] = [] := rfl

@[simp] theorem calls_append (place : Nat) (ds ds' : List Delivery) :
    calls place (ds ++ ds') = calls place ds ++ calls place ds' :=
  List.filterMap_append

theorem calls_of_other {ds : List Delivery} (h : ∀ d ∈ ds, d.place ≠ place) :
    calls place ds = [] := by
  rw [calls, List.filterMap_eq_nil_iff]
  exact fun d hd => if_neg (h d hd)

theorem take_fill_eq (buffer bs : Bytes) :
    (Port.fill buffer bs).take bs.length = bs.take buffer.length := by
  rcases Nat.le_total bs.length buffer.length with room | short
  · rw [take_fill room, List.take_of_length_le room]
  · rw [Port.fill, List.drop_eq_nil_of_le short, List.append_nil, List.take_take,
      Nat.min_eq_right short]

/-- **What the buffer held does not matter,** whatever a read gives. -/
theorem readReady_buffer (p : Port) (generation : UInt64) {buffer buffer' : Bytes}
    (size : buffer.length = buffer'.length) (read : DeviceRead) :
    (p.readReady generation buffer read).1 = (p.readReady generation buffer' read).1 ∧
      (p.readReady generation buffer read).2.2 = (p.readReady generation buffer' read).2.2 := by
  unfold Port.readReady
  split
  · exact ⟨rfl, rfl⟩
  · cases read with
    | failed fault => cases fault <;> exact ⟨rfl, rfl⟩
    | bytes bs =>
      cases bs with
      | nil => exact ⟨rfl, rfl⟩
      | cons b bs =>
        simp only [take_fill_eq, size]
        exact ⟨trivial, trivial⟩

/-! ## Ports at other places -/

theorem port?_setPort_ne (r : Rig) (h : i ≠ place) (q : Port) :
    (r.setPort i q).ports.port? place = r.ports.port? place :=
  List.getElem?_set_ne h

theorem port?_clearRunning (r : Rig) (h : i ≠ place) :
    (r.ports.clearRunning i).port? place = r.ports.port? place :=
  List.getElem?_modify_ne _ _ h

theorem port?_openAt (r : Rig) (h : i ≠ place) :
    (r.openAt r.given? i).2.1.ports.port? place = r.ports.port? place := by
  rw [openAt_eq]
  exact List.getElem?_modify_ne _ _ h

theorem port?_closeAt (r : Rig) (h : i ≠ place) :
    (r.closeAt i).2.ports.port? place = r.ports.port? place := by
  rw [closeAt_eq]
  exact List.getElem?_modify_ne _ _ h

theorem port?_writeAt (r : Rig) (h : i ≠ place) (data : Bytes) :
    (r.writeAt i data).2.1.ports.port? place = r.ports.port? place := by
  unfold writeAt
  split
  · rfl
  · split
    · exact port?_setPort_ne r h _
    · exact port?_setPort_ne r h _

theorem port?_visit (r : Rig) (h : i ≠ place) :
    (r.visit r.given? i).1.ports.port? place = r.ports.port? place := by
  cases hp : r.ports.port? i with
  | none => rw [visit_of_missing hp]
  | some p => rw [visit_eq hp, port?_setPort_ne r h]

/-! ## What the reader does about one port -/

/-- What the reader closes a port for: waiting told that the device has hung up, or reading fails.
-/
def Fatal (r : Rig) (p : Port) (generation : UInt64) (what : Readiness) : Prop :=
  p.isCurrent generation = true ∧
    (what = .hangup ∨ what = .readable ∧ (r.line? p).map Terminal.hungUp = some true)

/-- What the reader does when it meets a noted port. -/
inductive Handled (r : Rig) (t : Target) (what : Readiness) : Rig × Effects → Prop where
  | rests (buffer : Bytes) : Handled r t what ({ r with buffer := buffer }, {})
  | closes {p : Port} (port : r.ports.port? t.place = some p)
      (fatal : r.Fatal p t.generation what) (cause : ClosedBy) (buffer : Bytes) :
      Handled r t what
        ({ r.setPort t.place { p with terminal := none } with buffer := buffer },
          { notices := [⟨t.place, .closed cause⟩] })
  | reads {p : Port} {id : Nat} {d : Terminal} (opened : p.terminal = some id)
      (line : r.devices.terminal? id = some d) (buffer : Bytes) :
      Handled r t what
        ({ r with
            buffer := buffer
            devices := r.devices.update id
              { d with toPort := d.toPort.drop p.descriptor.maxLen } },
          { deliveries := [⟨t.place, p.id, d.toPort.take p.descriptor.maxLen⟩] })

theorem hangUpAt_of_not_current (h : r.ports.port? t.place = some p)
    (hc : p.isCurrent t.generation = false) : r.hangUpAt t = (r, {}) := by
  simp [hangUpAt, h, Port.closeIfCurrent, hc]

theorem handled_hangUpAt (r : Rig) (t : Target) : Handled r t .hangup (r.hangUpAt t) := by
  cases h : r.ports.port? t.place with
  | none =>
    simp only [hangUpAt, h]
    exact .rests r.buffer
  | some p =>
    cases hc : p.isCurrent t.generation with
    | false =>
      rw [hangUpAt_of_not_current h hc]
      exact .rests r.buffer
    | true =>
      rw [hangUpAt_of_current h hc]
      exact .closes h ⟨hc, .inl rfl⟩ .hangup r.buffer

theorem handled_readAt {buffer : Bytes} (h : r.ports.port? t.place = some p)
    (room : (buffer.take p.descriptor.maxLen).length = p.descriptor.maxLen) :
    Handled r t .readable (r.readAt t buffer p.descriptor.maxLen) := by
  cases hc : p.isCurrent t.generation with
  | false =>
    rw [readAt_of_not_current h hc]
    exact .rests buffer
  | true =>
    obtain ⟨id, hid⟩ := (isCurrent_iff.mp hc).2
    cases hd : r.devices.terminal? id with
    | none =>
      rw [readAt_of_missing h hid hd]
      exact .rests buffer
    | some d =>
      cases hh : d.hungUp with
      | true =>
        have dead : (r.line? p).map Terminal.hungUp = some true := by
          rw [line?, hid, Option.bind_some, hd, Option.map_some, hh]
        rw [readAt_of_hungUp h hc hid hd hh]
        exact .closes h ⟨hc, .inr ⟨rfl, dead⟩⟩ .read buffer
      | false =>
        by_cases hw : d.toPort.take p.descriptor.maxLen = []
        · rw [readAt_of_silent h hc hid hd room hh hw]
          exact .rests buffer
        · rw [readAt_of_waits h hc hid hd room hh hw]
          exact .reads hid hd _

theorem handled (r : Rig) (t : Target) (what : Readiness) (granted : Bool) :
    Handled r t what (r.handle t what granted) := by
  cases what with
  | quiet => exact .rests r.buffer
  | hangup => exact handled_hangUpAt r t
  | readable =>
    cases h : r.ports.port? t.place with
    | none =>
      rw [handle_missing h]
      exact .rests r.buffer
    | some p =>
      rcases handle_readable h granted with ⟨buffer, -, room, reads⟩ | ⟨-, skips⟩
      · rw [reads]
        exact handled_readAt h room
      · rw [skips]
        exact .rests r.buffer

theorem place_of_handle {d : Delivery} (hd : d ∈ (r.handle t what granted).2.deliveries) :
    d.place = t.place := by
  generalize hx : r.handle t what granted = x at hd
  cases hx ▸ r.handled t what granted with
  | rests | closes => cases hd
  | reads =>
    obtain rfl := List.mem_singleton.mp hd
    rfl

theorem port?_handle (h : t.place ≠ place) :
    (r.handle t what granted).1.ports.port? place = r.ports.port? place := by
  generalize hx : r.handle t what granted = x
  cases hx ▸ r.handled t what granted with
  | rests | reads => rfl
  | closes => exact port?_setPort_ne r h _

theorem Seated.closed (h : r.Seated place p line) (buffer : Bytes) :
    Seated { r.setPort place { p with terminal := none } with buffer := buffer } place
      { p with terminal := none } none where
  port := (port?_setPort h.port).trans (if_pos rfl)
  line := rfl
  sole _ _ none := by cases none

theorem Seated.buffered (h : r.Seated place p line) (buffer : Bytes) :
    Seated { r with buffer := buffer } place p line :=
  ⟨h.port, h.line, h.sole⟩

theorem Seated.terminal? (h : r.Seated place p line) {id : Nat} (hid : p.terminal = some id) :
    r.devices.terminal? id = line := by
  rw [← h.line, line?, hid]
  rfl

theorem Seated.hangUpAt (h : r.Seated t.place p line) :
    (r.hangUpAt t).1.Seated t.place (p.served line t.generation .hangup).1
        (p.served line t.generation .hangup).2.1 ∧
      calls t.place (r.hangUpAt t).2.deliveries = (p.served line t.generation .hangup).2.2 := by
  cases hc : p.isCurrent t.generation with
  | false =>
    rw [hangUpAt_of_not_current h.port hc, served_of_stale hc]
    exact ⟨h, rfl⟩
  | true =>
    have closes : p.served line t.generation .hangup = ({ p with terminal := none }, none, []) := by
      simp only [Port.served, hc, if_true]
    rw [hangUpAt_of_current h.port hc, closes]
    exact ⟨h.closed r.buffer, rfl⟩

theorem Seated.readAt (h : r.Seated t.place p line) {buffer : Bytes}
    (room : (buffer.take p.descriptor.maxLen).length = p.descriptor.maxLen) :
    (r.readAt t buffer p.descriptor.maxLen).1.Seated t.place
        (p.served line t.generation .readable).1 (p.served line t.generation .readable).2.1 ∧
      calls t.place (r.readAt t buffer p.descriptor.maxLen).2.deliveries =
        (p.served line t.generation .readable).2.2 := by
  cases hc : p.isCurrent t.generation with
  | false =>
    rw [readAt_of_not_current h.port hc, served_of_stale hc]
    exact ⟨h.buffered buffer, rfl⟩
  | true =>
    obtain ⟨id, hid⟩ := (isCurrent_iff.mp hc).2
    have hd : r.devices.terminal? id = line := h.terminal? hid
    cases line with
    | none =>
      have missing : p.served none t.generation .readable = (p, none, []) := by
        simp only [Port.served, ite_self]
      rw [readAt_of_missing h.port hid hd, missing]
      exact ⟨h.buffered buffer, rfl⟩
    | some d =>
      rw [served_readable hc d]
      by_cases hh : d.hungUp = true
      · rw [readAt_of_hungUp h.port hc hid hd hh, if_pos hh]
        exact ⟨h.closed buffer, rfl⟩
      · have alive : d.hungUp = false := (Bool.not_eq_true _).mp hh
        rw [if_neg hh]
        by_cases hw : d.toPort.take p.descriptor.maxLen = []
        · -- nothing is taken from the line either
          have still : d.toPort.drop p.descriptor.maxLen = d.toPort := by
            have whole := List.take_append_drop p.descriptor.maxLen d.toPort
            rwa [hw, List.nil_append] at whole
          rw [readAt_of_silent h.port hc hid hd room alive hw, if_pos hw, still]
          exact ⟨h.buffered buffer, rfl⟩
        · rw [readAt_of_waits h.port hc hid hd room alive hw, if_neg hw]
          refine ⟨⟨h.port, ?_, h.sole⟩, ?_⟩
          · rw [line?, hid, Option.bind_some, Devices.terminal?_update hd, if_pos rfl]
          · simp only [calls, List.filterMap_cons, List.filterMap_nil, if_true]

/-- **What becomes of a port that the reader meets** depends on this port, its line, its session and
what waiting told. -/
theorem Seated.served (h : r.Seated t.place p line)
    (memory : what = .readable → (grown? r.buffer p.descriptor.maxLen granted).isSome = true) :
    (r.handle t what granted).1.Seated t.place (p.served line t.generation what).1
        (p.served line t.generation what).2.1 ∧
      calls t.place (r.handle t what granted).2.deliveries =
        (p.served line t.generation what).2.2 := by
  cases what with
  | quiet =>
    have still : p.served line t.generation .quiet = (p, line, []) := by
      simp only [Port.served, ite_self]
    rw [still]
    exact ⟨h, rfl⟩
  | hangup => exact h.hangUpAt
  | readable =>
    rcases handle_readable h.port granted with ⟨buffer, -, room, reads⟩ | ⟨short, -⟩
    · rw [reads]
      exact h.readAt room
    · have memory := memory rfl
      rw [short] at memory
      cases memory

/-! ## What else is done at other places -/

/-- The place of the port that an event is about. -/
def Event.place? : Event → Option Nat
  | handed _ d => some d.place
  | wrote _ place _ => some place
  | _ => none

theorem Seated.move (h : r.Seated place p line) (m : Move r es r')
    (port : r'.ports.port? place = some p) (elsewhere : ∀ e ∈ es, e.place? ≠ some place) :
    r'.Seated place p line := by
  cases m with
  | rest | begins => exact ⟨port, h.line, h.sole⟩
  | opens other closed given =>
    refine ⟨port, h.line, fun {i q id} hq hqid hid => ?_⟩
    rw [port?_setPort other] at hq
    split at hq
    · obtain rfl := Option.some.inj hq
      obtain rfl := Option.some.inj hqid
      exact absurd hid (not_held_of_given given h.port)
    · exact h.sole hq hqid hid
  | ends other same ends buffer =>
    refine ⟨port, h.line, fun {i q id} hq hqid hid => ?_⟩
    replace hq := (port?_setPort other).symm.trans hq
    split at hq
    · next here =>
      obtain rfl := Option.some.inj hq
      rcases ends with ends | ends
      · rw [ends] at hqid
        cases hqid
      · exact here ▸ h.sole other (ends.symm.trans hqid) hid
    · exact h.sole hq hqid hid
  | @reads _ _ id _ other opened line' | @writes _ _ id _ other opened line' =>
    -- the line is another one, since the port is
    have apart : p.terminal ≠ some id := by
      intro same
      exact elsewhere _ List.mem_cons_self (congrArg some (h.sole other opened same))
    refine ⟨port, ?_, h.sole⟩
    rw [← h.line, line?, line?]
    cases hid : p.terminal with
    | none => rfl
    | some id' =>
      have different : id ≠ id' := by
        rintro rfl
        exact apart hid
      rw [Option.bind_some, Option.bind_some, Devices.terminal?_update line', if_neg different]

theorem Seated.regroup (h : r.Seated place p line) (g : Regroup r r') :
    r'.Seated place p line := by
  refine ⟨g.port? h.port, ?_, ?_⟩
  · rw [line?, g.devices]
    exact h.line
  · intro i q id hq hqid hid
    cases g with
    | members => exact h.sole hq hqid hid
    | adds d valid members =>
      have old : r.ports.port? i = some q := by
        have found : (r.ports.ports ++ [{ descriptor := d }])[i]? = some q := hq
        rw [List.getElem?_append] at found
        split at found
        · exact found
        · -- the new port is closed
          obtain rfl := List.mem_singleton.mp (List.mem_of_getElem? found)
          cases hqid
      exact h.sole old hqid hid

/-- **The reader leaves a port alone when it meets another one.** -/
theorem Seated.handle (h : r.Seated place p line) (other : t.place ≠ place) (what : Readiness)
    (granted : Bool) :
    (r.handle t what granted).1.Seated place p line ∧
      calls place (r.handle t what granted).2.deliveries = [] := by
  have elsewhere : ∀ d ∈ (r.handle t what granted).2.deliveries, d.place ≠ place := by
    intro d hd
    rw [place_of_handle hd]
    exact other
  refine ⟨h.move (move_handle r t what granted) ((port?_handle other).trans h.port) ?_,
    calls_of_other elsewhere⟩
  intro e he
  obtain ⟨d, hd, rfl⟩ := List.mem_map.mp he
  exact fun same => elsewhere d hd (Option.some.inj same)

/-! ## A whole pass -/

theorem handleAll_cons (r : Rig) (x : Target × Readiness × Bool)
    (xs : List (Target × Readiness × Bool)) :
    (r.handleAll (x :: xs)).1 = ((r.handle x.1 x.2.1 x.2.2).1.handleAll xs).1 ∧
      (r.handleAll (x :: xs)).2.deliveries = (r.handle x.1 x.2.1 x.2.2).2.deliveries ++
        ((r.handle x.1 x.2.1 x.2.2).1.handleAll xs).2.deliveries :=
  ⟨rfl, rfl⟩

theorem handleAll_append (r : Rig) (xs ys : List (Target × Readiness × Bool)) :
    (r.handleAll (xs ++ ys)).1 = ((r.handleAll xs).1.handleAll ys).1 ∧
      (r.handleAll (xs ++ ys)).2.deliveries =
        (r.handleAll xs).2.deliveries ++ ((r.handleAll xs).1.handleAll ys).2.deliveries := by
  induction xs generalizing r with
  | nil => exact ⟨rfl, rfl⟩
  | cons x xs ih =>
    obtain ⟨rig, deliveries⟩ := ih (r.handle x.1 x.2.1 x.2.2).1
    refine ⟨rig, ?_⟩
    rw [List.cons_append, (r.handleAll_cons x _).2, (r.handleAll_cons x _).2, deliveries,
      List.append_assoc]
    rfl

theorem Seated.handleAll (h : r.Seated place p line) {xs : List (Target × Readiness × Bool)}
    (others : ∀ x ∈ xs, x.1.place ≠ place) :
    (r.handleAll xs).1.Seated place p line ∧ calls place (r.handleAll xs).2.deliveries = [] := by
  induction xs generalizing r with
  | nil => exact ⟨h, rfl⟩
  | cons x xs ih =>
    obtain ⟨other, others⟩ := List.forall_mem_cons.mp others
    obtain ⟨after, silent⟩ := h.handle other x.2.1 x.2.2
    obtain ⟨seated, quiet⟩ := ih after others
    refine ⟨seated, ?_⟩
    rw [(r.handleAll_cons x xs).2, calls_append, silent, quiet, List.append_nil]

/-- What the reader acts on in a pass over the ports at some places. -/
def entries (r : Rig) (granted : Nat → Bool) (places : List Nat) :
    List (Target × Readiness × Bool) :=
  (places.filterMap r.target?).map fun t => (t, r.readiness t, granted t.place)

theorem readerPass_eq (r : Rig) (granted : Nat → Bool) :
    r.readerPass granted = r.handleAll (r.entries granted r.ports.snapshot) := rfl

theorem entries_append (r : Rig) (granted : Nat → Bool) (places places' : List Nat) :
    r.entries granted (places ++ places') =
      r.entries granted places ++ r.entries granted places' := by
  rw [entries, List.filterMap_append, List.map_append]
  rfl

theorem place_of_target? (h : r.target? place = some t) : t.place = place := by
  obtain ⟨p, -, hp⟩ := Option.bind_eq_some_iff.mp h
  obtain ⟨x, -, rfl⟩ := Option.map_eq_some_iff.mp hp
  rfl

theorem entries_elsewhere {places : List Nat} (unlisted : place ∉ places)
    (granted : Nat → Bool) : ∀ x ∈ r.entries granted places, x.1.place ≠ place := by
  intro x hx
  obtain ⟨t, ht, rfl⟩ := List.mem_map.mp hx
  obtain ⟨i, hi, noted⟩ := List.mem_filterMap.mp ht
  rintro rfl
  exact unlisted (place_of_target? noted ▸ hi)

theorem Seated.entries (h : r.Seated place p line) {granted : Nat → Bool}
    (memory : granted place = true) :
    r.entries granted [place] =
      p.terminal.toList.map fun id => (⟨place, id, p.generation⟩, told line, true) := by
  cases hid : p.terminal with
  | none =>
    have unnoted : r.target? place = none := by
      rw [target?, h.port, Option.bind_some, Port.pollTarget, hid]
      rfl
    rw [Rig.entries, List.filterMap_cons_none unnoted]
    rfl
  | some id =>
    have noted : r.target? place = some ⟨place, id, p.generation⟩ := by
      rw [target?, h.port, Option.bind_some, Port.pollTarget, hid]
      rfl
    have tells : r.readiness ⟨place, id, p.generation⟩ = told line := by
      rw [← h.terminal? hid]
      rfl
    rw [Rig.entries, List.filterMap_cons_some noted, List.filterMap_nil, List.map_singleton, tells,
      memory]
    rfl

theorem Seated.attended (h : r.Seated place p line) :
    let xs : List (Target × Readiness × Bool) :=
      p.terminal.toList.map fun id => (⟨place, id, p.generation⟩, told line, true)
    (r.handleAll xs).1.Seated place (p.served line p.generation (told line)).1
        (p.served line p.generation (told line)).2.1 ∧
      calls place (r.handleAll xs).2.deliveries =
        (p.served line p.generation (told line)).2.2 := by
  cases hid : p.terminal with
  | none =>
    have closed : p.isCurrent p.generation = false := by simp [Port.isCurrent, Port.isOpen, hid]
    rw [served_of_stale closed]
    exact ⟨h, rfl⟩
  | some id =>
    have memory : told line = .readable →
        (grown? r.buffer p.descriptor.maxLen true).isSome = true := by
      intro _
      unfold grown?
      split <;> rfl
    let t : Target := ⟨place, id, p.generation⟩
    have here : r.Seated t.place p line := h
    obtain ⟨seated, handed⟩ := here.served memory
    refine ⟨seated, Eq.trans ?_ handed⟩
    exact congrArg (calls place) (List.append_nil _)

/-- **What a pass does with a member** depends on this member and its line. -/
theorem Seated.readerPass (h : r.Seated place p line) (inOrder : r.ports.InOrder)
    (member : place ∈ r.ports.snapshot) {granted : Nat → Bool} (memory : granted place = true) :
    (r.readerPass granted).1.Seated place (p.served line p.generation (told line)).1
        (p.served line p.generation (told line)).2.1 ∧
      calls place (r.readerPass granted).2.deliveries =
        (p.served line p.generation (told line)).2.2 := by
  obtain ⟨before, after, split, early, late⟩ := inOrder.snapshot_split member
  rw [readerPass_eq, split, ← List.singleton_append, entries_append, entries_append,
    h.entries memory]
  -- the ports before this one, this one, and those after it
  obtain ⟨first, quiet⟩ := h.handleAll (entries_elsewhere early granted)
  obtain ⟨rig, handed⟩ := r.handleAll_append (r.entries granted before) _
  rw [rig, handed, calls_append, quiet, List.nil_append]
  generalize (r.handleAll (r.entries granted before)).1 = turn at first
  obtain ⟨served, called⟩ := first.attended
  obtain ⟨rig', handed'⟩ := turn.handleAll_append
    (p.terminal.toList.map fun id => (⟨place, id, p.generation⟩, told line, true))
    (r.entries granted after)
  obtain ⟨last, quiet'⟩ := served.handleAll (entries_elsewhere late granted)
  rw [rig', handed', calls_append, called, quiet', List.append_nil]
  exact ⟨last, rfl⟩

/-! ## What the reader closes -/

theorem hungUp_handle (r : Rig) (t : Target) (what : Readiness) (granted : Bool) (id : Nat) :
    ((r.handle t what granted).1.devices.terminal? id).map Terminal.hungUp =
      (r.devices.terminal? id).map Terminal.hungUp := by
  generalize hx : r.handle t what granted = x
  cases hx ▸ r.handled t what granted with
  | rests | closes => rfl
  | @reads p id' d opened line buffer =>
    show ((r.devices.update id' _).terminal? id).map _ = _
    rw [Devices.terminal?_update line]
    split
    · next same =>
      subst same
      rw [line]
      rfl
    · rfl

theorem fatal_handle {generation : UInt64} {x : Readiness} :
    (r.handle t what granted).1.Fatal p generation x ↔ r.Fatal p generation x := by
  have same : ((r.handle t what granted).1.line? p).map Terminal.hungUp =
      (r.line? p).map Terminal.hungUp := by
    unfold line?
    cases p.terminal with
    | none => rfl
    | some id => exact r.hungUp_handle t what granted id
  rw [Fatal, Fatal, same]

/-- A port is closed if the reader meets it and has a reason to. -/
theorem handle_of_fatal (h : r.ports.port? t.place = some p) (fatal : r.Fatal p t.generation what)
    (memory : what = .readable → granted = true) :
    (r.handle t what granted).1.ports.port? t.place = some { p with terminal := none } := by
  obtain ⟨current, rfl | ⟨rfl, dead⟩⟩ := fatal
  · rw [show r.handle t .hangup granted = r.hangUpAt t from rfl, hangUpAt_of_current h current]
    exact (port?_setPort h).trans (if_pos rfl)
  · obtain rfl := memory rfl
    obtain ⟨buffer, -, reads⟩ := handle_granted h
    obtain ⟨id, hid⟩ := (isCurrent_iff.mp current).2
    rw [line?, hid, Option.bind_some] at dead
    obtain ⟨d, hd, hungUp⟩ := Option.map_eq_some_iff.mp dead
    rw [reads, readAt_of_hungUp h current hid hd hungUp]
    exact (port?_setPort h).trans (if_pos rfl)

theorem port_handle (h : r.ports.port? place = some p) (t : Target) (what : Readiness)
    (granted : Bool) :
    (r.handle t what granted).1.ports.port? place = some p ∨
      t.place = place ∧ r.Fatal p t.generation what ∧
        (r.handle t what granted).1.ports.port? place = some { p with terminal := none } := by
  generalize hx : r.handle t what granted = x
  cases hx ▸ r.handled t what granted with
  | rests | reads => exact .inl h
  | @closes p' port fatal cause buffer =>
    by_cases here : t.place = place
    · subst here
      obtain rfl := Option.some.inj (port.symm.trans h)
      exact .inr ⟨rfl, fatal, (port?_setPort h).trans (if_pos rfl)⟩
    · exact .inl ((port?_setPort_ne r here _).trans h)

/-- **A pass closes the ports that it has a reason to close,** and no others. -/
theorem closed_handleAll (h : r.ports.port? place = some p)
    (xs : List (Target × Readiness × Bool)) :
    ∃ q, (r.handleAll xs).1.ports.port? place = some q ∧ (q = p ∨ q = { p with terminal := none }) ∧
      (∀ x ∈ xs, x.1.place = place → r.Fatal p x.1.generation x.2.1 →
        (x.2.1 = .readable → x.2.2 = true) → q = { p with terminal := none }) ∧
      (q ≠ p → ∃ x ∈ xs, x.1.place = place ∧ r.Fatal p x.1.generation x.2.1) := by
  induction xs generalizing r p with
  | nil =>
    exact ⟨p, h, .inl rfl, fun x hx => (List.not_mem_nil hx).elim, fun other => absurd rfl other⟩
  | cons x xs ih =>
    obtain ⟨t, what, granted⟩ := x
    rcases port_handle h t what granted with same | ⟨here, fatal, closed⟩
    · obtain ⟨q, hq, still, closes, closed⟩ := ih same
      refine ⟨q, hq, still, fun x hx here fatal memory => ?_, fun other => ?_⟩
      · rcases List.mem_cons.mp hx with rfl | hx
        · -- the port would have been closed now, so it was closed
          subst here
          have now := handle_of_fatal h fatal memory
          have was : p = { p with terminal := none } := Option.some.inj (same.symm.trans now)
          rcases still with rfl | shut
          · exact was
          · exact shut
        · exact closes x hx here (fatal_handle.mpr fatal) memory
      · obtain ⟨x, hx, here, fatal⟩ := closed other
        exact ⟨x, List.mem_cons_of_mem _ hx, here, fatal_handle.mp fatal⟩
    · obtain ⟨q, hq, still, -⟩ := ih closed
      have shut : q = { p with terminal := none } := by
        rcases still with same | same <;> exact same
      exact ⟨q, hq, .inr shut, fun _ _ _ _ _ => shut,
        fun _ => ⟨_, List.mem_cons_self, here, fatal⟩⟩

end Rig

/-! ## What else may happen -/

namespace Watch

open Rig

variable {w : Watch} {place : Nat} {p : Port} {line : Option Terminal} {s : Step}
  {steps : List Step} {generation : UInt64} {what : Readiness}

/-- Whether a step leaves the port at a place alone: what is done is done with another port, the
reader meets another one, and what happens at the far ends happens to other lines. -/
def Spares (w : Watch) (place : Nat) : Step → Prop
  | .change c => ∀ id, w.rig.source? place = some id →
    (w.rig.devices.change c).1.terminal? id = w.rig.devices.terminal? id
  | .add _ | .unlink _ => True
  | .clearRunning i | .openAt i | .closeAt i | .write i _ | .visit i => i ≠ place
  | .read _ =>
    match w.round with
    | .acting ((t, _) :: _) => t.place ≠ place
    | _ => True

/-- Whether steps leave the port at a place alone. -/
def AllSpare (place : Nat) : Watch → List Step → Prop
  | _, [] => True
  | w, s :: steps => w.Spares place s ∧ AllSpare place (w.step s).1 steps

/-- Steps of which one is the reader's, when it acts on what waiting told about a session of the
port at a place and has memory for its buffer. The others leave the port alone. -/
inductive Turn (place capacity : Nat) (generation : UInt64) (what : Readiness) :
    Watch → List Step → Prop where
  | later {w : Watch} {s : Step} {steps : List Step} (spares : w.Spares place s)
      (rest : Turn place capacity generation what (w.step s).1 steps) :
      Turn place capacity generation what w (s :: steps)
  | now {w : Watch} {t : Target} {granted : Bool} {left : List (Target × Readiness × Bool)}
      {g : Nat → Bool} {steps : List Step} (round : w.round = .acting ((t, what, granted) :: left))
      (here : t.place = place) (session : t.generation = generation)
      (memory : what = .readable → (grown? w.rig.buffer capacity granted).isSome = true)
      (rest : AllSpare place (w.step (.read g)).1 steps) :
      Turn place capacity generation what w (.read g :: steps)

end Watch

namespace Rig.Seated

open Watch

variable {w : Watch} {place : Nat} {p : Port} {line : Option Terminal} {s : Step}
  {steps : List Step} {generation : UInt64} {what : Readiness}

/-- **A step that spares a port** leaves it as it is. -/
theorem step (h : w.rig.Seated place p line) (spares : w.Spares place s) :
    (w.step s).1.rig.Seated place p line ∧ calls place (deliveries (w.step s).2) = [] := by
  cases s with
  | change c =>
    refine ⟨⟨h.port, ?_, h.sole⟩, ?_⟩
    · rw [← h.line]
      show (p.terminal.bind (w.rig.devices.change c).1.terminal?) = p.terminal.bind _
      cases hid : p.terminal with
      | none => rfl
      | some id => exact spares id ((source?_of h.port).trans hid)
    · have none : deliveries (w.step (.change c)).2 = [] := by
        refine List.filterMap_eq_nil_iff.mpr fun e he => ?_
        cases e with
        | handed source d =>
          exact absurd he ((w.rig.devices.no_transfer_change 0 c).2.2.2.2 source d)
        | _ => rfl
      rw [none, calls_nil]
  | add d => exact ⟨h.regroup (regroup_add w.rig d), rfl⟩
  | unlink uid => exact ⟨h.regroup (regroup_unlink w.rig uid), rfl⟩
  | clearRunning i =>
    have port := (port?_clearRunning w.rig spares).trans h.port
    exact ⟨h.move (move_clearRunning w.rig i) port (List.forall_mem_nil _), rfl⟩
  | openAt i =>
    have port := (port?_openAt w.rig spares).trans h.port
    exact ⟨h.move (move_openAt w.rig i) port (List.forall_mem_nil _), rfl⟩
  | closeAt i =>
    have port := (port?_closeAt w.rig spares).trans h.port
    exact ⟨h.move (move_closeAt w.rig i) port (List.forall_mem_nil _), rfl⟩
  | visit i =>
    have port := (port?_visit w.rig spares).trans h.port
    exact ⟨h.move (move_visit w.rig i) port (List.forall_mem_nil _), rfl⟩
  | write i data =>
    have port := (port?_writeAt w.rig spares data).trans h.port
    -- something may have been written, to the other port
    refine ⟨h.move (move_writeAt w.rig i data) port fun e he => ?_, ?_⟩
    · obtain ⟨n, -, rfl⟩ := List.mem_map.mp he
      exact fun same => spares (Option.some.inj same)
    · refine congrArg (calls place) (List.filterMap_eq_nil_iff.mpr fun e he => ?_)
      obtain ⟨n, -, rfl⟩ := List.mem_map.mp he
      rfl
  | read granted =>
    obtain ⟨r, round⟩ := w
    cases round with
    | noting g noted members => cases members <;> exact ⟨h, rfl⟩
    | acting left =>
      cases left with
      | nil => exact ⟨h, rfl⟩
      | cons x left =>
        obtain ⟨after, silent⟩ := h.handle spares x.2.1 x.2.2
        refine ⟨after, ?_⟩
        show calls place (deliveries (r.handings _)) = []
        rw [deliveries_handings]
        exact silent

theorem run (h : w.rig.Seated place p line) (spared : AllSpare place w steps) :
    (w.run steps).1.rig.Seated place p line ∧ calls place (deliveries (w.run steps).2) = [] := by
  induction steps generalizing w with
  | nil => exact ⟨h, rfl⟩
  | cons s steps ih =>
    obtain ⟨spares, spared⟩ := spared
    obtain ⟨after, silent⟩ := h.step spares
    obtain ⟨seated, quiet⟩ := ih after spared
    rw [run_cons, deliveries_append, calls_append, silent, quiet]
    exact ⟨seated, rfl⟩

/-- **What becomes of a port in a run in which the reader meets it** depends on this port, its line,
its session and what waiting told. -/
theorem turn (h : w.rig.Seated place p line)
    (turn : w.Turn place p.descriptor.maxLen generation what steps) :
    (w.run steps).1.rig.Seated place (p.served line generation what).1
        (p.served line generation what).2.1 ∧
      calls place (deliveries (w.run steps).2) = (p.served line generation what).2.2 := by
  induction turn with
  | @later w s steps spares rest ih =>
    obtain ⟨after, silent⟩ := h.step spares
    obtain ⟨seated, handed⟩ := ih after
    rw [run_cons, deliveries_append, calls_append, silent, List.nil_append]
    exact ⟨seated, handed⟩
  | @now w t granted left g steps round here session memory rest =>
    obtain ⟨r, _⟩ := w
    subst here session round
    have acts : Watch.step ⟨r, .acting ((t, what, granted) :: left)⟩ (.read g) =
        (⟨(r.handle t what granted).1, .acting left⟩, r.handings (r.handle t what granted).2) := rfl
    obtain ⟨served, handed⟩ := h.served memory
    rw [acts] at rest
    obtain ⟨seated, quiet⟩ := Seated.run (w := ⟨_, .acting left⟩) served rest
    rw [run_cons, acts, deliveries_append, calls_append, deliveries_handings, handed, quiet,
      List.append_nil]
    exact ⟨seated, rfl⟩

end Rig.Seated

namespace Watch

open Rig

/-- **The faults of a port stay with it.** Take two sets which have a port in common, in the same
state and with the same line, and in which its line is not open for other ports. Otherwise they may
differ in everything. In each of them the reader acts on what waiting told about the port, which is
the same, and has memory for its buffer if it reads. Before and after this, the reader meets other
ports, whatever waiting told about these and whether or not there is memory for them, and anything
may be done with other ports and lines, by their handlers or by others. Then the port is in the same
state in both sets again, and its handler was called with the same bytes. This is so for whole
passes of the reader, too. A pass closes a port only if waiting told that its device has hung up, or
if reading fails; and then it does close it. And whatever a read gives, also one that fails for now,
what the part of the buffer that it reads into held does not matter. -/
theorem faults_stay_apart :
    (∀ (w w' : Watch) (place place' : Nat) (p : Port) (line : Option Terminal)
        (generation : UInt64) (what : Readiness) (steps steps' : List Step),
      w.rig.Seated place p line → w'.rig.Seated place' p line →
      w.Turn place p.descriptor.maxLen generation what steps →
      w'.Turn place' p.descriptor.maxLen generation what steps' →
      ∃ q line', (w.run steps).1.rig.Seated place q line' ∧
        (w'.run steps').1.rig.Seated place' q line' ∧
        calls place (deliveries (w.run steps).2) =
          calls place' (deliveries (w'.run steps').2)) ∧
    (∀ (r r' : Rig) (place place' : Nat) (p : Port) (line : Option Terminal)
        (granted granted' : Nat → Bool),
      r.Seated place p line → r'.Seated place' p line →
      r.ports.InOrder → r'.ports.InOrder →
      place ∈ r.ports.snapshot → place' ∈ r'.ports.snapshot →
      granted place = true → granted' place' = true →
      ∃ q line', (r.readerPass granted).1.Seated place q line' ∧
        (r'.readerPass granted').1.Seated place' q line' ∧
        calls place (r.readerPass granted).2.deliveries =
          calls place' (r'.readerPass granted').2.deliveries) ∧
    (∀ (r : Rig) (xs : List (Target × Readiness × Bool)) (place : Nat) (p : Port),
      r.ports.port? place = some p →
      ∃ q, (r.handleAll xs).1.ports.port? place = some q ∧
        (q = p ∨ q = { p with terminal := none }) ∧
        (∀ x ∈ xs, x.1.place = place → r.Fatal p x.1.generation x.2.1 →
          (x.2.1 = .readable → x.2.2 = true) → q = { p with terminal := none }) ∧
        (q ≠ p → ∃ x ∈ xs, x.1.place = place ∧ r.Fatal p x.1.generation x.2.1)) ∧
    ∀ (p : Port) (generation : UInt64) (buffer buffer' : Bytes) (read : DeviceRead),
      buffer.length = buffer'.length →
      (p.readReady generation buffer read).1 = (p.readReady generation buffer' read).1 ∧
        (p.readReady generation buffer read).2.2 = (p.readReady generation buffer' read).2.2 := by
  refine ⟨fun w w' place place' p line generation what steps steps' h h' turn turn' => ?_,
    fun r r' place place' p line granted granted' h h' order order' member member' met met' => ?_,
    fun r xs place p h => closed_handleAll h xs,
    fun p generation buffer buffer' read size => readReady_buffer p generation size read⟩
  · obtain ⟨seated, handed⟩ := h.turn turn
    obtain ⟨seated', handed'⟩ := h'.turn turn'
    exact ⟨_, _, seated, seated', handed.trans handed'.symm⟩
  · obtain ⟨seated, handed⟩ := h.readerPass order member met
    obtain ⟨seated', handed'⟩ := h'.readerPass order' member' met'
    exact ⟨_, _, seated, seated', handed.trans handed'.symm⟩

/-- In one set a port comes after one whose device has hung up and one for whose buffer there is no
memory, and somebody closes this one meanwhile. In the other set the port is alone. -/
theorem faults_stay_apart_from_others :
    let a : Port := { descriptor := { uid := "A", device := "/dev/a" }, terminal := some 0 }
    let p : Port :=
      { descriptor := { uid := "B", device := "/dev/b", maxLen := 2 }, terminal := some 1 }
    let c : Port :=
      { descriptor := { uid := "C", device := "/dev/c", maxLen := 4096 }, terminal := some 2 }
    let line : Terminal := { toPort := [1, 2, 3] }
    let r : Rig :=
      { devices := { terminals := [{ hungUp := true }, line, { toPort := [9] }] }
        ports := { ports := [a, p, c], members := [⟨"A", 0⟩, ⟨"C", 2⟩, ⟨"B", 1⟩] }
        buffer := [7] }
    let r' : Rig :=
      { devices := { terminals := [{}, line] }
        ports := { ports := [p], members := [⟨"B", 0⟩] }
        buffer := [5, 5, 5] }
    let left : List (Target × Readiness × Bool) :=
      [(⟨0, 0, 0⟩, .hangup, true), (⟨2, 2, 0⟩, .readable, false), (⟨1, 1, 0⟩, .readable, true)]
    let left' : List (Target × Readiness × Bool) := [(⟨0, 1, 0⟩, .readable, false)]
    let read : Step := .read fun _ => true
    let v := run ⟨r, .acting left⟩ [read, read, .closeAt 2, read]
    let v' := run ⟨r', .acting left'⟩ [read]
    (∃ q line', v.1.rig.Seated 1 q line' ∧ v'.1.rig.Seated 0 q line') ∧
      calls 1 (deliveries v.2) = [("B", [1, 2])] ∧ calls 0 (deliveries v'.2) = [("B", [1, 2])] ∧
      calls 1 (r.readerPass fun i => i = 1).2.deliveries = [("B", [1, 2])] ∧
      calls 0 (r'.readerPass fun _ => true).2.deliveries = [("B", [1, 2])] ∧
      (r.handleAll left).1.ports.port? 0 = some { a with terminal := none } ∧
      (r.handleAll left).1.ports.port? 2 = some c := by
  intro a p c line r r' left left' read v v'
  have seated : r.Seated 1 p (some line) := by
    refine ⟨rfl, rfl, fun {i q id} hq hqid hid => ?_⟩
    obtain rfl := Option.some.inj hid
    match i with
    | 0 | 2 =>
      obtain rfl := Option.some.inj hq
      cases hqid
    | 1 => rfl
    | i + 3 => cases hq
  have seated' : r'.Seated 0 p (some line) := by
    refine ⟨rfl, rfl, fun {i q id} hq hqid hid => ?_⟩
    match i with
    | 0 => rfl
    | i + 1 => cases hq
  have turn : Turn 1 2 0 .readable ⟨r, .acting left⟩ [read, read, .closeAt 2, read] := by
    refine .later (show 0 ≠ 1 by decide) (.later (show 2 ≠ 1 by decide) (.later ?_ ?_))
    · exact show 2 ≠ 1 by decide
    · exact .now rfl rfl rfl (fun _ => rfl) trivial
  have turn' : Turn 0 2 0 .readable ⟨r', .acting left'⟩ [read] :=
    .now rfl rfl rfl (fun _ => rfl) trivial
  have inOrder : r.ports.InOrder := by
    refine ⟨fun m hm => ?_, by decide⟩
    rcases List.mem_cons.mp hm with rfl | hm
    · exact ⟨a, rfl, rfl, rfl⟩
    · rcases List.mem_cons.mp hm with rfl | hm
      · exact ⟨c, rfl, rfl, rfl⟩
      · obtain rfl := List.mem_singleton.mp hm
        exact ⟨p, rfl, rfl, rfl⟩
  have inOrder' : r'.ports.InOrder := by
    refine ⟨fun m hm => ?_, by decide⟩
    obtain rfl := List.mem_singleton.mp hm
    exact ⟨p, rfl, rfl, rfl⟩
  have alone : calls 0 (deliveries v'.2) = [("B", [1, 2])] := by decide
  have pass : calls 0 (r'.readerPass fun _ => true).2.deliveries = [("B", [1, 2])] := by decide
  obtain ⟨runs, passes, closes, -⟩ := faults_stay_apart
  obtain ⟨q, line', after, after', same⟩ := runs ⟨r, .acting left⟩ ⟨r', .acting left'⟩ 1 0 p
    (some line) 0 .readable _ _ seated seated' turn turn'
  obtain ⟨-, -, -, -, passed⟩ := passes r r' 1 0 p (some line) (fun i => i = 1) (fun _ => true)
    seated seated' inOrder inOrder' (by decide) (by decide) rfl rfl
  obtain ⟨shut, port, -, closed, -⟩ := closes r left 0 a rfl
  have hungUp : shut = { a with terminal := none } :=
    closed _ List.mem_cons_self rfl ⟨rfl, .inl rfl⟩ (fun told => by cases told)
  exact ⟨⟨q, line', after, after'⟩, same.trans alone, alone, passed.trans pass, pass,
    hungUp ▸ port, by decide⟩

end Watch

end Fieldbus
