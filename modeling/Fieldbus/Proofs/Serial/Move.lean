import Fieldbus.Serial.Watch

/-!
# What a step can do to ports

Whatever is done with ports is one of few moves. What every move keeps, and what goes through a line
in it, is said here once.

* `Rig.sentBy`, `Rig.takenBy`, `Rig.handedFrom`, `Rig.writtenTo`: what goes through a line.
* `Rig.Move`, `Rig.Regroup`: the moves, and what changes the set.
* `Rig.move_openAt`, `Rig.move_writeAt`, `Rig.move_readAt`, `Rig.move_advance`: the operations are
  moves.
* `Rig.Sound`: a terminal is open for one port at a time, and every descriptor is in order.
* `Rig.Move.sound`, `Rig.Move.session`: what every move keeps.
* **`Rig.Move.incoming`**, **`Rig.Move.outgoing`**: nothing is lost on a line, and nothing is added.
-/

namespace Fieldbus

/-! ## Lines -/

namespace Terminal

variable {t : Terminal}

theorem read_of_hungUp (h : t.hungUp = true) (n : Nat) : t.read n = (.failed .fatal, t) := by
  simp [read, h]

theorem read_of_alive (h : t.hungUp = false) (n : Nat) :
    t.read n = (.bytes (t.toPort.take n), { t with toPort := t.toPort.drop n }) := by
  simp [read, h]

theorem write_of_hungUp (h : t.hungUp = true) (data : Bytes) :
    t.write data = (.failed .fatal, t) := by
  simp [write, h]

theorem write_of_stalled (h : t.hungUp = false) (hs : t.stalled = true) (data : Bytes) :
    t.write data = (.failed .transient, t) := by
  simp [write, h, hs]

theorem write_of_ready (h : t.hungUp = false) (hs : t.stalled = false) (data : Bytes) :
    t.write data = (.accepted data.length, { t with fromPort := t.fromPort ++ data }) := by
  simp [write, h, hs]

end Terminal

namespace Devices

variable {d : Devices} {i j : Nat} {t t' : Terminal}

theorem line_of (h : d.terminal? i = some t) : d.line i = t := by
  simp [line, h]

theorem terminal?_update (h : d.terminal? i = some t) :
    (d.update i t').terminal? j = if i = j then some t' else d.terminal? j := by
  have hi : i < d.terminals.length := (List.getElem?_eq_some_iff.mp h).1
  simp only [terminal?, update, List.getElem?_set]
  rw [if_pos hi]

theorem line_update_self (h : d.terminal? i = some t) : (d.update i t').line i = t' := by
  simp [line, terminal?_update h]

theorem line_update_ne (h : d.terminal? i = some t) (hij : i ≠ j) :
    (d.update i t').line j = d.line j := by
  simp [line, terminal?_update h, hij]

theorem update_self (h : d.terminal? i = some t) : d.update i t = d := by
  obtain ⟨hi, rfl⟩ := List.getElem?_eq_some_iff.mp h
  unfold update
  rw [List.set_getElem_self]

end Devices

namespace Rig

/-- What the device at a terminal sent. -/
def sentBy (id : Nat) (es : List Event) : Bytes :=
  es.flatMap fun
    | .fed i data => if i = id then data else []
    | _ => []

/-- What the device at a terminal took. -/
def takenBy (id : Nat) (es : List Event) : Bytes :=
  es.flatMap fun
    | .taken i data => if i = id then data else []
    | _ => []

/-- What handlers got while their ports had a terminal open. -/
def handedFrom (id : Nat) (es : List Event) : Bytes :=
  es.flatMap fun
    | .handed source d => if source = some id then d.bytes else []
    | _ => []

/-- What was written to ports while they had a terminal open. -/
def writtenTo (id : Nat) (es : List Event) : Bytes :=
  es.flatMap fun
    | .wrote source _ data => if source = some id then data else []
    | _ => []

/-- What the handler of the port at a place got. -/
def handedTo (place : Nat) (es : List Event) : Bytes :=
  es.flatMap fun
    | .handed _ d => if d.place = place then d.bytes else []
    | _ => []

/-- The passes in which there is memory for the buffer of the port at a place. -/
def passes (place : Nat) (es : List Event) : Nat :=
  es.countP fun
    | .began granted => granted place
    | _ => false

section

variable (id : Nat) (es es' : List Event)

@[simp] theorem sentBy_append : sentBy id (es ++ es') = sentBy id es ++ sentBy id es' := by
  simp [sentBy, List.flatMap_append]

@[simp] theorem takenBy_append : takenBy id (es ++ es') = takenBy id es ++ takenBy id es' := by
  simp [takenBy, List.flatMap_append]

@[simp] theorem handedFrom_append :
    handedFrom id (es ++ es') = handedFrom id es ++ handedFrom id es' := by
  simp [handedFrom, List.flatMap_append]

@[simp] theorem writtenTo_append :
    writtenTo id (es ++ es') = writtenTo id es ++ writtenTo id es' := by
  simp [writtenTo, List.flatMap_append]

@[simp] theorem handedTo_append :
    handedTo id (es ++ es') = handedTo id es ++ handedTo id es' := by
  simp [handedTo, List.flatMap_append]

@[simp] theorem passes_append : passes id (es ++ es') = passes id es + passes id es' :=
  List.countP_append

@[simp] theorem sentBy_nil : sentBy id [] = [] := rfl

@[simp] theorem takenBy_nil : takenBy id [] = [] := rfl

end

end Rig

/-! ### What happens at the far ends -/

namespace Devices

variable (d : Devices) (id : Nat)

theorem line_putAt (path : String) (node : Node) : (d.putAt path node).line id = d.line id := by
  unfold putAt
  split <;> rfl

theorem bytes_hangUp (name : String) :
    (d.hangUp name).2.incoming id = d.incoming id ∧
      (d.hangUp name).2.outgoing id = d.outgoing id := by
  unfold hangUp incoming outgoing
  split
  · exact ⟨rfl, rfl⟩
  · next i _ =>
    split
    · exact ⟨rfl, rfl⟩
    · next t ht =>
      by_cases h : i = id
      · subst h
        rw [line_update_self ht, line_of ht]
        exact ⟨rfl, rfl⟩
      · rw [line_update_ne ht h]
        exact ⟨rfl, rfl⟩

theorem line_append (names : List (String × Nat)) :
    ({ d with terminals := d.terminals ++ [({} : Terminal)], names := names } : Devices).line id =
      d.line id := by
  simp only [line, terminal?, List.getElem?_append]
  split
  · rfl
  · next h =>
    rw [List.getElem?_eq_none (Nat.le_of_not_lt h)]
    rcases hk : id - d.terminals.length with _ | k <;> rfl

theorem bytes_addTerminal (name : String) :
    (d.addTerminal name).incoming id = d.incoming id ∧
      (d.addTerminal name).outgoing id = d.outgoing id := by
  simp only [addTerminal, incoming, outgoing, line_putAt, line_append]
  exact bytes_hangUp d id name

/-- What a device sends is put behind what waits for the port, and what it takes is taken from the
front of what waits for it. -/
theorem bytes_change (c : Change) :
    (d.change c).1.incoming id = d.incoming id ++ Rig.sentBy id (d.change c).2 ∧
      d.outgoing id = Rig.takenBy id (d.change c).2 ++ (d.change c).1.outgoing id := by
  cases c with
  | relink links | allow access => exact ⟨(List.append_nil _).symm, rfl⟩
  | plug name =>
    obtain ⟨h, h'⟩ := bytes_addTerminal d id name
    exact ⟨by simpa [change] using h, h'.symm⟩
  | feed i data | drain i data | stall i data | hangUp i =>
    simp only [change]
    split
    · simp
    · next t ht =>
      -- the terminal that changes is the one asked for, or another one
      by_cases h : i = id
      · subst h
        simp [incoming, outgoing, line_update_self ht, line_of ht, Rig.sentBy, Rig.takenBy,
          Terminal.feed, Terminal.drain]
      · simp [incoming, outgoing, line_update_ne ht h, h, Rig.sentBy, Rig.takenBy]

theorem no_transfer_change (c : Change) :
    Rig.handedFrom id (d.change c).2 = [] ∧ Rig.writtenTo id (d.change c).2 = [] ∧
      Rig.handedTo id (d.change c).2 = [] ∧ Rig.passes id (d.change c).2 = 0 ∧
      ∀ source x, .handed source x ∉ (d.change c).2 := by
  cases c with
  | relink links | allow access | plug name => exact ⟨rfl, rfl, rfl, rfl, by simp [change]⟩
  | feed i data | drain i data | stall i data | hangUp i =>
    simp only [change]
    split <;> exact ⟨rfl, rfl, rfl, rfl, by simp⟩

end Devices

/-! ## Ports -/

namespace PortSet

variable {s : PortSet} {place i : Nat} {p q : Port}

theorem port?_update (h : s.port? place = some p) :
    (s.update place q).port? i = if place = i then some q else s.port? i := by
  have hp : place < s.ports.length := (List.getElem?_eq_some_iff.mp h).1
  simp only [port?, update, List.getElem?_set]
  rw [if_pos hp]

theorem update_self (h : s.port? place = some p) : s.update place p = s := by
  obtain ⟨hp, rfl⟩ := List.getElem?_eq_some_iff.mp h
  unfold update
  rw [List.set_getElem_self]

theorem port?_modify {f : Port → Port} :
    (s.modify place f).port? i = (s.port? i).map fun p => if place = i then f p else p :=
  List.getElem?_modify ..

theorem modify_of_some (h : s.port? place = some p) (f : Port → Port) :
    s.modify place f = s.update place (f p) := by
  obtain ⟨hp, rfl⟩ := List.getElem?_eq_some_iff.mp h
  unfold modify update
  congr 1
  apply List.ext_getElem?
  intro j
  rw [List.getElem?_modify, List.getElem?_set]
  by_cases hj : place = j
  · subst hj
    simp [hp]
  · simp [hj]

theorem add_of_fresh {d : Descriptor} (valid : d.Valid) (fresh : s.find? d.uid = none) :
    s.add d = (.ok s.ports.length,
      { ports := s.ports ++ [{ descriptor := d }]
        members := s.members ++ [⟨d.uid, s.ports.length⟩] }) := by
  unfold PortSet.add
  rw [show d.fault? = none from valid, fresh]
  rfl

theorem add_cases (s : PortSet) (d : Descriptor) :
    (s.add d).2 = s ∨ d.Valid ∧ (s.add d).2 =
      { ports := s.ports ++ [{ descriptor := d }]
        members := s.members ++ [⟨d.uid, s.ports.length⟩] } := by
  unfold PortSet.add
  split
  · exact .inl rfl
  · next valid =>
    split
    · exact .inl rfl
    · exact .inr ⟨valid, rfl⟩

theorem modify_of_none (h : s.port? place = none) (f : Port → Port) : s.modify place f = s := by
  unfold modify
  rw [List.modify_eq_self (List.getElem?_eq_none_iff.mp h)]

end PortSet

namespace Rig

/-- A move: what can be done with ports at once, and what goes through lines meanwhile. -/
inductive Move (r : Rig) : List Event → Rig → Prop where
  /-- Nothing is done; only the reader's buffer may change. -/
  | rest (buffer : Bytes) : Move r [] { r with buffer := buffer }
  /-- The reader begins a pass. -/
  | begins (granted : Nat → Bool) : Move r [.began granted] r
  /-- A closed port gets a terminal that is not open for any port, and a session begins. -/
  | opens {place : Nat} {p : Port} {id : Nat} (port : r.ports.port? place = some p)
      (closed : p.terminal = none) (given : r.given? p = some id) :
      Move r [] (r.setPort place { p with terminal := some id, generation := p.generation + 1 })
  /-- A session ends, or the management of a port does. -/
  | ends {place : Nat} {p q : Port} (port : r.ports.port? place = some p)
      (same : q.descriptor = p.descriptor ∧ q.generation = p.generation)
      (ends : q.terminal = none ∨ q.terminal = p.terminal) (buffer : Bytes) :
      Move r [] { r.setPort place q with buffer := buffer }
  /-- The handler of an open port gets what a read gives. -/
  | reads {place : Nat} {p : Port} {id : Nat} {t : Terminal} (port : r.ports.port? place = some p)
      (opened : p.terminal = some id) (line : r.devices.terminal? id = some t)
      (alive : t.hungUp = false) (waits : t.toPort.take p.descriptor.maxLen ≠ [])
      (buffer : Bytes) :
      Move r [.handed (some id) ⟨place, p.id, t.toPort.take p.descriptor.maxLen⟩]
        { r with
          buffer := buffer
          devices := r.devices.update id
            { t with toPort := t.toPort.drop p.descriptor.maxLen } }
  /-- Bytes are written to an open port. -/
  | writes {place : Nat} {p : Port} {id : Nat} {t : Terminal} (port : r.ports.port? place = some p)
      (opened : p.terminal = some id) (line : r.devices.terminal? id = some t) (data : Bytes) :
      Move r [.wrote (some id) place data]
        { r with devices := r.devices.update id { t with fromPort := t.fromPort ++ data } }

/-- What can be done with a set: closed ports are added, and the members change. -/
inductive Regroup (r : Rig) : Rig → Prop where
  /-- A closed port is added. -/
  | adds (d : Descriptor) (valid : d.Valid) (members : List Member) :
      Regroup r { r with ports := ⟨r.ports.ports ++ [{ descriptor := d }], members⟩ }
  /-- Only the members change. -/
  | members (members : List Member) : Regroup r { r with ports := ⟨r.ports.ports, members⟩ }

section

variable {r r' : Rig} {es : List Event} {place i : Nat} {p q : Port}

theorem setPort_self (h : r.ports.port? place = some p) : r.setPort place p = r := by
  unfold setPort
  rw [PortSet.update_self h]

theorem Move.refl (r : Rig) : Move r [] r := .rest r.buffer

theorem Move.closes (h : r.ports.port? place = some p) (buffer : Bytes) :
    Move r [] { r.setPort place { p with terminal := none } with buffer := buffer } :=
  .ends (q := { p with terminal := none }) h ⟨rfl, rfl⟩ (.inl rfl) buffer

theorem incoming_of_quiet {t : Target} (h : r.readiness t = .quiet) :
    r.devices.incoming t.terminal = [] := by
  unfold readiness at h
  split at h
  · exact absurd h (by simp)
  · next d hd =>
    rw [Devices.incoming, Devices.line_of hd]
    split at h
    · exact absurd h (by simp)
    · split at h
      · next he => exact List.isEmpty_iff.mp he
      · exact absurd h (by simp)

theorem passes_handings (r : Rig) (place : Nat) (e : Effects) :
    passes place (r.handings e) = 0 := by
  simp [passes, handings, List.countP_eq_zero]

/-! ### The operations are moves -/

theorem openWith_cases (p : Port) (found : Option Nat) :
    (p.openWith found).2 = p ∨ p.terminal = none ∧ ∃ id, found = some id ∧
      (p.openWith found).2 = { p with terminal := some id, generation := p.generation + 1 } := by
  unfold Port.openWith
  split
  · exact .inl rfl
  · next hc =>
    have closed : p.terminal = none := by
      simp only [Port.isOpen, Bool.or_eq_true, not_or] at hc
      simpa using hc.1
    split
    · exact .inl rfl
    · next id => exact .inr ⟨closed, id, rfl, rfl⟩

theorem move_openAt (r : Rig) (place : Nat) : Move r [] (r.openAt r.given? place).2.1 := by
  unfold openAt
  cases h : r.ports.port? place with
  | none => exact .refl r
  | some p =>
    show Move r [] (r.setPort place (p.openWith (r.given? p)).2)
    rcases openWith_cases p (r.given? p) with hp | ⟨closed, id, given, hp⟩
    · rw [hp, setPort_self h]
      exact .refl r
    · rw [hp]
      exact .opens h closed given

theorem move_closeAt (r : Rig) (place : Nat) : Move r [] (r.closeAt place).2 := by
  unfold closeAt
  cases h : r.ports.port? place with
  | none => exact .refl r
  | some p => exact .closes h r.buffer

theorem move_visit (r : Rig) (place : Nat) : Move r [] (r.visit r.given? place).1 := by
  unfold visit
  cases r.ports.port? place with
  | none => exact .refl r
  | some p =>
    simp only
    split
    · exact .refl r
    · split
      · split
        · exact .refl r
        · exact move_closeAt r place
      · split
        · exact move_openAt r place
        · exact .refl r

theorem move_clearRunning (r : Rig) (place : Nat) :
    Move r [] { r with ports := r.ports.clearRunning place } := by
  unfold PortSet.clearRunning
  cases h : r.ports.port? place with
  | none =>
    rw [PortSet.modify_of_none h]
    exact .refl r
  | some p =>
    rw [PortSet.modify_of_some h]
    exact .ends (q := p.clearRunning) h ⟨rfl, rfl⟩ (.inr rfl) r.buffer

theorem move_hangUpAt (r : Rig) (t : Target) : Move r [] (r.hangUpAt t).1 := by
  unfold hangUpAt
  cases h : r.ports.port? t.place with
  | none => exact .refl r
  | some p =>
    by_cases hc : p.isCurrent t.generation
    · simp only [Port.closeIfCurrent, hc, if_true]
      exact .closes h r.buffer
    · simp only [Port.closeIfCurrent, hc]
      exact .refl r

theorem source?_of (h : r.ports.port? place = some p) : r.source? place = p.terminal := by
  simp [source?, h]

theorem writeAt_of_closed (h : r.ports.port? place = some p) (hid : p.terminal = none)
    (data : Bytes) : r.writeAt place data = (.error (.closed p.id), r, []) := by
  simp only [writeAt, h, hid, Option.bind_none, Port.write]
  rw [setPort_self h]

theorem writeAt_of_ready {id : Nat} {t : Terminal} (h : r.ports.port? place = some p)
    (hid : p.terminal = some id) (ht : r.devices.terminal? id = some t) (hh : t.hungUp = false)
    (hs : t.stalled = false) (data : Bytes) :
    r.writeAt place data =
      (.ok data.length,
        { r with devices := r.devices.update id { t with fromPort := t.fromPort ++ data } },
        []) := by
  simp only [writeAt, h, hid, ht, Option.bind_some, Option.map_some,
    Terminal.write_of_ready hh hs, Port.write]
  rw [setPort_self h]

theorem move_writeAt (r : Rig) (place : Nat) (data : Bytes) :
    Move r ((r.writeAt place data).1.toOption.toList.map fun n =>
      .wrote (r.source? place) place (data.take n)) (r.writeAt place data).2.1 := by
  cases h : r.ports.port? place with
  | none =>
    simp only [writeAt, h]
    exact .refl r
  | some p =>
    cases hid : p.terminal with
    | none =>
      rw [writeAt_of_closed h hid]
      exact .refl r
    | some id =>
      cases ht : r.devices.terminal? id with
      | none =>
        simp only [writeAt, h, hid, ht, Option.bind_some, Option.map_none, Port.write]
        exact .closes h r.buffer
      | some t =>
        cases hh : t.hungUp with
        | true =>
          simp only [writeAt, h, hid, ht, Option.bind_some, Option.map_some, Port.write,
            Terminal.write_of_hungUp hh, Devices.update_self ht]
          exact .closes h r.buffer
        | false =>
          cases hs : t.stalled with
          | true =>
            simp only [writeAt, h, hid, ht, Option.bind_some, Option.map_some, Port.write,
              Terminal.write_of_stalled hh hs, Devices.update_self ht, setPort_self h]
            exact .refl r
          | false =>
            rw [writeAt_of_ready h hid ht hh hs]
            simpa [Except.toOption, source?_of h, hid] using Move.writes h hid ht data

/-! ### The reader's buffer -/

/-- As much of a buffer as was read is what was read, provided that there was room for it. -/
theorem take_fill {buffer bs : Bytes} (room : bs.length ≤ buffer.length) :
    (Port.fill buffer bs).take bs.length = bs := by
  simp [Port.fill, List.take_of_length_le room]

theorem length_of_grown {buffer buffer' : Bytes} {capacity : Nat} {granted : Bool}
    (grown : grown? buffer capacity granted = some buffer') :
    (buffer'.take capacity).length = capacity := by
  unfold grown? at grown
  rw [List.length_take, Nat.min_eq_left]
  split at grown
  · next large =>
    obtain rfl := Option.some.inj grown
    exact large
  · split at grown
    · obtain rfl := Option.some.inj grown
      rw [List.length_append, List.length_replicate]
      omega
    · cases grown

theorem isCurrent_iff {g : UInt64} :
    p.isCurrent g = true ↔ p.generation = g ∧ ∃ id, p.terminal = some id := by
  simp [Port.isCurrent, Port.isOpen, Option.isSome_iff_exists]

theorem readReady_of_current {g : UInt64} (hc : p.isCurrent g = true) {buffer bs : Bytes}
    (hbs : bs ≠ []) (room : bs.length ≤ buffer.length) :
    p.readReady g buffer (.bytes bs) = (.delivered bs, Port.fill buffer bs, p) := by
  cases bs with
  | nil => exact absurd rfl hbs
  | cons b bs =>
    simp only [Port.readReady, hc, Bool.not_true, take_fill room]
    rfl

/-! A read from a noted port: the device has hung up, or nothing waits, or something does. -/

section

variable {t : Target} {id : Nat} {d : Terminal} {buffer : Bytes} {capacity n : Nat}
  (h : r.ports.port? t.place = some p) (hc : p.isCurrent t.generation = true)
  (hid : p.terminal = some id) (hd : r.devices.terminal? id = some d)
  (room : (buffer.take capacity).length = n)

section

include h hc hid hd

theorem readAt_of_hungUp (hh : d.hungUp = true) :
    r.readAt t buffer capacity =
      ({ r.setPort t.place { p with terminal := none } with buffer := buffer },
        { notices := [⟨t.place, .closed .read⟩] }) := by
  simp only [readAt, h, hc, hid, hd, if_true, Option.bind_some, Option.map_some,
    Terminal.read_of_hungUp hh, Port.readReady, Bool.not_true, Devices.update_self hd]
  simp [setPort]

end

include h hc hid hd room

theorem readAt_of_silent (hh : d.hungUp = false) (hs : d.toPort.take n = []) :
    r.readAt t buffer capacity = ({ r with buffer := buffer }, {}) := by
  -- nothing is taken from the line either
  have hdrop : d.toPort.drop n = d.toPort := by
    have := List.take_append_drop n d.toPort
    rwa [hs, List.nil_append] at this
  have hread : p.readReady t.generation (buffer.take capacity) (.bytes []) =
      (.idle, buffer.take capacity, p) := by
    simp only [Port.readReady, hc, Bool.not_true]
    rfl
  simp only [readAt, h, hc, hid, hd, room, if_true, Option.bind_some, Option.map_some,
    Terminal.read_of_alive hh, hs, hdrop, hread, Devices.update_self hd, List.take_append_drop]
  rw [setPort_self h]

theorem readAt_of_waits (hh : d.hungUp = false) (hw : d.toPort.take n ≠ []) :
    r.readAt t buffer capacity =
      ({ r with
          buffer := Port.fill (buffer.take capacity) (d.toPort.take n) ++ buffer.drop capacity
          devices := r.devices.update id { d with toPort := d.toPort.drop n } },
        { deliveries := [⟨t.place, p.id, d.toPort.take n⟩] }) := by
  have fits : (d.toPort.take n).length ≤ (buffer.take capacity).length := by
    rw [room]
    exact List.length_take_le n d.toPort
  simp only [readAt, h, hc, hid, hd, room, if_true, Option.bind_some, Option.map_some,
    Terminal.read_of_alive hh, readReady_of_current hc hw fits]
  rw [setPort_self h]

end

theorem readAt_of_not_current {t : Target} (h : r.ports.port? t.place = some p)
    (hc : p.isCurrent t.generation = false) (buffer : Bytes) (capacity : Nat) :
    r.readAt t buffer capacity = ({ r with buffer := buffer }, {}) := by
  simp [readAt, h, hc]

theorem readAt_of_missing {t : Target} {id : Nat} (h : r.ports.port? t.place = some p)
    (hid : p.terminal = some id) (hd : r.devices.terminal? id = none) (buffer : Bytes)
    (capacity : Nat) : r.readAt t buffer capacity = ({ r with buffer := buffer }, {}) := by
  cases hc : p.isCurrent t.generation <;> simp [readAt, h, hc, hid, hd]

theorem move_readAt {t : Target} {buffer : Bytes} (h : r.ports.port? t.place = some p)
    (room : (buffer.take p.descriptor.maxLen).length = p.descriptor.maxLen) :
    Move r (r.handings (r.readAt t buffer p.descriptor.maxLen).2)
      (r.readAt t buffer p.descriptor.maxLen).1 := by
  cases hc : p.isCurrent t.generation with
  | false =>
    rw [readAt_of_not_current h hc]
    exact .rest buffer
  | true =>
    obtain ⟨id, hid⟩ := (isCurrent_iff.mp hc).2
    cases hd : r.devices.terminal? id with
    | none =>
      rw [readAt_of_missing h hid hd]
      exact .rest buffer
    | some d =>
      cases hh : d.hungUp with
      | true =>
        rw [readAt_of_hungUp h hc hid hd hh]
        exact .closes h buffer
      | false =>
        by_cases hw : d.toPort.take p.descriptor.maxLen = []
        · rw [readAt_of_silent h hc hid hd room hh hw]
          exact .rest buffer
        · rw [readAt_of_waits h hc hid hd room hh hw]
          simpa [handings, source?_of h, hid] using Move.reads h hid hd hh hw _

theorem hangUpAt_of_current {t : Target} (h : r.ports.port? t.place = some p)
    (hc : p.isCurrent t.generation = true) :
    r.hangUpAt t =
      (r.setPort t.place { p with terminal := none },
        { notices := [⟨t.place, .closed .hangup⟩] }) := by
  simp [hangUpAt, h, Port.closeIfCurrent, hc]

/-- A readable port is passed over, or read from into as much of the buffer as it may read. -/
theorem handle_readable {t : Target} (h : r.ports.port? t.place = some p) (granted : Bool) :
    (∃ buffer, grown? r.buffer p.descriptor.maxLen granted = some buffer ∧
        (buffer.take p.descriptor.maxLen).length = p.descriptor.maxLen ∧
        r.handle t .readable granted = r.readAt t buffer p.descriptor.maxLen) ∨
      grown? r.buffer p.descriptor.maxLen granted = none ∧
        r.handle t .readable granted = (r, {}) := by
  cases grown : grown? r.buffer p.descriptor.maxLen granted with
  | none => exact .inr ⟨rfl, by simp only [handle, h, Option.map_some, Option.getD_some, grown]⟩
  | some buffer =>
    refine .inl ⟨buffer, rfl, length_of_grown grown, ?_⟩
    simp only [handle, h, Option.map_some, Option.getD_some, grown]

theorem handle_granted {t : Target} (h : r.ports.port? t.place = some p) :
    ∃ buffer, (buffer.take p.descriptor.maxLen).length = p.descriptor.maxLen ∧
      r.handle t .readable true = r.readAt t buffer p.descriptor.maxLen := by
  rcases handle_readable h true with ⟨buffer, -, room, reads⟩ | ⟨short, -⟩
  · exact ⟨buffer, room, reads⟩
  · unfold grown? at short
    split at short <;> cases short

theorem handle_missing {t : Target} (h : r.ports.port? t.place = none) (granted : Bool) :
    r.handle t .readable granted = (r, {}) := by
  simp only [handle, h, Option.map_none, Option.getD_none, grown?, Nat.zero_le, if_true, readAt]

theorem handings_hangUpAt (r : Rig) (t : Target) : r.handings (r.hangUpAt t).2 = [] := by
  unfold hangUpAt
  cases r.ports.port? t.place with
  | none => rfl
  | some p => cases hc : p.isCurrent t.generation <;> simp [Port.closeIfCurrent, hc, handings]

theorem move_handle (r : Rig) (t : Target) (what : Readiness) (granted : Bool) :
    Move r (r.handings (r.handle t what granted).2) (r.handle t what granted).1 := by
  cases what with
  | quiet => exact .refl r
  | hangup =>
    show Move r (r.handings (r.hangUpAt t).2) (r.hangUpAt t).1
    rw [handings_hangUpAt]
    exact move_hangUpAt r t
  | readable =>
    cases h : r.ports.port? t.place with
    | none =>
      rw [handle_missing h]
      exact .refl r
    | some p =>
      rcases handle_readable h granted with ⟨buffer, -, room, reads⟩ | ⟨-, skips⟩
      · rw [reads]
        exact move_readAt h room
      · rw [skips]
        exact .refl r

theorem move_advance (r : Rig) (granted : Nat → Bool) (round : Round) :
    Move r (beginning granted round ++ r.handings (r.advance granted round).2.2)
      (r.advance granted round).1 := by
  cases round with
  | noting g noted members => cases members <;> exact .refl r
  | acting left =>
    cases left with
    | nil => exact .begins granted
    | cons x left => exact move_handle r _ _ _

theorem regroup_add (r : Rig) (d : Descriptor) :
    Regroup r { r with ports := (r.ports.add d).2 } := by
  rcases r.ports.add_cases d with same | ⟨valid, added⟩
  · rw [same]
    exact .members r.ports.members
  · rw [added]
    exact .adds d valid _

theorem regroup_unlink (r : Rig) (uid : String) :
    Regroup r { r with ports := (r.ports.unlink uid).2 } := by
  unfold PortSet.unlink
  split
  · exact .members r.ports.members
  · exact .members _

/-! ### What every move keeps -/

theorem Move.members (m : Move r es r') : r'.ports.members = r.ports.members := by
  cases m <;> rfl

theorem port?_setPort (h : r.ports.port? place = some p) :
    (r.setPort place q).ports.port? i = if place = i then some q else r.ports.port? i :=
  PortSet.port?_update h

theorem Move.descriptor (m : Move r es r') (i : Nat) :
    (r'.ports.port? i).map Port.descriptor = (r.ports.port? i).map Port.descriptor := by
  have put {place : Nat} {p q : Port} (h : r.ports.port? place = some p)
      (hd : q.descriptor = p.descriptor) :
      ((r.setPort place q).ports.port? i).map Port.descriptor =
        (r.ports.port? i).map Port.descriptor := by
    rw [port?_setPort h]
    split
    · next hi => rw [← hi, h, Option.map_some, Option.map_some, hd]
    · rfl
  cases m with
  | rest | begins | reads | writes => rfl
  | opens port _ _ => exact put port rfl
  | ends port same _ _ => exact put port same.1

/-- A port that is open before a move and after it is still in the same session. -/
theorem Move.session (m : Move r es r') {p' : Port} {id id' : Nat}
    (h : r.ports.port? place = some p) (h' : r'.ports.port? place = some p')
    (hid : p.terminal = some id) (hid' : p'.terminal = some id') :
    id' = id ∧ p'.generation = p.generation := by
  cases m with
  | rest | begins | reads | writes =>
    obtain rfl : p = p' := Option.some.inj (h.symm.trans h')
    exact ⟨Option.some.inj (hid'.symm.trans hid), rfl⟩
  | opens port closed _ =>
    rw [port?_setPort port] at h'
    split at h'
    · next hi =>
      -- the port that is opened was closed
      subst hi
      obtain rfl := Option.some.inj (port.symm.trans h)
      rw [closed] at hid
      exact absurd hid (by simp)
    · obtain rfl : p = p' := Option.some.inj (h.symm.trans h')
      exact ⟨Option.some.inj (hid'.symm.trans hid), rfl⟩
  | ends port same ends buffer =>
    replace h' := (port?_setPort port).symm.trans h'
    split at h'
    · next hi =>
      subst hi
      obtain rfl := Option.some.inj (port.symm.trans h)
      obtain rfl := Option.some.inj h'
      rcases ends with ends | ends
      · rw [ends] at hid'
        exact absurd hid' (by simp)
      · rw [ends, hid] at hid'
        exact ⟨(Option.some.inj hid').symm, same.2⟩
    · obtain rfl : p = p' := Option.some.inj (h.symm.trans h')
      exact ⟨Option.some.inj (hid'.symm.trans hid), rfl⟩

theorem Move.far_ends (m : Move r es r') (id : Nat) : sentBy id es = [] ∧ takenBy id es = [] := by
  cases m <;> exact ⟨rfl, rfl⟩

/-- **Nothing is lost on the way to ports.** What waited for a port at a terminal, and what the
device sent, is what handlers got from there and what still waits. -/
theorem Move.incoming (m : Move r es r') (id : Nat) :
    r.devices.incoming id ++ sentBy id es = handedFrom id es ++ r'.devices.incoming id := by
  cases m with
  | rest | begins | opens | ends => exact List.append_nil _
  | @reads _ p i t port opened line alive waits buffer =>
    by_cases hi : i = id
    · subst hi
      simp [Devices.incoming, Devices.line_of line, Devices.line_update_self line, sentBy,
        handedFrom, List.take_append_drop]
    · simp [Devices.incoming, Devices.line_update_ne line hi, sentBy, handedFrom, hi]
  | @writes _ p i t port opened line data =>
    by_cases hi : i = id
    · subst hi
      simp [Devices.incoming, Devices.line_of line, Devices.line_update_self line, sentBy,
        handedFrom]
    · simp [Devices.incoming, Devices.line_update_ne line hi, sentBy, handedFrom]

/-- **Nothing is lost on the way to devices.** What waited for the device at a terminal, and what
was written to the port, is what the device took and what still waits. -/
theorem Move.outgoing (m : Move r es r') (id : Nat) :
    r.devices.outgoing id ++ writtenTo id es = takenBy id es ++ r'.devices.outgoing id := by
  cases m with
  | rest | begins | opens | ends => exact List.append_nil _
  | @reads _ p i t port opened line alive waits buffer =>
    by_cases hi : i = id
    · subst hi
      simp [Devices.outgoing, Devices.line_of line, Devices.line_update_self line, takenBy,
        writtenTo]
    · simp [Devices.outgoing, Devices.line_update_ne line hi, takenBy, writtenTo]
  | @writes _ p i t port opened line data =>
    by_cases hi : i = id
    · subst hi
      simp [Devices.outgoing, Devices.line_of line, Devices.line_update_self line, takenBy,
        writtenTo]
    · simp [Devices.outgoing, Devices.line_update_ne line hi, takenBy, writtenTo, hi]

theorem Move.handed (m : Move r es r') {source : Option Nat} {d : Delivery}
    (hd : .handed source d ∈ es) :
    ∃ p id t, r.ports.port? d.place = some p ∧ p.terminal = some id ∧
      r.devices.terminal? id = some t ∧ (t.read p.descriptor.maxLen).1 = .bytes d.bytes ∧
      source = some id ∧ d.uid = p.id ∧ 1 ≤ d.bytes.length ∧
      d.bytes.length ≤ p.descriptor.maxLen := by
  cases m with
  | rest | begins | opens | ends | writes => exact absurd hd (by simp)
  | @reads place p id t port opened line alive waits buffer =>
    simp only [List.mem_cons, List.not_mem_nil, or_false, Event.handed.injEq] at hd
    obtain ⟨rfl, rfl⟩ := hd
    refine ⟨p, id, t, port, opened, line, ?_, rfl, rfl, List.length_pos_iff.mpr waits, ?_⟩
    · rw [Terminal.read_of_alive alive]
    · simpa only [List.length_take] using Nat.min_le_left _ _

/-! ### Sound rigs -/

/-- A rig in which no terminal is open for two ports, and every descriptor is in order. -/
structure Sound (r : Rig) : Prop where
  /-- Every descriptor is in order. -/
  valid : ∀ {place p}, r.ports.port? place = some p → p.descriptor.Valid
  /-- Ports that have the same terminal open are the same. -/
  exclusive : ∀ {i j p q id}, r.ports.port? i = some p → r.ports.port? j = some q →
    p.terminal = some id → q.terminal = some id → i = j

theorem given?_eq_some {id : Nat} (h : r.given? p = some id) :
    r.devices.openable? p.device = some id ∧
      r.devices.access.grants p.device (r.ports.holds id) = true := by
  obtain ⟨id', leads, granted⟩ := Option.bind_eq_some_iff.mp h
  split at granted
  · next grants =>
    obtain rfl := Option.some.inj granted
    exact ⟨leads, grants⟩
  · cases granted

/-- A terminal that a closed port gets is not open for any port. -/
theorem not_held_of_given {id : Nat} (h : r.given? p = some id) (hq : r.ports.port? i = some q) :
    q.terminal ≠ some id := by
  intro hid
  have held : r.ports.holds id = true := by
    simp only [PortSet.holds, List.any_eq_true, decide_eq_true_eq]
    exact ⟨q, List.mem_of_getElem? hq, hid⟩
  have grants := (given?_eq_some h).2
  rw [held, r.devices.access.exclusive] at grants
  cases grants

theorem Sound.initial (devices : Devices) (buffer : Bytes) :
    Sound { devices := devices, buffer := buffer } where
  valid h := absurd h (by simp [PortSet.port?])
  exclusive h := absurd h (by simp [PortSet.port?])

theorem Move.sound (m : Move r es r') (h : Sound r) : Sound r' where
  valid {i p'} hp' := by
    have hd := m.descriptor i
    rw [hp'] at hd
    obtain ⟨p, hp, hpd⟩ := Option.map_eq_some_iff.mp hd.symm
    rw [← hpd]
    exact h.valid hp
  exclusive {i j p' q' id} hp hq hpid hqid := by
    cases m with
    | rest | begins | reads | writes => exact h.exclusive hp hq hpid hqid
    | opens port closed given =>
      rw [port?_setPort port] at hp hq
      split at hp <;> split at hq
      · next hi hj => rw [← hi, ← hj]
      · obtain rfl := Option.some.inj hp
        obtain rfl := Option.some.inj hpid
        exact absurd hqid (not_held_of_given given hq)
      · obtain rfl := Option.some.inj hq
        obtain rfl := Option.some.inj hqid
        exact absurd hpid (not_held_of_given given hp)
      · exact h.exclusive hp hq hpid hqid
    | @ends place p q port same ends buffer =>
      -- every port that is open afterwards was open on the same terminal before
      have before {k : Nat} {x : Port} (hx : (r.setPort place q).ports.port? k = some x)
          (hxid : x.terminal = some id) :
          ∃ y, r.ports.port? k = some y ∧ y.terminal = some id := by
        rw [port?_setPort port] at hx
        split at hx
        · next hk =>
          obtain rfl := Option.some.inj hx
          rcases ends with ends | ends
          · exact absurd (ends.symm.trans hxid) (by simp)
          · exact ⟨p, hk ▸ port, ends.symm.trans hxid⟩
        · exact ⟨x, hx, hxid⟩
      obtain ⟨y, hy, hyid⟩ := before hp hpid
      obtain ⟨z, hz, hzid⟩ := before hq hqid
      exact h.exclusive hy hz hyid hzid

/-- While a port is open, its handler gets what comes from its terminal, and nothing else. -/
theorem Move.handedTo_eq (m : Move r es r') (sound : Sound r) {id : Nat}
    (h : r.ports.port? place = some p) (hid : p.terminal = some id) :
    handedTo place es = handedFrom id es := by
  cases m with
  | rest | begins | opens | ends | writes => rfl
  | @reads place' q id' t port opened line alive waits buffer =>
    -- the port that reads is the one looked at if and only if the terminals are the same
    have same : place' = place ↔ id' = id := by
      constructor
      · rintro rfl
        rw [Option.some.inj (port.symm.trans h), hid] at opened
        exact (Option.some.inj opened).symm
      · rintro rfl
        exact sound.exclusive port h opened hid
    by_cases hp : place' = place
    · simp [handedTo, handedFrom, hp, same.mp hp]
    · simp [handedTo, handedFrom, hp, mt same.mpr hp]

theorem Regroup.devices (g : Regroup r r') : r'.devices = r.devices := by
  cases g <;> rfl

theorem Regroup.port? (g : Regroup r r') (h : r.ports.port? i = some p) :
    r'.ports.port? i = some p := by
  cases g with
  | members => exact h
  | adds d valid members =>
    have hi : i < r.ports.ports.length := (List.getElem?_eq_some_iff.mp h).1
    exact (List.getElem?_append_left hi).trans h

theorem Regroup.sound (g : Regroup r r') (h : Sound r) : Sound r' := by
  cases g with
  | members => exact ⟨h.valid, h.exclusive⟩
  | adds d valid members =>
    -- the new port is closed
    have old {k : Nat} {x : Port} (hx : (r.ports.ports ++ [{ descriptor := d }])[k]? = some x) :
        r.ports.port? k = some x ∨ x = { descriptor := d } := by
      rw [List.getElem?_append] at hx
      split at hx
      · exact .inl hx
      · exact .inr (by simpa using List.mem_of_getElem? hx)
    refine ⟨fun {k x} hx => ?_, fun {i j p q id} hp hq hpid hqid => ?_⟩
    · rcases old hx with hx | rfl
      · exact h.valid hx
      · exact valid
    · rcases old hp with hp | rfl
      · rcases old hq with hq | rfl
        · exact h.exclusive hp hq hpid hqid
        · exact absurd hqid (by simp)
      · exact absurd hpid (by simp)

end

end Rig

end Fieldbus
