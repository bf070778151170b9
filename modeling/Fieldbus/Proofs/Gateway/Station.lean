import Fieldbus.Proofs.Gateway.Registration
import Fieldbus.Proofs.Gateway.Wiring
import Fieldbus.Proofs.Serial.Journal
import Mathlib.Data.List.Nodup

/-!
# The gateway for ports, end to end

What devices get comes from the bus, and what they send goes there, whatever happens in between:
frames wait at endpoints and are held back by pacers, the reader is interrupted, paths go away and
come back, and ports with them.

* `TimedStation.tries`, `TimedStation.written`, `TimedStation.published`, `TimedStation.chunks`:
  what went where.
* `TimedStation.Worked`: what the worker of an endpoint, or its handler, can do in a step.
* `TimedStation.Loyal`: paths lead to no other devices, and devices take whole writes.
* `TimedStation.Flows`: what went through the lines, and what was published.
* `TimedStation.Staffed`: what the handlers did with the frames that came, and what waits.
* `TimedStation.Works.step`: every step keeps these.
* **`TimedStation.carries_exactly`**: what devices get and send is what the bus brings and gets.
* `TimedStation.late_frame_is_written`: the time at which a frame arrives does not matter.
-/

namespace Fieldbus.TimedStation

open Rig

/-! ## What went where -/

/-- The messages that the relay passed on. -/
def relayed (steps : List Step) : List Message :=
  steps.filterMap fun
    | .relay m => some m
    | _ => none

/-- The frames whose payloads the handler of a port tried to write, with what the port answered. -/
def tries (uid : String) (es : List Event) : List (Frame × Except PortError Nat) :=
  es.filterMap fun
    | .did u (.tried f _) (some answer) => if u = uid then some (f, answer) else none
    | _ => none

/-- The frames whose payloads were written to the port with an id. -/
def written (uid : String) (es : List Event) : List Frame :=
  (tries uid es).filterMap fun x => if x.2.toBool then some x.1 else none

/-- The frames that were published. -/
def published (es : List Event) : List Frame :=
  es.filterMap fun
    | .published f => some f
    | _ => none

/-- What went through lines. -/
def lines (es : List Event) : List Rig.Event :=
  es.filterMap fun
    | .line e => some e
    | _ => none

/-- What was read from a terminal, read by read. -/
def chunks (id : Nat) (es : List Event) : List Bytes :=
  (lines es).filterMap fun
    | .handed source x => if source = some id then some x.bytes else none
    | _ => none

section

variable (uid : String) (es es' : List Event)

@[simp] theorem tries_append : tries uid (es ++ es') = tries uid es ++ tries uid es' :=
  List.filterMap_append

@[simp] theorem written_append : written uid (es ++ es') = written uid es ++ written uid es' := by
  rw [written, tries_append, List.filterMap_append, written, written]

@[simp] theorem published_append : published (es ++ es') = published es ++ published es' :=
  List.filterMap_append

@[simp] theorem lines_append : lines (es ++ es') = lines es ++ lines es' :=
  List.filterMap_append

/-- Something of which nobody but the handlers takes note. -/
structure Inward (es : List Event) : Prop where
  lines : lines es = []
  published : published es = []

theorem inward_did (deed : Deed) (answer : Option (Except PortError Nat)) :
    Inward [.did uid deed answer] := ⟨rfl, rfl⟩

theorem of_lines (ls : List Rig.Event) :
    lines (ls.map .line) = ls ∧ tries uid (ls.map .line) = [] ∧ published (ls.map .line) = [] := by
  induction ls with
  | nil => exact ⟨rfl, rfl, rfl⟩
  | cons l ls ih =>
    obtain ⟨h1, h2, h3⟩ := ih
    exact ⟨congrArg (l :: ·) h1, h2, h3⟩

theorem of_published (fs : List Frame) :
    lines (fs.map .published) = [] ∧ tries uid (fs.map .published) = [] ∧
      published (fs.map .published) = fs := by
  induction fs with
  | nil => exact ⟨rfl, rfl, rfl⟩
  | cons f fs ih =>
    obtain ⟨h1, h2, h3⟩ := ih
    exact ⟨h1, h2, congrArg (f :: ·) h3⟩

end

theorem handedFrom_lines (id : Nat) (es : List Event) :
    handedFrom id (lines es) = (chunks id es).flatten := by
  unfold chunks
  induction lines es with
  | nil => rfl
  | cons l ls ih =>
    rw [← List.singleton_append, handedFrom_append, ih, List.filterMap_append, List.flatten_append]
    congr 1
    cases l with
    | handed source x => by_cases h : source = some id <;> simp [handedFrom, h]
    | _ => rfl

/-- The frame in which the endpoint of a port publishes what the port reads. -/
def northward : Rig.Event → Option Frame
  | .handed _ x => (Frame.outgoing x.uid x.bytes).toOption
  | _ => none

/-! ## What can happen in a step -/

/-- What the worker of an endpoint, or its handler, can do in a step. -/
inductive Worked (t : TimedStation) (place : Nat) (outcome : DeviceWrite) :
    TimedStation × List Event → Prop where
  /-- There is nothing to do, or the pacer has not let the frame go. -/
  | rests : Worked t place outcome (t, [])
  /-- The worker handles no frame. -/
  | looks {e : Endpoint} (endpoint : t.station.endpoints[place]? = some e)
      (same : e.work.1.handled = e.handled) :
      Worked t place outcome (t.setEndpoint place e.work.1, [])
  /-- The handler, which had nothing to do, gets a frame. -/
  | gets {e : Endpoint} {f : Frame} (endpoint : t.station.endpoints[place]? = some e)
      (idle : t.tasks place = none) (new : e.work.1.handled = e.handled ++ [f]) :
      Worked t place outcome
        ((t.setEndpoint place e.work.1).setTask place (some (.asking f)),
          [.did e.id (.got f) none])
  /-- The handler calls the pacer. -/
  | asks {e : Endpoint} {f : Frame} (endpoint : t.station.endpoints[place]? = some e)
      (has : t.tasks place = some (.asking f)) :
      Worked t place outcome
        (t.setTask place (some (.waiting f t.clock (t.gateway.heldBack e.id t.clock))), [])
  /-- The pacer lets the frame go. -/
  | lets {e : Endpoint} {f : Frame} {begun wait : Nat}
      (endpoint : t.station.endpoints[place]? = some e)
      (has : t.tasks place = some (.waiting f begun wait)) :
      Worked t place outcome
        ((t.withGateway (t.gateway.note e.id t.clock)).setTask place (some (.writing f)),
          [.did e.id (.paced ⟨begun, wait, t.clock⟩) none])
  | writes {e : Endpoint} {f : Frame} (endpoint : t.station.endpoints[place]? = some e)
      (has : t.tasks place = some (.writing f)) :
      Worked t place outcome
        ((t.withRig (t.rig.writeTo e.id f.payload outcome).2.1).setTask place none,
          [.did e.id (.tried f t.clock) (some (t.rig.writeTo e.id f.payload outcome).1)])

theorem work_cases (t : TimedStation) (place : Nat) (outcome : DeviceWrite) :
    Worked t place outcome (t.work place outcome) := by
  unfold work
  split
  · exact .rests
  · next e endpoint =>
    split
    · next idle =>
      obtain ⟨f, handled⟩ : ∃ f : Option Frame, e.work.1.handled = e.handled ++ f.toList :=
        e.handled_goOn false
      unfold attend
      dsimp only
      cases f with
      | none =>
        rw [Option.toList_none, List.append_nil] at handled
        rw [handled, List.drop_length]
        exact .looks endpoint handled
      | some f =>
        rw [handled, List.drop_left]
        exact .gets endpoint idle handled
    · next f has => exact .asks endpoint has
    · next f begun wait has =>
      split
      · exact .lets endpoint has
      · exact .rests
    · next f has => exact .writes endpoint has

/-- The frame that the handler at a place is about to write. -/
def writing? (t : TimedStation) (place : Nat) : Option Frame :=
  match t.tasks place with
  | some (.writing f) => some f
  | _ => none

/-- A step after which every path of a port leads to the device of this port or to none, and in
which a device takes all that is written to it. -/
def Loyal (ds : List Descriptor) (T : Descriptor → Nat) (t : TimedStation) : Step → Prop
  | .change c => ∀ d ∈ ds, (t.rig.devices.change c).1.LeadsTo d.device (T d)
  | .work place outcome => ∀ f ∈ t.writing? place, outcome = .accepted f.payload.length
  | _ => True

instance (ds : List Descriptor) (T : Descriptor → Nat) (t : TimedStation) :
    (s : Step) → Decidable (Loyal ds T t s)
  | .change c =>
    inferInstanceAs (Decidable (∀ d ∈ ds, (t.rig.devices.change c).1.LeadsTo d.device (T d)))
  | .work place outcome =>
    inferInstanceAs (Decidable (∀ f ∈ t.writing? place, outcome = .accepted f.payload.length))
  | .tick _ | .relay _ | .visit _ | .read _ => inferInstanceAs (Decidable True)

/-! ## What goes through the lines -/

/-- The ports of a gateway are those given, and the device of each is the one that `T` gives. -/
structure Posted (ds : List Descriptor) (T : Descriptor → Nat) (r : Rig) : Prop where
  /-- Every port has its own device. -/
  wired : Wired T r
  /-- The ports are those given. -/
  ports : ∀ i, (r.ports.port? i).map Port.descriptor = ds[i]?
  /-- Every port is found under its id. -/
  found : ∀ i d, ds[i]? = some d → r.ports.find? d.uid = some i

/-- What went through the lines of a gateway, and what was published. -/
structure Flows (devices : Devices) (ds : List Descriptor) (T : Descriptor → Nat) (r : Rig)
    (es : List Event) : Prop where
  /-- The ports are those given, with devices of their own. -/
  posted : Posted ds T r
  /-- What was written to a port was taken by its device, or waits for it. -/
  south : ∀ d ∈ ds, devices.outgoing (T d) ++ (written d.uid es).flatMap Frame.payload =
    takenBy (T d) (lines es) ++ r.devices.outgoing (T d)
  /-- No other device gets anything. -/
  others : ∀ id, (∀ d ∈ ds, T d ≠ id) →
    devices.outgoing id = takenBy id (lines es) ++ r.devices.outgoing id
  /-- What devices sent was read or waits. -/
  north : ∀ id, devices.incoming id ++ sentBy id (lines es) =
    handedFrom id (lines es) ++ r.devices.incoming id
  /-- Ports read from their own devices, and no more than they may. -/
  handed : ∀ source x, .handed source x ∈ lines es → ∃ d ∈ ds, source = some (T d) ∧
    x.uid = d.uid ∧ 1 ≤ x.bytes.length ∧ x.bytes.length ≤ d.maxLen
  /-- What was read was published. -/
  published : TimedStation.published es = (lines es).filterMap northward

variable {devices : Devices} {ds : List Descriptor} {T : Descriptor → Nat} {r r' : Rig}
  {es : List Event}

theorem Posted.port (h : Posted ds T r) {i : Nat} {p : Port} (hp : r.ports.port? i = some p) :
    ds[i]? = some p.descriptor := by
  rw [← h.ports i, hp]
  rfl

theorem Posted.move (h : Posted ds T r) {ls : List Rig.Event} (m : Move r ls r') :
    Posted ds T r' where
  wired := m.wired h.wired
  ports i := (m.descriptor i).trans (h.ports i)
  found i d hd := by
    rw [PortSet.find?, m.members]
    exact h.found i d hd

theorem Posted.write_cases (h : Posted ds T r) {d : Descriptor} (hd : d ∈ ds) (payload : Bytes) :
    let opened := ((r.ports.find? d.uid).bind r.source?).isSome
    let wrote := r.writeTo d.uid payload (.accepted payload.length)
    opened = false ∧ wrote = (.error (.closed d.uid), r, []) ∨
      opened = true ∧ ∃ i p t, r.ports.port? i = some p ∧ p.terminal = some (T d) ∧
        r.devices.terminal? (T d) = some t ∧
        wrote =
          (.ok payload.length,
            { r with
              devices := r.devices.update (T d) { t with fromPort := t.fromPort ++ payload } },
            []) := by
  obtain ⟨i, hi⟩ := List.getElem?_of_mem hd
  have found := h.found i d hi
  obtain ⟨p, hp, rfl⟩ := Option.map_eq_some_iff.mp ((h.ports i).trans hi)
  have opened : ((r.ports.find? p.descriptor.uid).bind r.source?) = p.terminal := by
    rw [found, Option.bind_some, source?_of hp]
  have wrote : r.writeTo p.descriptor.uid payload (.accepted payload.length) =
      r.writeAs i payload (.accepted payload.length) := by
    simp only [writeTo, found]
  simp only [opened, wrote]
  cases hid : p.terminal with
  | none =>
    refine .inl ⟨rfl, ?_⟩
    simp only [writeAs, hp, hid, Option.bind_none, Port.write]
    rw [setPort_self hp]
    rfl
  | some id =>
    obtain ⟨rfl, there⟩ := h.wired.own hp hid
    have line : r.devices.terminal? (T p.descriptor) = some (r.devices.terminals[T p.descriptor]) :=
      List.getElem?_eq_getElem there
    refine .inr ⟨rfl, i, p, _, hp, hid, line, ?_⟩
    simp only [writeAs, hp, hid, line, Option.bind_some, Option.map_some, Port.write,
      Terminal.given, List.take_length]
    rw [setPort_self hp]

theorem of_passing (uid : String) (ls : List Rig.Event) (fs : List Frame) :
    lines (ls.map .line ++ fs.map .published) = ls ∧
      tries uid (ls.map .line ++ fs.map .published) = [] ∧
      TimedStation.published (ls.map .line ++ fs.map .published) = fs := by
  obtain ⟨h1, h2, h3⟩ := of_lines uid ls
  obtain ⟨k1, k2, k3⟩ := of_published uid fs
  rw [lines_append, tries_append, published_append, h1, h2, h3, k1, k2, k3]
  exact ⟨List.append_nil ls, rfl, rfl⟩

theorem written_of_tries {uid : String} {new : List Event} (none : tries uid new = []) :
    written uid new = [] := by
  rw [written, none]
  rfl

theorem Flows.move (h : Flows devices ds T r es) {ls : List Rig.Event} (m : Move r ls r')
    (unwritten : ∀ id, writtenTo id ls = []) :
    Flows devices ds T r'
      (es ++ (ls.map .line ++ (ls.filterMap northward).map .published)) := by
  obtain ⟨hl, -, hp⟩ := of_passing "" ls (ls.filterMap northward)
  have hw (uid : String) := written_of_tries (of_passing uid ls (ls.filterMap northward)).2.1
  have same (id : Nat) : takenBy id ls ++ r'.devices.outgoing id = r.devices.outgoing id := by
    rw [← m.outgoing id, unwritten, List.append_nil]
  refine ⟨h.posted.move m, fun d hd => ?_, fun id hid => ?_, fun id => ?_, fun source x hx => ?_,
    ?_⟩
  · rw [written_append, hw, List.append_nil, h.south d hd, lines_append, hl, takenBy_append,
      List.append_assoc, same]
  · rw [h.others id hid, lines_append, hl, takenBy_append, List.append_assoc, same]
  · rw [lines_append, hl, sentBy_append, handedFrom_append, ← List.append_assoc, h.north id,
      List.append_assoc, m.incoming id, List.append_assoc]
  · rw [lines_append, hl] at hx
    rcases List.mem_append.mp hx with hx | hx
    · exact h.handed source x hx
    · obtain ⟨p, id, t, hp, hid, -, -, hs, hu, hle, hmax⟩ := m.handed hx
      obtain rfl := (h.posted.wired.own hp hid).1
      exact ⟨p.descriptor, List.mem_of_getElem? (h.posted.port hp), hs, hu, hle, hmax⟩
  · rw [published_append, hp, h.published, lines_append, hl, List.filterMap_append]

theorem Flows.change (h : Flows devices ds T r es) (c : Devices.Change)
    (leads : ∀ d ∈ ds, (r.devices.change c).1.LeadsTo d.device (T d)) :
    Flows devices ds T { r with devices := (r.devices.change c).1 }
      (es ++ (r.devices.change c).2.map .line) := by
  have wired := h.posted.wired.change c fun hp =>
    leads _ (List.mem_of_getElem? (h.posted.port hp))
  obtain ⟨hl, -, hp⟩ := of_lines "" (r.devices.change c).2
  have hw (uid : String) := written_of_tries (of_lines uid (r.devices.change c).2).2.1
  have unread : (r.devices.change c).2.filterMap northward = [] := by
    refine List.filterMap_eq_nil_iff.mpr fun e he => ?_
    cases e with
    | handed source x => exact absurd he ((r.devices.no_transfer_change 0 c).2.2.2.2 source x)
    | _ => rfl
  have bytes (id : Nat) := r.devices.bytes_change id c
  refine ⟨⟨wired, h.posted.ports, h.posted.found⟩, fun d hd => ?_, fun id hid => ?_, fun id => ?_,
    fun source x hx => ?_, ?_⟩
  · rw [written_append, hw, List.append_nil, h.south d hd, lines_append, hl, takenBy_append,
      List.append_assoc, (bytes _).2]
  · rw [h.others id hid, lines_append, hl, takenBy_append, List.append_assoc, (bytes _).2]
  · rw [lines_append, hl, sentBy_append, handedFrom_append, ← List.append_assoc, h.north id,
      (r.devices.no_transfer_change id c).1, List.append_nil, (bytes id).1, List.append_assoc]
  · rw [lines_append, hl] at hx
    rcases List.mem_append.mp hx with hx | hx
    · exact h.handed source x hx
    · exact absurd hx ((r.devices.no_transfer_change 0 c).2.2.2.2 source x)
  · rw [published_append, hp, h.published, lines_append, hl, List.filterMap_append, unread]

theorem Flows.inward (h : Flows devices ds T r es) {new : List Event} (inward : Inward new)
    (none : ∀ uid, written uid new = []) : Flows devices ds T r (es ++ new) where
  posted := h.posted
  south d hd := by
    rw [written_append, none, lines_append, inward.lines, List.append_nil, List.append_nil]
    exact h.south d hd
  others id hid := by
    rw [lines_append, inward.lines, List.append_nil]
    exact h.others id hid
  north id := by
    rw [lines_append, inward.lines, List.append_nil]
    exact h.north id
  handed := by
    rw [lines_append, inward.lines, List.append_nil]
    exact h.handed
  published := by
    rw [published_append, inward.published, lines_append, inward.lines, List.append_nil,
      List.append_nil]
    exact h.published

theorem written_tried (uid v : String) (f : Frame) (time : Nat) (answer : Except PortError Nat) :
    written uid [.did v (.tried f time) (some answer)] =
      if v = uid ∧ answer.toBool then [f] else [] := by
  by_cases own : v = uid
  · cases answer <;> simp [written, tries, own, Except.toBool]
  · simp [written, tries, own]

theorem Flows.accepted (h : Flows devices ds T r es)
    (apart : ∀ d ∈ ds, ∀ d' ∈ ds, T d = T d' ↔ d.uid = d'.uid) {d : Descriptor} (hd : d ∈ ds)
    {i : Nat} {p : Port} {t : Terminal} (hp : r.ports.port? i = some p)
    (hid : p.terminal = some (T d)) (ht : r.devices.terminal? (T d) = some t) (f : Frame)
    (time count : Nat) :
    Flows devices ds T
      { r with
        devices := r.devices.update (T d) { t with fromPort := t.fromPort ++ f.payload } }
      (es ++ [.did d.uid (.tried f time) (some (.ok count))]) := by
  have m := Move.writes hp hid ht f.payload
  have inward : Inward [.did d.uid (.tried f time) (some (.ok count))] := inward_did _ _ _
  have moved (id : Nat) : (r.devices.update (T d)
      { t with fromPort := t.fromPort ++ f.payload }).outgoing id =
        r.devices.outgoing id ++ if T d = id then f.payload else [] := by
    have := m.outgoing id
    simp only [writtenTo, takenBy, List.flatMap_cons, List.flatMap_nil, List.append_nil,
      List.nil_append, Option.some.injEq] at this
    exact this.symm
  refine ⟨h.posted.move m, fun d' hd' => ?_, fun id hid' => ?_, fun id => ?_, ?_, ?_⟩
  · have taken : (written d'.uid [.did d.uid (.tried f time) (some (.ok count))]).flatMap
        Frame.payload = if T d = T d' then f.payload else [] := by
      simp only [written_tried, apart d hd d' hd']
      by_cases own : d.uid = d'.uid <;> simp [own, Except.toBool]
    rw [written_append, List.flatMap_append, taken, ← List.append_assoc, h.south d' hd',
      lines_append, inward.lines, List.append_nil, moved, List.append_assoc]
  · rw [lines_append, inward.lines, List.append_nil, moved, if_neg (hid' d hd), List.append_nil]
    exact h.others id hid'
  · rw [lines_append, inward.lines, List.append_nil, h.north id]
    exact congrArg _ ((List.append_nil _).symm.trans (m.incoming id))
  · rw [lines_append, inward.lines, List.append_nil]
    exact h.handed
  · rw [published_append, inward.published, lines_append, inward.lines, List.append_nil,
      List.append_nil]
    exact h.published

/-- **A try to write the payload of a frame** brings it to the device of the port if the port is
open, and nowhere otherwise. -/
theorem Flows.tried (h : Flows devices ds T r es)
    (apart : ∀ d ∈ ds, ∀ d' ∈ ds, T d = T d' ↔ d.uid = d'.uid) {d : Descriptor} (hd : d ∈ ds)
    (f : Frame) (time : Nat) :
    let wrote := r.writeTo d.uid f.payload (.accepted f.payload.length)
    Flows devices ds T wrote.2.1 (es ++ [.did d.uid (.tried f time) (some wrote.1)]) := by
  intro wrote
  rcases h.posted.write_cases hd f.payload with ⟨-, closed⟩ | ⟨-, i, p, t, hp, hid, ht, accepted⟩
  · have : wrote = (.error (.closed d.uid), r, []) := closed
    rw [this]
    refine h.inward (inward_did _ _ _) fun uid => ?_
    rw [written_tried]
    exact if_neg fun both => by cases both.2
  · have : wrote = _ := accepted
    rw [this]
    exact h.accepted apart hd hp hid ht f time _

/-! ## What the handlers do -/

/-- The handler of the endpoints, as far as they can tell: it neither sends nor stops. -/
abbrev quiet : Handler := fun _ _ => {}

/-- What the handlers of a gateway did with the frames that came for them, and what waits. -/
structure Staffed (ds : List Descriptor) (steps : List Step) (t : TimedStation)
    (es : List Event) : Prop where
  /-- Every port has an endpoint. -/
  size : t.station.endpoints.length = ds.length
  /-- What came for an endpoint was handled or waits. -/
  accounts : ∀ (i : Nat) (d : Descriptor) (e : Endpoint), ds[i]? = some d →
    t.station.endpoints[i]? = some e →
      e.Accounts d.uid ((relayed steps).filterMap (Endpoint.addressed? d.uid))
  /-- The inbox of an endpoint is there. -/
  alive : ∀ (i : Nat) (e : Endpoint), t.station.endpoints[i]? = some e → ∃ n, e.Alive quiet n
  /-- A handler tried to write every frame that it got, up to the one that it has. -/
  course : ∀ (i : Nat) (d : Descriptor) (e : Endpoint), ds[i]? = some d →
    t.station.endpoints[i]? = some e →
      (tries d.uid es).map Prod.fst ++ ((t.tasks i).map Task.frame).toList = e.handled

variable {steps : List Step} {t t' : TimedStation}

theorem Staffed.skip (h : Staffed ds steps t es) {s : Step} {new : List Event}
    (hs : relayed [s] = []) (endpoints : t'.station.endpoints = t.station.endpoints)
    (tasks : t'.tasks = t.tasks) (hn : ∀ uid, tries uid new = []) :
    Staffed ds (steps ++ [s]) t' (es ++ new) where
  size := endpoints ▸ h.size
  accounts i d e hd he := by
    rw [relayed, List.filterMap_append, ← relayed, ← relayed, hs, List.append_nil]
    exact h.accounts i d e hd (endpoints ▸ he)
  alive i e he := h.alive i e (endpoints ▸ he)
  course i d e hd he := by
    rw [tries_append, hn, List.append_nil, tasks]
    exact h.course i d e hd (endpoints ▸ he)

theorem Staffed.relay (h : Staffed ds steps t es) (m : Message) :
    Staffed ds (steps ++ [.relay m]) (t.step (.relay m)).1 es where
  size := by
    show (t.station.endpoints.map _).length = _
    rw [List.length_map, h.size]
  accounts i d e hd he := by
    obtain ⟨e₀, he₀, rfl⟩ := Option.map_eq_some_iff.mp ((List.getElem?_map).symm.trans he)
    rw [relayed, List.filterMap_append, ← relayed,
      show [Step.relay m].filterMap _ = [m] from rfl, Endpoint.filterMap_addressed?_concat]
    exact (h.accounts i d e₀ hd he₀).deliver m
  alive i e he := by
    obtain ⟨e₀, he₀, rfl⟩ := Option.map_eq_some_iff.mp ((List.getElem?_map).symm.trans he)
    obtain ⟨n, alive⟩ := h.alive i e₀ he₀
    exact ⟨n + 1, alive.deliver m⟩
  course i d e hd he := by
    obtain ⟨e₀, he₀, rfl⟩ := Option.map_eq_some_iff.mp ((List.getElem?_map).symm.trans he)
    exact h.course i d e₀ hd he₀

/-- The handler at a place, or its worker, comes further: what it got before and gets now, it tries
to write now or later. -/
theorem Staffed.turn (h : Staffed ds steps t es) {place : Nat} {d : Descriptor} {e e' : Endpoint}
    (hd : ds[place]? = some d) (he : t.station.endpoints[place]? = some e)
    (apart : ∀ (j : Nat) (d' : Descriptor), ds[j]? = some d' → d'.uid = d.uid → j = place)
    {s : Step} (hs : relayed [s] = []) {new : List Event} {fs : List Frame}
    (endpoints : t'.station.endpoints = t.station.endpoints.set place e')
    (goes : e' = e ∨ e' = e.work.1) (handled : e'.handled = e.handled ++ fs)
    (tasks : ∀ i, i ≠ place → t'.tasks i = t.tasks i)
    (others : ∀ uid, uid ≠ d.uid → tries uid new = [])
    (course : (tries d.uid new).map Prod.fst ++ ((t'.tasks place).map Task.frame).toList =
      ((t.tasks place).map Task.frame).toList ++ fs) :
    Staffed ds (steps ++ [s]) t' (es ++ new) := by
  have hrel : relayed (steps ++ [s]) = relayed steps := by
    rw [relayed, List.filterMap_append, ← relayed, ← relayed, hs, List.append_nil]
  have within := (List.getElem?_eq_some_iff.mp he).1
  -- the endpoint at the place is the new one, and the others are as they were
  have which {i : Nat} {x : Endpoint} (hx : t'.station.endpoints[i]? = some x) :
      i = place ∧ x = e' ∨ i ≠ place ∧ t.station.endpoints[i]? = some x := by
    rw [endpoints] at hx
    by_cases hi : place = i
    · subst hi
      rw [List.getElem?_set_self within] at hx
      exact .inl ⟨rfl, (Option.some.inj hx).symm⟩
    · rw [List.getElem?_set_ne hi] at hx
      exact .inr ⟨Ne.symm hi, hx⟩
  refine ⟨by rw [endpoints, List.length_set, h.size], fun i d' x hd' hx => ?_, fun i x hx => ?_,
    fun i d' x hd' hx => ?_⟩
  · rw [hrel]
    rcases which hx with ⟨rfl, rfl⟩ | ⟨-, hx⟩
    · rcases goes with rfl | rfl
      · exact h.accounts i d' x hd' he
      · exact (h.accounts i d' e hd' he).goOn false
    · exact h.accounts i d' x hd' hx
  · rcases which hx with ⟨rfl, rfl⟩ | ⟨-, hx⟩
    · obtain ⟨n, alive⟩ := h.alive i e he
      rcases goes with rfl | rfl
      · exact ⟨n, alive⟩
      · exact ⟨n, alive.goOn (fun _ _ => rfl) false⟩
    · exact h.alive i x hx
  · rcases which hx with ⟨rfl, rfl⟩ | ⟨other, hx⟩
    · obtain rfl := Option.some.inj (hd.symm.trans hd')
      rw [tries_append, List.map_append, List.append_assoc, course, ← List.append_assoc,
        h.course i d e hd he, handled]
    · rw [tries_append, others d'.uid fun same => other (apart i d' hd' same), List.append_nil,
        tasks i other]
      exact h.course i d' x hd' hx

/-! ## Every step -/

/-- What holds at any time: everything went where it should, or waits. -/
structure Works (devices : Devices) (ds : List Descriptor) (T : Descriptor → Nat)
    (steps : List Step) (t : TimedStation) (es : List Event) : Prop where
  /-- What went through the lines. -/
  flows : Flows devices ds T t.rig es
  /-- What the handlers did. -/
  staffed : Staffed ds steps t es

theorem Works.own (h : Works devices ds T steps t es) {place : Nat} {e : Endpoint}
    (he : t.station.endpoints[place]? = some e) :
    ∃ d, ds[place]? = some d ∧ e.id = d.uid ∧
      ∀ (j : Nat) (d' : Descriptor), ds[j]? = some d' → d'.uid = d.uid → j = place := by
  have within : place < ds.length := by
    rw [← h.staffed.size]
    exact (List.getElem?_eq_some_iff.mp he).1
  have hd : ds[place]? = some ds[place] := List.getElem?_eq_getElem within
  refine ⟨_, hd, (h.staffed.accounts place _ e hd he).id_eq, fun j d' hj same => ?_⟩
  have found := h.flows.posted.found j d' hj
  rw [same, h.flows.posted.found place _ hd] at found
  exact (Option.some.inj found).symm

theorem tries_did (uid v : String) (deed : Deed) : tries uid [.did v deed none] = [] := by
  cases deed <;> rfl

theorem Works.work (h : Works devices ds T steps t es)
    (apart : ∀ d ∈ ds, ∀ d' ∈ ds, T d = T d' ↔ d.uid = d'.uid) {place : Nat}
    {outcome : DeviceWrite} (whole : Loyal ds T t (.work place outcome)) :
    Works devices ds T (steps ++ [.work place outcome]) (t.work place outcome).1
      (es ++ (t.work place outcome).2) := by
  have worked := t.work_cases place outcome
  generalize t.work place outcome = after at worked ⊢
  have unwritten (v : String) (deed : Deed) (uid : String) :
      written uid [.did v deed none] = [] := written_of_tries (tries_did uid v deed)
  have still : es ++ [] = es := List.append_nil es
  have self {e : Endpoint} (he : t.station.endpoints[place]? = some e) :
      t.station.endpoints = t.station.endpoints.set place e := by
    obtain ⟨within, rfl⟩ := List.getElem?_eq_some_iff.mp he
    exact (List.set_getElem_self within).symm
  have elsewhere (t' : TimedStation) (task : Option Task) (same : t'.tasks = t.tasks) (i : Nat)
      (hi : i ≠ place) : (t'.setTask place task).tasks i = t.tasks i :=
    (if_neg hi).trans (congrFun same i)
  have here (t' : TimedStation) (task : Option Task) : (t'.setTask place task).tasks place = task :=
    if_pos rfl
  cases worked with
  | rests => exact ⟨still.symm ▸ h.flows, h.staffed.skip rfl rfl rfl fun _ => rfl⟩
  | @looks e he same =>
    obtain ⟨d, hd, -, lone⟩ := h.own he
    refine ⟨still.symm ▸ h.flows, h.staffed.turn hd he lone rfl rfl (.inr rfl)
      (same.trans (List.append_nil _).symm) (fun _ _ => rfl) (fun _ _ => rfl) ?_⟩
    exact (List.append_nil _).symm
  | @gets e f he idle new =>
    obtain ⟨d, hd, -, lone⟩ := h.own he
    refine ⟨h.flows.inward (inward_did _ _ _) (unwritten _ _), h.staffed.turn hd he lone rfl rfl
      (.inr rfl) new (elsewhere _ _ rfl) (fun _ _ => rfl) ?_⟩
    rw [here, idle]
    rfl
  | @asks e f he has =>
    obtain ⟨d, hd, -, lone⟩ := h.own he
    refine ⟨still.symm ▸ h.flows, h.staffed.turn hd he lone rfl (self he) (.inl rfl)
      (List.append_nil _).symm (elsewhere _ _ rfl) (fun _ _ => rfl) ?_⟩
    rw [here, has]
    rfl
  | @lets e f begun wait he has =>
    obtain ⟨d, hd, -, lone⟩ := h.own he
    have rig : (t.gateway.note e.id t.clock).rig = t.rig := by
      unfold SerialGateway.note
      split <;> rfl
    refine ⟨?_, h.staffed.turn hd he lone rfl (self he) (.inl rfl) (List.append_nil _).symm
      (elsewhere _ _ rfl) (fun _ _ => rfl) ?_⟩
    · show Flows devices ds T (t.gateway.note e.id t.clock).rig _
      rw [rig]
      exact h.flows.inward (inward_did _ _ _) (unwritten _ _)
    · rw [here, has]
      rfl
  | @writes e f he has =>
    obtain ⟨d, hd, own, lone⟩ := h.own he
    have took : outcome = .accepted f.payload.length :=
      whole f (by simp [writing?, has])
    subst took
    rw [own]
    refine ⟨h.flows.tried apart (List.mem_of_getElem? hd) f t.clock,
      h.staffed.turn hd he lone rfl (self he) (.inl rfl) (List.append_nil _).symm
        (elsewhere _ _ rfl) (fun uid other => ?_) ?_⟩
    · simp [tries, Ne.symm other]
    · rw [here, has]
      simp [tries, Task.frame]

theorem of_advance (r : Rig) (granted : Nat → Bool) (round : Round) (e : Effects) :
    (beginning granted round ++ r.handings e).filterMap northward = SerialGateway.published e ∧
      ∀ id, writtenTo id (beginning granted round ++ r.handings e) = [] := by
  have hb : (beginning granted round).filterMap northward = [] ∧
      ∀ id, writtenTo id (beginning granted round) = [] := by
    unfold beginning
    split <;> exact ⟨rfl, fun _ => rfl⟩
  refine ⟨?_, fun id => ?_⟩
  · rw [List.filterMap_append, hb.1, List.nil_append]
    simp [handings, SerialGateway.published, List.filterMap_map, Function.comp_def, northward]
  · rw [writtenTo_append, hb.2 id, List.nil_append]
    simp [handings, writtenTo, List.flatMap_map]

/-- **Every step keeps it**: nothing is lost, and nothing goes astray. -/
theorem Works.step (h : Works devices ds T steps t es)
    (apart : ∀ d ∈ ds, ∀ d' ∈ ds, T d = T d' ↔ d.uid = d'.uid) {x : Step}
    (loyal : Loyal ds T t x) :
    Works devices ds T (steps ++ [x]) (t.step x).1 (es ++ (t.step x).2) := by
  have still : es ++ [] = es := List.append_nil es
  cases x with
  | tick => exact ⟨still.symm ▸ h.flows, h.staffed.skip rfl rfl rfl fun _ => rfl⟩
  | relay m => exact ⟨still.symm ▸ h.flows, still.symm ▸ h.staffed.relay m⟩
  | work place outcome => exact h.work apart loyal
  | change c =>
    exact ⟨h.flows.change c loyal, h.staffed.skip rfl rfl rfl fun uid => (of_lines uid _).2.1⟩
  | visit place =>
    exact ⟨h.flows.move (move_visit t.rig place) fun _ => rfl,
      h.staffed.skip rfl rfl rfl fun _ => rfl⟩
  | read granted =>
    obtain ⟨north, unwritten⟩ := of_advance t.rig granted t.station.round
      (t.rig.advance granted t.station.round).2.2
    have := h.flows.move (move_advance t.rig granted t.station.round) unwritten
    rw [north] at this
    exact ⟨this, h.staffed.skip rfl rfl rfl fun uid => (of_passing uid _ _).2.1⟩

/-- A port answers that it took the bytes if it is open, and that it is closed otherwise. -/
theorem Works.answer_eq (h : Works devices ds T steps t es) {x : Step} (loyal : Loyal ds T t x)
    {d : Descriptor} (hd : d ∈ ds) {f : Frame} {answer : Except PortError Nat}
    (tried : (f, answer) ∈ tries d.uid (t.step x).2) :
    answer = if t.isOpen d.uid then .ok f.payload.length else .error (.closed d.uid) := by
  cases x with
  | tick | relay | visit => cases tried
  | change c =>
    have none : tries d.uid (t.step (.change c)).2 = [] := (of_lines d.uid _).2.1
    rw [none] at tried
    cases tried
  | read granted =>
    have none : tries d.uid (t.step (.read granted)).2 = [] := (of_passing d.uid _ _).2.1
    rw [none] at tried
    cases tried
  | work place outcome =>
    have worked := t.work_cases place outcome
    replace tried : (f, answer) ∈ tries d.uid (t.work place outcome).2 := tried
    generalize t.work place outcome = after at worked tried
    cases worked with
    | rests | looks | gets | asks | lets => cases tried
    | @writes e f' he has =>
      have took : outcome = .accepted f'.payload.length := loyal f' (by simp [writing?, has])
      subst took
      obtain ⟨own, rfl, rfl⟩ : e.id = d.uid ∧ f = f' ∧
          answer = (t.rig.writeTo e.id f'.payload (.accepted f'.payload.length)).1 := by
        by_cases own : e.id = d.uid <;> simp_all [tries]
      rw [own]
      rcases h.flows.posted.write_cases hd f.payload with
        ⟨shut, closed⟩ | ⟨opened, _, _, _, -, -, -, took⟩
      · rw [closed, isOpen, shut]
        rfl
      · rw [took, isOpen, opened]
        rfl

/-! ## The main statement -/

theorem Works.start {bus : Addresses} (south : Url.connect bus.south = .ok ())
    (north : Url.connect bus.north = .ok ()) (valid : ∀ d ∈ ds, d.Valid)
    (uids : (ds.map Descriptor.uid).Nodup) (leads : ∀ d ∈ ds, devices.LeadsTo d.device (T d)) :
    ∃ s, Station.create devices bus ds = .ok s ∧
      ∀ now, Works devices ds T [] (TimedStation.start s now) [] := by
  obtain ⟨g, es, hall, hdev, hports, hsize, hes⟩ := SerialGateway.registerAll_ok south north ds []
    { rig := { devices := devices } } .empty valid uids
  replace hdev : g.rig.devices = devices := hdev
  rw [List.nil_append] at hports
  -- all ports are closed, and are those given
  have port {i : Nat} {p : Port} (hp : g.rig.ports.port? i = some p) :
      ∃ d ∈ ds, p = { descriptor := d } := by
    rw [PortSet.port?, hports.ports, List.getElem?_map, Option.map_eq_some_iff] at hp
    obtain ⟨d, hd, rfl⟩ := hp
    exact ⟨d, List.mem_of_getElem? hd, rfl⟩
  have wired : Wired T g.rig := by
    refine ⟨fun hp => ?_, fun hp hid => ?_⟩
    all_goals obtain ⟨d, hd, rfl⟩ := port hp
    · rw [hdev]
      exact leads d hd
    · exact absurd hid (by simp)
  have ports (i : Nat) : (g.rig.ports.port? i).map Port.descriptor = ds[i]? := by
    rw [PortSet.port?, hports.ports, List.getElem?_map, Option.map_map]
    cases ds[i]? <;> rfl
  -- all endpoints listen, and were just made
  have fresh (i : Nat) (d : Descriptor) (e : Endpoint) (hd : ds[i]? = some d)
      (he : es[i]? = some e) :
      e.Accounts d.uid [] ∧ e.Alive quiet 0 ∧ e.handled = [] := by
    obtain ⟨e₀, he₀, rfl⟩ := hes i d e hd he
    exact Endpoint.listen_create (fun _ _ => rfl) he₀
  refine ⟨⟨{ g with crew := g.crew.start }, es, .acting []⟩, ?_, fun now =>
    ⟨⟨⟨wired, ports, hports.found⟩, fun d _ => ?_, fun id _ => ?_, fun id => ?_,
      fun _ _ hx => absurd hx (by simp [lines]), rfl⟩,
    hsize, fun i d e hd he => (fresh i d e hd he).1, fun i e he => ?_,
    fun i d e hd he => (fresh i d e hd he).2.2.symm⟩⟩
  · unfold Station.create SerialGateway.create
    rw [hall]
    rfl
  · show _ = g.rig.devices.outgoing (T d)
    rw [hdev]
    exact List.append_nil _
  · show _ = g.rig.devices.outgoing id
    rw [hdev]
  · show _ = g.rig.devices.incoming id
    rw [hdev]
    exact List.append_nil _
  · have hi : i < ds.length := hsize ▸ (List.getElem?_eq_some_iff.mp he).1
    exact ⟨0, (fresh i _ e (List.getElem?_eq_getElem hi) he).2.1⟩

theorem Works.run (h : Works devices ds T [] t [])
    (apart : ∀ d ∈ ds, ∀ d' ∈ ds, T d = T d' ↔ d.uid = d'.uid)
    (loyal : Throughout TimedStation.step (Loyal ds T) t steps) :
    Works devices ds T steps (t.run steps).1 (t.run steps).2 :=
  runSteps_throughout (fun steps t es => Works devices ds T steps t es)
    (fun _ _ _ h _ loyal => h.step apart loyal) h loyal

/-- The topic under which the endpoint of an id publishes. -/
def northTopic (uid : String) : Bytes := utf8 (uid ++ "_north_topic")

theorem northTopic_inj {u v : String} : northTopic u = northTopic v ↔ u = v := by
  rw [northTopic, northTopic, utf8_inj, String.append_left_inj]

theorem Flows.northward_eq (h : Flows devices ds T r es) {source : Option Nat} {x : Delivery}
    (hx : .handed source x ∈ lines es) :
    northward (.handed source x) = some ⟨northTopic x.uid, x.bytes⟩ := by
  obtain ⟨_, -, -, -, hle, -⟩ := h.handed source x hx
  show (Frame.outgoing x.uid x.bytes).toOption = _
  cases hb : x.bytes with
  | nil =>
    rw [hb] at hle
    exact absurd hle (by simp)
  | cons b bs => rfl

theorem Flows.published_eq (h : Flows devices ds T r es)
    (apart : ∀ d ∈ ds, ∀ d' ∈ ds, T d = T d' ↔ d.uid = d'.uid) {d : Descriptor} (hd : d ∈ ds) :
    (TimedStation.published es).filter (fun f => f.topic = northTopic d.uid) =
      (chunks (T d) es).map fun bs => ⟨northTopic d.uid, bs⟩ := by
  rw [h.published, List.filter_filterMap, chunks, List.map_filterMap]
  apply List.filterMap_congr
  intro e he
  cases e with
  | handed source x =>
    obtain ⟨d', hd', rfl, hu, -, -⟩ := h.handed source x he
    rw [h.northward_eq he, hu]
    by_cases hT : T d' = T d
    · simp [hT, (apart d' hd' d hd).mp hT]
    · simp [hT, northTopic_inj, mt (apart d' hd' d hd).mpr hT]
  | _ => rfl

/-- **The gateway carries exactly what it should.** Let the bus be reachable, the descriptors in
order, their uids distinct and their devices too, where the path of every port leads to its own
device or to none. Then the gateway can be started, and for every run in which this stays so and
devices take whole writes, the following holds. For every port, the frames that the relay passed on
under its topic are, in order, those that its handler tried to write, the one that it has, and those
that wait; its device took the payloads of the frames that were tried while it was open, and nothing
else, up to what still waits for the device; the frames published under its topic are the chunks
that were read from its device, of between one byte and as many as the port allows, and the chunks
are what the device sent, up to what still waits. A try succeeds if the port is open at that time,
and is answered that the port is closed otherwise. Nothing is published under other topics, and no
other device gets anything. -/
theorem carries_exactly {bus : Addresses}
    (reached : Url.connect bus.south = .ok () ∧ Url.connect bus.north = .ok ())
    (valid : ∀ d ∈ ds, d.Valid) (uids : (ds.map Descriptor.uid).Nodup) (distinct : (ds.map T).Nodup)
    (leads : ∀ d ∈ ds, devices.LeadsTo d.device (T d)) :
    ∃ s, Station.create devices bus ds = .ok s ∧ ∀ (now : Nat) (steps : List Step),
      Throughout TimedStation.step (Loyal ds T) (start s now) steps →
      let after := (start s now).run steps
      (∀ (i : Nat) (d : Descriptor), ds[i]? = some d →
        (∃ (e : Endpoint) (b : Inbox), after.1.station.endpoints[i]? = some e ∧
          e.custody.held? = some b ∧
          (tries d.uid after.2).map Prod.fst ++ ((after.1.tasks i).map Task.frame).toList ++
              b.waiting.filterMap (Endpoint.addressed? d.uid) =
            (relayed steps).filterMap (Endpoint.addressed? d.uid)) ∧
        devices.outgoing (T d) ++ (written d.uid after.2).flatMap Frame.payload =
          takenBy (T d) (lines after.2) ++ after.1.rig.devices.outgoing (T d) ∧
        (TimedStation.published after.2).filter (fun f => f.topic = northTopic d.uid) =
          (chunks (T d) after.2).map (fun bs => ⟨northTopic d.uid, bs⟩) ∧
        (∀ bs ∈ chunks (T d) after.2, 1 ≤ bs.length ∧ bs.length ≤ d.maxLen) ∧
        devices.incoming (T d) ++ sentBy (T d) (lines after.2) =
          (chunks (T d) after.2).flatten ++ after.1.rig.devices.incoming (T d)) ∧
      (∀ x, Loyal ds T after.1 x → ∀ d ∈ ds, ∀ f answer,
        (f, answer) ∈ tries d.uid (after.1.step x).2 →
          answer = if after.1.isOpen d.uid then .ok f.payload.length else .error (.closed d.uid)) ∧
      (∀ f ∈ TimedStation.published after.2, ∃ d ∈ ds, f.topic = northTopic d.uid) ∧
      ∀ id, (∀ d ∈ ds, T d ≠ id) →
        devices.outgoing id = takenBy id (lines after.2) ++ after.1.rig.devices.outgoing id := by
  obtain ⟨s, hs, start⟩ := Works.start reached.1 reached.2 valid uids leads
  have apart : ∀ d ∈ ds, ∀ d' ∈ ds, T d = T d' ↔ d.uid = d'.uid := fun d hd d' hd' =>
    ⟨fun h => congrArg _ (List.inj_on_of_nodup_map distinct hd hd' h),
      fun h => congrArg _ (List.inj_on_of_nodup_map uids hd hd' h)⟩
  refine ⟨s, hs, fun now steps loyal => ?_⟩
  have works := (start now).run apart loyal
  have flows := works.flows
  have staffed := works.staffed
  refine ⟨fun i d hd => ?_, fun x loyal d hd f answer tried => works.answer_eq loyal hd tried,
    fun f hf => ?_, flows.others⟩
  · have member := List.mem_of_getElem? hd
    refine ⟨?_, flows.south d member, flows.published_eq apart member, fun bs hbs => ?_, ?_⟩
    · have within : i < ((TimedStation.start s now).run steps).1.station.endpoints.length := by
        rw [staffed.size]
        exact (List.getElem?_eq_some_iff.mp hd).1
      have he := List.getElem?_eq_getElem within
      obtain ⟨n, alive⟩ := staffed.alive i _ he
      obtain ⟨b, hb, -⟩ := alive.held
      refine ⟨_, b, he, hb, ?_⟩
      rw [staffed.course i d _ hd he]
      exact (staffed.accounts i d _ hd he).rest b hb
    · obtain ⟨e, he, heq⟩ := List.mem_filterMap.mp hbs
      cases e with
      | handed source x =>
        obtain ⟨d', hd', rfl, -, hle, hmax⟩ := flows.handed source x he
        dsimp only at heq
        split at heq
        · next hT =>
          obtain rfl := Option.some.inj heq
          obtain rfl := List.inj_on_of_nodup_map distinct hd' member (Option.some.inj hT)
          exact ⟨hle, hmax⟩
        · exact absurd heq (by simp)
      | _ => exact absurd heq (by simp)
    · rw [← handedFrom_lines]
      exact flows.north (T d)
  · rw [flows.published] at hf
    obtain ⟨e, he, heq⟩ := List.mem_filterMap.mp hf
    cases e with
    | handed source x =>
      obtain ⟨d, hd, -, hu, -, -⟩ := flows.handed source x he
      rw [flows.northward_eq he] at heq
      obtain rfl := Option.some.inj heq
      exact ⟨d, hd, congrArg northTopic hu⟩
    | _ => exact absurd heq (by simp [northward])

/-- Two ports. One is sent a frame before it is open and one afterwards, and its device sends more
than is read at once. The path of the other one goes away before the frame for it is written. -/
theorem carries_exactly_two_ports :
    let a : Descriptor := { uid := "A", device := "/dev/a", maxLen := 2 }
    let b : Descriptor := { uid := "B", device := "/dev/b", maxLen := 8 }
    let links (name : String) (i : Nat) : Path.Place × Node :=
      (⟨true, [utf8 "dev", utf8 name]⟩, .terminal i)
    let devices : Devices := { terminals := [{ toPort := [1, 2] }, {}], links := [links "a" 0] }
    let T (d : Descriptor) : Nat := if d.uid = "A" then 0 else 1
    let go (place n : Nat) : List Step := List.replicate n (.work place (.accepted 1))
    let steps : List Step := .relay [utf8 "A_south_topic", [7]] :: go 0 5 ++
      [.change (.relink [links "a" 0, links "b" 1]), .visit 0, .visit 1,
        .relay [utf8 "B_south_topic", [8]], .relay [utf8 "A_south_topic", [9]]] ++ go 0 5 ++
      go 1 4 ++ [.change (.relink [links "a" 0]), .visit 1, .change (.feed 0 [3])] ++ go 1 1 ++
      List.replicate 5 (.read fun _ => true) ++ [.change (.drain 0 1)]
    let created := Station.create devices ⟨"ipc:///north", "ipc:///south"⟩ [a, b]
    let s : Station := created.toOption.getD {}
    let after := (start s 0).run steps
    created = .ok s ∧ Throughout TimedStation.step (Loyal [a, b] T) (start s 0) steps ∧
      takenBy 0 (lines after.2) ++ after.1.rig.devices.outgoing 0 = [9] ∧
      takenBy 1 (lines after.2) ++ after.1.rig.devices.outgoing 1 = [] ∧
      (TimedStation.published after.2).filter (fun f => f.topic = northTopic "A") =
        [⟨northTopic "A", [1, 2]⟩] ∧
      after.1.rig.devices.incoming 0 = [3] := by
  intro a b links devices T go steps created s after
  have ok : created = .ok s := eq_ok_of_toBool created {} (by decide +kernel)
  have loyal : Throughout TimedStation.step (Loyal [a, b] T) (start s 0) steps := by
    decide +kernel
  obtain ⟨s', ok', all⟩ := @carries_exactly devices [a, b] T ⟨"ipc:///north", "ipc:///south"⟩
    (by decide) (by decide) (by decide) (by decide) (by decide)
  obtain rfl : s = s' := Except.ok.inj (ok.symm.trans ok')
  obtain ⟨ports, -, -, -⟩ := all 0 steps loyal
  obtain ⟨-, southA, northA, -, restA⟩ := ports 0 a rfl
  obtain ⟨-, southB, -, -, -⟩ := ports 1 b rfl
  have writtenA : (written "A" after.2).flatMap Frame.payload = [9] := by decide +kernel
  have writtenB : (written "B" after.2).flatMap Frame.payload = [] := by decide +kernel
  have readA : chunks 0 after.2 = [[1, 2]] := by decide +kernel
  have sentA : sentBy 0 (lines after.2) = [3] := by decide +kernel
  have zero : T a = 0 := by decide
  have one : T b = 1 := by decide
  rw [zero] at southA northA restA
  rw [one] at southB
  refine ⟨ok, loyal, ?_, ?_, ?_, ?_⟩
  · exact southA.symm.trans (congrArg _ writtenA)
  · exact southB.symm.trans (congrArg _ writtenB)
  · exact northA.trans (congrArg _ readA)
  · rw [sentA, readA] at restA
    have rest : [1, 2] ++ [3] = [1, 2] ++ after.1.rig.devices.incoming 0 := restA
    exact (List.append_cancel_left rest).symm

/-- A port that keeps its sends apart is closed when two frames arrive, and as long as nothing else
comes for it. The first one is dropped. The second one is held back, and its turn to be written
comes after the monitor has opened the port. -/
theorem late_frame_is_written :
    let a : Descriptor := { uid := "A", device := "/dev/a", minDelay := 40 }
    let devices : Devices :=
      { terminals := [{}], links := [(⟨true, [utf8 "dev", utf8 "a"]⟩, .terminal 0)] }
    let one : Frame := ⟨utf8 "A_south_topic", [1]⟩
    let two : Frame := ⟨utf8 "A_south_topic", [2]⟩
    let go (n : Nat) : List Step := List.replicate n (.work 0 (.accepted 1))
    let before : List Step := [.relay one.toMessage, .relay two.toMessage] ++ go 8
    let later : List Step := [.visit 0, .tick 40] ++ go 2
    let created := Station.create devices ⟨"ipc:///north", "ipc:///south"⟩ [a]
    let s : Station := created.toOption.getD {}
    let arrived := (start s 0).run before
    let after := (start s 0).run (before ++ later)
    created = .ok s ∧
      Throughout TimedStation.step (Loyal [a] fun _ => 0) (start s 0) (before ++ later) ∧
      Throughout TimedStation.step (fun t _ => t.isOpen "A" = false) (start s 0) before ∧
      arrived.1.isOpen "A" = false ∧ (arrived.1.tasks 0).map Task.frame = some two ∧
      relayed later = [] ∧ tries "A" after.2 = [(one, .error (.closed "A")), (two, .ok 1)] ∧
      devices.outgoing 0 = [] ∧ after.1.rig.devices.outgoing 0 = [2] := by
  intro a devices one two go before later created s arrived after
  have ok : created = .ok s := eq_ok_of_toBool created {} (by decide +kernel)
  exact ⟨ok, by decide +kernel, by decide +kernel, by decide +kernel, by decide +kernel,
    by decide +kernel, by decide +kernel, by decide +kernel, by decide +kernel⟩

end Fieldbus.TimedStation
