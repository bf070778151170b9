import Fieldbus.Gateway.Station
import Fieldbus.Proofs.Flow.Pacer
import Fieldbus.Proofs.Gateway.Registration
import Mathlib.Data.List.Nodup

/-!
# Every frame for a port is paced

Every port has a handler and a pacer of its own. Handlers go on at their own times and have to wait
for each other nowhere, so what one of them does can be told without the others.

* `TimedStation.Lane`: a handler by itself, with its endpoint, its pacer and the time.
* `TimedStation.Shows.step`, `TimedStation.Shows.run`: what a gateway does for a port is what the
  handler of the port does by itself.
* `TimedStation.Visit`: a frame, its call of the pacer, and the try to write it.
* `TimedStation.Lane.Sound.step`: what a handler did, and what it is about to do.
* `TimedStation.Lane.Sound.finish`: a handler sees its frame through with no help from others.
* `TimedStation.shows_create`: a gateway that was just started.
* **`TimedStation.paces_exactly`**: every frame takes one call of the pacer of its port, and nothing
  that happens elsewhere delays it.
-/

namespace Fieldbus

theorem Endpoint.id_work (e : Endpoint) : e.work.1.id = e.id := by
  unfold work
  by_cases hk : ∃ b, e.custody.keeper = some (.working b)
  · obtain ⟨b, hk⟩ := hk
    rw [goOn_of_working hk]
    cases b.waiting with
    | nil => rfl
    | cons m rest => dsimp only; cases addressed? e.id m <;> rfl
  · rw [goOn_of_not_working fun b hb => hk ⟨b, hb⟩]

theorem Endpoint.Accounts.deliver_eq_self {uid : String} {fs : List Frame} {e : Endpoint}
    (h : Accounts uid fs e) {m : Message}
    (other : Inbox.follows { prefixes := [utf8 (Topics.ofId uid).subscribe] } m = false) :
    e.deliver m = e := by
  have same : ∀ b, e.custody.held? = some b → b.deliver m = b := by
    intro b hb
    have : b.follows m = false := by
      cases m with
      | nil => rfl
      | cons topic parts => simpa [Inbox.follows, h.follows b hb] using other
    rw [Inbox.deliver, this]
    rfl
  rw [Endpoint.deliver, e.custody.map_eq_self h.apart same]

/-! ## The pacers of a gateway -/

namespace SerialGateway

variable (g : SerialGateway) (uid v : String)

theorem pacer?_setPacer (p : Pacer) :
    (g.setPacer v p).pacer? uid = (g.pacer? uid).map fun q => if v = uid then p else q := by
  have kept : ((fun q : String × Pacer => decide (q.1 = uid)) ∘
      fun q => if q.1 = v then (v, p) else q) = fun q => decide (q.1 = uid) := by
    funext q
    by_cases h : q.1 = v <;> simp [h]
  rw [pacer?, setPacer, pacer?, List.find?_map, kept, Option.map_map, Option.map_map]
  refine Option.map_congr fun q hq => ?_
  have own : q.1 = uid := by simpa using List.find?_some hq
  by_cases h : v = uid <;> simp [own, h, eq_comm]

theorem pacer?_note (now : Nat) :
    (g.note v now).pacer? uid = (g.pacer? uid).map fun p => if v = uid then p.note now else p := by
  by_cases h : v = uid
  · subst h
    unfold note
    cases hp : g.pacer? v with
    | none => exact hp
    | some p => simp [pacer?_setPacer, hp]
  · unfold note
    cases g.pacer? v with
    | none => simp [h]
    | some p => simp [pacer?_setPacer, h]

theorem rig_note (now : Nat) : (g.note v now).rig = g.rig := by
  unfold note
  split <;> rfl

end SerialGateway

namespace TimedStation

/-! ## A handler by itself -/

/-- What the handler of a port did. -/
def deeds (uid : String) (es : List Event) : List Deed :=
  es.filterMap fun
    | .did u deed _ => if u = uid then some deed else none
    | _ => none

@[simp] theorem deeds_append (uid : String) (es es' : List Event) :
    deeds uid (es ++ es') = deeds uid es ++ deeds uid es' := List.filterMap_append

theorem deeds_own (uid : String) (d : Deed) (answer : Option (Except PortError Nat)) :
    deeds uid [.did uid d answer] = [d] := by simp [deeds]

theorem deeds_other {uid v : String} (h : v ≠ uid) (d : Deed)
    (answer : Option (Except PortError Nat)) : deeds uid [.did v d answer] = [] := by
  simp [deeds, h]

theorem deeds_lines (uid : String) (ls : List Rig.Event) : deeds uid (ls.map .line) = [] := by
  simp [deeds]

theorem deeds_published (uid : String) (fs : List Frame) : deeds uid (fs.map .published) = [] := by
  simp [deeds]

/-- A handler with all that it needs. -/
structure Lane where
  endpoint : Endpoint
  pacer : Pacer
  task : Option Task := none
  clock : Nat

/-- What may happen to a handler. -/
inductive Turn where
  | tick (time : Nat)
  /-- A message comes to its endpoint. -/
  | relay (m : Message)
  /-- The worker of its endpoint goes on, or it does. -/
  | work
  deriving DecidableEq

namespace Lane

variable (l : Lane)

/-- The worker of the endpoint makes a step. -/
def attend : Lane × List Deed :=
  let e' := l.endpoint.work.1
  match (e'.handled.drop l.endpoint.handled.length).head? with
  | none => ({ l with endpoint := e' }, [])
  | some f => ({ l with endpoint := e', task := some (.asking f) }, [.got f])

/-- The worker goes on, or the handler does. -/
def work : Lane × List Deed :=
  match l.task with
  | none => l.attend
  | some (.asking f) =>
    ({ l with task := some (.waiting f l.clock (l.pacer.remaining l.clock)) }, [])
  | some (.waiting f begun wait) =>
    if begun + wait ≤ l.clock then
      ({ l with pacer := l.pacer.note l.clock, task := some (.writing f) },
        [.paced ⟨begun, wait, l.clock⟩])
    else (l, [])
  | some (.writing f) => ({ l with task := none }, [.tried f l.clock])

def step (l : Lane) : Turn → Lane × List Deed
  | .tick time => ({ l with clock := l.clock + time }, [])
  | .relay m => ({ l with endpoint := l.endpoint.deliver m }, [])
  | .work => l.work

def run (turns : List Turn) : Lane × List Deed := runSteps step l turns

end Lane

/-- What a step is to the handler of a port: a message is something if its topic begins as the one
of the port does, and work is something if it is its own. Whatever becomes of a write, of a port or
of a device is nothing. -/
def Step.turn? (uid : String) (place : Nat) : Step → Option Turn
  | .tick time => some (.tick time)
  | .relay m =>
    if Inbox.follows { prefixes := [utf8 (Topics.ofId uid).subscribe] } m then some (.relay m)
    else none
  | .work i _ => if i = place then some .work else none
  | .change _ | .visit _ | .read _ => none

/-- The ids of the endpoints. -/
def ids (t : TimedStation) : List String := t.station.endpoints.map Endpoint.id

/-- The handler of the port at a place, as part of a gateway. -/
structure Shows (uid : String) (place : Nat) (t : TimedStation) (l : Lane) : Prop where
  accounts : ∃ fs, l.endpoint.Accounts uid fs
  endpoint : t.station.endpoints[place]? = some l.endpoint
  pacer : t.gateway.pacer? uid = some l.pacer
  task : t.tasks place = l.task
  clock : t.clock = l.clock

variable {uid : String} {place : Nat} {t : TimedStation} {l : Lane}

theorem ids_set (es : List Endpoint) {i : Nat} {e e' : Endpoint} (he : es[i]? = some e)
    (same : e'.id = e.id) : (es.set i e').map Endpoint.id = es.map Endpoint.id := by
  obtain ⟨hi, rfl⟩ := List.getElem?_eq_some_iff.mp he
  rw [List.map_set, same]
  refine List.ext_getElem? fun j => ?_
  by_cases hj : i = j
  · subst hj
    simp [hi]
  · simp [List.getElem?_set_ne hj]

theorem ids_work (t : TimedStation) (i : Nat) (outcome : DeviceWrite) :
    (t.work i outcome).1.ids = t.ids := by
  unfold work
  split
  · rfl
  · next e he =>
    split
    · unfold attend
      dsimp only
      split
      · exact ids_set _ he e.id_work
      · exact ids_set _ he e.id_work
    · rfl
    · split <;> rfl
    · rfl

theorem ids_step (t : TimedStation) (s : Step) : (t.step s).1.ids = t.ids := by
  cases s with
  | work i outcome => exact t.ids_work i outcome
  | relay m => exact List.map_map.trans (List.map_congr_left fun _ _ => rfl)
  | tick | change | visit | read => rfl

namespace Shows

theorem work_own (h : Shows uid place t l) (outcome : DeviceWrite) :
    Shows uid place (t.work place outcome).1 l.work.1 ∧
      deeds uid (t.work place outcome).2 = l.work.2 := by
  obtain ⟨fs, accounts⟩ := h.accounts
  obtain rfl := accounts.id_eq
  unfold TimedStation.work Lane.work
  simp only [h.endpoint, h.task]
  cases ht : l.task with
  | none =>
    have listed : (t.station.endpoints.set place l.endpoint.work.1)[place]? =
        some l.endpoint.work.1 :=
      List.getElem?_set_self (List.getElem?_eq_some_iff.mp h.endpoint).1
    simp only [TimedStation.attend, Lane.attend]
    cases (l.endpoint.work.1.handled.drop l.endpoint.handled.length).head? with
    | none => exact ⟨⟨⟨fs, accounts.goOn false⟩, listed, h.pacer, h.task, h.clock⟩, rfl⟩
    | some f =>
      exact ⟨⟨⟨fs, accounts.goOn false⟩, listed, h.pacer, if_pos rfl, h.clock⟩, deeds_own _ _ _⟩
  | some task =>
    cases task with
    | asking f =>
      refine ⟨⟨⟨fs, accounts⟩, h.endpoint, h.pacer, ?_, h.clock⟩, rfl⟩
      simp [setTask, SerialGateway.heldBack, h.pacer, h.clock]
    | waiting f begun wait =>
      dsimp only
      rw [h.clock]
      by_cases ready : begun + wait ≤ l.clock
      · rw [if_pos ready, if_pos ready]
        refine ⟨⟨⟨fs, accounts⟩, h.endpoint, ?_, if_pos rfl, h.clock⟩, deeds_own _ _ _⟩
        exact (SerialGateway.pacer?_note _ _ _ _).trans (by simp [h.pacer])
      · rw [if_neg ready, if_neg ready]
        exact ⟨h, rfl⟩
    | writing f =>
      refine ⟨⟨⟨fs, accounts⟩, h.endpoint, h.pacer, if_pos rfl, h.clock⟩, ?_⟩
      rw [← h.clock]
      exact deeds_own _ _ _

/-- What is done at another place is nothing here. -/
theorem work_other (h : Shows uid place t l) (distinct : t.ids.Nodup) {i : Nat} (other : i ≠ place)
    (outcome : DeviceWrite) :
    Shows uid place (t.work i outcome).1 l ∧ deeds uid (t.work i outcome).2 = [] := by
  unfold TimedStation.work
  cases he : t.station.endpoints[i]? with
  | none => exact ⟨h, rfl⟩
  | some e =>
    have elsewhere : e.id ≠ uid := by
      obtain ⟨fs, accounts⟩ := h.accounts
      intro same
      have here : t.ids[i]? = some uid := by simp [ids, he, same]
      have there : t.ids[place]? = some uid := by simp [ids, h.endpoint, accounts.id_eq]
      obtain ⟨within, -⟩ := List.getElem?_eq_some_iff.mp here
      exact other ((List.getElem?_inj within distinct).mp (here.trans there.symm))
    have task (task : Option Task) (t' : TimedStation) (same : t'.tasks = t.tasks) :
        (t'.setTask i task).tasks place = l.task := by
      rw [← h.task, ← same]
      exact if_neg other.symm
    dsimp only
    cases ht : t.tasks i with
    | none =>
      have listed (e' : Endpoint) : (t.station.endpoints.set i e')[place]? = some l.endpoint :=
        (List.getElem?_set_ne other).trans h.endpoint
      simp only [TimedStation.attend]
      cases (e.work.1.handled.drop e.handled.length).head? with
      | none => exact ⟨⟨h.accounts, listed _, h.pacer, h.task, h.clock⟩, rfl⟩
      | some f =>
        exact ⟨⟨h.accounts, listed _, h.pacer, task _ _ rfl, h.clock⟩, deeds_other elsewhere _ _⟩
    | some task' =>
      cases task' with
      | asking f => exact ⟨⟨h.accounts, h.endpoint, h.pacer, task _ _ rfl, h.clock⟩, rfl⟩
      | waiting f begun wait =>
        dsimp only
        split
        · refine ⟨⟨h.accounts, h.endpoint, ?_, task _ _ rfl, h.clock⟩, deeds_other elsewhere _ _⟩
          exact (SerialGateway.pacer?_note _ _ _ _).trans (by simp [h.pacer, elsewhere])
        · exact ⟨h, rfl⟩
      | writing f =>
        exact ⟨⟨h.accounts, h.endpoint, h.pacer, task _ _ rfl, h.clock⟩, deeds_other elsewhere _ _⟩

/-- **What a step does for a port** is what it is to the handler of the port. -/
theorem step (h : Shows uid place t l) (distinct : t.ids.Nodup) (s : Step) :
    let own := (s.turn? uid place).elim (l, []) l.step
    Shows uid place (t.step s).1 own.1 ∧ deeds uid (t.step s).2 = own.2 := by
  cases s with
  | tick time =>
    exact ⟨⟨h.accounts, h.endpoint, h.pacer, h.task, congrArg (· + time) h.clock⟩, rfl⟩
  | relay m =>
    obtain ⟨fs, accounts⟩ := h.accounts
    have reached : (t.step (.relay m)).1.station.endpoints[place]? =
        some (l.endpoint.deliver m) := by
      show (t.station.endpoints.map _)[place]? = _
      rw [List.getElem?_map, h.endpoint, Option.map_some]
    simp only [Step.turn?]
    cases hm : Inbox.follows { prefixes := [utf8 (Topics.ofId uid).subscribe] } m with
    | true => exact ⟨⟨⟨_, accounts.deliver m⟩, reached, h.pacer, h.task, h.clock⟩, rfl⟩
    | false =>
      rw [accounts.deliver_eq_self hm] at reached
      exact ⟨⟨h.accounts, reached, h.pacer, h.task, h.clock⟩, rfl⟩
  | work i outcome =>
    simp only [Step.turn?]
    by_cases hi : i = place
    · subst hi
      rw [if_pos rfl]
      exact h.work_own outcome
    · rw [if_neg hi]
      exact h.work_other distinct hi outcome
  | visit => exact ⟨⟨h.accounts, h.endpoint, h.pacer, h.task, h.clock⟩, rfl⟩
  | change c =>
    exact ⟨⟨h.accounts, h.endpoint, h.pacer, h.task, h.clock⟩, deeds_lines uid _⟩
  | read granted =>
    refine ⟨⟨h.accounts, h.endpoint, h.pacer, h.task, h.clock⟩, ?_⟩
    exact (deeds_append uid _ _).trans
      (congrArg₂ _ (deeds_lines uid _) (deeds_published uid _))

/-- **What a gateway does for a port** is what the handler of the port does by itself. -/
theorem run (h : Shows uid place t l) (distinct : t.ids.Nodup) (steps : List Step) :
    let own := l.run (steps.filterMap (Step.turn? uid place))
    Shows uid place (t.run steps).1 own.1 ∧ deeds uid (t.run steps).2 = own.2 := by
  -- gateway and handler go on together, or the gateway alone
  induction steps generalizing t l with
  | nil => exact ⟨h, rfl⟩
  | cons s steps ih =>
    obtain ⟨now, done⟩ := h.step distinct s
    obtain ⟨later, rest⟩ := ih now ((t.ids_step s).symm ▸ distinct)
    have both : deeds uid (t.run (s :: steps)).2 =
        deeds uid (t.step s).2 ++ deeds uid ((t.step s).1.run steps).2 := deeds_append _ _ _
    rw [List.filterMap_cons]
    cases hs : s.turn? uid place with
    | none =>
      rw [hs] at later rest done
      exact ⟨later, by rw [both, done, rest]; rfl⟩
    | some turn =>
      rw [hs] at later rest done
      exact ⟨later, by rw [both, done, rest]; rfl⟩

end Shows

/-! ## What a handler does -/

/-- The frames that a handler got. -/
def frames (ds : List Deed) : List Frame :=
  ds.filterMap fun
    | .got f => some f
    | _ => none

/-- The calls of a pacer. -/
def paces (ds : List Deed) : List Pacer.Call :=
  ds.filterMap fun
    | .paced c => some c
    | _ => none

@[simp] theorem frames_append (ds ds' : List Deed) :
    frames (ds ++ ds') = frames ds ++ frames ds' := List.filterMap_append

@[simp] theorem paces_append (ds ds' : List Deed) :
    paces (ds ++ ds') = paces ds ++ paces ds' := List.filterMap_append

/-- What a handler does about a frame: it calls the pacer once, and then tries to write. -/
structure Visit where
  frame : Frame
  call : Pacer.Call
  time : Nat
  /-- The call is over when it tries. -/
  after : call.sent ≤ time

def Visit.deeds (v : Visit) : List Deed := [.got v.frame, .paced v.call, .tried v.frame v.time]

theorem frames_visits (visits : List Visit) :
    frames (visits.flatMap Visit.deeds) = visits.map Visit.frame := by
  induction visits with
  | nil => rfl
  | cons v visits ih =>
    rw [List.flatMap_cons, frames_append, ih]
    rfl

namespace Lane

/-- What the handler did about the frame that it has. -/
def UnderWay (l : Lane) (ds : List Deed) : Prop :=
  match l.task with
  | none => ds = []
  | some (.asking f) => ds = [.got f]
  | some (.waiting f begun wait) =>
    ds = [.got f] ∧ wait = l.pacer.remaining begun ∧ wait ≤ l.pacer.minDelay ∧ begun ≤ l.clock
  | some (.writing f) => ∃ c : Pacer.Call, ds = [.got f, .paced c] ∧ c.sent ≤ l.clock

/-- What a handler did, and what it is about to do. -/
structure Sound (minDelay : Nat) (l : Lane) (ds : List Deed) : Prop where
  /-- It got the frames that the endpoint handled. -/
  got : frames ds = l.endpoint.handled
  /-- The pacer was called by nobody else. -/
  calls : ∃ times, Pacer.calls { minDelay := minDelay } times = (l.pacer, paces ds)
  /-- No send is ahead of the clock. -/
  past : ∀ last ∈ l.pacer.lastSend, last ≤ l.clock
  /-- It finished one visit after the other, up to the frame that it has. -/
  course : ∃ (visits : List Visit) (rest : List Deed),
    ds = visits.flatMap Visit.deeds ++ rest ∧ l.UnderWay rest

variable {minDelay : Nat} {l : Lane} {ds : List Deed}

theorem attend_cases (l : Lane) :
    (∃ e, l.attend = ({ l with endpoint := e }, []) ∧ e.handled = l.endpoint.handled) ∨
      ∃ e f, l.attend = ({ l with endpoint := e, task := some (.asking f) }, [.got f]) ∧
        e.handled = l.endpoint.handled ++ [f] := by
  obtain ⟨f, handled⟩ : ∃ f : Option Frame,
      l.endpoint.work.1.handled = l.endpoint.handled ++ f.toList := l.endpoint.handled_goOn false
  have new : (l.endpoint.work.1.handled.drop l.endpoint.handled.length).head? = f := by
    rw [handled, List.drop_left]
    cases f <;> rfl
  simp only [attend, new]
  cases f with
  | none => exact .inl ⟨_, rfl, by simpa using handled⟩
  | some f => exact .inr ⟨_, f, rfl, handled⟩

theorem Sound.extend (h : Sound minDelay l ds) {l' : Lane} {es : List Deed}
    (visits : List Visit) (rest : List Deed) (pacer : l'.pacer = l.pacer)
    (clock : l'.clock = l.clock)
    (handled : l'.endpoint.handled = l.endpoint.handled ++ frames es) (silent : paces es = [])
    (course : ds ++ es = visits.flatMap Visit.deeds ++ rest) (state : l'.UnderWay rest) :
    Sound minDelay l' (ds ++ es) where
  got := by rw [frames_append, h.got, handled]
  calls := by
    rw [pacer, paces_append, silent, List.append_nil]
    exact h.calls
  past := by
    rw [pacer, clock]
    exact h.past
  course := ⟨visits, rest, course, state⟩

/-- A wait is over. What it took longer than it had to is the slack of the call. -/
theorem Sound.sent (h : Sound minDelay l ds) {f : Frame} {begun : Nat}
    (ready : begun + l.pacer.remaining begun ≤ l.clock) {visits : List Visit}
    (course : ds = visits.flatMap Visit.deeds ++ [.got f]) :
    Sound minDelay { l with pacer := l.pacer.note l.clock, task := some (.writing f) }
      (ds ++ [.paced ⟨begun, l.pacer.remaining begun, l.clock⟩]) where
  got := by
    rw [frames_append, h.got]
    exact List.append_nil _
  calls := by
    obtain ⟨times, calls⟩ := h.calls
    have slack : begun + l.pacer.remaining begun + (l.clock - (begun + l.pacer.remaining begun)) =
        l.clock := Nat.add_sub_cancel' ready
    refine ⟨times ++ [(begun, l.clock - (begun + l.pacer.remaining begun))], ?_⟩
    rw [Pacer.calls_append, calls, paces_append]
    simp [Pacer.calls, Pacer.call, Pacer.pace, Pacer.note, slack, paces]
  past last noted := by
    obtain rfl := Option.some.inj noted
    exact Nat.le_refl _
  course := by
    refine ⟨visits, [.got f, .paced ⟨begun, l.pacer.remaining begun, l.clock⟩], ?_, _, rfl,
      Nat.le_refl l.clock⟩
    rw [course, List.append_assoc]
    rfl

theorem Sound.work (h : Sound minDelay l ds) : Sound minDelay l.work.1 (ds ++ l.work.2) := by
  obtain ⟨visits, rest, course, state⟩ := h.course
  have idle : ds ++ [] = visits.flatMap Visit.deeds ++ rest := (List.append_nil ds).trans course
  have none_handled (e : Endpoint) : e.handled = e.handled ++ frames [] :=
    (List.append_nil _).symm
  unfold Lane.work
  cases ht : l.task with
  | none =>
    simp only [UnderWay, ht] at state
    obtain ⟨e, worked, handled⟩ | ⟨e, f, worked, handled⟩ := l.attend_cases
    · simp only [worked]
      refine h.extend visits rest rfl rfl (handled.trans (none_handled _)) rfl idle ?_
      simp only [UnderWay, ht]
      exact state
    · simp only [worked]
      refine h.extend visits [.got f] rfl rfl handled rfl ?_ rfl
      rw [course, state, List.append_nil]
  | some task =>
    cases task with
    | asking f =>
      simp only [UnderWay, ht] at state
      exact h.extend visits rest rfl rfl (none_handled _) rfl idle
        ⟨state, rfl, Pacer.remaining_le h.past, Nat.le_refl l.clock⟩
    | waiting f begun wait =>
      simp only [UnderWay, ht] at state
      obtain ⟨rfl, rfl, short, began⟩ := state
      dsimp only
      by_cases ready : begun + l.pacer.remaining begun ≤ l.clock
      · rw [if_pos ready]
        exact h.sent ready course
      · rw [if_neg ready]
        refine h.extend visits _ rfl rfl (none_handled _) rfl idle ?_
        unfold UnderWay
        rw [ht]
        exact ⟨rfl, rfl, short, began⟩
    | writing f =>
      simp only [UnderWay, ht] at state
      obtain ⟨c, rfl, after⟩ := state
      refine h.extend (visits ++ [⟨f, c, l.clock, after⟩]) [] rfl rfl (none_handled _) rfl ?_ rfl
      rw [course, List.flatMap_append]
      simp [Visit.deeds]

/-- **Every turn of a handler** goes on with the frame that it has, or begins with the next one. -/
theorem Sound.step (h : Sound minDelay l ds) (turn : Turn) :
    Sound minDelay (l.step turn).1 (ds ++ (l.step turn).2) := by
  cases turn with
  | tick time =>
    obtain ⟨visits, rest, course, state⟩ := h.course
    rw [Lane.step, List.append_nil]
    have later : l.clock ≤ l.clock + time := Nat.le_add_right _ _
    refine ⟨h.got, h.calls, fun last hl => (h.past last hl).trans later, visits, rest, course, ?_⟩
    obtain ⟨endpoint, pacer, task, clock⟩ := l
    match task, state with
    | none, state | some (.asking f), state => exact state
    | some (.waiting f begun wait), ⟨done, waits, short, began⟩ =>
      exact ⟨done, waits, short, began.trans later⟩
    | some (.writing f), ⟨c, done, after⟩ => exact ⟨c, done, after.trans later⟩
  | relay m =>
    rw [Lane.step, List.append_nil]
    exact ⟨h.got, h.calls, h.past, h.course⟩
  | work => exact h.work

theorem Sound.run (h : Sound minDelay l ds) (turns : List Turn) :
    Sound minDelay (l.run turns).1 (ds ++ (l.run turns).2) := by
  refine runSteps_induction Lane.step (fun _ l' ds' => Sound minDelay l' (ds ++ ds')) ?_ l ?_ turns
  · intro _ l' ds' h turn
    rw [← List.append_assoc]
    exact h.step turn
  · rwa [List.append_nil]

/-- Turns of a handler: some, then time passes, and then some more. -/
def turns (before wait rest : Nat) : List Turn :=
  List.replicate before .work ++ .tick wait :: List.replicate rest .work

/-- A handler needs only turns of its own, and no more time than there is between two sends, to see
through what it has begun. -/
theorem Sound.idle (h : Sound minDelay l ds) :
    ∃ before wait rest, wait ≤ minDelay ∧ (l.run (turns before wait rest)).1.task = none ∧
      (l.run (turns before wait rest)).1.endpoint = l.endpoint := by
  obtain ⟨times, calls⟩ := h.calls
  have delay : l.pacer.minDelay = minDelay := by
    have kept := Pacer.minDelay_calls { minDelay := minDelay } times
    rwa [calls] at kept
  obtain ⟨visits, rest, -, state⟩ := h.course
  cases ht : l.task with
  | none => exact ⟨0, 0, 0, Nat.zero_le _, ht, rfl⟩
  | some task =>
    cases task with
    | asking f =>
      refine ⟨1, l.pacer.remaining l.clock, 2, delay ▸ Pacer.remaining_le h.past, ?_⟩
      simp [turns, Lane.run, Lane.step, Lane.work, ht, List.replicate]
    | waiting f begun wait =>
      simp only [UnderWay, ht] at state
      obtain ⟨-, -, short, began⟩ := state
      refine ⟨0, begun + wait - l.clock, 2, by omega, ?_⟩
      have ready : begun + wait ≤ l.clock + (begun + wait - l.clock) := by omega
      simp [turns, Lane.run, Lane.step, Lane.work, ht, ready, List.replicate]
    | writing f =>
      refine ⟨0, 0, 1, Nat.zero_le _, ?_⟩
      simp [turns, Lane.run, Lane.step, Lane.work, ht, List.replicate]

/-- Every frame that was handled is seen through. -/
theorem Sound.finish (h : Sound minDelay l ds) :
    ∃ before wait rest, wait ≤ minDelay ∧ ∃ visits : List Visit,
      ds ++ (l.run (turns before wait rest)).2 = visits.flatMap Visit.deeds ∧
        visits.map Visit.frame = l.endpoint.handled := by
  obtain ⟨before, wait, rest, short, idle, same⟩ := h.idle
  have after := h.run (turns before wait rest)
  obtain ⟨visits, last, course, state⟩ := after.course
  simp only [UnderWay, idle] at state
  rw [state, List.append_nil] at course
  refine ⟨before, wait, rest, short, visits, course, ?_⟩
  rw [← frames_visits, ← course, after.got, same]

theorem UnderWay.first (h : l.UnderWay ds) :
    ∃ visits : List Visit, ds <+: visits.flatMap Visit.deeds := by
  unfold UnderWay at h
  split at h
  · exact ⟨[], h ▸ List.nil_prefix⟩
  · next f _ => exact ⟨[⟨f, ⟨0, 0, 0⟩, 0, Nat.le_refl 0⟩], _, by rw [h]; rfl⟩
  · next f _ _ _ => exact ⟨[⟨f, ⟨0, 0, 0⟩, 0, Nat.le_refl 0⟩], _, by rw [h.1]; rfl⟩
  · next f _ =>
    obtain ⟨c, rfl, -⟩ := h
    exact ⟨[⟨f, c, c.sent, Nat.le_refl _⟩], _, rfl⟩

end Lane

/-- What a handler did with these frames, and with a pacer that is now this one. -/
structure Paced (minDelay : Nat) (p : Pacer) (fs : List Frame) (ds : List Deed) : Prop where
  got : frames ds = fs
  /-- Each takes one call of the pacer, and then a try to write it, before the next one comes. -/
  course : ∃ visits : List Visit, ds <+: visits.flatMap Visit.deeds
  /-- The pacer was new at first, and these are the calls that it got since then. -/
  calls : ∃ times, Pacer.calls { minDelay := minDelay } times = (p, paces ds)
  spaced : Pacer.Spaced minDelay (paces ds)

theorem Lane.Sound.paced {minDelay : Nat} {l : Lane} {ds : List Deed} (h : l.Sound minDelay ds) :
    Paced minDelay l.pacer l.endpoint.handled ds := by
  obtain ⟨times, calls⟩ := h.calls
  obtain ⟨visits, rest, course, state⟩ := h.course
  obtain ⟨last, first⟩ := state.first
  refine ⟨h.got, ⟨visits ++ last, ?_⟩, h.calls, ?_⟩
  · rw [course, List.flatMap_append]
    exact (List.prefix_append_right_inj _).mpr first
  · have spaced := Pacer.spaced_calls minDelay times
    rwa [calls] at spaced

end TimedStation

/-! ## A gateway that was just started -/

namespace SerialGateway

variable {g g' : SerialGateway} {bus : Addresses} {d : Descriptor}

/-- Every port has a pacer, and no two ports have the same id. -/
structure Keyed (g : SerialGateway) : Prop where
  keys : g.rig.ports.members.map Member.key = g.uids
  distinct : g.uids.Nodup

theorem Keyed.pacer?_eq_some (h : g.Keyed) {uid : String} {p : Pacer} (hp : (uid, p) ∈ g.pacers) :
    g.pacer? uid = some p := by
  unfold pacer?
  cases found : g.pacers.find? fun q => q.1 = uid with
  | none => exact absurd (List.find?_eq_none.mp found _ hp) (by simp)
  | some q =>
    have same : q.1 = uid := by simpa using List.find?_some found
    have := List.inj_on_of_nodup_map h.distinct (List.mem_of_find?_eq_some found) hp same
    rw [this]
    rfl

theorem of_register (registered : g.register d = .ok g') :
    d.uid ∉ g.rig.ports.members.map Member.key ∧
      g'.rig.ports.members.map Member.key = g.rig.ports.members.map Member.key ++ [d.uid] ∧
      g'.pacers = g.pacers ++ [(d.uid, { minDelay := d.minDelay })] := by
  unfold register PortSet.add at registered
  cases hf : d.fault? with
  | some cause =>
    rw [hf] at registered
    cases registered
  | none =>
    rw [hf] at registered
    cases taken : (g.rig.ports.find? d.uid).isSome with
    | true =>
      rw [taken] at registered
      cases registered
    | false =>
      rw [taken] at registered
      cases registered
      exact ⟨by simpa [PortSet.find?] using taken, List.map_append, rfl⟩

theorem Keyed.register (h : g.Keyed) (registered : g.register d = .ok g') : g'.Keyed := by
  obtain ⟨fresh, keys, pacers⟩ := of_register registered
  have uids : g'.uids = g.uids ++ [d.uid] := by
    rw [SerialGateway.uids, pacers, List.map_append]
    rfl
  refine ⟨by rw [keys, h.keys, uids], ?_⟩
  rw [uids, ← List.concat_eq_append]
  exact h.distinct.concat (h.keys ▸ fresh)

theorem of_registerAll (ds : List Descriptor) : ∀ {g g' : SerialGateway} {es : List Endpoint},
    registerAll bus g ds = .ok (g', es) →
      (g.Keyed → g'.Keyed) ∧
        g'.pacers = g.pacers ++ ds.map (fun d => (d.uid, { minDelay := d.minDelay })) ∧
        List.Forall₂ (fun d e => Endpoint.Accounts d.uid [] e) ds es := by
  induction ds with
  | nil =>
    rintro g g' es ⟨⟩
    exact ⟨id, (List.append_nil _).symm, .nil⟩
  | cons d ds ih =>
    intro g g' es registered
    unfold registerAll at registered
    cases created : Endpoint.create d.uid bus (some fun _ _ => {}) with
    | error cause =>
      rw [created] at registered
      cases registered
    | ok e =>
      cases one : g.register d with
      | error cause =>
        rw [created, one] at registered
        cases registered
      | ok g₁ =>
        rw [created, one] at registered
        change (registerAll bus g₁ ds >>= fun r => pure (r.1, (e.listen true).2.1 :: r.2)) = _
          at registered
        cases others : registerAll bus g₁ ds with
        | error cause =>
          rw [others] at registered
          cases registered
        | ok r =>
          rw [others] at registered
          cases registered
          obtain ⟨keyed, pacers, manned⟩ := ih others
          refine ⟨fun h => keyed (h.register one), ?_,
            .cons ((Endpoint.accounts_create created).listen true) manned⟩
          rw [pacers, (of_register one).2.2, List.append_assoc]
          rfl

end SerialGateway

namespace TimedStation

variable {devices : Devices} {bus : Addresses} {ds : List Descriptor} {s : Station}

/-- **In a gateway that was just started** every port has a handler, with a new pacer of its own. -/
theorem shows_create (created : Station.create devices bus ds = .ok s) (now : Nat) :
    (start s now).ids.Nodup ∧ ∀ (place : Nat) (d : Descriptor), ds[place]? = some d →
      ∃ l : Lane, Shows d.uid place (start s now) l ∧ l.Sound d.minDelay [] := by
  unfold Station.create SerialGateway.create at created
  cases all : SerialGateway.registerAll bus { rig := { devices := devices } } ds with
  | error cause =>
    rw [all] at created
    cases created
  | ok r =>
    rw [all] at created
    cases created
    obtain ⟨g, es⟩ := r
    obtain ⟨keyed, pacers, manned⟩ := SerialGateway.of_registerAll ds all
    replace keyed := keyed ⟨rfl, List.nodup_nil⟩
    rw [List.nil_append] at pacers
    have ids : es.map Endpoint.id = g.uids := by
      rw [SerialGateway.uids, pacers, List.map_map]
      clear all pacers
      induction manned with
      | nil => rfl
      | cons accounts _ ih => exact congrArg₂ _ accounts.id_eq ih
    refine ⟨?_, fun place d hd => ?_⟩
    · show (es.map Endpoint.id).Nodup
      rw [ids]
      exact keyed.distinct
    · obtain ⟨hi, rfl⟩ := List.getElem?_eq_some_iff.mp hd
      have hi' : place < es.length := manned.length_eq ▸ hi
      have accounts : Endpoint.Accounts ds[place].uid [] es[place] := manned.get hi hi'
      have own : g.pacer? ds[place].uid = some { minDelay := ds[place].minDelay } :=
        keyed.pacer?_eq_some (by rw [pacers]; exact List.mem_map_of_mem (List.getElem_mem hi))
      refine ⟨⟨es[place], { minDelay := ds[place].minDelay }, none, now⟩,
        ⟨⟨[], accounts⟩, List.getElem?_eq_getElem hi', own, rfl, rfl⟩,
        (List.prefix_nil.mp accounts.first).symm, ⟨[], rfl⟩, fun _ none => (by cases none),
        [], [], rfl, rfl⟩

/-! ## Pacing -/

/-- Only the handler at a place makes steps: some, then time passes, and then some more. If it tries
to write, this is what the device makes of it. -/
def alone (place : Nat) (outcome : DeviceWrite) (before wait rest : Nat) : List Step :=
  List.replicate before (.work place outcome) ++
    .tick wait :: List.replicate rest (.work place outcome)

theorem filterMap_alone (uid : String) (place : Nat) (outcome : DeviceWrite)
    (before wait rest : Nat) :
    (alone place outcome before wait rest).filterMap (Step.turn? uid place) =
      Lane.turns before wait rest := by
  have own : Step.turn? uid place (.work place outcome) = some .work := if_pos rfl
  have passes : Step.turn? uid place (.tick wait) = some (.tick wait) := rfl
  rw [alone, List.filterMap_append, List.filterMap_replicate_of_some own,
    List.filterMap_cons_some passes, List.filterMap_replicate_of_some own]
  rfl

/-- **Pacing.** Whatever the clock shows, and however much longer than it has to every wait takes,
the calls of a pacer are spaced: sends are at least the minimum delay apart, the first call does not
wait, and each later one waits for what is left of the delay, and only if it is early. Every frame
that the endpoint of a port handles takes one call of the pacer of this port, and then a try to
write it, whatever becomes of the write; nobody else has to do anything for this, and it needs no
more time than the minimum delay. What happens elsewhere, frames for other ports included, changes
neither what the handler of the port does nor when. -/
theorem paces_exactly :
    (∀ (minDelay : Nat) (times : List (Nat × Nat)),
      Pacer.Spaced minDelay (Pacer.calls { minDelay := minDelay } times).2) ∧
    ∀ {devices : Devices} {bus : Addresses} {ds : List Descriptor} {s : Station},
      Station.create devices bus ds = .ok s →
      ∀ (now : Nat) (steps : List Step) (place : Nat) (d : Descriptor), ds[place]? = some d →
        let after := (start s now).run steps
        (∃ e p, after.1.station.endpoints[place]? = some e ∧ after.1.gateway.pacer? d.uid = some p ∧
          Paced d.minDelay p e.handled (deeds d.uid after.2) ∧
          ∀ outcome, ∃ before wait rest, wait ≤ d.minDelay ∧ ∃ visits : List Visit,
            deeds d.uid ((start s now).run (steps ++ alone place outcome before wait rest)).2 =
              visits.flatMap Visit.deeds ∧ visits.map Visit.frame = e.handled) ∧
        ∀ steps' : List Step,
          steps'.filterMap (Step.turn? d.uid place) = steps.filterMap (Step.turn? d.uid place) →
          deeds d.uid ((start s now).run steps').2 = deeds d.uid after.2 := by
  refine ⟨Pacer.spaced_calls, fun created now steps place d hd => ?_⟩
  obtain ⟨distinct, shows⟩ := shows_create created now
  obtain ⟨l, here, start⟩ := shows place d hd
  obtain ⟨later, done⟩ := here.run distinct steps
  have sound := start.run (steps.filterMap (Step.turn? d.uid place))
  rw [List.nil_append] at sound
  refine ⟨⟨_, _, later.endpoint, later.pacer, ?_, fun outcome => ?_⟩, fun steps' same => ?_⟩
  · rw [done]
    exact sound.paced
  · obtain ⟨before, wait, rest, short, visits, course, frames⟩ := sound.finish
    refine ⟨before, wait, rest, short, visits, ?_, frames⟩
    rw [(here.run distinct _).2, List.filterMap_append, filterMap_alone, ← course, Lane.run,
      runSteps_append]
    rfl
  · rw [done, ← same]
    exact (here.run distinct steps').2

/-- A port that is closed gets two frames while another port waits. -/
theorem paces_exactly_closed :
    let a : Descriptor := { uid := "A", device := "/dev/a", minDelay := 40 }
    let b : Descriptor := { uid := "B", device := "/dev/b", minDelay := 500 }
    let one : Frame := ⟨utf8 "A_south_topic", [1]⟩
    let two : Frame := ⟨utf8 "A_south_topic", [2]⟩
    let go (i : Nat) : Step := .work i (.failed .fatal)
    let own : List Step := [.relay one.toMessage, .relay two.toMessage, go 0, go 0, go 0, .tick 5,
      go 0, go 0, go 0, go 0, .tick 10, go 0, .tick 25, go 0, .tick 10, go 0, go 0]
    let all : List Step := [.relay one.toMessage, .relay [utf8 "B_south_topic", [3]],
      .relay two.toMessage, go 1, go 0, go 1, go 0, go 1, go 0, .tick 5, go 1, go 0, go 1, go 0,
      .visit 0, go 0, go 0, .tick 10, go 0, .tick 25, go 0, .tick 10, go 0, go 0]
    let created := Station.create {} ⟨"ipc:///north", "ipc:///south"⟩ [a, b]
    let s : Station := created.toOption.getD {}
    created = .ok s ∧
      (∃ e p, ((start s 0).run all).1.station.endpoints[0]? = some e ∧
        ((start s 0).run all).1.gateway.pacer? "A" = some p ∧
        Paced 40 p e.handled (deeds "A" ((start s 0).run all).2)) ∧
      deeds "A" ((start s 0).run own).2 = deeds "A" ((start s 0).run all).2 ∧
      deeds "A" ((start s 0).run all).2 = [.got one, .paced ⟨0, 0, 5⟩, .tried one 5,
        .got two, .paced ⟨15, 30, 50⟩, .tried two 50] := by
  intro a b one two go own all created s
  have ok : created = .ok s := eq_ok_of_toBool created {} (by decide +kernel)
  have main := paces_exactly.2 ok 0 all 0 a rfl
  refine ⟨ok, ?_, main.2 own (by decide +kernel), by decide +kernel⟩
  exact main.1.imp fun e h => h.imp fun p h => ⟨h.1, h.2.1, h.2.2.1⟩

end TimedStation

end Fieldbus
