import Fieldbus.Bus.Endpoint

/-!
# Delivery to an endpoint

The inbox of an endpoint and its backlog change hands whenever the worker is started or stopped, and
a stop may come from inside the handler in the middle of a backlog. What was handled and what still
waits are nevertheless, at any time and in order, the frames that came by for the endpoint.

* `Endpoint.addressed?`, `Endpoint.meant`: the frames that come by for an endpoint in a run.
* `Endpoint.Accounts`: the frames handled, and those that wait, account for all that were meant.
* `Endpoint.Accounts.deliver`, `Endpoint.Accounts.act`: every step keeps this.
* `Endpoint.Alive`, `Endpoint.Alive.attend`: a worker that is started again takes what waits.
* **`Endpoint.handled_exactly`**: an endpoint handles the frames meant for it in order, once each,
  and none else.
-/

namespace Fieldbus

/-- Whether the inbox is lost over a frame: the handler breaks down, or it stops the endpoint itself
and lets go of the worker that has the inbox. -/
def Reaction.loses (r : Reaction) : Bool := r.breaks || r.quits

namespace Endpoint

/-- The frame that a message brings to the endpoint of an id. The message has two parts, of which
the first is, byte for byte, the topic under which the endpoint receives. -/
def addressed? (id : String) : Message → Option Frame
  | [topic, payload] => if topic = utf8 (id ++ "_south_topic") then some ⟨topic, payload⟩ else none
  | _ => none

/-- The message that comes by in a step. -/
def Step.message? : Step → Option Message
  | .deliver m => some m
  | .act _ => none

/-- The frames that come by for the endpoint of an id. -/
def meant (id : String) (steps : List Step) : List Frame :=
  (steps.filterMap Step.message?).filterMap (addressed? id)

theorem accepted?_eq (e : Endpoint) (m : Message) : e.accepted? m = addressed? e.id m := by
  unfold accepted? addressed?
  match m with
  | [] | [_] | _ :: _ :: _ :: _ => rfl
  | [topic, payload] =>
    simp [Frame.ofMessage?, Topics.accepts, topics, Topics.ofId, subscribeSuffix]

theorem topic_of_addressed? {id : String} {m : Message} {f : Frame} (h : addressed? id m = some f) :
    f.topic = utf8 (id ++ "_south_topic") ∧ m = f.toMessage := by
  match m with
  | [] | [_] | _ :: _ :: _ :: _ => exact absurd h (by simp [addressed?])
  | [topic, payload] =>
    simp only [addressed?] at h
    split at h
    · next ht => cases h; exact ⟨ht, rfl⟩
    · exact absurd h (by simp)

/-- A message that an inbox does not follow brings nothing to the endpoint: the topic under which an
endpoint receives begins with itself. -/
theorem addressed?_of_not_follows {id : String} {b : Inbox} {m : Message}
    (hb : b.prefixes = [utf8 (Topics.ofId id).subscribe]) (hm : b.follows m = false) :
    addressed? id m = none := by
  cases h : addressed? id m with
  | none => rfl
  | some f =>
    obtain ⟨ht, rfl⟩ := topic_of_addressed? h
    have : b.follows f.toMessage = true := by
      simp [Inbox.follows, Frame.toMessage, hb, ht, Topics.ofId, subscribeSuffix]
    rw [hm] at this
    exact absurd this (by simp)

theorem filterMap_addressed?_concat (id : String) (ms : List Message) (m : Message) :
    (ms ++ [m]).filterMap (addressed? id) =
      ms.filterMap (addressed? id) ++ (addressed? id m).toList := by
  cases h : addressed? id m <;> simp [h]

theorem meant_deliver (id : String) (steps : List Step) (m : Message) :
    meant id (steps ++ [.deliver m]) = meant id steps ++ (addressed? id m).toList := by
  rw [meant, List.filterMap_append, show [Step.deliver m].filterMap Step.message? = [m] from rfl,
    filterMap_addressed?_concat]
  rfl

theorem meant_act (id : String) (steps : List Step) (a : Action) :
    meant id (steps ++ [.act a]) = meant id steps := by
  simp [meant, Step.message?]

/-! ## What was handled and what waits -/

/-- The frames handled by the endpoint of an id, and the messages in its inbox, account for the
frames that were meant for it. Without the inbox, which is lost when a worker cannot be started, or
breaks down, or is let go of, the frames handled are the first of them. -/
structure Accounts (id : String) (fs : List Frame) (e : Endpoint) : Prop where
  /-- The endpoint is the one of the id. -/
  id_eq : e.id = id
  /-- The inbox is on one side. -/
  apart : e.custody.Apart
  /-- The inbox follows the topic under which the endpoint receives. -/
  follows : ∀ b, e.custody.held? = some b → b.prefixes = [utf8 (Topics.ofId id).subscribe]
  /-- The first frames meant for the endpoint were handled. -/
  first : e.handled <+: fs
  /-- The others wait. -/
  rest : ∀ b, e.custody.held? = some b →
    e.handled ++ b.waiting.filterMap (addressed? id) = fs

variable {id : String} {fs : List Frame} {e : Endpoint}

theorem Accounts.of_held? (h : Accounts id fs e) {e' : Endpoint} (hid : e'.id = e.id)
    (hh : e'.handled = e.handled) (ha : e'.custody.Apart)
    (hb : ∀ b, e'.custody.held? = some b → e.custody.held? = some b) : Accounts id fs e' where
  id_eq := hid.trans h.id_eq
  apart := ha
  follows b hb' := h.follows b (hb b hb')
  first := hh ▸ h.first
  rest b hb' := hh ▸ h.rest b (hb b hb')

theorem Accounts.start (h : Accounts id fs e) (succeeds : Bool) :
    Accounts id fs { e with custody := e.custody.start succeeds } :=
  h.of_held? rfl rfl (h.apart.start succeeds) fun _ => e.custody.held?_of_start h.apart succeeds

theorem Accounts.join (h : Accounts id fs e) :
    Accounts id fs { e with custody := e.custody.join } :=
  h.of_held? rfl rfl h.apart.join fun b hb => by rwa [e.custody.held?_join h.apart] at hb

theorem Accounts.look (h : Accounts id fs e) :
    Accounts id fs { e with custody := e.custody.look } :=
  h.of_held? rfl rfl h.apart.look fun b hb => by rwa [e.custody.held?_look] at hb

theorem Accounts.halt (h : Accounts id fs e) : Accounts id fs e.halt :=
  h.of_held? rfl rfl h.apart fun _ hb => hb

/-- **A message that comes by** is accounted for: it waits if it is meant for the endpoint. -/
theorem Accounts.deliver (h : Accounts id fs e) (m : Message) :
    Accounts id (fs ++ (addressed? id m).toList) (e.deliver m) where
  id_eq := h.id_eq
  apart := h.apart.map _
  follows b hb := by
    rw [Endpoint.deliver, Custody.held?_map, Option.map_eq_some_iff] at hb
    obtain ⟨b₀, hb₀, rfl⟩ := hb
    rw [← h.follows b₀ hb₀, Inbox.deliver]
    split <;> rfl
  first := h.first.trans (List.prefix_append _ _)
  rest b hb := by
    rw [Endpoint.deliver, Custody.held?_map, Option.map_eq_some_iff] at hb
    obtain ⟨b₀, hb₀, rfl⟩ := hb
    rw [← h.rest b₀ hb₀, List.append_assoc]
    congr 1
    cases hm : b₀.follows m with
    | true => cases hf : addressed? id m <;> simp [Inbox.deliver, hm, hf]
    | false => simp [Inbox.deliver, hm, addressed?_of_not_follows (h.follows b₀ hb₀) hm]

theorem goOn_of_working {b : Inbox} (hk : e.custody.keeper = some (.working b)) (waited : Bool) :
    (e.goOn waited).1 =
      match b.waiting with
      | [] =>
        { e with
          custody := { e.custody with keeper := some (.looking { b with waiting := [] }) } }
      | m :: rest =>
        match addressed? e.id m with
        | some f => (e.handle waited { b with waiting := rest } f).1
        | none =>
          { e with
            custody :=
              { e.custody with keeper := some (.looking { b with waiting := rest }) } } := by
  unfold goOn
  rw [hk]
  cases hw : b.waiting with
  | nil =>
    have hb : { b with waiting := [] } = b := by rw [← hw]
    simp [Inbox.take, hw, hb]
  | cons m rest =>
    cases hf : addressed? e.id m <;> simp [Inbox.take, hw, accepted?_eq, hf]

theorem goOn_of_not_working (hk : ∀ b, e.custody.keeper ≠ some (.working b)) (waited : Bool) :
    e.goOn waited = ({ e with custody := e.custody.look }, []) := by
  unfold goOn
  split
  · next b h => exact absurd h (hk b)
  · rfl

theorem handled_goOn (e : Endpoint) (waited : Bool) :
    ∃ f : Option Frame, (e.goOn waited).1.handled = e.handled ++ f.toList := by
  by_cases hk : ∃ b, e.custody.keeper = some (.working b)
  · obtain ⟨b, hk⟩ := hk
    rw [goOn_of_working hk]
    cases b.waiting with
    | nil => exact ⟨none, (List.append_nil _).symm⟩
    | cons m rest =>
      dsimp only
      cases addressed? e.id m with
      | none => exact ⟨none, (List.append_nil _).symm⟩
      | some f => exact ⟨some f, rfl⟩
  · rw [goOn_of_not_working fun b hb => hk ⟨b, hb⟩]
    exact ⟨none, (List.append_nil _).symm⟩

/-- The worker goes on without a frame: the rest of its inbox brings what the inbox brought. -/
theorem Accounts.skip (h : Accounts id fs e) {b : Inbox}
    (hk : e.custody.keeper = some (.working b)) {rest : List Message}
    (hr : rest.filterMap (addressed? id) = b.waiting.filterMap (addressed? id)) :
    Accounts id fs
      { e with
        custody := { e.custody with keeper := some (.looking { b with waiting := rest }) } } := by
  have hown := h.apart.own_eq_none (by rw [hk]; rfl)
  have hheld := h.apart.held?_of_keeper hk
  refine ⟨h.id_eq, Or.inl hown, fun b' hb' => ?_, h.first, fun b' hb' => ?_⟩
  all_goals
    simp only [Custody.held?, hown, Option.bind_some, Keeper.held?, Option.none_or,
      Option.some.injEq] at hb'
    subst hb'
  · exact h.follows b hheld
  · rw [← h.rest b hheld, hr]

/-- **A frame that is handled** moves from the inbox to the frames handled. -/
theorem Accounts.handle (h : Accounts id fs e) {b : Inbox}
    (hk : e.custody.keeper = some (.working b)) {m : Message} {rest : List Message} {f : Frame}
    (hw : b.waiting = m :: rest) (hf : addressed? id m = some f) (waited : Bool) :
    Accounts id fs (e.handle waited { b with waiting := rest } f).1 := by
  have hown := h.apart.own_eq_none (by rw [hk]; rfl)
  have hheld := h.apart.held?_of_keeper hk
  have hall : e.handled ++ [f] ++ rest.filterMap (addressed? id) = fs := by
    rw [← h.rest b hheld, hw, List.filterMap_cons_some hf, List.append_assoc]
    rfl
  -- the worker has the rest of the inbox, or it is lost
  have hlost : ∀ b', (e.handle waited { b with waiting := rest } f).1.custody.held? = some b' →
      b' = { b with waiting := rest } := by
    intro b' hb'
    simp only [Endpoint.handle, Custody.held?, hown, Option.none_or] at hb'
    split at hb'
    · cases hb'
    · rw [Option.bind_some] at hb'
      split at hb'
      · cases hb'
      · exact (Option.some.inj hb').symm
  refine ⟨h.id_eq, Or.inl hown, fun b' hb' => ?_, ?_, fun b' hb' => ?_⟩
  · rw [hlost b' hb']
    exact h.follows b hheld
  · rw [← hall]
    exact List.prefix_append _ _
  · rw [hlost b' hb']
    exact hall

theorem Accounts.goOn (h : Accounts id fs e) (waited : Bool) :
    Accounts id fs (e.goOn waited).1 := by
  by_cases hk : ∃ b, e.custody.keeper = some (.working b)
  · obtain ⟨b, hk⟩ := hk
    obtain rfl := h.id_eq
    rw [goOn_of_working hk]
    cases hw : b.waiting with
    | nil => exact h.skip hk (by rw [hw])
    | cons m rest =>
      dsimp only
      cases hf : addressed? e.id m with
      | none => exact h.skip hk (by rw [hw, List.filterMap_cons_none hf])
      | some f => exact h.handle hk hw hf waited
  · rw [goOn_of_not_working fun b hb => hk ⟨b, hb⟩]
    exact h.look

theorem Accounts.reclaim (h : Accounts id fs e) : Accounts id fs e.reclaim.1 :=
  ((h.goOn true).goOn true).join

theorem Accounts.readied (h : Accounts id fs e) : Accounts id fs e.readied.1 := by
  unfold Endpoint.readied
  split
  · exact h.reclaim
  · exact h

theorem listen_eq (e : Endpoint) (succeeds : Bool) :
    (e.listen succeeds).2.1 =
      if e.custody.keeper.isSome && e.isListening then e
      else { e.readied.1 with custody := e.readied.1.custody.start succeeds } := by
  unfold listen
  split
  · rfl
  · dsimp only
    split
    · next h =>
      rw [Option.isNone_iff_eq_none] at h
      simp [Custody.start, h]
    · cases succeeds <;> rfl

theorem Accounts.listen (h : Accounts id fs e) (succeeds : Bool) :
    Accounts id fs (e.listen succeeds).2.1 := by
  rw [listen_eq]
  split
  · exact h
  · exact h.readied.start succeeds

/-- **Whatever is done with an endpoint**, no frame is lost, handled twice or handled early. -/
theorem Accounts.act (h : Accounts id fs e) (a : Action) : Accounts id fs (e.act a).1 := by
  cases a with
  | send payload => exact h
  | listen succeeds => exact h.listen succeeds
  | stop => exact h.halt.reclaim
  | halt => exact h.halt
  | work => exact h.goOn false

theorem eq_of_create {a : Addresses} {handler : Option Handler}
    (created : create id a handler = .ok e) :
    e = { id := id, addresses := a, handler := handler
          custody :=
            { own := handler.map fun _ => { prefixes := [utf8 (Topics.ofId id).subscribe] } } } := by
  unfold create at created
  cases hs : Url.connect a.south with
  | error err => rw [hs] at created; cases created
  | ok =>
    cases hn : Url.connect a.north with
    | error err => rw [hs, hn] at created; cases created
    | ok =>
      rw [hs, hn] at created
      cases created
      rfl

theorem accounts_create {a : Addresses} {h : Handler} (created : create id a (some h) = .ok e) :
    Accounts id [] e := by
  rw [eq_of_create created]
  refine ⟨rfl, Or.inr rfl, fun b hb => ?_, List.nil_prefix, fun b hb => ?_⟩
  all_goals
    cases hb
    rfl

/-- **After every run** what was handled and what waits account for what was meant. -/
theorem Accounts.run {a : Addresses} {h : Handler} (created : create id a (some h) = .ok e)
    (steps : List Step) : Accounts id (meant id steps) (e.run steps).1 := by
  refine runSteps_induction step (fun steps e _ => Accounts id (meant id steps) e) ?_ e
    (accounts_create created) steps
  intro before e _ h s
  cases s with
  | deliver m =>
    rw [meant_deliver]
    exact h.deliver m
  | act a =>
    rw [meant_act]
    exact h.act a

theorem create_ok {a : Addresses} (south : Url.connect a.south = .ok ())
    (north : Url.connect a.north = .ok ()) (id : String) (h : Handler) :
    ∃ e, create id a (some h) = .ok e := by
  unfold create
  rw [south, north]
  exact ⟨_, rfl⟩

/-! ## What waits is taken -/

/-- The inbox is held, with at most `n` messages waiting, and a worker that has ended was told to.
This is so as long as workers can be started and the handler loses none. -/
structure Alive (h : Handler) (n : Nat) (e : Endpoint) : Prop where
  /-- The handler is the one given. -/
  handler_eq : e.handler = some h
  /-- The inbox is on one side. -/
  apart : e.custody.Apart
  /-- The inbox is there. -/
  held : ∃ b, e.custody.held? = some b ∧ b.waiting.length ≤ n
  /-- No worker ends by itself. -/
  ended : ∀ b, e.custody.keeper = some (.ended b) → e.custody.running = false

theorem alive_create {a : Addresses} {h : Handler} (created : create id a (some h) = .ok e) :
    Alive h 0 e := by
  rw [eq_of_create created]
  exact ⟨rfl, Or.inr rfl, ⟨_, rfl, Nat.le_refl _⟩, fun b hb => by cases hb⟩

section Alive

variable {h : Handler} {n : Nat} (sturdy : ∀ fs f, (h fs f).loses = false)

theorem Alive.keeper_cases (hA : Alive h n e) {k : Keeper Inbox} (hk : e.custody.keeper = some k) :
    ∃ b, b.waiting.length ≤ n ∧ (k = .looking b ∨ k = .working b ∨ k = .ended b) := by
  obtain ⟨b, hb, hn⟩ := hA.held
  rw [hA.apart.held?_of_keeper hk] at hb
  cases k with
  | looking b' => cases hb; exact ⟨b, hn, Or.inl rfl⟩
  | working b' => cases hb; exact ⟨b, hn, Or.inr (Or.inl rfl)⟩
  | ended b' => cases hb; exact ⟨b, hn, Or.inr (Or.inr rfl)⟩
  | broken => cases hb

include sturdy in
theorem Alive.take (hA : Alive h (n + 1) e) {b : Inbox}
    (hk : e.custody.keeper = some (.working b)) (waited : Bool) :
    Alive h n (e.goOn waited).1 ∧ ∃ b', (e.goOn waited).1.custody.keeper = some (.looking b') ∧
      (e.custody.running = false → (e.goOn waited).1.custody.running = false) := by
  have hown := hA.apart.own_eq_none (by rw [hk]; rfl)
  have hlen : b.waiting.length ≤ n + 1 := by
    obtain ⟨b', hb', hn⟩ := hA.held
    rw [hA.apart.held?_of_keeper hk] at hb'
    cases hb'
    exact hn
  have hcalm : ∀ f, (e.reaction f).breaks = false ∧ (e.reaction f).quits = false := fun f => by
    rw [reaction, hA.handler_eq]
    exact Bool.or_eq_false_iff.mp (sturdy _ _)
  -- whatever the message brings, the rest of the inbox is with a worker that looks
  have key : ∃ rest, rest.length ≤ n ∧
      (e.goOn waited).1.custody.keeper = some (.looking { b with waiting := rest }) ∧
      (e.goOn waited).1.custody.own = none ∧ (e.goOn waited).1.handler = some h ∧
      (e.custody.running = false → (e.goOn waited).1.custody.running = false) := by
    rw [goOn_of_working hk]
    cases hw : b.waiting with
    | nil => exact ⟨[], Nat.zero_le _, rfl, hown, hA.handler_eq, fun hr => hr⟩
    | cons m rest =>
      rw [hw, List.length_cons] at hlen
      refine ⟨rest, by omega, ?_⟩
      dsimp only
      cases addressed? e.id m with
      | none => exact ⟨rfl, hown, hA.handler_eq, fun hr => hr⟩
      | some f =>
        refine ⟨?_, hown, hA.handler_eq, fun hr => ?_⟩
        · simp [handle, (hcalm f).1, (hcalm f).2]
        · simp [handle, hr]
  obtain ⟨rest, hrest, hkeep, hnone, hhandler, hrun⟩ := key
  refine ⟨⟨hhandler, Or.inl hnone, ⟨{ b with waiting := rest }, ?_, hrest⟩, fun b' hb' => ?_⟩,
    _, hkeep, hrun⟩
  · rw [Custody.held?, hnone, hkeep]
    rfl
  · rw [hkeep] at hb'
    exact absurd hb' (by simp)

theorem Alive.look (hA : Alive h n e) :
    Alive h n { e with custody := e.custody.look } where
  handler_eq := hA.handler_eq
  apart := hA.apart.look
  held := by
    obtain ⟨b, hb, hn⟩ := hA.held
    exact ⟨b, by rwa [e.custody.held?_look], hn⟩
  ended b hb := by
    dsimp only at hb ⊢
    unfold Custody.look at hb ⊢
    split at hb
    · next s hs =>
      cases hr : e.custody.running with
      | true => simp [hr] at hb
      | false => rfl
    · exact hA.ended b hb

include sturdy in
theorem Alive.goOn (hA : Alive h n e) (waited : Bool) : Alive h n (e.goOn waited).1 := by
  by_cases hk : ∃ b, e.custody.keeper = some (.working b)
  · obtain ⟨b, hk⟩ := hk
    cases n with
    | zero =>
      -- nothing waits, so that nothing is taken
      obtain ⟨b', hlen, hb'⟩ := hA.keeper_cases hk
      have hw : b.waiting = [] := by
        rcases hb' with hb' | hb' | hb' <;> cases hb'
        exact List.length_eq_zero_iff.mp (Nat.le_zero.mp hlen)
      have hown := hA.apart.own_eq_none (by rw [hk]; rfl)
      rw [goOn_of_working hk, hw]
      refine ⟨hA.handler_eq, Or.inl hown, ⟨{ b with waiting := [] }, ?_, Nat.le_refl _⟩,
        fun b' hb' => ?_⟩
      · simp [Custody.held?, hown, Keeper.held?]
      · exact absurd hb' (by simp)
    | succ n =>
      obtain ⟨hA', -⟩ := hA.take sturdy hk waited
      obtain ⟨b', hb', hn⟩ := hA'.held
      exact ⟨hA'.handler_eq, hA'.apart, ⟨b', hb', by omega⟩, hA'.ended⟩
  · rw [goOn_of_not_working fun b hb => hk ⟨b, hb⟩]
    exact hA.look

theorem Alive.join (hA : Alive h n e) : Alive h n { e with custody := e.custody.join } where
  handler_eq := hA.handler_eq
  apart := hA.apart.join
  held := by
    obtain ⟨b, hb, hn⟩ := hA.held
    exact ⟨b, by rwa [e.custody.held?_join hA.apart], hn⟩
  ended b hb := by
    dsimp only at hb ⊢
    unfold Custody.join at hb ⊢
    split at hb
    · exact absurd hb (by simp)
    · exact absurd hb (by simp)
    · exact hA.ended b hb

theorem Alive.start (hA : Alive h n e) :
    Alive h n { e with custody := e.custody.start true } where
  handler_eq := hA.handler_eq
  apart := hA.apart.start true
  held := by
    obtain ⟨b, hb, hn⟩ := hA.held
    exact ⟨b, by rwa [e.custody.held?_start], hn⟩
  ended b hb := by
    dsimp only at hb ⊢
    unfold Custody.start at hb ⊢
    split at hb
    · next ho => exact hA.ended b hb
    · exact absurd hb (by simp)

theorem Alive.mono (hA : Alive h n e) {m : Nat} (hm : n ≤ m) : Alive h m e := by
  obtain ⟨b, hb, hn⟩ := hA.held
  exact ⟨hA.handler_eq, hA.apart, ⟨b, hb, Nat.le_trans hn hm⟩, hA.ended⟩

theorem Alive.halt (hA : Alive h n e) : Alive h n e.halt :=
  ⟨hA.handler_eq, hA.apart, hA.held, fun _ _ => rfl⟩

theorem Alive.deliver (hA : Alive h n e) (m : Message) : Alive h (n + 1) (e.deliver m) where
  handler_eq := hA.handler_eq
  apart := hA.apart.map _
  held := by
    obtain ⟨b, hb, hn⟩ := hA.held
    refine ⟨b.deliver m, by rw [Endpoint.deliver, Custody.held?_map, hb]; rfl, ?_⟩
    unfold Inbox.deliver
    split
    · simpa using hn
    · omega
  ended b hb := by
    obtain ⟨k, hk, hb⟩ := Option.map_eq_some_iff.mp hb
    cases k with
    | ended b' => exact hA.ended b' hk
    | looking b' | working b' | broken => cases hb

theorem goOn_of_looking {b : Inbox} (hk : e.custody.keeper = some (.looking b)) (waited : Bool) :
    (e.goOn waited).1.custody =
      { e.custody with
        keeper := some (if e.custody.running then .working b else .ended b) } := by
  rw [goOn_of_not_working fun b' hb' => by rw [hk] at hb'; cases hb']
  simp [Custody.look, hk]

theorem goOn_of_ended {b : Inbox} (hk : e.custody.keeper = some (.ended b)) (waited : Bool) :
    (e.goOn waited).1.custody = e.custody := by
  rw [goOn_of_not_working fun b' hb' => by rw [hk] at hb'; cases hb']
  simp [Custody.look, hk]

include sturdy in
theorem Alive.reclaim (hA : Alive h n e) : Alive h n e.reclaim.1 :=
  ((hA.goOn sturdy true).goOn sturdy true).join

include sturdy in
theorem Alive.own_reclaim (hA : Alive h n e) (hr : e.custody.running = false)
    (hk : e.custody.keeper.isSome) : ∃ b, e.reclaim.1.custody.own = some b := by
  obtain ⟨k, hk⟩ := Option.isSome_iff_exists.mp hk
  obtain ⟨b, -, hb⟩ := hA.keeper_cases hk
  have ended : ∃ b, ((e.goOn true).1.goOn true).1.custody.keeper = some (.ended b) := by
    rcases hb with rfl | rfl | rfl
    · have h₁ : (e.goOn true).1.custody.keeper = some (.ended b) := by
        simp [goOn_of_looking hk, hr]
      exact ⟨b, by rw [goOn_of_ended h₁, h₁]⟩
    · obtain ⟨-, b', hb', hr'⟩ := (hA.mono (Nat.le_succ n)).take sturdy hk true
      exact ⟨b', by simp [goOn_of_looking hb', hr' hr]⟩
    · have h₁ : (e.goOn true).1.custody.keeper = some (.ended b) := by rw [goOn_of_ended hk, hk]
      exact ⟨b, by rw [goOn_of_ended h₁, h₁]⟩
  obtain ⟨b, hb⟩ := ended
  exact ⟨b, by simp [Endpoint.reclaim, Custody.join, hb]⟩

include sturdy in
theorem Alive.listen (hA : Alive h n e) :
    Alive h n (e.listen true).2.1 ∧ ∃ b, ((e.listen true).2.1.custody.keeper = some (.working b) ∨
      (e.listen true).2.1.custody.keeper = some (.looking b) ∧
        (e.listen true).2.1.custody.running = true) := by
  rw [listen_eq]
  split
  · next hl =>
    simp only [Bool.and_eq_true, isListening] at hl
    obtain ⟨k, hk⟩ := Option.isSome_iff_exists.mp hl.1
    obtain ⟨b, -, hb⟩ := hA.keeper_cases hk
    refine ⟨hA, b, ?_⟩
    rcases hb with rfl | rfl | rfl
    · exact Or.inr ⟨hk, hl.2⟩
    · exact Or.inl hk
    · exact absurd (hA.ended b hk) (by simp [hl.2])
  · next hl =>
    -- the inbox is with the endpoint, at once or after an earlier worker has ended
    have ready : Alive h n e.readied.1 ∧ ∃ b, e.readied.1.custody.own = some b := by
      unfold Endpoint.readied
      cases hk : e.custody.keeper with
      | none =>
        obtain ⟨b, hb, -⟩ := hA.held
        refine ⟨hA, b, ?_⟩
        simpa [Custody.held?, hk] using hb
      | some k =>
        have hr : e.custody.running = false := by simpa [hk, isListening] using hl
        exact ⟨hA.reclaim sturdy, hA.own_reclaim sturdy hr (by simp [hk])⟩
    obtain ⟨hA', b, hb⟩ := ready
    exact ⟨hA'.start, b, Or.inr (by simp [Custody.start, hb])⟩

/-- A call for a listener, and two steps of the worker. -/
def attend : List Step := [.act (.listen true), .act .work, .act .work]

include sturdy in
/-- **A message that waits is taken** when the endpoint listens again. -/
theorem Alive.attend (hA : Alive h (n + 1) e) : Alive h n (e.run attend).1 := by
  show Alive h n (((e.listen true).2.1.goOn false).1.goOn false).1
  obtain ⟨hA', b, hb⟩ := hA.listen sturdy
  rcases hb with hb | ⟨hb, hr⟩
  · exact (hA'.take sturdy hb false).1.goOn sturdy false
  · have hb' : ((e.listen true).2.1.goOn false).1.custody.keeper = some (.working b) := by
      simp [goOn_of_looking hb, hr]
    exact ((hA'.goOn sturdy false).take sturdy hb' false).1

include sturdy in
theorem Alive.attend_all (hA : Alive h n e) :
    Alive h 0 (e.run (List.replicate n Endpoint.attend).flatten).1 := by
  induction n generalizing e with
  | zero => exact hA
  | succ n ih =>
    rw [List.replicate_succ, List.flatten_cons, Endpoint.run, runSteps_append]
    exact ih (hA.attend sturdy)

include sturdy in
theorem Alive.step (hA : Alive h n e) {s : Step} (hs : s ≠ .act (.listen false)) :
    Alive h (n + 1) (e.step s).1 := by
  cases s with
  | deliver m => exact hA.deliver m
  | act a =>
    refine Alive.mono ?_ (Nat.le_succ n)
    cases a with
    | send payload => exact hA
    | listen succeeds =>
      cases succeeds with
      | true => exact (hA.listen sturdy).1
      | false => exact absurd rfl hs
    | stop => exact hA.halt.reclaim sturdy
    | halt => exact hA.halt
    | work => exact hA.goOn sturdy false

include sturdy in
theorem Alive.run {a : Addresses} (created : create id a (some h) = .ok e) {steps : List Step}
    (started : .act (.listen false) ∉ steps) : ∃ n, Alive h n (e.run steps).1 := by
  refine runSteps_induction Endpoint.step
    (fun steps e _ => .act (.listen false) ∉ steps → ∃ n, Alive h n e) ?_ e
    (fun _ => ⟨0, alive_create created⟩) steps started
  intro before e _ ih s hs
  obtain ⟨n, hA⟩ := ih fun hm => hs (List.mem_append_left _ hm)
  exact ⟨n + 1, hA.step sturdy fun he => hs (by simp [he])⟩

include sturdy in
theorem listen_create {a : Addresses} (created : create id a (some h) = .ok e) :
    Accounts id [] (e.listen true).2.1 ∧ Alive h 0 (e.listen true).2.1 ∧
      (e.listen true).2.1.handled = [] := by
  have accounts := (accounts_create created).listen true
  exact ⟨accounts, ((alive_create created).listen sturdy).1, List.prefix_nil.mp accounts.first⟩

end Alive

theorem meant_attend_all (id : String) (steps : List Step) (n : Nat) :
    meant id (steps ++ (List.replicate n attend).flatten) = meant id steps := by
  induction n generalizing steps with
  | zero => simp
  | succ n ih =>
    rw [List.replicate_succ, List.flatten_cons, ← List.append_assoc, ih]
    simp [meant, attend, Step.message?]

/-! ## The main statement -/

/-- **An endpoint handles the frames meant for it**, in order, once each, and none else. Whatever is
done with it and whatever fails, the frames handled are the first of those that were meant for it.
While the inbox is there, on either side, those that wait in it are the others. It is there as long
as workers can be started and the handler neither breaks down nor stops the endpoint itself, and the
endpoint then handles what waits when it listens again. -/
theorem handled_exactly {a : Addresses} {h : Handler} (created : create id a (some h) = .ok e)
    (steps : List Step) :
    (e.run steps).1.handled <+: meant id steps ∧
    (∀ b, (e.run steps).1.custody.held? = some b →
      (e.run steps).1.handled ++ b.waiting.filterMap (addressed? id) = meant id steps) ∧
    ((∀ fs f, (h fs f).loses = false) → .act (.listen false) ∉ steps →
      ∃ b, (e.run steps).1.custody.held? = some b ∧
        (e.run (steps ++ (List.replicate b.waiting.length attend).flatten)).1.handled =
          meant id steps) := by
  have now := Accounts.run created steps
  refine ⟨now.first, now.rest, fun sturdy started => ?_⟩
  obtain ⟨n, hA⟩ := Alive.run sturdy created started
  obtain ⟨b, hb, -⟩ := hA.held
  have hA' : Alive h b.waiting.length (e.run steps).1 :=
    ⟨hA.handler_eq, hA.apart, ⟨b, hb, Nat.le_refl _⟩, hA.ended⟩
  refine ⟨b, hb, ?_⟩
  have later := Accounts.run created (steps ++ (List.replicate b.waiting.length attend).flatten)
  rw [meant_attend_all] at later
  obtain ⟨b', hb', hn⟩ := (hA'.attend_all sturdy).held
  rw [Endpoint.run, runSteps_append] at later ⊢
  have := later.rest b' hb'
  rwa [List.length_eq_zero_iff.mp (Nat.le_zero.mp hn), List.filterMap_nil, List.append_nil] at this

/-- A frame that stops the listener from inside the handler, two that only look as if they were for
the endpoint, and one that waits until the endpoint listens again. -/
theorem handled_exactly_midway :
    let topic := utf8 "A_south_topic"
    let steps : List Step := [.deliver [topic, [1]], .deliver [topic ++ [0x5F], [2]],
      .deliver [topic, [3], [4]], .act (.listen true), .act .work, .act .work,
      .deliver [topic, [5]]]
    ∃ e, create "A" ⟨"ipc:///north", "ipc:///south"⟩ (some (.stopOn [1])) = .ok e ∧
      meant "A" steps = [⟨topic, [1]⟩, ⟨topic, [5]⟩] ∧ (e.run steps).1.handled = [⟨topic, [1]⟩] ∧
      ∃ b, (e.run steps).1.custody.held? = some b ∧
        (e.run (steps ++ (List.replicate b.waiting.length attend).flatten)).1.handled =
          [⟨topic, [1]⟩, ⟨topic, [5]⟩] := by
  intro topic steps
  have created : create "A" ⟨"ipc:///north", "ipc:///south"⟩ (some (.stopOn [1])) = .ok _ := rfl
  have hm : meant "A" steps = [⟨topic, [1]⟩, ⟨topic, [5]⟩] := by decide
  refine ⟨_, created, hm, by decide, ?_⟩
  rw [← hm]
  exact (handled_exactly created steps).2.2 (fun _ _ => rfl) (by decide)

/-- A handler that stops the endpoint itself at the first of two frames: the second one is lost, and
the endpoint answers a call for a listener by saying that it has no handler. -/
theorem quitting_handler_loses :
    let topic := utf8 "A_south_topic"
    let steps : List Step := [.act (.listen true), .deliver [topic, [1]], .deliver [topic, [2]],
      .act .work, .act .work]
    ∃ e, create "A" ⟨"ipc:///north", "ipc:///south"⟩ (some (.quitOn [1])) = .ok e ∧
      meant "A" steps = [⟨topic, [1]⟩, ⟨topic, [2]⟩] ∧ (e.run steps).1.handled = [⟨topic, [1]⟩] ∧
      (e.run steps).1.custody.held? = none ∧
      ((e.run steps).1.listen true).1 = .error (.noHandler "A") ∧
      (e.run (steps ++ attend)).1.handled = [⟨topic, [1]⟩] := by
  intro topic steps
  exact ⟨_, rfl, by decide, by decide, by decide, rfl, by decide⟩

end Endpoint

end Fieldbus
