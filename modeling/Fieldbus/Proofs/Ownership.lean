import Fieldbus.Proofs.Starting

/-!
# Who holds the sockets

The sockets of a relay and the inbox of an endpoint pass to a worker when it starts and come back
when it was waited for. A handler may ask its endpoint to stop; then the worker has ended and still
has the inbox, until somebody waits for it. But a handler that stops the endpoint itself, or breaks
down, leaves nobody to give the inbox back.

* `Custody.Owned`: one side holds what there is.
* `Relay.Governed`, `Endpoint.Governed`: who holds it, and what starting and stopping come to.
* `Relay.Steady.governed`, `Endpoint.Standing.governed`: as long as nothing was lost.
* **`one_side_owns`**: whatever is done with a relay and an endpoint. An endpoint without a handler
  never has a worker.
* `quitting_handler_disowns`: the inbox of an endpoint that is stopped by its own handler is gone.
-/

namespace Fieldbus

/-- One side holds what there is, the object or its worker, and the object has no other worker. -/
def Custody.Owned {σ : Type} (c : Custody σ) : Prop :=
  (∃ s, c.own = some s ∧ c.keeper = none) ∨
    ∃ s k, c.own = none ∧ c.keeper = some k ∧ k.held? = some s

theorem Custody.AtWork.isSome_keeper {σ : Type} {c : Custody σ} (busy : c.AtWork) :
    c.keeper.isSome = true := by
  obtain ⟨-, -, b, looking | working⟩ := busy
  · rw [looking]
    rfl
  · rw [working]
    rfl

/-! ## The relay -/

namespace Relay

/-- One side holds the sockets, and it is the worker if the relay runs. A call for a worker changes
nothing then, and starts one otherwise. After a stop the relay has the sockets. -/
structure Governed (r : Relay) : Prop where
  owned : r.custody.Owned
  manned : r.isRunning = true → r.custody.AtWork
  idles : r.isRunning = true → ∀ succeeds, r.listen succeeds = (.ok (), r)
  starts : r.isRunning = false → ∃ s, r.custody = ⟨false, some s, none⟩ ∧
    r.listen true = (.ok (), { r with custody := ⟨true, none, some (.looking s)⟩ })
  stops : ∀ sending, ∃ s, (r.stop sending).1.custody = ⟨false, some s, none⟩

variable {r : Relay} {s : Sockets}

theorem Steady.governed (h : Steady s r.custody) : r.Governed := by
  have stops := h.stop
  obtain ⟨a, c, k⟩ := r
  refine ⟨?owned, ?manned, ?idles, ?starts, stops⟩
  case owned =>
    cases h with
    | idle => exact Or.inl ⟨s, rfl, rfl⟩
    | looking | working => exact Or.inr ⟨s, _, rfl, rfl, rfl⟩
  case manned =>
    intro running
    cases h with
    | idle => cases running
    | looking => exact ⟨rfl, rfl, s, Or.inl rfl⟩
    | working => exact ⟨rfl, rfl, s, Or.inr rfl⟩
  case idles =>
    intro running succeeds
    cases h with
    | idle => cases running
    | looking | working => rfl
  case starts =>
    intro stopped
    cases h with
    | idle => exact ⟨s, rfl, rfl⟩
    | looking | working => cases stopped

end Relay

/-! ## The endpoint -/

namespace Endpoint

/-- One side holds the inbox, and it is the worker if the endpoint listens. A call for a worker
changes nothing then. Otherwise it waits for a worker that was told to end, takes the inbox back and
starts another one. After a stop the endpoint has the inbox. This is so unless the handler loses the
inbox while a worker is waited for. -/
structure Governed (h : Handler) (e : Endpoint) : Prop where
  owned : e.custody.Owned
  manned : e.isListening = true → e.custody.AtWork
  idles : e.isListening = true → ∀ succeeds, e.listen succeeds = (.ok (), e, [])
  starts : e.isListening = false → h.Calm (e.listen true).2.1.handled →
    ∃ b, e.readied.1.custody = ⟨false, some b, none⟩ ∧ (e.listen true).1 = .ok () ∧
      (e.listen true).2.1.custody = ⟨true, none, some (.looking b)⟩
  stops : h.Calm e.stop.1.handled → ∃ b, e.stop.1.custody = ⟨false, some b, none⟩

variable {h : Handler} {e : Endpoint} {b : Inbox}

theorem Gone.held? {c : Custody Inbox} (gone : Gone c) : c.held? = none := by
  cases gone <;> rfl

theorem Keeps.owned {c : Custody Inbox} (hb : Keeps b c) : c.Owned := by
  cases hb with
  | idle => exact Or.inl ⟨b, rfl, rfl⟩
  | looking | working | ended => exact Or.inr ⟨b, _, rfl, rfl, rfl⟩

theorem Keeps.atWork {c : Custody Inbox} (hb : Keeps b c) (running : c.running = true) :
    c.AtWork := by
  cases hb with
  | idle | ended => cases running
  | looking => exact ⟨running, rfl, b, Or.inl rfl⟩
  | working => exact ⟨running, rfl, b, Or.inr rfl⟩

/-- A worker that can be started is started with the inbox that came back from the former one. -/
theorem Standing.starts (hS : Standing h e) (stopped : e.isListening = false)
    (calm : h.Calm (e.listen true).2.1.handled) :
    ∃ b, e.readied.1.custody = ⟨false, some b, none⟩ ∧ (e.listen true).1 = .ok () ∧
      (e.listen true).2.1.custody = ⟨true, none, some (.looking b)⟩ := by
  have free : ¬ (e.custody.keeper.isSome && e.isListening) := by
    rw [stopped, Bool.and_false]
    exact Bool.false_ne_true
  have after : (e.listen true).2.1 =
      { e.readied.1 with custody := e.readied.1.custody.start true } := by
    rw [listen_eq, if_neg free]
  rcases hS.readied free with ⟨b, back⟩ | ⟨broke, -⟩
  · refine ⟨b, back, ?_, ?_⟩
    · rw [Endpoint.listen, if_neg free]
      dsimp only
      rw [if_neg (by rw [back]; exact Bool.false_ne_true), if_pos rfl]
    · rw [after, back]
      rfl
  · rw [after] at calm
    exact absurd calm broke

theorem Standing.governed (hS : Standing h e) (calm : h.Calm e.handled) : Governed h e := by
  obtain ⟨b, hb⟩ | ⟨broke, -⟩ := hS.inbox
  · refine ⟨hb.owned, hb.atWork, fun listening succeeds => ?_, hS.starts, fun later => ?_⟩
    · have there := (hb.atWork listening).isSome_keeper
      rw [Endpoint.listen, there, listening]
      rfl
    · have halted : Standing h e.halt := ⟨hS.handler_eq, Or.inl ⟨b, hb.halt⟩⟩
      rcases halted.reclaim rfl with back | ⟨broke, -⟩
      · exact back
      · exact absurd later broke
  · exact absurd calm broke

theorem run_of_bare (bare : e.custody = {}) (steps : List Step) : (e.run steps).1 = e := by
  refine runSteps_invariant step (fun e' => e' = e) ?_ e steps rfl
  rintro e' st rfl
  exact step_of_bare bare st

end Endpoint

/-! ## The main statement -/

/-- **One side owns what there is.** Whatever is done with a relay and with an endpoint that has a
handler, as long as workers can be started and the handler neither breaks down nor stops the
endpoint itself: the sockets and the inbox are with the object or with its only worker. What runs
has a worker at work, and a call for one changes nothing; otherwise the call starts one, also if the
handler asked for the stop of the former worker. A stop leaves it not running, with what there is in
its own hands. And also with another handler the inbox is on one side, or it was lost over a frame.
An endpoint without a handler never has a worker, nothing that is done changes it, and it answers
every call for a worker by saying that it has no handler. -/
theorem one_side_owns {isDirectory : String → Bool} {a : Addresses} {r : Relay}
    (relay : Relay.create isDirectory a = .ok r) {id : String} {a' : Addresses} {h : Handler}
    {e : Endpoint} (endpoint : Endpoint.create id a' (some h) = .ok e) {e₀ : Endpoint}
    (sender : Endpoint.create id a' none = .ok e₀) (steps : List Relay.Step)
    (steps' : List Endpoint.Step) :
    (¬ Occurs Relay.step Relay.StartFails r steps → (r.run steps).1.Governed) ∧
      (¬ Occurs Endpoint.step Endpoint.StartFails e steps' →
        let after := (e.run steps').1
        (h.Calm after.handled → after.Governed h) ∧
          (after.custody.Owned ∨ ¬ h.Calm after.handled ∧ after.custody.held? = none)) ∧
      (e₀.run steps').1 = e₀ ∧ e₀.custody = {} ∧
        ∀ succeeds, e₀.listen succeeds = (.error (.noHandler id), e₀, []) := by
  obtain rfl := Relay.eq_of_create relay
  obtain rfl := Endpoint.eq_of_create sender
  refine ⟨fun starts => ?_, fun starts => ?_, ?_, rfl, ?_⟩
  · obtain ⟨s, steady⟩ := (Relay.steady_until a steps).1 starts
    exact steady.governed
  · have standing := (Endpoint.standing_until endpoint steps').1 starts
    refine ⟨standing.governed, ?_⟩
    rcases standing.inbox with ⟨b, hb⟩ | ⟨lost, gone⟩
    · exact Or.inl hb.owned
    · exact Or.inr ⟨lost, gone.held?⟩
  · exact Endpoint.run_of_bare rfl steps'
  · exact Endpoint.listen_of_bare rfl

/-- A relay that is stopped and started again, and an endpoint that its own handler stopped: its
worker has ended and still has the inbox. -/
theorem one_side_owns_stopped_inside :
    let steps : List Relay.Step := [.act (.listen true), .act (.stop {}), .act (.listen true)]
    let steps' : List Endpoint.Step := [.act (.listen true), .deliver [utf8 "a_south_topic", [1]],
      .act .work, .act .work, .act .work]
    ∃ r e e₀, Relay.create (fun _ => true) ⟨"ipc:///north", "ipc:///south"⟩ = .ok r ∧
      Endpoint.create "a" ⟨"ipc:///north", "ipc:///south"⟩ (some (.stopOn [1])) = .ok e ∧
      Endpoint.create "a" ⟨"ipc:///north", "ipc:///south"⟩ none = .ok e₀ ∧
      (r.run steps).1.Governed ∧ (e.run steps').1.isListening = false ∧
      (e.run steps').1.custody.own = none ∧ (e.run steps').1.Governed (.stopOn [1]) ∧
      (e₀.listen true).1 = .error (.noHandler "a") := by
  intro steps steps'
  have relay : Relay.create (fun _ => true) ⟨"ipc:///north", "ipc:///south"⟩ = .ok _ := rfl
  have endpoint : Endpoint.create "a" ⟨"ipc:///north", "ipc:///south"⟩ (some (.stopOn [1])) =
    .ok _ := rfl
  have sender : Endpoint.create "a" ⟨"ipc:///north", "ipc:///south"⟩ none = .ok _ := rfl
  obtain ⟨governed, governed', -, -, answers⟩ := one_side_owns relay endpoint sender steps steps'
  refine ⟨_, _, _, relay, endpoint, sender, governed ?_, by decide, by decide,
    (governed' ?_).1 ?_, ?_⟩
  · simp only [steps, occurs_cons, Relay.StartFails, false_or, not_or]
    refine ⟨?_, ?_, not_occurs_nil⟩
    all_goals
      rintro ⟨name, answer⟩
      cases answer
  · simp only [steps', occurs_cons, Endpoint.StartFails, false_or, not_or]
    refine ⟨?_, not_occurs_nil⟩
    rintro ⟨name, answer⟩
    cases answer
  · intro before f _
    rfl
  · rw [answers true]

/-- A handler that stops the endpoint itself: afterwards the inbox is on neither side, no stop
brings it back, and a call for a listener says that there is no handler. -/
theorem quitting_handler_disowns :
    let steps : List Endpoint.Step := [.act (.listen true), .deliver [utf8 "a_south_topic", [1]],
      .act .work, .act .work]
    ∃ e, Endpoint.create "a" ⟨"ipc:///north", "ipc:///south"⟩ (some (.quitOn [1])) = .ok e ∧
      (e.run steps).1.isListening = false ∧ ¬ (e.run steps).1.custody.Owned ∧
      (e.run steps).1.stop.1.custody.own = none ∧
      ((e.run steps).1.listen true).1 = .error (.noHandler "a") ∧
      ((e.run steps).1.listen true).2.1.isListening = false := by
  intro steps
  have created : Endpoint.create "a" ⟨"ipc:///north", "ipc:///south"⟩ (some (.quitOn [1])) =
    .ok _ := rfl
  refine ⟨_, created, by decide, ?_, by decide, rfl, by decide⟩
  rintro (⟨b, own, -⟩ | ⟨b, k, -, keeper, -⟩)
  · cases own
  · cases keeper

end Fieldbus
