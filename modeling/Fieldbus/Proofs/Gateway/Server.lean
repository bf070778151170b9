import Fieldbus.Gateway.Server
import Fieldbus.Proofs.Delivery
import Fieldbus.Proofs.Gateway.Ledger

/-!
# Runs of the gateway for clients

Clients, the bus, the worker of the gateway and that of its endpoint go on in any order. Every step
keeps the gateway in balance, and what the bus and the clients bring is offered to it in their
order.

* `Server.relayed`, `Server.readFrom`: what the bus and the clients bring in a run.
* **`Server.moves_run`**, **`Server.serves_run`**: the balance of the gateway and the account of a
  client after a run.
* `Server.rejected_step`: what is rejected changes nothing.
* `Server.Hears`, **`Server.Hears.run`**: what the bus and the clients bring is offered.
-/

namespace Fieldbus.Server

open TcpGateway

variable {σ : Type}

/-- The messages that the relay passed on. -/
def relayed (steps : List Step) : List Message :=
  steps.filterMap fun
    | .relay m => some m
    | _ => none

/-- The chunks that were read from a client. -/
def readFrom (name : String) (steps : List Step) : List Bytes :=
  steps.filterMap fun
    | .read who chunk => if who = name then some chunk else none
    | _ => none

/-! ## Steps -/

variable (s : Server σ)

theorem handle_eq :
    ∃ f : Option Frame, s.endpoint.work.1.handled = s.endpoint.handled ++ f.toList ∧
      s.handle = match f with
        | none => ({ s with endpoint := s.endpoint.work.1 }, [])
        | some f =>
          (⟨(s.gateway.offer ⟨.bus, f.payload⟩).1, s.endpoint.work.1⟩,
            (s.gateway.offer ⟨.bus, f.payload⟩).2) := by
  obtain ⟨f, hf⟩ : ∃ f : Option Frame,
      s.endpoint.work.1.handled = s.endpoint.handled ++ f.toList := s.endpoint.handled_goOn false
  refine ⟨f, hf, ?_⟩
  unfold handle
  dsimp only
  rw [hf, List.drop_left]
  cases f with
  | none => rfl
  | some f =>
    refine Prod.ext rfl ?_
    exact List.append_nil _

theorem moves_step (x : Step) : Moves s.gateway (s.step x).1.gateway (s.step x).2 := by
  cases x with
  | relay m => exact .refl _
  | handle =>
    obtain ⟨f, -, hf⟩ := s.handle_eq
    rw [step, hf]
    cases f with
    | none => exact .refl _
    | some f => exact s.gateway.moves_offer _
  | enter name => exact s.gateway.moves_enter name
  | leave name => exact s.gateway.moves_leave name
  | read name chunk => exact s.gateway.moves_offer _
  | take name => exact s.gateway.moves_take name
  | work => exact s.gateway.moves_work
  | shutDown => exact s.gateway.moves_shutDown

/-- **Every run** keeps the gateway in balance. -/
theorem moves_run (steps : List Step) :
    Moves s.gateway (s.run steps).1.gateway (s.run steps).2 :=
  runSteps_relation step (fun s s' es => Moves s.gateway s'.gateway es) (fun s => .refl s.gateway)
    Moves.trans steps (fun s _ _ => s.moves_step _) s

theorem serves_step {name : String} {x : Step} (he : x ≠ .enter name) (hl : x ≠ .leave name) :
    Serves name s.gateway (s.step x).1.gateway (s.step x).2 := by
  cases x with
  | relay m => exact .refl _
  | handle =>
    obtain ⟨f, -, hf⟩ := s.handle_eq
    rw [step, hf]
    cases f with
    | none => exact .refl _
    | some f => exact s.gateway.serves_offer _
  | enter who => exact s.gateway.serves_enter fun h => he (h ▸ rfl)
  | leave who => exact s.gateway.serves_leave fun h => hl (h ▸ rfl)
  | read who chunk => exact s.gateway.serves_offer _
  | take who => exact s.gateway.serves_take
  | work => exact s.gateway.serves_work
  | shutDown => exact s.gateway.serves_shutDown

/-- **Every run** in which a client neither comes nor goes keeps its account. -/
theorem serves_run {name : String} {steps : List Step} (he : .enter name ∉ steps)
    (hl : .leave name ∉ steps) :
    Serves name s.gateway (s.run steps).1.gateway (s.run steps).2 :=
  runSteps_relation step (fun s s' es => Serves name s.gateway s'.gateway es)
    (fun s => .refl s.gateway) Serves.trans steps
    (fun s _ hx => s.serves_step (fun h => he (h ▸ hx)) fun h => hl (h ▸ hx)) s

/-! ## What is offered -/

theorem offers_step (x : Step) :
    (∃ o, (s.step x).1.gateway = (s.gateway.offer o).1 ∧
      (s.step x).2 = (s.gateway.offer o).2) ∨ offered (s.step x).2 = [] := by
  cases x with
  | relay | enter | leave | shutDown => exact Or.inr rfl
  | handle =>
    obtain ⟨f, -, hf⟩ := s.handle_eq
    rw [step, hf]
    cases f with
    | none => exact Or.inr rfl
    | some f => exact Or.inl ⟨_, rfl, rfl⟩
  | read name chunk => exact Or.inl ⟨_, rfl, rfl⟩
  | take name => exact Or.inr (s.gateway.offered_take name)
  | work => exact Or.inr s.gateway.offered_work

/-- **What is rejected** contributes nothing and changes nothing. -/
theorem rejected_step {x : Step} {o : Offer} (h : .rejected o ∈ (s.step x).2) :
    s.gateway.queue.isFull = true ∧ (s.step x).1.gateway = s.gateway ∧
      (s.step x).2 = [.rejected o] := by
  rcases s.offers_step x with ⟨o', hg, he⟩ | hn
  · rw [he] at h
    obtain ⟨hf, ho⟩ := s.gateway.rejected_offer h
    exact ⟨hf, by rw [hg, ho], by rw [he, ho]⟩
  · have := mem_offered (Or.inr h)
    rw [hn] at this
    exact absurd this List.not_mem_nil

theorem accepted_step {x : Step} {o : Offer} (h : .accepted o ∈ (s.step x).2) :
    s.gateway.queue.isFull = false ∧
      (s.step x).1.gateway.queue.toList = s.gateway.queue.toList ++ [o.staged] := by
  rcases s.offers_step x with ⟨o', hg, he⟩ | hn
  · rw [he] at h
    obtain ⟨hf, ho⟩ := s.gateway.accepted_offer h
    exact ⟨hf, by rw [hg, ho]⟩
  · have := mem_offered (Or.inl h)
    rw [hn] at this
    exact absurd this List.not_mem_nil

/-- What the bus and the clients bring is offered to the gateway, each source's payloads in order.
-/
structure Hears (uid : String) (steps : List Step) (s : Server σ) (es : List Effect) : Prop where
  /-- What came for the endpoint was handled or waits. -/
  accounts : s.endpoint.Accounts uid ((relayed steps).filterMap (Endpoint.addressed? uid))
  /-- The inbox of the endpoint is there. -/
  alive : ∃ n, s.endpoint.Alive .record n
  /-- What the endpoint handled was offered. -/
  bus : offeredBy .bus es = s.endpoint.handled.map Frame.payload
  /-- What was read from clients was offered. -/
  clients : ∀ name, offeredBy (.client name) es = readFrom name steps

variable {uid : String} {steps : List Step} {s} {es : List Effect}

theorem Hears.skip (h : Hears uid steps s es) {x : Step} (hr : relayed [x] = [])
    (he : (s.step x).1.endpoint = s.endpoint) (hb : offeredBy .bus (s.step x).2 = [])
    (hc : ∀ name, offeredBy (.client name) (s.step x).2 = readFrom name [x]) :
    Hears uid (steps ++ [x]) (s.step x).1 (es ++ (s.step x).2) where
  accounts := by
    rw [he, relayed, List.filterMap_append, ← relayed, ← relayed, hr, List.append_nil]
    exact h.accounts
  alive := he ▸ h.alive
  bus := by rw [offeredBy_append, h.bus, hb, he, List.append_nil]
  clients name := by
    rw [offeredBy_append, h.clients, hc, readFrom, readFrom, readFrom, List.filterMap_append]

theorem offeredBy_of_none (source : Source) (h : offered es = []) : offeredBy source es = [] := by
  rw [offeredBy, h, List.filterMap_nil]

theorem Hears.relay (h : Hears uid steps s es) (m : Message) :
    Hears uid (steps ++ [.relay m]) { s with endpoint := s.endpoint.deliver m } es where
  accounts := by
    rw [relayed, List.filterMap_append, ← relayed,
      show [Step.relay m].filterMap _ = [m] from rfl, Endpoint.filterMap_addressed?_concat]
    exact h.accounts.deliver m
  alive := by
    obtain ⟨n, hA⟩ := h.alive
    exact ⟨n + 1, hA.deliver m⟩
  bus := h.bus
  clients name := by
    rw [h.clients, readFrom, readFrom, List.filterMap_append]
    exact (List.append_nil _).symm

theorem Hears.handle (h : Hears uid steps s es) :
    Hears uid (steps ++ [.handle]) s.handle.1 (es ++ s.handle.2) := by
  obtain ⟨f, hf, hs⟩ := s.handle_eq
  obtain ⟨n, hA⟩ := h.alive
  have he : s.handle.1.endpoint = s.endpoint.work.1 := by
    rw [hs]
    cases f <;> rfl
  have ho : offered s.handle.2 = f.toList.map fun f => (⟨.bus, f.payload⟩ : Offer) := by
    rw [hs]
    cases f with
    | none => rfl
    | some f => exact s.gateway.offered_offer _
  refine ⟨?_, ⟨n, ?_⟩, ?_, fun name => ?_⟩
  · rw [he, relayed, List.filterMap_append, ← relayed]
    exact (List.append_nil (relayed steps)).symm ▸ h.accounts.goOn false
  · rw [he]
    exact hA.goOn (fun _ _ => rfl) false
  · rw [offeredBy_append, h.bus, he, hf, List.map_append, offeredBy, ho]
    cases f <;> rfl
  · rw [offeredBy_append, h.clients, offeredBy, ho, readFrom, readFrom, List.filterMap_append]
    cases f <;> rfl

theorem Hears.read (h : Hears uid steps s es) (who : String) (chunk : Bytes) :
    Hears uid (steps ++ [.read who chunk]) (s.step (.read who chunk)).1
      (es ++ (s.step (.read who chunk)).2) := by
  have ho (source : Source) : offeredBy source (s.step (.read who chunk)).2 =
      if .client who = source then [chunk] else [] := by
    rw [offeredBy, show offered (s.step (.read who chunk)).2 = [⟨.client who, chunk⟩] from
      s.gateway.offered_offer _]
    by_cases hs : .client who = source <;> simp [hs]
  refine h.skip rfl rfl (by rw [ho]; exact if_neg (by simp)) fun name => ?_
  rw [ho]
  by_cases hn : who = name <;> simp [readFrom, hn]

/-- **What the bus and the clients bring** is offered in every step. -/
theorem Hears.step (h : Hears uid steps s es) (x : Step) :
    Hears uid (steps ++ [x]) (s.step x).1 (es ++ (s.step x).2) := by
  cases x with
  | relay m =>
    rw [show (s.step (.relay m)).2 = [] from rfl, List.append_nil]
    exact h.relay m
  | handle => exact h.handle
  | read who chunk => exact h.read who chunk
  | enter | leave | shutDown => exact h.skip rfl rfl rfl fun _ => rfl
  | take name =>
    have ho := s.gateway.offered_take name
    exact h.skip rfl rfl (offeredBy_of_none _ ho) fun _ => offeredBy_of_none _ ho
  | work =>
    have ho := s.gateway.offered_work
    exact h.skip rfl rfl (offeredBy_of_none _ ho) fun _ => offeredBy_of_none _ ho

theorem create_ok {bus : Addresses} (south : Url.connect bus.south = .ok ())
    (north : Url.connect bus.north = .ok ()) (uid : String) (capacity fanout : Nat)
    (t : Transform σ) (s₀ : σ) :
    ∃ s, create uid bus capacity fanout t s₀ = .ok s ∧ Hears uid [] s [] ∧
      s.gateway = (TcpGateway.create uid capacity fanout t s₀).start := by
  obtain ⟨e, he⟩ := Endpoint.create_ok south north uid .record
  obtain ⟨accounts, alive, handled⟩ := Endpoint.listen_create (fun _ _ => rfl) he
  refine ⟨⟨(TcpGateway.create uid capacity fanout t s₀).start, (e.listen true).2.1⟩, ?_,
    ⟨accounts, ⟨0, alive⟩, ?_, fun _ => rfl⟩, rfl⟩
  · rw [create, he]
    rfl
  · show [] = (e.listen true).2.1.handled.map Frame.payload
    rw [handled, List.map_nil]

theorem Hears.run (h : Hears uid [] s []) (steps : List Step) :
    Hears uid steps (s.run steps).1 (s.run steps).2 :=
  runSteps_induction Server.step (fun steps s es => Hears uid steps s es)
    (fun _ _ _ h x => h.step x) s h steps

end Fieldbus.Server
