import Fieldbus.Proofs.Gateway.Progress
import Fieldbus.Proofs.Gateway.Server
import Mathlib.Data.List.Induction
import Mathlib.Data.List.Infix

/-!
# The gateway for clients, end to end

Whatever clients, the bus and the two workers do, and in whatever order, every payload that was
staged is put through the transform once and in turn, or is thrown away at the end. A client gets
what goes to the clients while it is there, as long as it keeps up.

* `Server.keeps_up`, `Server.takes_all`: what a client that keeps up gets.
* `Server.manned_run`, `Server.exists_treats`: the worker is there, and gets on.
* **`Server.serves_in_order`**: what the bus and the clients bring, and what they get.
* `Server.lagging_client_misses`: a client that does not keep up.
-/

namespace Fieldbus.Server

open TcpGateway

variable {σ : Type} {s : Server σ}

/-! ## A client that keeps up -/

theorem missed_notMem_step {name : String} {c : Receiver Bytes}
    (hc : s.gateway.clients.receiver? name = some c) (hm : c.missed = 0) (x : Step) (n : Nat) :
    .missed n ∉ takenBy name (s.step x).2 := by
  have silent {ts : List (Taken Bytes)} (h : ts = []) : .missed n ∉ ts := by
    rw [h]
    exact List.not_mem_nil
  cases x with
  | relay | enter | leave | shutDown => exact silent rfl
  | handle =>
    obtain ⟨f, -, hf⟩ := s.handle_eq
    rw [Server.step, hf]
    cases f with
    | none => exact silent rfl
    | some f => exact silent (s.gateway.takenBy_offer _)
  | read who chunk => exact silent (s.gateway.takenBy_offer _)
  | work => exact silent s.gateway.takenBy_work
  | take who =>
    by_cases h : who = name
    · subst h
      rw [show takenBy who (s.step (.take who)).2 = _ from s.gateway.takenBy_take_self hc]
      exact c.missed_notMem_take hm n
    · exact silent (s.gateway.takenBy_take_ne h)

theorem account_run {name : String} {during : List Step} (he : .enter name ∉ during)
    (hl : .leave name ∉ during)
    (fresh : s.gateway.clients.receiver? name = some { name := name }) :
    ∃ c, (s.run during).1.gateway.clients.receiver? name = some c ∧
      c.Account s.gateway.clients.capacity (broadcasts (s.run during).2)
        (takenBy name (s.run during).2) := by
  obtain ⟨c, hc, ha⟩ := (s.serves_run he hl).account _ fresh
  exact ⟨c, hc, ha [] [] (Receiver.account_fresh _ name)⟩

/-- **A client that keeps up** is never told of a loss. -/
theorem keeps_up {name : String} {during : List Step} (he : .enter name ∉ during)
    (hl : .leave name ∉ during)
    (fresh : s.gateway.clients.receiver? name = some { name := name })
    (up : ∀ first, first <+: during → (broadcasts (s.run first).2).length ≤
      (takenBy name (s.run first).2).length + s.gateway.clients.capacity) :
    ∀ n, .missed n ∉ takenBy name (s.run during).2 := by
  induction during using List.reverseRecOn with
  | nil => exact fun n => List.not_mem_nil
  | append_singleton first x ih =>
    rw [List.mem_append, not_or] at he hl
    have before := ih he.1 hl.1 fun d hd => up d (hd.trans (List.prefix_append _ _))
    -- nothing is missing when the last step is made
    obtain ⟨c, hc, ha⟩ := account_run he.1 hl.1 fresh
    obtain ⟨hm, -⟩ := ha.eq_of_keeping_up before (up first (List.prefix_append _ _))
    intro n hn
    rw [run, runSteps_append, takenBy_append, List.mem_append] at hn
    rcases hn with hn | hn
    · exact before n hn
    · rw [runSteps_cons, runSteps_nil, List.append_nil] at hn
      exact missed_notMem_step hc hm x n hn

/-- What waits for a client that has missed nothing is what it takes next. -/
theorem takes_all {name : String} {c : Receiver Bytes}
    (hc : s.gateway.clients.receiver? name = some c) (hm : c.missed = 0) :
    takenBy name (s.run (List.replicate c.waiting.length (.take name))).2 =
      c.waiting.map .item := by
  induction hw : c.waiting generalizing s c with
  | nil => rfl
  | cons a rest ih =>
    have ht : c.take = (some (.item a), { c with waiting := rest }) := by
      rw [Receiver.take, if_neg (by omega), hw]
    have hc' := s.gateway.clients.receiver?_take_self hc
    rw [ht] at hc'
    have later := ih (s := (s.step (.take name)).1) hc' hm rfl
    rw [List.length_cons, List.replicate_succ, run, runSteps_cons, takenBy_append, ← run, later,
      show takenBy name (s.step (.take name)).2 = _ from s.gateway.takenBy_take_self hc, ht]
    rfl

/-! ## The worker -/

theorem manned_start (uid : String) (capacity fanout : Nat) (t : Transform σ) (s₀ : σ) :
    Manned (TcpGateway.create uid capacity fanout t s₀).start :=
  ⟨by simp [start, TcpGateway.create], fun _ => by simp [start, TcpGateway.create]⟩

theorem manned_offer {g : TcpGateway σ} (h : Manned g) (o : Offer) : Manned (g.offer o).1 := by
  rw [offer_eq]
  split
  · exact h
  · exact ⟨h.started, h.going⟩

/-- The worker is there in every run. -/
theorem manned_run (s : Server σ) (h : Manned s.gateway) (steps : List Step) :
    Manned (s.run steps).1.gateway := by
  refine runSteps_invariant step (fun s => Manned s.gateway) (fun s x h => ?_) s steps h
  cases x with
  | relay m => exact h
  | handle =>
    obtain ⟨f, -, hf⟩ := s.handle_eq
    rw [step, hf]
    cases f with
    | none => exact h
    | some f => exact manned_offer h _
  | enter | leave | take => exact ⟨h.started, h.going⟩
  | read => exact manned_offer h _
  | work => exact h.next
  | shutDown => exact ⟨h.started, fun hr => absurd hr (by simp [step, onGateway, shutDown])⟩

theorem gateway_run_work (s : Server σ) (n : Nat) :
    (s.run (List.replicate n .work)).1.gateway = next^[n] s.gateway := by
  induction n generalizing s with
  | zero => rfl
  | succ n ih =>
    rw [List.replicate_succ, run, runSteps_cons, ← run, ih, Function.iterate_succ_apply]
    rfl

theorem accepted_run_work (s : Server σ) (n : Nat) :
    accepted (s.run (List.replicate n .work)).2 = [] := by
  induction n generalizing s with
  | zero => rfl
  | succ n ih =>
    rw [List.replicate_succ, run, runSteps_cons, ← run, accepted_append, ih, List.append_nil]
    refine List.eq_nil_iff_forall_not_mem.mpr fun o ho => ?_
    have := mem_offered (Or.inl (mem_accepted.mp ho))
    rw [show offered (s.step .work).2 = [] from s.gateway.offered_work] at this
    exact absurd this List.not_mem_nil

section

variable {g₀ : TcpGateway σ} {es : List Effect} (moves : Moves g₀ s.gateway es)
  (empty : g₀.kept = [])

include moves empty

theorem accepted_eq : (accepted es).map Offer.staged =
    (treated es).map Prod.fst ++ discarded es ++ s.gateway.kept := by
  rw [← moves.balance, empty, List.nil_append]

/-- Left alone, a worker that should go on treats all that was staged. -/
theorem exists_treats (manned : Manned s.gateway) (going : s.gateway.running = true) :
    ∃ n, (accepted es).map Offer.staged =
      (treated (es ++ (s.run (List.replicate n .work)).2)).map Prod.fst := by
  obtain ⟨n, hk, he⟩ := manned.treats_all going
  refine ⟨n, ?_⟩
  have all := moves.trans (s.moves_run (List.replicate n .work))
  rw [← gateway_run_work] at hk he
  have balance := accepted_eq all empty
  rwa [accepted_append, s.accepted_run_work, List.append_nil, hk, all.atEnd.resolve_left he,
    List.append_nil, List.append_nil] at balance

/-- When the worker is about to end, what was staged and not treated is still in the queue. -/
theorem accepted_eq_of_clearing (clearing : s.gateway.worker = some .clearing) :
    (accepted es).map Offer.staged = (treated es).map Prod.fst ++ s.gateway.queue.toList := by
  rcases moves.atEnd with he | hd
  · exact absurd (clearing.symm.trans he) (by simp)
  · rw [accepted_eq moves empty, hd, List.append_nil, kept, held?, clearing]
    rfl

end

/-! ## The main statement -/

/-- **The gateway serves the bus and its clients in order.** Whatever happens after it was started:

* the frames that come for its endpoint, up to what waits there, and the chunks read from every
  client are offered in their order. What is offered when the queue is full is rejected and changes
  nothing; else it is staged.
* What was staged is, in the order in which it was staged, what was put through the transform, what
  was thrown away, and what the worker holds or the queue keeps. The transform was applied once to
  each, in turn, and handed its state on. What it let through is what went to the bus, without empty
  payloads, and what went to the clients.
* Left alone, the worker treats all that was staged while it should go on, and ends once it should
  not. It then throws away what is left, so that all that was staged before was either treated or
  thrown away.
* What a client took since it came, what it was told it missed, and what was lost or waits, are in
  order what went to the clients since. Something is lost only if as much waits for it as is kept. A
  client for which no more than that ever waits gets everything. -/
theorem serves_in_order {bus : Addresses} (reached : Url.connect bus.south = .ok () ∧
      Url.connect bus.north = .ok ()) (uid : String) (capacity fanout : Nat) (t : Transform σ)
    (s₀ : σ) :
    ∃ s, create uid bus capacity fanout t s₀ = .ok s ∧ ∀ steps,
      let r := s.run steps
      let g := r.1.gateway
      (∃ b, r.1.endpoint.custody.held? = some b ∧
        offeredBy .bus r.2 ++ (b.waiting.filterMap (Endpoint.addressed? uid)).map Frame.payload =
          ((relayed steps).filterMap (Endpoint.addressed? uid)).map Frame.payload) ∧
      (∀ name, offeredBy (.client name) r.2 = readFrom name steps) ∧
      (∀ x o, .rejected o ∈ (r.1.step x).2 → capacity ≤ g.queue.length ∧
        (r.1.step x).1.gateway = g ∧ (r.1.step x).2 = [.rejected o]) ∧
      (∀ x o, .accepted o ∈ (r.1.step x).2 → g.queue.length < capacity) ∧
      (accepted r.2).map Offer.staged = (treated r.2).map Prod.fst ++ discarded r.2 ++ g.kept ∧
      treatAll t s₀ ((treated r.2).map Prod.fst) = (g.state, treated r.2) ∧
      frames r.2 = (treated r.2).filterMap (toBus? uid) ∧
      broadcasts r.2 = (treated r.2).filterMap toClients? ∧
      (g.running = true → ∃ n, let e := r.1.run (List.replicate n .work)
        (accepted r.2).map Offer.staged = (treated (r.2 ++ e.2)).map Prod.fst) ∧
      (g.running = false → ∃ n, let e := r.1.run (List.replicate n .work)
        e.1.gateway.worker = some .ended) ∧
      (g.worker = some .clearing → (r.1.step .work).2 = [.discarded g.queue.toList] ∧
        (r.1.step .work).1.gateway.kept = [] ∧
        (accepted r.2).map Offer.staged = (treated r.2).map Prod.fst ++ g.queue.toList) ∧
      ∀ name during, .enter name ∉ during → .leave name ∉ during →
        let room := (max fanout 1).nextPowerOfTwo
        let m := (r.1.step (.enter name)).1.run
        broadcasts (m during).2 = (treated (m during).2).filterMap toClients? ∧
        ∃ c, (m during).1.gateway.clients.receiver? name = some c ∧
          c.Account room (broadcasts (m during).2) (takenBy name (m during).2) ∧
          ((∀ first, first <+: during → (broadcasts (m first).2).length ≤
              (takenBy name (m first).2).length + room) →
            (∃ payloads, takenBy name (m during).2 = payloads.map .item ∧
              payloads ++ c.waiting = broadcasts (m during).2) ∧
            takenBy name (m (during ++ List.replicate c.waiting.length (.take name))).2 =
              (broadcasts (m during).2).map .item) := by
  obtain ⟨s, hs, hears, hg⟩ := create_ok reached.1 reached.2 uid capacity fanout t s₀
  refine ⟨s, hs, fun steps => ?_⟩
  dsimp only
  have heard := hears.run steps
  have moves := s.moves_run steps
  have manned := s.manned_run (by rw [hg]; exact manned_start uid capacity fanout t s₀) steps
  generalize s.run steps = r at heard moves manned
  obtain ⟨r, es⟩ := r
  rw [hg] at moves
  -- a full queue, in numbers
  have full : r.gateway.queue.isFull = true ↔ capacity ≤ r.gateway.queue.length := by
    have : r.gateway.queue.capacity = some capacity := congrArg Setting.room moves.setting
    rw [Queue.isFull, this]
    exact decide_eq_true_iff
  refine ⟨?_, heard.clients, fun x o h => ?_, fun x o h => ?_, accepted_eq moves rfl,
    moves.inTurn, moves.south, moves.north, exists_treats moves rfl manned, fun hr => ?_,
    fun hw => ⟨?_, ?_, accepted_eq_of_clearing moves rfl hw⟩, fun name during he hl => ⟨?_, ?_⟩⟩
  · obtain ⟨n, alive⟩ := heard.alive
    obtain ⟨b, hb, -⟩ := alive.held
    refine ⟨b, hb, ?_⟩
    rw [heard.bus, ← List.map_append, heard.accounts.rest b hb]
  · obtain ⟨hf, hsame⟩ := r.rejected_step h
    exact ⟨full.mp hf, hsame⟩
  · rw [← Nat.not_le, ← full, (r.accepted_step h).1]
    exact Bool.false_ne_true
  · obtain ⟨n, hn⟩ := manned.ends hr
    exact ⟨n, by rw [gateway_run_work, hn]⟩
  · show (r.gateway.work).2 = _
    rw [work_of_clearing _ hw]
  · show (r.gateway.work).1.kept = _
    rw [work_of_clearing _ hw]
    rfl
  · exact ((r.step (.enter name)).1.moves_run during).north
  · have room : (r.step (.enter name)).1.gateway.clients.capacity =
        (max fanout 1).nextPowerOfTwo := moves.fanout
    have fresh : (r.step (.enter name)).1.gateway.clients.receiver? name =
        some { name := name } := r.gateway.clients.receiver?_enter_self
    obtain ⟨c, hc, ha⟩ := account_run he hl fresh
    rw [room] at ha
    refine ⟨c, hc, ha, fun up => ?_⟩
    have none := keeps_up he hl fresh fun d hd => by
      rw [room]
      exact up d hd
    obtain ⟨hm, payloads, ht, hp⟩ := ha.eq_of_keeping_up none (up during (List.prefix_refl _))
    refine ⟨⟨payloads, ht, hp⟩, ?_⟩
    rw [run, runSteps_append, takenBy_append, ← run, ht, ← hp, List.map_append]
    exact congrArg _ (takes_all hc hm)

/-- A client that comes after another has sent something, and keeps up; and a worker that is told to
end with something staged. -/
theorem serves_in_order_counting :
    let bus : Addresses := ⟨"ipc:///north", "ipc:///south"⟩
    let count : Callback Nat := fun b n =>
      (if b = [0] then .error .script else .ok (UInt8.ofNat n :: b), n + 1)
    let before : List Step := [.read "d" [5], .read "d" [0]]
    let during : List Step := [.relay [utf8 "A_south_topic", [7]], .handle, .handle] ++
      List.replicate 9 .work
    ∃ s, create "A" bus 3 1 ⟨"count", some count, some count⟩ 0 = .ok s ∧
      (let m := ((s.run before).1.step (.enter "c")).1.run
      takenBy "c" (m (during ++ [.take "c"])).2 = [.item [2, 7]]) ∧
      (accepted (s.run (before ++ [.shutDown, .work])).2).map Offer.staged =
        [⟨.south, [5]⟩, ⟨.south, [0]⟩] := by
  intro bus count before during
  have reached : Url.connect bus.south = .ok () ∧ Url.connect bus.north = .ok () :=
    ⟨by decide, by decide⟩
  obtain ⟨s, hs, all⟩ := serves_in_order reached "A" 3 1 ⟨"count", some count, some count⟩ 0
  -- what the client and the worker are seen to do
  have client : ((create "A" bus 3 1 ⟨"count", some count, some count⟩ 0).toOption.map fun s =>
      let m := ((s.run before).1.step (.enter "c")).1.run
      (broadcasts (m during).2, ((m during).1.gateway.clients.receiver? "c").map Receiver.waiting,
        during.inits.all fun first => (broadcasts (m first).2).length ≤
          (takenBy "c" (m first).2).length + (max 1 1).nextPowerOfTwo)) =
      some ([[2, 7]], some [[2, 7]], true) := by decide +kernel
  have worker : ((create "A" bus 3 1 ⟨"count", some count, some count⟩ 0).toOption.map fun s =>
      let r := s.run (before ++ [.shutDown, .work])
      (r.1.gateway.worker, (treated r.2).map Prod.fst, r.1.gateway.queue.toList)) =
      some (some .clearing, [], [⟨.south, [5]⟩, ⟨.south, [0]⟩]) := by decide +kernel
  rw [hs] at client worker
  obtain ⟨hsent, hrest⟩ := Prod.mk.inj (Option.some.inj client)
  obtain ⟨hwaits, hup⟩ := Prod.mk.inj hrest
  obtain ⟨hclearing, hrest⟩ := Prod.mk.inj (Option.some.inj worker)
  obtain ⟨htreated, hqueue⟩ := Prod.mk.inj hrest
  refine ⟨s, hs, ?_, ?_⟩
  · obtain ⟨-, -, -, -, -, -, -, -, -, -, -, clients⟩ := all before
    obtain ⟨-, c, hc, -, keeps⟩ := clients "c" during (by decide) (by decide)
    have gets := (keeps fun first hf => ?_).2
    · rw [hc] at hwaits
      rw [Option.some.inj hwaits, hsent] at gets
      exact gets
    · exact of_decide_eq_true (List.all_eq_true.mp hup first ((List.mem_inits first during).mpr hf))
  · obtain ⟨-, -, -, -, -, -, -, -, -, -, clears, -⟩ := all (before ++ [.shutDown, .work])
    have ends := (clears hclearing).2.2
    rw [htreated, hqueue] at ends
    exact ends

/-- **A client that does not keep up** misses payloads that go to the clients while it is there: of
two it takes the second, and learns that it missed one. -/
theorem lagging_client_misses :
    let bus : Addresses := ⟨"ipc:///north", "ipc:///south"⟩
    let during : List Step := [.relay [utf8 "G_south_topic", [0x61]],
      .relay [utf8 "G_south_topic", [0x62]]] ++ List.replicate 4 .handle ++
      List.replicate 6 .work ++ List.replicate 3 (.take "t")
    ∃ s, create "G" bus 4 1 Transform.passthrough () = .ok s ∧
      let m := (s.step (.enter "t")).1.run during
      broadcasts m.2 = [[0x61], [0x62]] ∧ takenBy "t" m.2 = [.missed 1, .item [0x62]] := by
  intro bus during
  have sees : ((create "G" bus 4 1 Transform.passthrough ()).toOption.map fun s =>
      let m := (s.step (.enter "t")).1.run during
      (broadcasts m.2, takenBy "t" m.2)) =
        some ([[0x61], [0x62]], [.missed 1, .item [0x62]]) := by decide +kernel
  have south : Url.connect bus.south = .ok () := by decide
  have north : Url.connect bus.north = .ok () := by decide
  obtain ⟨s, hs, -⟩ := create_ok south north "G" 4 1 Transform.passthrough ()
  rw [hs] at sees
  exact ⟨s, hs, Prod.mk.inj (Option.some.inj sees)⟩

end Fieldbus.Server
