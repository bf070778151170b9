import Fieldbus.Gateway.Tcp
import Fieldbus.Proofs.Flow.Fanout

/-!
# The ledger of the gateway for clients

Payloads of both directions wait in one queue for one worker and one transform. What was staged is
always, in the order in which it was staged, what was treated, what was thrown away at the end, and
what is still kept; and what goes to the bus and to the clients is what the transform let through.

* `TcpGateway.accepted`, `TcpGateway.treated`, …: what happened, by kind.
* `TcpGateway.treatAll`: a transform is applied to payloads in turn.
* `TcpGateway.Moves`: what whatever is done with the gateway keeps in balance.
* `TcpGateway.Serves`: what it is for one client.
-/

namespace Fieldbus.TcpGateway

variable {σ : Type}

/-! ## What happened -/

/-- The payloads that were offered. -/
def offered (es : List Effect) : List Offer :=
  es.filterMap fun
    | .accepted o | .rejected o => some o
    | _ => none

/-- The payloads that a source offered. -/
def offeredBy (source : Source) (es : List Effect) : List Bytes :=
  (offered es).filterMap fun o => if o.source = source then some o.payload else none

/-- The payloads that were staged. -/
def accepted (es : List Effect) : List Offer :=
  es.filterMap fun
    | .accepted o => some o
    | _ => none

/-- The payloads that were put through the transform, with what became of them. -/
def treated (es : List Effect) : List (Staged × Verdict) :=
  es.filterMap fun
    | .transformed s v => some (s, v)
    | _ => none

/-- The payloads that were thrown away. -/
def discarded (es : List Effect) : List Staged :=
  es.flatMap fun
    | .discarded items => items
    | _ => []

/-- The payloads that went to the clients. -/
def broadcasts (es : List Effect) : List Bytes :=
  es.filterMap fun
    | .broadcast payload => some payload
    | _ => none

/-- What a client took. -/
def takenBy (name : String) (es : List Effect) : List (Taken Bytes) :=
  es.filterMap fun
    | .took who what => if who = name then some what else none
    | _ => none

section

variable (name : String) (source : Source) (es es' : List Effect)

@[simp] theorem accepted_append : accepted (es ++ es') = accepted es ++ accepted es' :=
  List.filterMap_append

@[simp] theorem treated_append : treated (es ++ es') = treated es ++ treated es' :=
  List.filterMap_append

@[simp] theorem discarded_append : discarded (es ++ es') = discarded es ++ discarded es' :=
  List.flatMap_append

@[simp] theorem frames_append : frames (es ++ es') = frames es ++ frames es' :=
  List.filterMap_append

@[simp] theorem broadcasts_append : broadcasts (es ++ es') = broadcasts es ++ broadcasts es' :=
  List.filterMap_append

@[simp] theorem takenBy_append : takenBy name (es ++ es') = takenBy name es ++ takenBy name es' :=
  List.filterMap_append

@[simp] theorem offeredBy_append :
    offeredBy source (es ++ es') = offeredBy source es ++ offeredBy source es' := by
  simp only [offeredBy, offered, List.filterMap_append]

end

/-! ## What the transform lets through -/

/-- What a treated payload brings to the bus, for the gateway of an id. -/
def toBus? (uid : String) : Staged × Verdict → Option Frame
  | (⟨.south, _⟩, .forward payload) =>
    if payload = [] then none else some ⟨utf8 (uid ++ "_north_topic"), payload⟩
  | _ => none

/-- What a treated payload brings to the clients. -/
def toClients? : Staged × Verdict → Option Bytes
  | (⟨.north, _⟩, .forward payload) => some payload
  | _ => none

/-- A transform is applied to payloads, one after the other, and hands its state on. -/
def treatAll (t : Transform σ) : σ → List Staged → σ × List (Staged × Verdict) :=
  runSteps fun s i =>
    ((t.apply i.direction i.payload s).2, [(i, (t.apply i.direction i.payload s).1)])

theorem outgoing_eq_toBus? (uid : String) (b payload : Bytes) :
    (Frame.outgoing uid payload).toOption = toBus? uid (⟨.south, b⟩, .forward payload) := by
  cases payload with
  | nil => rfl
  | cons x xs => rfl

/-! ## The balance -/

/-- The payload that the worker has taken. -/
def held? (g : TcpGateway σ) : Option Staged :=
  match g.worker with
  | some (.holding s) => some s
  | _ => none

/-- The payloads that were staged and not yet dealt with. -/
def kept (g : TcpGateway σ) : List Staged := g.held?.toList ++ g.queue.toList

/-- How a gateway was set up. -/
structure Setting (σ : Type) where
  /-- The id of its endpoint. -/
  uid : String
  /-- The transform. -/
  transform : Transform σ
  /-- How many payloads may be staged. -/
  room : Option Nat
  /-- How many payloads are kept for a client. -/
  fanout : Nat

/-- How the gateway was set up. -/
def setting (g : TcpGateway σ) : Setting σ :=
  ⟨g.uid, g.transform, g.queue.capacity, g.clients.capacity⟩

/-- What whatever is done with the gateway keeps in balance. -/
structure Moves (g g' : TcpGateway σ) (es : List Effect) : Prop where
  /-- The gateway is set up as it was. -/
  setting : g'.setting = g.setting
  /-- What was there and came in is what was treated, what was thrown away, and what is there. -/
  balance : g.kept ++ (accepted es).map Offer.staged =
    (treated es).map Prod.fst ++ discarded es ++ g'.kept
  /-- Every payload was treated once, in turn. -/
  inTurn : treatAll g.transform g.state ((treated es).map Prod.fst) = (g'.state, treated es)
  /-- What went to the bus is what the transform let through. -/
  south : frames es = (treated es).filterMap (toBus? g.uid)
  /-- What went to the clients is what the transform let through. -/
  north : broadcasts es = (treated es).filterMap toClients?
  /-- A worker that has ended deals with nothing. -/
  ended : g.worker = some .ended → g'.worker = some .ended ∧ treated es = [] ∧ discarded es = []
  /-- A worker throws away only at its end. -/
  atEnd : g'.worker = some .ended ∨ discarded es = []

theorem Moves.refl (g : TcpGateway σ) : Moves g g [] where
  setting := rfl
  balance := List.append_nil _
  inTurn := rfl
  south := rfl
  north := rfl
  ended h := ⟨h, rfl, rfl⟩
  atEnd := Or.inr rfl

variable {g g' g'' : TcpGateway σ} {es es' : List Effect}

theorem Moves.uid (h : Moves g g' es) : g'.uid = g.uid := congrArg Setting.uid h.setting

theorem Moves.transform (h : Moves g g' es) : g'.transform = g.transform :=
  congrArg Setting.transform h.setting

theorem Moves.fanout (h : Moves g g' es) : g'.clients.capacity = g.clients.capacity :=
  congrArg Setting.fanout h.setting

theorem Moves.trans (h : Moves g g' es) (h' : Moves g' g'' es') : Moves g g'' (es ++ es') where
  setting := h'.setting.trans h.setting
  balance := by
    -- nothing is treated after something was thrown away
    have hd : discarded es ++ (treated es').map Prod.fst =
        (treated es').map Prod.fst ++ discarded es := by
      rcases h.atEnd with hw | hd
      · rw [(h'.ended hw).2.1, List.map_nil, List.append_nil, List.nil_append]
      · rw [hd, List.append_nil, List.nil_append]
    calc g.kept ++ (accepted (es ++ es')).map Offer.staged
        = (treated es).map Prod.fst ++ discarded es ++
            (g'.kept ++ (accepted es').map Offer.staged) := by
          rw [accepted_append, List.map_append, ← List.append_assoc, h.balance, List.append_assoc]
      _ = (treated es).map Prod.fst ++ (discarded es ++ (treated es').map Prod.fst) ++
            discarded es' ++ g''.kept := by
          rw [h'.balance]
          simp only [List.append_assoc]
      _ = (treated (es ++ es')).map Prod.fst ++ discarded (es ++ es') ++ g''.kept := by
          rw [hd, treated_append, discarded_append, List.map_append]
          simp only [List.append_assoc]
  inTurn := by
    have h₂ := h'.inTurn
    rw [h.transform] at h₂
    rw [treated_append, List.map_append, treatAll, runSteps_append, ← treatAll, h.inTurn, h₂]
  south := by
    rw [frames_append, h.south, h'.south, h.uid, treated_append, List.filterMap_append]
  north := by
    rw [broadcasts_append, h.north, h'.north, treated_append, List.filterMap_append]
  ended hw := by
    obtain ⟨hw₁, ht, hd⟩ := h.ended hw
    obtain ⟨hw₂, ht', hd'⟩ := h'.ended hw₁
    exact ⟨hw₂, by rw [treated_append, ht, ht', List.nil_append],
      by rw [discarded_append, hd, hd', List.nil_append]⟩
  atEnd := by
    rcases h.atEnd with hw | hd
    · exact Or.inl (h'.ended hw).1
    · rcases h'.atEnd with hw' | hd'
      · exact Or.inl hw'
      · exact Or.inr (by rw [discarded_append, hd, hd', List.nil_append])

theorem Moves.of_idle (setting : g'.setting = g.setting) (state : g'.state = g.state)
    (kept : g'.kept = g.kept) (ended : g.worker = some .ended → g'.worker = some .ended)
    (accepts : accepted es = []) (treats : treated es = []) (discards : discarded es = [])
    (south : frames es = []) (north : broadcasts es = []) : Moves g g' es where
  setting := setting
  balance := by
    rw [accepts, treats, discards, kept]
    exact List.append_nil _
  inTurn := by
    rw [treats, state]
    rfl
  south := by rw [south, treats, List.filterMap_nil]
  north := by rw [north, treats, List.filterMap_nil]
  ended hw := ⟨ended hw, treats, discards⟩
  atEnd := Or.inr discards

/-! ## What is done with the gateway -/

variable (g)

theorem offer_eq (o : Offer) :
    g.offer o =
      if g.queue.isFull then (g, [.rejected o])
      else ({ g with queue := { g.queue with toList := g.queue.toList ++ [o.staged] } },
        [.accepted o]) := by
  unfold offer stage Queue.push
  by_cases h : g.queue.isFull <;> simp [h]

theorem moves_offer (o : Offer) : Moves g (g.offer o).1 (g.offer o).2 := by
  rw [offer_eq]
  split
  · exact .of_idle rfl rfl rfl id rfl rfl rfl rfl rfl
  · exact
      { setting := rfl
        balance := List.append_assoc _ _ _
        inTurn := rfl
        south := rfl
        north := rfl
        ended := fun hw => ⟨hw, rfl, rfl⟩
        atEnd := Or.inr rfl }

theorem moves_enter (name : String) : Moves g (g.enter name) [] :=
  .of_idle rfl rfl rfl id rfl rfl rfl rfl rfl

theorem moves_leave (name : String) : Moves g (g.leave name) [] :=
  .of_idle rfl rfl rfl id rfl rfl rfl rfl rfl

theorem moves_shutDown : Moves g g.shutDown [] :=
  .of_idle rfl rfl rfl id rfl rfl rfl rfl rfl

theorem take_eq (name : String) :
    g.take name = ({ g with clients := (g.clients.take name).2 },
      (g.clients.take name).1.toList.map (.took name)) := rfl

theorem moves_take (name : String) : Moves g (g.take name).1 (g.take name).2 := by
  rw [take_eq]
  cases (g.clients.take name).1 with
  | none => exact .of_idle rfl rfl rfl id rfl rfl rfl rfl rfl
  | some what => exact .of_idle rfl rfl rfl id rfl rfl rfl rfl rfl

/-- What comes of a payload that was treated. -/
def outcome (uid : String) (x : Staged × Verdict) : List Effect :=
  .transformed x.1 x.2 ::
    ((toBus? uid x).toList.map .published ++ (toClients? x).toList.map .broadcast)

section

variable (uid : String) (x : Staged × Verdict)

theorem accepted_outcome : accepted (outcome uid x) = [] := by
  unfold outcome
  cases toBus? uid x <;> cases toClients? x <;> rfl

theorem treated_outcome : treated (outcome uid x) = [x] := by
  unfold outcome
  cases toBus? uid x <;> cases toClients? x <;> rfl

theorem discarded_outcome : discarded (outcome uid x) = [] := by
  unfold outcome
  cases toBus? uid x <;> cases toClients? x <;> rfl

theorem frames_outcome : frames (outcome uid x) = (toBus? uid x).toList := by
  unfold outcome
  cases toBus? uid x <;> cases toClients? x <;> rfl

theorem broadcasts_outcome : broadcasts (outcome uid x) = (toClients? x).toList := by
  unfold outcome
  cases toBus? uid x <;> cases toClients? x <;> rfl

theorem takenBy_outcome (name : String) : takenBy name (outcome uid x) = [] := by
  unfold outcome
  cases toBus? uid x <;> cases toClients? x <;> rfl

end

/-- What comes of a payload: the transform has another state, and what it let through goes on. -/
theorem process_eq (s : Staged) :
    g.process s =
      ({ g with
          state := (g.transform.apply s.direction s.payload g.state).2
          clients := ((toClients? (s, (g.transform.apply s.direction s.payload g.state).1)).map
            g.clients.send).getD g.clients },
        outcome g.uid (s, (g.transform.apply s.direction s.payload g.state).1)) := by
  obtain ⟨d, b⟩ := s
  unfold process outcome
  dsimp only
  cases (g.transform.apply d b g.state).1 with
  | drop cause => cases d <;> rfl
  | forward payload =>
    cases d with
    | north => rfl
    | south =>
      simp only [Verdict.payload?, dispatch, outgoing_eq_toBus? g.uid b payload, toClients?,
        Option.map_none, Option.getD_none, Option.toList_none, List.map_nil, List.append_nil]

/-- **A payload in the hands of the worker** is treated, once. -/
theorem moves_process {s : Staged} (hw : g.worker = some (.holding s)) :
    Moves g ({ g with worker := some .looking }.process s).1
      ({ g with worker := some .looking }.process s).2 := by
  rw [process_eq]
  exact
    { setting := by
        cases toClients? _ <;> rfl
      balance := by
        rw [accepted_outcome, treated_outcome, discarded_outcome, kept, held?, hw, List.map_nil,
          List.append_nil]
        rfl
      inTurn := by
        rw [treated_outcome]
        rfl
      south := by
        rw [frames_outcome, treated_outcome]
        cases h : toBus? g.uid _ <;> simp [h]
      north := by
        rw [broadcasts_outcome, treated_outcome]
        cases h : toClients? _ <;> simp [h]
      ended := fun he => absurd (hw.symm.trans he) (by simp)
      atEnd := Or.inr (discarded_outcome _ _) }

theorem work_of_idle (hw : g.worker = none ∨ g.worker = some .ended) : g.work = (g, []) := by
  rcases hw with hw | hw <;> simp only [work, hw]

theorem work_of_looking (hw : g.worker = some .looking) :
    g.work = ({ g with worker := some (if g.running then .taking else .clearing) }, []) := by
  simp only [work, hw]

theorem work_of_taking (hw : g.worker = some .taking) :
    g.work = ({ g with
      queue := g.queue.pop.2
      worker := some ((g.queue.pop.1.map Phase.holding).getD .looking) }, []) := by
  simp only [work, hw]

theorem work_of_holding {s : Staged} (hw : g.worker = some (.holding s)) :
    g.work = { g with worker := some .looking }.process s := by
  simp only [work, hw]

theorem work_of_clearing (hw : g.worker = some .clearing) :
    g.work = ({ g with queue := g.queue.clear.2, worker := some .ended },
      [.discarded g.queue.toList]) := by
  simp only [work, hw]

/-- **A step of the worker** looks at the flag, takes a payload, treats it, or throws away all that
is left. -/
theorem moves_work : Moves g g.work.1 g.work.2 := by
  cases hw : g.worker with
  | none =>
    rw [work_of_idle g (Or.inl hw)]
    exact .refl g
  | some phase =>
    cases phase with
    | ended =>
      rw [work_of_idle g (Or.inr hw)]
      exact .refl g
    | looking =>
      rw [work_of_looking g hw]
      refine .of_idle rfl rfl ?_ (fun he => absurd (hw.symm.trans he) (by simp))
        rfl rfl rfl rfl rfl
      rw [kept, held?, kept, held?, hw]
      cases g.running <;> rfl
    | taking =>
      rw [work_of_taking g hw]
      have hc : g.queue.pop.2.capacity = g.queue.capacity := by
        unfold Queue.pop
        split <;> rfl
      refine .of_idle (by rw [setting, hc]; rfl) rfl ?_
        (fun he => absurd (hw.symm.trans he) (by simp)) rfl rfl rfl rfl rfl
      have hq := g.queue.toList_pop
      rw [kept, held?, kept, held?, hw]
      cases hp : g.queue.pop.1 with
      | none =>
        rw [hp] at hq
        exact hq
      | some s =>
        rw [hp] at hq
        exact hq
    | holding s =>
      rw [work_of_holding g hw]
      exact g.moves_process hw
    | clearing =>
      rw [work_of_clearing g hw]
      exact
        { setting := rfl
          balance := by
            rw [kept, held?, hw]
            simp [kept, held?, accepted, treated, discarded]
          inTurn := rfl
          south := rfl
          north := rfl
          ended := fun he => absurd (hw.symm.trans he) (by simp)
          atEnd := Or.inl rfl }

/-! ## What was offered -/

theorem offered_offer (o : Offer) : offered (g.offer o).2 = [o] := by
  rw [offer_eq]
  split <;> rfl

theorem offered_take (name : String) : offered (g.take name).2 = [] := by
  rw [take_eq]
  cases (g.clients.take name).1 <;> rfl

theorem offered_outcome (uid : String) (x : Staged × Verdict) : offered (outcome uid x) = [] := by
  unfold outcome
  cases toBus? uid x <;> cases toClients? x <;> rfl

theorem offered_work : offered g.work.2 = [] := by
  unfold work
  split
  · rfl
  · rfl
  · rw [process_eq, offered_outcome]
  · rfl
  · rfl
  · rfl

theorem mem_offered {o : Offer} (h : .accepted o ∈ es ∨ .rejected o ∈ es) : o ∈ offered es := by
  rcases h with h | h <;> exact List.mem_filterMap.mpr ⟨_, h, rfl⟩

theorem mem_accepted {o : Offer} : o ∈ accepted es ↔ .accepted o ∈ es := by
  refine ⟨fun h => ?_, fun h => List.mem_filterMap.mpr ⟨_, h, rfl⟩⟩
  obtain ⟨e, he, ho⟩ := List.mem_filterMap.mp h
  cases e <;> simp_all

/-- **What is rejected** changes nothing: the queue was full. -/
theorem rejected_offer {o o' : Offer} (h : .rejected o' ∈ (g.offer o).2) :
    g.queue.isFull = true ∧ g.offer o = (g, [.rejected o']) := by
  rw [offer_eq] at h ⊢
  split at h
  · next hf =>
    obtain rfl : o' = o := by simpa using h
    exact ⟨hf, if_pos hf⟩
  · exact absurd h (by simp)

theorem accepted_offer {o o' : Offer} (h : .accepted o' ∈ (g.offer o).2) :
    g.queue.isFull = false ∧ (g.offer o).1.queue.toList = g.queue.toList ++ [o'.staged] := by
  rw [offer_eq] at h ⊢
  split at h
  · exact absurd h (by simp)
  · next hf =>
    obtain rfl : o' = o := by simpa using h
    rw [if_neg hf]
    exact ⟨Bool.eq_false_iff.mpr hf, rfl⟩

/-! ## One client -/

/-- What whatever is done with the gateway is for a client: it stays, and its account goes on. -/
structure Serves (name : String) (g g' : TcpGateway σ) (es : List Effect) : Prop extends
    Moves g g' es where
  /-- What went to the clients and what the client took belong to its account. -/
  account : ∀ c, g.clients.receiver? name = some c → ∃ c', g'.clients.receiver? name = some c' ∧
    ∀ sent taken, c.Account g.clients.capacity sent taken →
      c'.Account g.clients.capacity (sent ++ broadcasts es) (taken ++ takenBy name es)

variable {g} {name who : String}

theorem Serves.of_same (moves : Moves g g' es)
    (same : g'.clients.receiver? name = g.clients.receiver? name) (sent : broadcasts es = [])
    (takes : takenBy name es = []) : Serves name g g' es where
  toMoves := moves
  account c hc := ⟨c, same.trans hc, fun _ _ h => by
    rw [sent, takes, List.append_nil, List.append_nil]
    exact h⟩

theorem Serves.refl (g : TcpGateway σ) : Serves name g g [] :=
  .of_same (.refl g) rfl rfl rfl

theorem Serves.trans (h : Serves name g g' es) (h' : Serves name g' g'' es') :
    Serves name g g'' (es ++ es') where
  toMoves := h.toMoves.trans h'.toMoves
  account c hc := by
    obtain ⟨c', hc', ha⟩ := h.account c hc
    obtain ⟨c'', hc'', ha'⟩ := h'.account c' hc'
    rw [h.fanout] at ha'
    refine ⟨c'', hc'', fun sent taken hs => ?_⟩
    rw [broadcasts_append, takenBy_append, ← List.append_assoc, ← List.append_assoc]
    exact ha' _ _ (ha _ _ hs)

variable (g)

theorem serves_offer (o : Offer) : Serves name g (g.offer o).1 (g.offer o).2 := by
  refine .of_same (g.moves_offer o) ?_ ?_ ?_
  all_goals
    rw [offer_eq]
    split <;> rfl

theorem serves_enter (h : who ≠ name) : Serves name g (g.enter who) [] :=
  .of_same (g.moves_enter who) (g.clients.receiver?_enter_ne h) rfl rfl

theorem serves_leave (h : who ≠ name) : Serves name g (g.leave who) [] :=
  .of_same (g.moves_leave who) (g.clients.receiver?_leave_ne h) rfl rfl

theorem serves_shutDown : Serves name g g.shutDown [] :=
  .of_same g.moves_shutDown rfl rfl rfl

theorem takenBy_offer (o : Offer) : takenBy name (g.offer o).2 = [] := by
  rw [offer_eq]
  split <;> rfl

theorem takenBy_work : takenBy name g.work.2 = [] := by
  unfold work
  split
  · rfl
  · rfl
  · rw [process_eq, takenBy_outcome]
  · rfl
  · rfl
  · rfl

theorem takenBy_take_self {c : Receiver Bytes} (hc : g.clients.receiver? name = some c) :
    takenBy name (g.take name).2 = c.take.1.toList := by
  rw [take_eq, Fanout.take, hc, Option.bind_some]
  cases c.take.1 <;> simp [takenBy]

theorem takenBy_take_ne (h : who ≠ name) : takenBy name (g.take who).2 = [] := by
  rw [take_eq]
  cases (g.clients.take who).1 <;> simp [takenBy, h]

theorem broadcasts_take : broadcasts (g.take who).2 = [] := by
  rw [take_eq]
  cases (g.clients.take who).1 <;> rfl

theorem serves_take : Serves name g (g.take who).1 (g.take who).2 := by
  by_cases h : who = name
  · subst h
    refine ⟨g.moves_take who, fun c hc => ⟨c.take.2, g.clients.receiver?_take_self hc,
      fun sent taken ha => ?_⟩⟩
    rw [broadcasts_take, List.append_nil, takenBy_take_self g hc]
    exact ha.take
  · exact .of_same (g.moves_take who) (g.clients.receiver?_take_ne h) (broadcasts_take g)
      (takenBy_take_ne g h)

/-- A step of the worker that sends nothing to the clients leaves them alone; one that does sends it
to each of them. -/
theorem serves_work : Serves name g g.work.1 g.work.2 := by
  have moves := g.moves_work
  cases hw : g.worker with
  | none =>
    rw [work_of_idle g (Or.inl hw)]
    exact .refl g
  | some phase =>
    cases phase with
    | ended =>
      rw [work_of_idle g (Or.inr hw)]
      exact .refl g
    | looking =>
      rw [work_of_looking g hw] at moves ⊢
      exact .of_same moves rfl rfl rfl
    | taking =>
      rw [work_of_taking g hw] at moves ⊢
      exact .of_same moves rfl rfl rfl
    | clearing =>
      rw [work_of_clearing g hw] at moves ⊢
      exact .of_same moves rfl rfl rfl
    | holding s =>
      rw [work_of_holding g hw, process_eq] at moves ⊢
      cases hp : toClients? (s, (g.transform.apply s.direction s.payload g.state).1) with
      | none =>
        rw [hp] at moves
        refine .of_same moves rfl ?_ (takenBy_outcome _ _ _)
        rw [broadcasts_outcome, hp]
        rfl
      | some payload =>
        rw [hp] at moves
        refine ⟨moves, fun c hc => ⟨c.put g.clients.capacity payload, ?_, fun sent taken ha => ?_⟩⟩
        · show (g.clients.send payload).receiver? name = _
          rw [Fanout.receiver?_send, hc, Option.map_some]
        · rw [broadcasts_outcome, hp, takenBy_outcome, List.append_nil]
          exact ha.put payload

end Fieldbus.TcpGateway
