import Fieldbus.Bus.Relay
import Mathlib.Data.List.Induction

/-!
# Forwarding by the relay

What comes to either side of the relay leaves it on the other side, part by part and in order. The
relay tries to send every message once. If the transport does not take it, this message is lost and
no other.

* `Side`, `arrived`, `sent`, `observed`: what can be seen of a run from outside.
* `tries`, `attempts`: the messages that the relay tried to send.
* `Accounts`: what was tried and what waits is what arrived.
* `Reports`: what can be seen of the attempts.
* **`forwards_exactly`**: the relay is transparent, and its counts are right.
-/

namespace Fieldbus

theorem runSteps_fst {σ ι ε δ : Type} (step : σ → ι → σ × List ε) (note : σ → ι → List δ) (s : σ)
    (is : List ι) :
    (runSteps (fun s i => ((step s i).1, note s i)) s is).1 = (runSteps step s is).1 := by
  induction is generalizing s with
  | nil => rfl
  | cons i is ih => exact ih _

namespace Relay

/-- The side to which a message goes. -/
inductive Side where
  /-- To the subscribers. -/
  | south
  /-- To the publishers. -/
  | north
  deriving DecidableEq, Repr

/-- The messages that wait to go to a side. -/
def Sockets.bound (s : Sockets) : Side → List Message
  | .south => s.data
  | .north => s.control

/-- Whether the transport takes what is sent to a side. -/
def Sending.takes (s : Sending) : Side → Bool
  | .south => s.south
  | .north => s.north

/-- The messages that arrive in order to go to a side. -/
def arrived (side : Side) (steps : List Step) : List Message :=
  steps.filterMap fun st => match side, st with
    | .south, .data m | .north, .control m => some m
    | _, _ => none

/-- The messages that were sent to a side. -/
def sent (side : Side) (es : List Effect) : List Message :=
  es.filterMap fun x => match side, x with
    | .south, .south m | .north, .north m => some m
    | _, _ => none

/-- The frames that the observer was shown. -/
def observed (es : List Effect) : List Frame :=
  es.filterMap fun x => match x with
    | .observed f => some f
    | .south _ | .north _ => none

/-- A message that the relay tried to send, and whether the transport took it. -/
structure Attempt where
  message : Message
  taken : Bool
  deriving DecidableEq, Repr

/-- What the transport takes during a step in which the worker may go on. -/
def Step.sending? : Step → Option Sending
  | .act (.work sending) | .act (.stop sending) => some sending
  | .act (.listen _) | .data _ | .control _ => none

/-- What a relay tries to send to a side in a step: the oldest message, if its worker is at work. -/
def tries (side : Side) (r : Relay) (st : Step) : List Attempt :=
  match r.custody.keeper, st.sending? with
  | some (.working s), some sending => ((s.bound side).head?.map (⟨·, sending.takes side⟩)).toList
  | _, _ => []

/-- What a relay tries to send to a side in a run. -/
def attempts (side : Side) (r : Relay) (steps : List Step) : List Attempt :=
  (runSteps (fun r st => ((r.step st).1, r.tries side st)) r steps).2

variable {r : Relay} {side : Side} {st : Step} {steps : List Step}

theorem attempts_concat :
    attempts side r (steps ++ [st]) = attempts side r steps ++ (r.run steps).1.tries side st := by
  simp only [attempts, run, runSteps_append, runSteps_fst, runSteps_cons, runSteps_nil,
    List.append_nil]

theorem arrived_concat : arrived side (steps ++ [st]) = arrived side steps ++ arrived side [st] :=
  List.filterMap_append

/-! ## What was tried and what waits -/

/-- The messages that the relay tried to send, and those that wait at its sockets, are those that
arrived. Without the sockets, which are lost when a worker cannot be started, the messages tried are
the first of them. -/
structure Accounts (come : Side → List Message) (tried : Side → List Attempt) (r : Relay) :
    Prop where
  apart : r.custody.Apart
  first : ∀ side, (tried side).map Attempt.message <+: come side
  rest : ∀ s, r.custody.held? = some s → ∀ side,
    (tried side).map Attempt.message ++ s.bound side = come side

variable {come : Side → List Message} {tried : Side → List Attempt}

theorem Accounts.of_held? (h : Accounts come tried r) {r' : Relay} (apart : r'.custody.Apart)
    (held : ∀ s, r'.custody.held? = some s → r.custody.held? = some s) : Accounts come tried r' :=
  ⟨apart, h.first, fun s hs => h.rest s (held s hs)⟩

theorem Accounts.look (h : Accounts come tried r) :
    Accounts come tried { r with custody := r.custody.look } :=
  h.of_held? h.apart.look fun s hs => by rwa [r.custody.held?_look] at hs

theorem Accounts.join (h : Accounts come tried r) :
    Accounts come tried { r with custody := r.custody.join } :=
  h.of_held? h.apart.join fun s hs => by rwa [r.custody.held?_join h.apart] at hs

theorem Accounts.listen (h : Accounts come tried r) (succeeds : Bool) :
    Accounts come tried (r.listen succeeds).2 := by
  have starts (succeeds : Bool) :
      Accounts come tried { r with custody := r.custody.start succeeds } :=
    h.of_held? (h.apart.start succeeds) fun _ => r.custody.held?_of_start h.apart succeeds
  unfold Relay.listen
  split
  · exact starts false
  · exact starts succeeds

theorem Accounts.arrive (h : Accounts come tried r) (f : Sockets → Sockets)
    (more : Side → List Message) (adds : ∀ s side, (f s).bound side = s.bound side ++ more side) :
    Accounts (fun side => come side ++ more side) tried
      { r with custody := r.custody.map f } where
  apart := h.apart.map f
  first side := (h.first side).trans (List.prefix_append _ _)
  rest s hs side := by
    rw [Custody.held?_map, Option.map_eq_some_iff] at hs
    obtain ⟨s₀, hs₀, rfl⟩ := hs
    rw [adds, ← List.append_assoc, h.rest s₀ hs₀ side]

theorem working_cases (r : Relay) :
    (∃ s, r.custody.keeper = some (.working s)) ∨ ∀ s, r.custody.keeper ≠ some (.working s) :=
  (Classical.em _).imp_right not_exists.mp

theorem work_of_working {s : Sockets} (hk : r.custody.keeper = some (.working s))
    (sending : Sending) :
    (r.work sending).1.custody =
      { r.custody with keeper := some (.looking ⟨s.data.tail, s.control.tail⟩) } := by
  obtain ⟨data, control⟩ := s
  simp only [work, hk]
  cases data <;> cases control <;> cases sending.south <;> cases sending.north <;> rfl

theorem work_of_not_working (hk : ∀ s, r.custody.keeper ≠ some (.working s)) (sending : Sending) :
    r.work sending = ({ r with custody := r.custody.look }, []) := by
  unfold work
  split
  · next s h => exact absurd h (hk s)
  · rfl

theorem tries_of_working {s : Sockets} (hk : r.custody.keeper = some (.working s))
    {sending : Sending} (hs : st.sending? = some sending) :
    r.tries side st = ((s.bound side).head?.map (⟨·, sending.takes side⟩)).toList := by
  rw [tries, hk, hs]

theorem tries_of_not_working (hk : ∀ s, r.custody.keeper ≠ some (.working s)) :
    r.tries side st = [] := by
  unfold tries
  split
  · next s _ h _ => exact absurd h (hk s)
  · rfl

theorem tries_of_idle (st : Step) (h : st.sending? = none) : r.tries side st = [] := by
  unfold tries
  split
  · next hs => exact absurd (h.symm.trans hs) (by simp)
  · rfl

theorem arrived_act (side : Side) (a : Action) : arrived side [.act a] = [] := by
  cases side <;> rfl

theorem Accounts.work (h : Accounts come tried r) (st : Step) {sending : Sending}
    (hs : st.sending? = some sending) :
    Accounts come (fun side => tried side ++ r.tries side st) (r.work sending).1 := by
  rcases r.working_cases with ⟨s, hk⟩ | hk
  · have own := h.apart.own_eq_none (by rw [hk]; rfl)
    have held : r.custody.held? = some s := h.apart.held?_of_keeper hk
    -- the oldest message moves from those that wait to those that were tried
    have moved (side : Side) : (tried side ++ r.tries side st).map Attempt.message ++
        Sockets.bound ⟨s.data.tail, s.control.tail⟩ side = come side := by
      rw [tries_of_working hk hs, ← h.rest s held side, List.map_append, List.append_assoc]
      congr 1
      obtain ⟨data, control⟩ := s
      cases side with
      | south => cases data <;> rfl
      | north => cases control <;> rfl
    refine ⟨?_, fun side => ?_, fun s' hs' side => ?_⟩
    · rw [work_of_working hk]
      exact .inl own
    · rw [← moved side]
      exact List.prefix_append _ _
    · rw [work_of_working hk] at hs'
      simp only [Custody.held?, own, Option.none_or, Option.bind_some, Keeper.held?,
        Option.some.injEq] at hs'
      rw [← hs', moved side]
  · simp only [tries_of_not_working hk, List.append_nil]
    rw [work_of_not_working hk]
    exact h.look

/-- The worker of a relay that is to stop does not go to work any more. -/
theorem not_working_work (stops : r.custody.running = false) (sending : Sending) :
    (r.work sending).1.custody.running = false ∧
      ∀ s, (r.work sending).1.custody.keeper ≠ some (.working s) := by
  rcases r.working_cases with ⟨s, hk⟩ | hk
  · rw [work_of_working hk]
    exact ⟨stops, fun s' h => by cases h⟩
  · rw [work_of_not_working hk]
    unfold Custody.look
    split
    · exact ⟨stops, fun s' h => by rw [stops] at h; cases h⟩
    · exact ⟨stops, hk⟩

/-- A stop is at most one piece of work. -/
theorem stop_eq (r : Relay) (sending : Sending) :
    let halted : Relay := { r with custody := r.custody.halt }
    let worked := (halted.work sending).1
    r.stop sending =
      ({ worked with custody := worked.custody.look.join }, (halted.work sending).2) := by
  intro halted worked
  have idle := (not_working_work (r := halted) rfl sending).2
  simp only [stop]
  rw [work_of_not_working idle sending, List.append_nil]

theorem Accounts.stop (h : Accounts come tried r) (sending : Sending) :
    Accounts come (fun side => tried side ++ r.tries side (.act (.stop sending)))
      (r.stop sending).1 := by
  have halted : Accounts come tried { r with custody := r.custody.halt } :=
    h.of_held? h.apart fun _ hs => hs
  rw [stop_eq]
  exact (halted.work (.act (.stop sending)) rfl).look.join

/-- **Whatever happens**, no message is lost before it was tried, tried twice or overtaken. -/
theorem Accounts.step (h : Accounts come tried r) (st : Step) :
    Accounts (fun side => come side ++ arrived side [st])
      (fun side => tried side ++ r.tries side st) (r.step st).1 := by
  cases st with
  | data m =>
    simp only [tries_of_idle (.data m) rfl, List.append_nil]
    exact h.arrive _ _ fun s side => by
      cases side
      · rfl
      · exact (List.append_nil s.control).symm
  | control m =>
    simp only [tries_of_idle (.control m) rfl, List.append_nil]
    exact h.arrive _ _ fun s side => by
      cases side
      · exact (List.append_nil s.data).symm
      · rfl
  | act a =>
    simp only [arrived_act, List.append_nil]
    cases a with
    | listen succeeds =>
      simp only [tries_of_idle (.act (.listen succeeds)) rfl, List.append_nil]
      exact h.listen succeeds
    | stop sending => exact h.stop sending
    | work sending => exact h.work (.act (.work sending)) rfl

theorem eq_of_create {isDirectory : String → Bool} {a : Addresses}
    (created : create isDirectory a = .ok r) : r = { addresses := a } := by
  unfold create at created
  cases hn : Url.attach isDirectory .bind a.north with
  | error err => rw [hn] at created; cases created
  | ok =>
    cases hs : Url.attach isDirectory .bind a.south with
    | error err => rw [hn, hs] at created; cases created
    | ok =>
      rw [hn, hs] at created
      cases created
      rfl

theorem accounts_create (a : Addresses) :
    Accounts (fun _ => []) (fun _ => []) ({ addresses := a } : Relay) where
  apart := .inr rfl
  first _ := List.nil_prefix
  rest s hs side := by
    cases hs
    cases side <;> rfl

theorem run_concat :
    (r.run (steps ++ [st])).1 = ((r.run steps).1.step st).1 ∧
      (r.run (steps ++ [st])).2 = (r.run steps).2 ++ ((r.run steps).1.step st).2 := by
  simp [run, runSteps_append]

theorem accounts_run (a : Addresses) (steps : List Step) :
    Accounts (arrived · steps) (attempts · { addresses := a } steps)
      (run { addresses := a } steps).1 := by
  induction steps using List.reverseRecOn with
  | nil => exact accounts_create a
  | append_singleton steps st ih =>
    rw [run_concat.1]
    simp only [arrived_concat, attempts_concat]
    exact ih.step st

/-! ## What can be seen of the attempts -/

/-- The messages that the transport took. -/
def delivered (tried : List Attempt) : List Message :=
  (tried.filter Attempt.taken).map Attempt.message

/-- What was sent is what the transport took. The observer was shown every message of two parts that
was tried, and the counts are those of what was sent and of the other messages that came from
publishers, as far as they go. -/
structure Reports (south north : List Attempt) (k : Counts) (es : List Effect) : Prop where
  toSouth : sent .south es = delivered south
  toNorth : sent .north es = delivered north
  observed : (observed es).map Frame.toMessage =
    (south.map Attempt.message).filter fun m => m.length = 2
  forwarded : k.forwarded.toNat = (sent .south es).length % UInt64.size
  control : k.control.toNat = (sent .north es).length % UInt64.size
  malformed : k.malformed.toNat =
    ((south.map Attempt.message).filter fun m => m.length ≠ 2).length % UInt64.size

section Pieces

variable {es es' : List Effect} {tried : List Attempt} {m : Message} {taken : Bool}

theorem sent_append : sent side (es ++ es') = sent side es ++ sent side es' :=
  List.filterMap_append

theorem observed_append : observed (es ++ es') = observed es ++ observed es' :=
  List.filterMap_append

theorem delivered_concat :
    delivered (tried ++ [⟨m, taken⟩]) = delivered tried ++ if taken then [m] else [] := by
  cases taken <;> simp [delivered]

theorem length_append_ite {α : Type} (xs : List α) (a : α) (p : Prop) [Decidable p] :
    (xs ++ if p then [a] else []).length = xs.length + if p then 1 else 0 := by
  split <;> simp

theorem toNat_add_ite {n : UInt64} {count : Nat} (h : n.toNat = count % UInt64.size) (p : Prop)
    [Decidable p] :
    (n + if p then 1 else 0).toNat = (count + if p then 1 else 0) % UInt64.size := by
  split
  · rw [UInt64.toNat_add, h]
    exact Nat.mod_add_mod count UInt64.size 1
  · rw [UInt64.add_zero, h, Nat.add_zero]

/-- The effects of an attempt to send a message to the subscribers, which get its parts as they are.
-/
def effectsSouth (m : Message) (taken : Bool) : List Effect :=
  (Frame.ofMessage? m).toList.map .observed ++ if taken then [.south m] else []

theorem forwardData_cons (rest control : List Message) (k : Counts) :
    forwardData taken ⟨m :: rest, control⟩ k =
      (⟨rest, control⟩,
        { k with
          forwarded := k.forwarded + if taken then 1 else 0
          malformed := k.malformed + if m.length ≠ 2 then 1 else 0 }, effectsSouth m taken) := by
  unfold forwardData effectsSouth
  match m with
  | [] | [_] | [_, _] | _ :: _ :: _ :: _ =>
    cases taken <;> simp [Frame.ofMessage?, Frame.toMessage]

theorem forwardControl_cons (rest data : List Message) (k : Counts) :
    forwardControl taken ⟨data, m :: rest⟩ k =
      (⟨data, rest⟩, { k with control := k.control + if taken then 1 else 0 },
        if taken then [.north m] else []) := by
  unfold forwardControl
  cases taken <;> simp

theorem sent_effectsSouth (m : Message) (taken : Bool) :
    sent .south (effectsSouth m taken) = (if taken then [m] else []) ∧
      sent .north (effectsSouth m taken) = [] := by
  unfold effectsSouth
  cases Frame.ofMessage? m <;> cases taken <;> exact ⟨rfl, rfl⟩

theorem observed_effectsSouth :
    (observed (effectsSouth m taken)).map Frame.toMessage =
      [m].filter fun m => m.length = 2 := by
  unfold effectsSouth
  match m with
  | [] | [_] | [_, _] | _ :: _ :: _ :: _ =>
    cases taken <;> simp [Frame.ofMessage?, observed, Frame.toMessage]

theorem seen_effectsNorth (m : Message) (taken : Bool) :
    sent .south (if taken then [.north m] else []) = [] ∧
      sent .north (if taken then [.north m] else []) = (if taken then [m] else []) ∧
      observed (if taken then [.north m] else []) = [] := by
  cases taken <;> exact ⟨rfl, rfl, rfl⟩

end Pieces

variable {south north : List Attempt} {k : Counts} {es : List Effect}

theorem Reports.forwardData (h : Reports south north k es) (s : Sockets) (taken : Bool) :
    Reports (south ++ (s.data.head?.map (⟨·, taken⟩)).toList) north (forwardData taken s k).2.1
      (es ++ (forwardData taken s k).2.2) := by
  obtain ⟨_ | ⟨m, rest⟩, control⟩ := s
  · simpa [Relay.forwardData] using h
  · rw [forwardData_cons, List.head?_cons, Option.map_some, Option.toList_some]
    have sends := sent_effectsSouth m taken
    have here : sent .south (es ++ effectsSouth m taken) =
        delivered south ++ if taken then [m] else [] := by rw [sent_append, h.toSouth, sends.1]
    have there : sent .north (es ++ effectsSouth m taken) = sent .north es := by
      rw [sent_append, sends.2, List.append_nil]
    refine ⟨here.trans delivered_concat.symm, there.trans h.toNorth, ?_, ?_, there ▸ h.control, ?_⟩
    · rw [observed_append, List.map_append, h.observed, observed_effectsSouth, List.map_append,
        List.filter_append, List.map_singleton]
    · rw [here, length_append_ite, ← h.toSouth]
      exact toNat_add_ite h.forwarded _
    · have counted : [m].filter (fun m => m.length ≠ 2) = if m.length ≠ 2 then [m] else [] := by
        by_cases two : m.length = 2 <;> simp [two]
      rw [List.map_append, List.filter_append, List.map_singleton, counted, length_append_ite]
      exact toNat_add_ite h.malformed _

theorem Reports.forwardControl (h : Reports south north k es) (s : Sockets) (taken : Bool) :
    Reports south (north ++ (s.control.head?.map (⟨·, taken⟩)).toList)
      (forwardControl taken s k).2.1 (es ++ (forwardControl taken s k).2.2) := by
  obtain ⟨data, _ | ⟨m, rest⟩⟩ := s
  · simpa [Relay.forwardControl] using h
  · rw [forwardControl_cons, List.head?_cons, Option.map_some, Option.toList_some]
    obtain ⟨sends, sends', unseen⟩ := seen_effectsNorth m taken
    have here : sent .north (es ++ if taken then [.north m] else []) =
        delivered north ++ if taken then [m] else [] := by rw [sent_append, h.toNorth, sends']
    have there : sent .south (es ++ if taken then [.north m] else []) = sent .south es := by
      rw [sent_append, sends, List.append_nil]
    refine ⟨there.trans h.toSouth, here.trans delivered_concat.symm, ?_, there ▸ h.forwarded, ?_,
      h.malformed⟩
    · rw [observed_append, unseen, List.append_nil, h.observed]
    · rw [here, length_append_ite, ← h.toNorth]
      exact toNat_add_ite h.control _

theorem Reports.work (h : Reports south north r.counts es) (st : Step) {sending : Sending}
    (hs : st.sending? = some sending) :
    Reports (south ++ r.tries .south st) (north ++ r.tries .north st) (r.work sending).1.counts
      (es ++ (r.work sending).2) := by
  rcases r.working_cases with ⟨s, hk⟩ | hk
  · have data := h.forwardData s sending.south
    have both := data.forwardControl (Relay.forwardData sending.south s r.counts).1 sending.north
    have control : (Relay.forwardData sending.south s r.counts).1.control = s.control := by
      obtain ⟨_ | ⟨m, rest⟩, control⟩ := s
      · rfl
      · rw [forwardData_cons]
    rw [control, List.append_assoc] at both
    rw [tries_of_working hk hs, tries_of_working hk hs]
    simp only [Relay.work, hk]
    exact both
  · rw [tries_of_not_working hk, tries_of_not_working hk, work_of_not_working hk]
    simpa only [List.append_nil] using h

theorem counts_listen (r : Relay) (succeeds : Bool) : (r.listen succeeds).2.counts = r.counts := by
  unfold listen
  split <;> rfl

theorem Reports.step (h : Reports south north r.counts es) (st : Step) :
    Reports (south ++ r.tries .south st) (north ++ r.tries .north st) (r.step st).1.counts
      (es ++ (r.step st).2) := by
  have idle (quiet : st.sending? = none) (same : (r.step st).1.counts = r.counts)
      (none : (r.step st).2 = []) :
      Reports (south ++ r.tries .south st) (north ++ r.tries .north st) (r.step st).1.counts
        (es ++ (r.step st).2) := by
    rw [tries_of_idle st quiet, tries_of_idle st quiet, same, none]
    simpa only [List.append_nil] using h
  cases st with
  | data m | control m => exact idle rfl rfl rfl
  | act a =>
    cases a with
    | listen succeeds => exact idle rfl (counts_listen r succeeds) rfl
    | work sending => exact h.work (.act (.work sending)) rfl
    | stop sending =>
      have halted : Reports south north
          ({ r with custody := r.custody.halt } : Relay).counts es := h
      simp only [Relay.step, act, stop_eq]
      exact halted.work (.act (.stop sending)) rfl

theorem reports_run (a : Addresses) (steps : List Step) :
    Reports (attempts .south { addresses := a } steps) (attempts .north { addresses := a } steps)
      (run { addresses := a } steps).1.counts (run { addresses := a } steps).2 := by
  induction steps using List.reverseRecOn with
  | nil => exact ⟨rfl, rfl, rfl, rfl, rfl, rfl⟩
  | append_singleton steps st ih =>
    rw [run_concat.1, run_concat.2, attempts_concat, attempts_concat]
    exact ih.step st

theorem taken_of_mem_attempts {a : Attempt} (h : a ∈ attempts side r steps) :
    ∃ st ∈ steps, ∃ sending, st.sending? = some sending ∧ a.taken = sending.takes side := by
  induction steps using List.reverseRecOn with
  | nil => exact absurd h List.not_mem_nil
  | append_singleton steps st ih =>
    rw [attempts_concat] at h
    rcases List.mem_append.mp h with before | now
    · obtain ⟨st', hst, rest⟩ := ih before
      exact ⟨st', List.mem_append_left _ hst, rest⟩
    · refine ⟨st, List.mem_append_right _ (List.mem_singleton_self st), ?_⟩
      unfold tries at now
      split at now
      · next s sending _ hs =>
        obtain ⟨m, -, rfl⟩ := Option.map_eq_some_iff.mp (Option.mem_toList.mp now)
        exact ⟨sending, hs, rfl⟩
      · exact absurd now List.not_mem_nil

theorem delivered_of_taken {tried : List Attempt} (h : ∀ a ∈ tried, a.taken = true) :
    delivered tried = tried.map Attempt.message := by
  rw [delivered, List.filter_eq_self.mpr h]

/-! ## What waits is tried -/

/-- The sockets are with the relay, or with a worker that is to go on. -/
inductive Steady (s : Sockets) : Custody Sockets → Prop where
  | idle : Steady s ⟨false, some s, none⟩
  | looking : Steady s ⟨true, none, some (.looking s)⟩
  | working : Steady s ⟨true, none, some (.working s)⟩

variable {s : Sockets}

theorem Steady.held? {c : Custody Sockets} (h : Steady s c) : c.held? = some s := by
  cases h <;> rfl

theorem Steady.listen (h : Steady s r.custody) : Steady s (r.listen true).2.custody := by
  obtain ⟨a, c, k⟩ := r
  cases h with
  | idle => exact .looking
  | looking => exact .looking
  | working => exact .working

theorem work_looking (h : r.custody = ⟨true, none, some (.looking s)⟩) (sending : Sending) :
    (r.work sending).1.custody = ⟨true, none, some (.working s)⟩ := by
  rw [work_of_not_working fun s' hs => by rw [h] at hs; cases hs]
  simp [Custody.look, h]

theorem work_working (h : r.custody = ⟨true, none, some (.working s)⟩) (sending : Sending) :
    (r.work sending).1.custody =
      ⟨true, none, some (.looking ⟨s.data.tail, s.control.tail⟩)⟩ := by
  rw [work_of_working (s := s) (by rw [h]), h]

/-- A call for the relay to start, and two steps of its worker. -/
def attend (sending : Sending) : List Step :=
  [.act (.listen true), .act (.work sending), .act (.work sending)]

/-- The oldest message to either side is tried when the relay is started and its worker goes on. -/
theorem Steady.attend (h : Steady s r.custody) (sending : Sending) :
    Steady ⟨s.data.tail, s.control.tail⟩ (r.run (Relay.attend sending)).1.custody := by
  show Steady _ (((r.listen true).2.work sending).1.work sending).1.custody
  obtain ⟨a, c, k⟩ := r
  cases h with
  | idle =>
    have started : (Relay.listen ⟨a, ⟨false, some s, none⟩, k⟩ true).2.custody =
      ⟨true, none, some (.looking s)⟩ := rfl
    rw [work_working (work_looking started sending)]
    exact .looking
  | looking =>
    have going : (Relay.listen ⟨a, ⟨true, none, some (.looking s)⟩, k⟩ true).2.custody =
      ⟨true, none, some (.looking s)⟩ := rfl
    rw [work_working (work_looking going sending)]
    exact .looking
  | working =>
    have going : (Relay.listen ⟨a, ⟨true, none, some (.working s)⟩, k⟩ true).2.custody =
      ⟨true, none, some (.working s)⟩ := rfl
    rw [work_looking (work_working going sending)]
    exact .working

theorem Steady.attend_all (h : Steady s r.custody) (sending : Sending) (n : Nat) :
    Steady ⟨s.data.drop n, s.control.drop n⟩
      (r.run (List.replicate n (Relay.attend sending)).flatten).1.custody := by
  induction n generalizing s r with
  | zero => exact h
  | succ n ih =>
    rw [List.replicate_succ, List.flatten_cons, Relay.run, runSteps_append, ← List.drop_tail,
      ← List.drop_tail]
    exact ih (h.attend sending)

theorem Steady.stop (h : Steady s r.custody) (sending : Sending) :
    ∃ s', (r.stop sending).1.custody = ⟨false, some s', none⟩ := by
  rw [stop_eq]
  obtain ⟨a, c, k⟩ := r
  cases h with
  | idle => exact ⟨s, rfl⟩
  | looking => exact ⟨s, rfl⟩
  | working =>
    refine ⟨⟨s.data.tail, s.control.tail⟩, ?_⟩
    dsimp only
    rw [work_of_working (s := s) rfl]
    rfl

theorem Steady.step (h : Steady s r.custody) (starts : st ≠ .act (.listen false)) :
    ∃ s', Steady s' (r.step st).1.custody := by
  obtain ⟨a, c, k⟩ := r
  cases st with
  | data m => cases h <;> exact ⟨⟨s.data ++ [m], s.control⟩, by constructor⟩
  | control m => cases h <;> exact ⟨⟨s.data, s.control ++ [m]⟩, by constructor⟩
  | act action =>
    cases action with
    | listen succeeds =>
      cases succeeds with
      | true => exact ⟨s, h.listen⟩
      | false => exact absurd rfl starts
    | stop sending =>
      obtain ⟨s', back⟩ := h.stop sending
      exact ⟨s', back ▸ .idle⟩
    | work sending =>
      show ∃ s', Steady s' (Relay.work ⟨a, c, k⟩ sending).1.custody
      cases h with
      | idle => exact ⟨s, .idle⟩
      | looking =>
        rw [work_looking (s := s) rfl]
        exact ⟨s, .working⟩
      | working =>
        rw [work_working (s := s) rfl]
        exact ⟨_, .looking⟩

theorem steady_run (a : Addresses) (steps : List Step) (starts : .act (.listen false) ∉ steps) :
    ∃ s, Steady s (run { addresses := a } steps).1.custody := by
  induction steps using List.reverseRecOn with
  | nil => exact ⟨{}, .idle⟩
  | append_singleton steps st ih =>
    obtain ⟨s, h⟩ := ih fun before => starts (List.mem_append_left _ before)
    rw [run_concat.1]
    exact h.step fun now => starts (List.mem_append_right _ (List.mem_singleton.mpr now.symm))

theorem arrived_attend_all (side : Side) (steps : List Step) (sending : Sending) (n : Nat) :
    arrived side (steps ++ (List.replicate n (attend sending)).flatten) = arrived side steps := by
  induction n generalizing steps with
  | zero => simp
  | succ n ih =>
    rw [List.replicate_succ, List.flatten_cons, ← List.append_assoc, ih, arrived,
      List.filterMap_append]
    cases side <;> exact List.append_nil _

/-! ## The main statement -/

/-- **The relay is transparent.** What it sent to a side are, unchanged and in order, those of the
messages that it tried to send which the transport took; all of them, if the transport took all. The
messages tried are, once each and in the order in which they arrived, the first of those that
arrived; those that wait at the sockets are the others. The observer is shown the messages of two
parts among those tried, once each and in order, and the counts tell, up to 64 bits, what was sent
to either side and how many messages of publishers had not two parts, however often the relay is
stopped and started. The sockets are there as long as workers can be started, and then every message
that waits is tried when the relay is started again. -/
theorem forwards_exactly {isDirectory : String → Bool} {a : Addresses}
    (created : create isDirectory a = .ok r) (steps : List Step) :
    let tried (side : Side) := (attempts side r steps).map Attempt.message
    let after := (r.run steps).1
    let es := (r.run steps).2
    (∀ side,
      sent side es = ((attempts side r steps).filter Attempt.taken).map Attempt.message ∧
      ((∀ st ∈ steps, ∀ sending, st.sending? = some sending → sending.takes side = true) →
        sent side es = tried side) ∧
      tried side <+: arrived side steps ∧
      ∀ s, after.custody.held? = some s → tried side ++ s.bound side = arrived side steps) ∧
    (observed es).map (fun f => [f.topic, f.payload]) =
      (tried .south).filter (fun m => m.length = 2) ∧
    after.counts.forwarded.toNat = (sent .south es).length % UInt64.size ∧
    after.counts.control.toNat = (sent .north es).length % UInt64.size ∧
    after.counts.malformed.toNat =
      ((tried .south).filter fun m => m.length ≠ 2).length % UInt64.size ∧
    (.act (.listen false) ∉ steps → ∃ s, after.custody.held? = some s ∧
      ∀ sending side,
        let later := steps ++ (List.replicate (s.data.length + s.control.length)
          (attend sending)).flatten
        (attempts side r later).map Attempt.message = arrived side steps) := by
  intro tried after es
  obtain rfl := eq_of_create created
  have accounts := accounts_run a steps
  have reports := reports_run a steps
  have sends (side : Side) : sent side es = delivered (attempts side { addresses := a } steps) := by
    cases side
    · exact reports.toSouth
    · exact reports.toNorth
  refine ⟨fun side => ⟨sends side, fun takes => ?_, accounts.first side, fun s hs =>
    accounts.rest s hs side⟩, reports.observed, reports.forwarded, reports.control,
    reports.malformed, fun starts => ?_⟩
  · rw [sends side]
    refine delivered_of_taken fun x hx => ?_
    obtain ⟨st, hst, sending, hs, htaken⟩ := taken_of_mem_attempts hx
    rw [htaken, takes st hst sending hs]
  · obtain ⟨s, steady⟩ := steady_run a steps starts
    refine ⟨s, steady.held?, fun sending side => ?_⟩
    have later := accounts_run a (steps ++ (List.replicate (s.data.length + s.control.length)
      (attend sending)).flatten)
    have none := (steady.attend_all sending (s.data.length + s.control.length)).held?
    rw [List.drop_eq_nil_of_le (Nat.le_add_right _ _),
      List.drop_eq_nil_of_le (Nat.le_add_left _ _)] at none
    rw [Relay.run, runSteps_append] at later
    have all := later.rest _ none side
    rw [arrived_attend_all] at all
    rw [← all]
    cases side <;> exact (List.append_nil _).symm

/-- A frame whose send fails, a message of three parts that is sent while the relay stops, a control
message that says nothing known, and a frame that waits until the relay is started again. -/
theorem forwards_exactly_restarted :
    let steps : List Step := [.data [[0x41], [1]], .data [[2], [3], [4]], .control [[7, 8]],
      .act (.listen true), .act (.work {}), .act (.work { south := false }), .data [[0x41], [5]],
      .act (.work {}), .act (.stop {}), .act (.listen true)]
    ∃ r, create (fun _ => true) ⟨"ipc:///north", "ipc:///south"⟩ = .ok r ∧
      sent .south (r.run steps).2 = [[[2], [3], [4]]] ∧ sent .north (r.run steps).2 = [[[7, 8]]] ∧
      sent .north (r.run steps).2 = (attempts .north r steps).map Attempt.message ∧
      observed (r.run steps).2 = [⟨[0x41], [1]⟩] ∧ (r.run steps).1.counts = ⟨1, 1, 1⟩ ∧
      ∃ s, (r.run steps).1.custody.held? = some s ∧ s.data = [[[0x41], [5]]] ∧
        (attempts .south r (steps ++ (List.replicate (s.data.length + s.control.length)
          (attend {})).flatten)).map Attempt.message =
            [[[0x41], [1]], [[2], [3], [4]], [[0x41], [5]]] := by
  intro steps
  have created : create (fun _ => true) ⟨"ipc:///north", "ipc:///south"⟩ = .ok _ := rfl
  obtain ⟨sides, -, -, -, -, later⟩ := forwards_exactly created steps
  obtain ⟨s, held, all⟩ := later (by decide)
  have waits : s.data = [[[0x41], [5]]] := by
    cases held
    rfl
  refine ⟨_, created, by decide, by decide, (sides .north).2.1 ?_, by decide, by decide,
    s, held, waits, (all {} .south).trans (by decide)⟩
  decide

end Relay

end Fieldbus
