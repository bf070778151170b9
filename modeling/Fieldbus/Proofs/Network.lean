import Fieldbus.Bus.Network
import Fieldbus.Proofs.Delivery
import Fieldbus.Proofs.Forwarding
import Mathlib.Algebra.Order.BigOperators.Group.List
import Mathlib.Algebra.Order.Group.Nat

/-!
# Networks without loops

Endpoints send under topics that no endpoint receives under, whatever their ids are. So what an
endpoint sends never comes to a handler, and there is no more to handle than what was published from
outside.

* `publishTopic_ne`: no topic to send under is one to receive under.
* `Endpoint.replies`, `Endpoint.Answers`: what an endpoint sends because of what it handles.
* `Relay.queued`, `Network.queued`: the messages that wait at the relay.
* `Network.Accounted`: what was handled and what waits came from outside.
* **`Network.loop_free`**: no endpoint handles what an endpoint sent.
-/

namespace Fieldbus

/-- Topics of endpoints end in the same number of bytes after the id, and these differ. -/
theorem publishTopic_ne (id id' : String) :
    utf8 (id ++ "_north_topic") ≠ utf8 (id' ++ "_south_topic") := by
  intro same
  rw [utf8_append, utf8_append] at same
  have ends : utf8 "_north_topic" = utf8 "_south_topic" := (List.append_inj' same (by decide)).2
  exact absurd ends (by decide)

namespace Endpoint

variable {e e' e'' : Endpoint} {f : Frame} {fs fs' sent sent' : List Frame}

theorem addressed?_of_published {id id' : String} (payload : Bytes) :
    addressed? id [utf8 (id' ++ "_north_topic"), payload] = none := by
  rw [addressed?, if_neg (publishTopic_ne id' id)]

theorem toMessage_addressed? {id : String} {ms : List Message} :
    ((ms.filterMap (addressed? id)).map Frame.toMessage).Sublist ms := by
  induction ms with
  | nil => exact List.Sublist.refl []
  | cons m ms ih =>
    cases h : addressed? id m with
    | none =>
      rw [List.filterMap_cons_none h]
      exact ih.cons m
    | some f =>
      rw [List.filterMap_cons_some h, List.map_cons, ← (topic_of_addressed? h).2]
      exact ih.cons_cons m

/-! ## Replies -/

/-- The frames in which an endpoint sends payloads. -/
def posted (id : String) (payloads : List Bytes) : List Frame :=
  payloads.filterMap fun p => (Frame.outgoing id p).toOption

/-- What a handler, if there is one, does about a frame after others. -/
def reactionTo (handler : Option Handler) (before : List Frame) (f : Frame) : Reaction :=
  match handler with
  | some h => h before f
  | none => {}

/-- What an endpoint sends because of frames that it handles, after it has handled others. -/
def replies (id : String) (handler : Option Handler) (before : List Frame) :
    List Frame → List Frame
  | [] => []
  | f :: fs =>
    posted id (reactionTo handler before f).sends ++ replies id handler (before ++ [f]) fs

theorem replies_append (id : String) (handler : Option Handler) (before : List Frame) :
    replies id handler before (fs ++ fs') =
      replies id handler before fs ++ replies id handler (before ++ fs) fs' := by
  induction fs generalizing before with
  | nil => simp [replies]
  | cons f fs ih => simp [replies, ih, List.append_assoc]

theorem posted_eq (id : String) (payloads : List Bytes) :
    posted id payloads =
      (payloads.filter fun p => p ≠ []).map fun p => ⟨utf8 (id ++ "_north_topic"), p⟩ := by
  rw [posted, ← List.filterMap_eq_map, List.filterMap_filter]
  refine List.filterMap_congr fun p _ => ?_
  cases p <;> rfl

/-- An endpoint that sends every payload back sends the payloads handled that are not empty. -/
theorem replies_echo (id : String) (before : List Frame) :
    replies id (some .echo) before fs = posted id (fs.map Frame.payload) := by
  induction fs generalizing before with
  | nil => rfl
  | cons f fs ih =>
    rw [replies, ih, posted, posted, posted, List.map_cons, ← List.filterMap_append]
    rfl

/-- An endpoint changes, and sends what its handler makes it send meanwhile. -/
structure Answers (e e' : Endpoint) (sent : List Frame) : Prop where
  id_eq : e'.id = e.id
  handler_eq : e'.handler = e.handler
  replied : ∃ fs, e'.handled = e.handled ++ fs ∧ sent = replies e.id e.handler e.handled fs

theorem Answers.of_same (id_eq : e'.id = e.id) (handler_eq : e'.handler = e.handler)
    (handled_eq : e'.handled = e.handled) : Answers e e' [] :=
  ⟨id_eq, handler_eq, [], by rw [handled_eq, List.append_nil], rfl⟩

theorem Answers.trans (h : Answers e e' sent) (h' : Answers e' e'' sent') :
    Answers e e'' (sent ++ sent') := by
  obtain ⟨fs, handled, rfl⟩ := h.replied
  obtain ⟨fs', handled', rfl⟩ := h'.replied
  refine ⟨h'.id_eq.trans h.id_eq, h'.handler_eq.trans h.handler_eq, fs ++ fs', ?_, ?_⟩
  · rw [handled', handled, List.append_assoc]
  · rw [h.id_eq, h.handler_eq, handled, replies_append]

theorem answers_handle (e : Endpoint) (waited : Bool) (b : Inbox) (f : Frame) :
    Answers e (e.handle waited b f).1 (e.handle waited b f).2 := by
  refine ⟨rfl, rfl, [f], rfl, ?_⟩
  rw [replies, replies, List.append_nil]
  rfl

theorem answers_goOn (e : Endpoint) (waited : Bool) :
    Answers e (e.goOn waited).1 (e.goOn waited).2 := by
  unfold goOn
  split
  · dsimp only
    split
    · exact answers_handle e _ _ _
    · exact .of_same rfl rfl rfl
  · exact .of_same rfl rfl rfl

theorem answers_reclaim (e : Endpoint) : Answers e e.reclaim.1 e.reclaim.2 := by
  have works := (answers_goOn e true).trans (answers_goOn (e.goOn true).1 true)
  exact ⟨works.id_eq, works.handler_eq, works.replied⟩

theorem answers_readied (e : Endpoint) : Answers e e.readied.1 e.readied.2 := by
  unfold readied
  split
  · exact answers_reclaim e
  · exact .of_same rfl rfl rfl

theorem answers_listen (e : Endpoint) (succeeds : Bool) :
    Answers e (e.listen succeeds).2.1 (e.listen succeeds).2.2 := by
  have readied := answers_readied e
  unfold listen
  split
  · exact .of_same rfl rfl rfl
  · dsimp only
    split
    · exact readied
    · cases succeeds <;> exact ⟨readied.id_eq, readied.handler_eq, readied.replied⟩

/-- **Whatever is done with an endpoint**, it sends what it is asked to send, or replies. -/
theorem act_cases (e : Endpoint) (a : Action) :
    (∃ payload, a = .send payload ∧ e.act a = (e, posted e.id [payload])) ∨
      (∀ payload, a ≠ .send payload) ∧ Answers e (e.act a).1 (e.act a).2 := by
  cases a with
  | send payload =>
    refine .inl ⟨payload, rfl, ?_⟩
    rw [act, outgoing, posted, List.filterMap_cons]
    cases (Frame.outgoing e.id payload).toOption <;> rfl
  | listen succeeds => exact .inr ⟨nofun, answers_listen e succeeds⟩
  | stop =>
    have halts : Answers e e.halt [] := .of_same rfl rfl rfl
    exact .inr ⟨nofun, halts.trans (answers_reclaim e.halt)⟩
  | halt => exact .inr ⟨nofun, .of_same rfl rfl rfl⟩
  | work => exact .inr ⟨nofun, answers_goOn e false⟩

theorem topic_of_mem_posted {id : String} {payloads : List Bytes} (h : f ∈ posted id payloads) :
    f.topic = utf8 (id ++ "_north_topic") := by
  rw [posted_eq] at h
  obtain ⟨p, -, rfl⟩ := List.mem_map.mp h
  rfl

theorem topic_of_mem_replies {id : String} {handler : Option Handler} {before : List Frame}
    (h : f ∈ replies id handler before fs) : f.topic = utf8 (id ++ "_north_topic") := by
  induction fs generalizing before with
  | nil => exact absurd h List.not_mem_nil
  | cons x fs ih =>
    rcases List.mem_append.mp h with now | later
    · exact topic_of_mem_posted now
    · exact ih later

theorem topic_of_sent {a : Action} (h : f ∈ (e.act a).2) :
    f.topic = utf8 (e.id ++ "_north_topic") := by
  rcases act_cases e a with ⟨payload, -, posts⟩ | ⟨-, answers⟩
  · rw [posts] at h
    exact topic_of_mem_posted h
  · obtain ⟨fs, -, replied⟩ := answers.replied
    rw [replied] at h
    exact topic_of_mem_replies h

theorem fresh_of_create {id : String} {a : Addresses} {handler : Option Handler}
    (created : create id a handler = .ok e) : Accounts e.id [] e ∧ e.handled = [] := by
  unfold create at created
  cases hs : Url.connect a.south with
  | error err => rw [hs] at created; cases created
  | ok =>
    cases hn : Url.connect a.north with
    | error err => rw [hs, hn] at created; cases created
    | ok =>
      rw [hs, hn] at created
      cases created
      refine ⟨⟨rfl, .inr rfl, fun b hb => ?_, List.nil_prefix, fun b hb => ?_⟩, rfl⟩
      all_goals
        cases handler <;> cases hb
        rfl

end Endpoint

/-! ## What waits at the relay -/

namespace Relay

variable {r : Relay}

/-- The messages of publishers that wait at a relay. -/
def queued (r : Relay) : List Message := (r.custody.held?.map Sockets.data).getD []

theorem queued_receive (r : Relay) (m : Message) :
    (r.receive m).queued = r.queued ∨ (r.receive m).queued = r.queued ++ [m] := by
  simp only [queued, receive, Custody.held?_map]
  cases r.custody.held? with
  | none => exact .inl rfl
  | some s => exact .inr rfl

/-- What a relay sends to subscribers, and what waits then, has waited before. -/
theorem sent_work_sublist (apart : r.custody.Apart) (sending : Sending) :
    (sent .south (r.work sending).2 ++ (r.work sending).1.queued).Sublist r.queued ∧
      (r.work sending).1.custody.Apart := by
  rcases r.working_cases with ⟨s, hk⟩ | hk
  · have own := apart.own_eq_none (by rw [hk]; rfl)
    have before : r.queued = s.data := by rw [queued, apart.held?_of_keeper hk]; rfl
    have after : (r.work sending).1.queued = s.data.tail := by
      simp only [queued, work_of_working hk, Custody.held?, own]
      rfl
    refine ⟨?_, by rw [work_of_working hk]; exact .inl own⟩
    have control (s : Sockets) (k : Counts) :
        sent .south (forwardControl sending.north s k).2.2 = [] := by
      obtain ⟨data, _ | ⟨m, rest⟩⟩ := s
      · rfl
      · rw [forwardControl_cons, (seen_effectsNorth m _).1]
    rw [before, after]
    simp only [work, hk, sent_append, control, List.append_nil]
    obtain ⟨_ | ⟨m, rest⟩, s⟩ := s
    · exact .refl _
    · rw [forwardData_cons, (sent_effectsSouth m _).1]
      cases sending.south with
      | true => exact .refl _
      | false => exact .cons _ (.refl _)
  · rw [work_of_not_working hk]
    refine ⟨?_, apart.look⟩
    rw [queued, Custody.held?_look]
    exact .refl _

theorem sent_act_sublist (apart : r.custody.Apart) (a : Action) :
    (sent .south (r.act a).2 ++ (r.act a).1.queued).Sublist r.queued ∧
      (r.act a).1.custody.Apart := by
  cases a with
  | work sending => exact sent_work_sublist apart sending
  | stop sending =>
    obtain ⟨rest, worked⟩ :=
      sent_work_sublist (r := { r with custody := r.custody.halt }) apart sending
    simp only [act, stop_eq]
    refine ⟨?_, worked.look.join⟩
    rwa [queued, Custody.held?_join _ worked.look, Custody.held?_look]
  | listen succeeds =>
    have starts (succeeds : Bool) :
        ((r.custody.start succeeds).held?.map Sockets.data).getD [] = r.queued ∨
          ((r.custody.start succeeds).held?.map Sockets.data).getD [] = [] := by
      cases h : (r.custody.start succeeds).held? with
      | none => exact .inr rfl
      | some s =>
        rw [queued, r.custody.held?_of_start apart succeeds h]
        exact .inl rfl
    have listens : (r.listen succeeds).2.custody = r.custody.start succeeds := by
      unfold listen
      split
      · next h =>
        cases succeeds with
        | true => simp at h
        | false => rfl
      · rfl
    have none : (r.act (.listen succeeds)).2 = [] := rfl
    have after : (r.act (.listen succeeds)).1.custody = r.custody.start succeeds := listens
    refine ⟨?_, by rw [after]; exact apart.start succeeds⟩
    rw [none, queued, after]
    rcases starts succeeds with same | lost
    · rw [same]
      exact .refl _
    · rw [lost]
      exact List.nil_sublist _

end Relay

/-! ## Where frames come from -/

namespace Network

open Endpoint

/-- The messages that are published from outside. -/
def published (steps : List Step) : List Message :=
  steps.filterMap fun st => match st with
    | .publish _ m => some m
    | .relay _ | .endpoint _ _ => none

/-- The frames that the endpoint at a place sends. -/
def sentBy (i : Nat) (es : List Effect) : List Frame :=
  es.filterMap fun x => match x with
    | .sent j f => if j = i then some f else none
    | .relay _ => none

/-- The payloads that the endpoint at a place is asked to send, other than by its handler. -/
def asked (i : Nat) (steps : List Step) : List Bytes :=
  steps.filterMap fun st => match st with
    | .endpoint j (.send payload) => if j = i then some payload else none
    | .endpoint _ _ | .publish _ _ | .relay _ => none

variable {n : Network} {out pending : List Message} {es : List Endpoint}

/-- The messages that wait at the relay. -/
def queued (n : Network) : List Message := (n.relay.map Relay.queued).getD []

/-- The frames that came by for endpoints, and those that are to come, are among those in some
messages. -/
def Sourced (out pending : List Message) (es : List Endpoint) : Prop :=
  ∀ e ∈ es, ∃ fs, Accounts e.id fs e ∧
    (fs ++ pending.filterMap (addressed? e.id)).Sublist (out.filterMap (addressed? e.id))

theorem Sourced.spread {m : Message} (h : Sourced out (m :: pending) es) (p : Endpoint → Prop)
    [DecidablePred p] : Sourced out pending (es.map fun e => if p e then e.deliver m else e) := by
  intro e' he'
  obtain ⟨e, he, rfl⟩ := List.mem_map.mp he'
  obtain ⟨fs, accounts, comes⟩ := h e he
  have adds : (m :: pending).filterMap (addressed? e.id) =
      (addressed? e.id m).toList ++ pending.filterMap (addressed? e.id) := by
    cases hm : addressed? e.id m <;> simp [hm]
  rw [adds] at comes
  split
  · refine ⟨_, accounts.deliver m, ?_⟩
    rwa [List.append_assoc]
  · exact ⟨fs, accounts, ((List.sublist_append_right _ _).append_left fs).trans comes⟩

theorem Sourced.fewer {pending' : List Message} (h : Sourced out pending es)
    (fewer : pending'.Sublist pending) : Sourced out pending' es := by
  intro e he
  obtain ⟨fs, accounts, comes⟩ := h e he
  exact ⟨fs, accounts, ((fewer.filterMap _).append_left fs).trans comes⟩

theorem Sourced.carry (south : String) {effects : List Relay.Effect}
    (h : Sourced out (Relay.sent .south effects ++ pending) n.endpoints) :
    Sourced out pending (n.carry south effects).endpoints ∧
      (n.carry south effects).relay = n.relay := by
  unfold Network.carry
  induction effects generalizing n with
  | nil => exact ⟨h, rfl⟩
  | cons x effects ih =>
    rw [List.foldl_cons]
    cases x with
    | south m => exact ih (n := n.spread south m) (h.spread _)
    | north m | observed f => exact ih h

/-- What was handled, and what waits at the relay or the endpoints, was published from outside. -/
structure Accounted (out : List Message) (n : Network) : Prop where
  apart : ∀ r, n.relay = some r → r.custody.Apart
  sourced : Sourced out n.queued n.endpoints

theorem publish_cases (n : Network) (north : String) (m : Message) :
    (n.publish north m).endpoints = n.endpoints ∧
      ((n.publish north m).queued = n.queued ∨ (n.publish north m).queued = n.queued ++ [m]) ∧
      ∀ r, (n.publish north m).relay = some r → ∃ r₀, n.relay = some r₀ ∧
        (r₀.custody.Apart → r.custody.Apart) := by
  unfold Network.publish
  split
  · exact ⟨rfl, .inl rfl, fun r hr => ⟨r, hr, id⟩⟩
  · refine ⟨rfl, ?_, fun r hr => ?_⟩
    · unfold queued
      cases n.relay with
      | none => exact .inl rfl
      | some r =>
        simp only [Option.map_some, Option.getD_some]
        split
        · exact r.queued_receive m
        · exact .inl rfl
    · obtain ⟨r₀, hr₀, rfl⟩ := Option.map_eq_some_iff.mp hr
      refine ⟨r₀, hr₀, fun apart => ?_⟩
      split
      · exact apart.map _
      · exact apart

theorem Accounted.grows (h : Accounted out n) (north : String) {m : Message} {out' : List Message}
    (among : ∀ id, ((out ++ [m]).filterMap (addressed? id)).Sublist
      (out'.filterMap (addressed? id))) : Accounted out' (n.publish north m) := by
  obtain ⟨same, queued, relay⟩ := publish_cases n north m
  refine ⟨fun r hr => ?_, fun e he => ?_⟩
  · obtain ⟨r₀, hr₀, apart⟩ := relay r hr
    exact apart (h.apart r₀ hr₀)
  · rw [same] at he
    obtain ⟨fs, accounts, comes⟩ := h.sourced e he
    refine ⟨fs, accounts, List.Sublist.trans ?_ (among e.id)⟩
    rw [List.filterMap_append]
    rcases queued with queued | queued
    · rw [queued]
      exact comes.trans (List.sublist_append_left _ _)
    · rw [queued, List.filterMap_append, ← List.append_assoc]
      exact comes.append_right _

theorem Accounted.publishes (h : Accounted out n) (north : String) (m : Message) :
    Accounted (out ++ [m]) (n.publish north m) :=
  h.grows north fun _ => .refl _

theorem Accounted.posts (h : Accounted out n) (north : String) {m : Message}
    (alien : ∀ id, addressed? id m = none) : Accounted out (n.publish north m) := by
  refine h.grows north fun id => ?_
  rw [List.filterMap_append, List.filterMap_cons_none (alien id), List.filterMap_nil,
    List.append_nil]

theorem Accounted.postsAll (h : Accounted out n) (north : String) {fs : List Frame}
    (alien : ∀ f ∈ fs, ∃ id, f.topic = utf8 (id ++ "_north_topic")) :
    Accounted out (n.publishAll north fs) := by
  unfold publishAll
  induction fs generalizing n with
  | nil => exact h
  | cons f fs ih =>
    obtain ⟨id', topic⟩ := alien f List.mem_cons_self
    refine ih (h.posts north fun id => ?_) fun f' hf' => alien f' (List.mem_cons_of_mem _ hf')
    rw [Frame.toMessage, topic]
    exact addressed?_of_published f.payload

/-- Whatever is done with the relay, nothing comes that has not waited. -/
theorem Accounted.relay (h : Accounted out n) (a : Relay.Action) :
    Accounted out (n.onRelay fun r => r.act a).1 := by
  unfold onRelay
  cases hr : n.relay with
  | none => exact h
  | some r =>
    obtain ⟨fewer, apart⟩ := Relay.sent_act_sublist (h.apart r hr) a
    have waits : n.queued = r.queued := by rw [queued, hr]; rfl
    have sourced := h.sourced
    rw [waits] at sourced
    obtain ⟨carried, same⟩ := Sourced.carry (n := { n with relay := some (r.act a).1 })
      (r.act a).1.addresses.south (sourced.fewer fewer)
    refine ⟨fun r' hr' => ?_, ?_⟩
    · rw [same] at hr'
      rwa [← Option.some.inj hr']
    · rw [queued, same]
      exact carried

theorem Accounted.endpoint (h : Accounted out n) (i : Nat) (a : Endpoint.Action) :
    Accounted out (n.onEndpoint i fun e => e.act a).1 := by
  unfold onEndpoint
  cases he : n.endpoint? i with
  | none => exact h
  | some e =>
    have set : Accounted out (n.setEndpoint i (e.act a).1) := by
      refine ⟨h.apart, fun e' he' => ?_⟩
      rcases List.mem_or_eq_of_mem_set he' with old | rfl
      · exact h.sourced e' old
      · obtain ⟨fs, accounts, comes⟩ := h.sourced e (List.mem_of_getElem? he)
        have acts := accounts.act a
        refine ⟨fs, acts.id_eq ▸ acts, ?_⟩
        rw [acts.id_eq]
        exact comes
    exact set.postsAll _ fun f hf => ⟨e.id, topic_of_sent hf⟩

/-- A relay and endpoints that were just made. -/
structure Fresh (n : Network) : Prop where
  relay : ∀ r, n.relay = some r → ∃ isDirectory a, Relay.create isDirectory a = .ok r
  endpoints : ∀ e ∈ n.endpoints, ∃ id a handler, Endpoint.create id a handler = .ok e

theorem Fresh.accounted (fresh : n.Fresh) : Accounted [] n := by
  have empty : n.queued = [] := by
    unfold queued
    cases hr : n.relay with
    | none => rfl
    | some r =>
      obtain ⟨isDirectory, a, created⟩ := fresh.relay r hr
      rw [Relay.eq_of_create created]
      rfl
  refine ⟨fun r hr => ?_, fun e he => ?_⟩
  · obtain ⟨isDirectory, a, created⟩ := fresh.relay r hr
    rw [Relay.eq_of_create created]
    exact .inr rfl
  · obtain ⟨id, a, handler, created⟩ := fresh.endpoints e he
    exact ⟨[], (fresh_of_create created).1, by rw [empty]; exact .refl _⟩

theorem published_concat (steps : List Step) (st : Step) :
    published (steps ++ [st]) = published steps ++ published [st] :=
  List.filterMap_append

theorem accounted_run (fresh : n.Fresh) (steps : List Step) :
    Accounted (published steps) (n.run steps).1 := by
  refine runSteps_induction step (fun steps n _ => Accounted (published steps) n) ?_ n
    fresh.accounted steps
  intro before n _ h st
  rw [published_concat]
  cases st with
  | publish north m => exact h.publishes north m
  | relay a =>
    rw [show published [.relay a] = [] from rfl, List.append_nil]
    exact h.relay a
  | endpoint i a =>
    rw [show published [.endpoint i a] = [] from rfl, List.append_nil]
    exact h.endpoint i a

/-! ## What endpoints send -/

section Lists

variable {i : Nat} {steps : List Step} {st : Step} {effects effects' : List Effect}

theorem sentBy_append : sentBy i (effects ++ effects') = sentBy i effects ++ sentBy i effects' :=
  List.filterMap_append

theorem asked_concat : asked i (steps ++ [st]) = asked i steps ++ asked i [st] :=
  List.filterMap_append

theorem sentBy_self (i : Nat) (fs : List Frame) : sentBy i (fs.map (.sent i)) = fs := by
  rw [sentBy, List.filterMap_map]
  simp

theorem sentBy_ne {j : Nat} (h : j ≠ i) (fs : List Frame) : sentBy i (fs.map (.sent j)) = [] := by
  rw [sentBy, List.filterMap_map]
  simp [h]

theorem sentBy_relay (xs : List Relay.Effect) : sentBy i (xs.map .relay) = [] := by
  rw [sentBy, List.filterMap_map]
  simp

end Lists

/-- An endpoint that is still the same, though it may wait for other messages. -/
structure Same (e e' : Endpoint) : Prop where
  id_eq : e'.id = e.id
  handler_eq : e'.handler = e.handler
  handled_eq : e'.handled = e.handled

theorem endpoint?_carry (south : String) (effects : List Relay.Effect) {i : Nat} {e : Endpoint}
    (h : n.endpoint? i = some e) :
    ∃ e', (n.carry south effects).endpoint? i = some e' ∧ Same e e' := by
  unfold carry
  induction effects generalizing n e with
  | nil => exact ⟨e, h, rfl, rfl, rfl⟩
  | cons x effects ih =>
    rw [List.foldl_cons]
    cases x with
    | south m =>
      have spread : (n.spread south m).endpoint? i =
          some (if e.addresses.south = south then e.deliver m else e) := by
        show (n.endpoints.map _)[i]? = _
        rw [List.getElem?_map]
        exact congrArg (Option.map _) h
      obtain ⟨e', he', same⟩ := ih spread
      refine ⟨e', he', ?_⟩
      split at same <;> exact ⟨same.id_eq, same.handler_eq, same.handled_eq⟩
    | north m | observed f => exact ih h

theorem endpoint?_publishAll (north : String) (fs : List Frame) (i : Nat) :
    (n.publishAll north fs).endpoint? i = n.endpoint? i := by
  unfold publishAll
  induction fs generalizing n with
  | nil => rfl
  | cons f fs ih =>
    rw [List.foldl_cons, ih, endpoint?, (publish_cases n north f.toMessage).1]
    rfl

theorem endpoint?_onRelay (f : Relay → Relay × List Relay.Effect) {i : Nat} {e : Endpoint}
    (h : n.endpoint? i = some e) : ∃ e', (n.onRelay f).1.endpoint? i = some e' ∧ Same e e' := by
  unfold onRelay
  cases n.relay with
  | none => exact ⟨e, h, rfl, rfl, rfl⟩
  | some r => exact endpoint?_carry (n := { n with relay := some (f r).1 }) _ _ h

theorem onEndpoint_self (f : Endpoint → Endpoint × List Frame) {i : Nat} {e : Endpoint}
    (h : n.endpoint? i = some e) :
    (n.onEndpoint i f).1.endpoint? i = some (f e).1 ∧ (n.onEndpoint i f).2 = (f e).2 := by
  unfold onEndpoint
  rw [h]
  refine ⟨?_, rfl⟩
  dsimp only
  rw [endpoint?_publishAll, endpoint?, setEndpoint]
  exact List.getElem?_set_self (List.getElem?_eq_some_iff.mp h).1

theorem onEndpoint_ne (f : Endpoint → Endpoint × List Frame) {i j : Nat} (hj : j ≠ i) :
    (n.onEndpoint j f).1.endpoint? i = n.endpoint? i := by
  unfold onEndpoint
  split
  · rfl
  · dsimp only
    rw [endpoint?_publishAll, endpoint?, setEndpoint]
    exact List.getElem?_set_ne hj

/-- What an endpoint sent are the replies of its handler, and what it was asked to send. -/
structure Tracks (e₀ e : Endpoint) (asked : List Bytes) (sent : List Frame) : Prop where
  id_eq : e.id = e₀.id
  handler_eq : e.handler = e₀.handler
  perm : sent.Perm (replies e₀.id e₀.handler [] e.handled ++ posted e₀.id asked)
  ordered : asked = [] → sent = replies e₀.id e₀.handler [] e.handled

theorem Tracks.same {e₀ e e' : Endpoint} {asked : List Bytes} {sent : List Frame}
    (h : Tracks e₀ e asked sent) (same : Same e e') : Tracks e₀ e' asked sent := by
  obtain ⟨id_eq, handler_eq, handled_eq⟩ := same
  exact ⟨id_eq.trans h.id_eq, handler_eq.trans h.handler_eq, handled_eq ▸ h.perm,
    handled_eq ▸ h.ordered⟩

theorem Tracks.act {e₀ e : Endpoint} {before : List Bytes} {sent : List Frame}
    (h : Tracks e₀ e before sent) (i : Nat) (a : Endpoint.Action) :
    Tracks e₀ (e.act a).1 (before ++ asked i [.endpoint i a]) (sent ++ (e.act a).2) := by
  rcases act_cases e a with ⟨payload, rfl, posts⟩ | ⟨other, answers⟩
  · have now : asked i [.endpoint i (.send payload)] = [payload] := by simp [asked]
    rw [posts, now]
    refine ⟨h.id_eq, h.handler_eq, ?_, fun none => absurd none (by simp)⟩
    rw [h.id_eq, posted, posted, List.filterMap_append, ← List.append_assoc]
    exact h.perm.append_right _
  · have none : asked i [.endpoint i a] = [] := by
      cases a with
      | send payload => exact absurd rfl (other payload)
      | listen | stop | halt | work => rfl
    obtain ⟨fs, handled, replied⟩ := answers.replied
    rw [none, List.append_nil, replied, h.id_eq, h.handler_eq]
    refine ⟨answers.id_eq.trans h.id_eq, answers.handler_eq.trans h.handler_eq, ?_, fun hb => ?_⟩
    · rw [handled, replies_append, List.nil_append, List.append_assoc]
      refine (h.perm.append_right _).trans ?_
      rw [List.append_assoc]
      exact List.perm_append_comm.append_left _
    · rw [handled, replies_append, h.ordered hb, List.nil_append]

theorem tracks_run (fresh : n.Fresh) {i : Nat} {e₀ : Endpoint} (he₀ : n.endpoint? i = some e₀)
    (steps : List Step) :
    ∃ e, (n.run steps).1.endpoint? i = some e ∧
      Tracks e₀ e (asked i steps) (sentBy i (n.run steps).2) := by
  refine runSteps_induction step
    (fun steps n effects => ∃ e, n.endpoint? i = some e ∧
      Tracks e₀ e (asked i steps) (sentBy i effects)) ?_ n ?_ steps
  · rintro before n effects ⟨e, he, h⟩ st
    rw [asked_concat, sentBy_append]
    cases st with
    | publish north m =>
      refine ⟨e, ?_, ?_⟩
      · show (n.publish north m).endpoint? i = some e
        rw [endpoint?, (publish_cases n north m).1]
        exact he
      · simpa [asked, sentBy, step] using h
    | relay a =>
      obtain ⟨e', he', same⟩ := endpoint?_onRelay (fun r => r.act a) he
      refine ⟨e', he', ?_⟩
      show Tracks e₀ e' (asked i before ++ []) (sentBy i effects ++ sentBy i (List.map _ _))
      rw [sentBy_relay, List.append_nil, List.append_nil]
      exact h.same same
    | endpoint j a =>
      show ∃ e, (n.onEndpoint j fun e => e.act a).1.endpoint? i = some e ∧ Tracks e₀ e
        (asked i before ++ asked i [.endpoint j a])
        (sentBy i effects ++ sentBy i ((n.onEndpoint j fun e => e.act a).2.map (.sent j)))
      by_cases hj : j = i
      · subst hj
        obtain ⟨acts, sends⟩ := onEndpoint_self (fun e => e.act a) he
        refine ⟨_, acts, ?_⟩
        rw [sends, sentBy_self]
        exact h.act j a
      · have quiet : asked i [.endpoint j a] = [] := by cases a <;> simp [asked, hj]
        refine ⟨e, (onEndpoint_ne (fun e => e.act a) hj).trans he, ?_⟩
        rw [quiet, sentBy_ne hj, List.append_nil, List.append_nil]
        exact h
  · obtain ⟨id, a, handler, created⟩ := fresh.endpoints e₀ (List.mem_of_getElem? he₀)
    have none := (fresh_of_create created).2
    refine ⟨e₀, he₀, rfl, rfl, ?_, fun _ => ?_⟩
    · rw [none]
      exact .refl _
    · rw [none]
      rfl

/-! ## The main statement -/

/-- What endpoints send has a topic under which no endpoint receives. -/
theorem topic_of_sent_run (n : Network) (steps : List Step) :
    ∀ j f, .sent j f ∈ (n.run steps).2 → ∃ id, f.topic = utf8 (id ++ "_north_topic") := by
  refine runSteps_induction step
    (fun _ _ effects => ∀ j f, .sent j f ∈ effects → ∃ id, f.topic = utf8 (id ++ "_north_topic"))
    ?_ n (fun _ _ none => absurd none List.not_mem_nil) steps
  intro _ n _ before st j f h
  rcases List.mem_append.mp h with old | now
  · exact before j f old
  cases st with
  | publish north m => exact absurd now List.not_mem_nil
  | relay a =>
    obtain ⟨x, -, other⟩ := List.mem_map.mp now
    cases other
  | endpoint i a =>
    obtain ⟨f', sends, same⟩ := List.mem_map.mp now
    cases same
    cases he : n.endpoint? j with
    | none =>
      rw [he] at sends
      exact absurd sends List.not_mem_nil
    | some e =>
      rw [he] at sends
      exact ⟨e.id, topic_of_sent sends⟩

theorem length_carry (n : Network) (south : String) (effects : List Relay.Effect) :
    (n.carry south effects).endpoints.length = n.endpoints.length := by
  unfold carry
  induction effects generalizing n with
  | nil => rfl
  | cons x effects ih =>
    rw [List.foldl_cons, ih]
    cases x with
    | south m => exact List.length_map _
    | north m | observed f => rfl

theorem length_publishAll (n : Network) (north : String) (fs : List Frame) :
    (n.publishAll north fs).endpoints.length = n.endpoints.length :=
  congrArg List.length (List.ext_getElem? (endpoint?_publishAll north fs))

theorem length_endpoints_run (n : Network) (steps : List Step) :
    (n.run steps).1.endpoints.length = n.endpoints.length := by
  refine runSteps_invariant step (fun n' => n'.endpoints.length = n.endpoints.length) ?_ n steps rfl
  intro n' st h
  rw [← h]
  cases st with
  | publish north m => exact congrArg List.length (publish_cases n' north m).1
  | relay a =>
    show (n'.onRelay fun r => r.act a).1.endpoints.length = _
    unfold onRelay
    cases n'.relay with
    | none => rfl
    | some r => exact length_carry { n' with relay := some (r.act a).1 } _ _
  | endpoint i a =>
    show (n'.onEndpoint i fun e => e.act a).1.endpoints.length = _
    unfold onEndpoint
    split
    · rfl
    · exact (length_publishAll _ _ _).trans List.length_set

/-- The frames that an endpoint handled are among the messages published from outside, and are all
under the topic under which it receives. -/
theorem handled_of_accounted {steps : List Step} (h : Accounted (published steps) n) {e : Endpoint}
    (he : e ∈ n.endpoints) :
    (e.handled.map Frame.toMessage).Sublist (published steps) ∧
      ∀ f ∈ e.handled, f.topic = utf8 (e.id ++ "_south_topic") := by
  obtain ⟨fs, accounts, comes⟩ := h.sourced e he
  have among : e.handled.Sublist ((published steps).filterMap (addressed? e.id)) :=
    accounts.first.sublist.trans ((List.sublist_append_left _ _).trans comes)
  refine ⟨(among.map _).trans toMessage_addressed?, fun f hf => ?_⟩
  obtain ⟨m, -, hm⟩ := List.mem_filterMap.mp (among.subset hf)
  exact (topic_of_addressed? hm).1

/-- **There are no loops.** Whatever the ids of the endpoints are, and whatever their handlers make
them send: in every run, no frame that an endpoint sent comes to a handler. What an endpoint handles
are messages from outside, each at most once and in order, so that all handlers together are called
at most once for each endpoint and message from outside; and what an endpoint sends are the replies
to these, and what it is asked to send from elsewhere. One that sends every payload back sends,
under its own topic and in order, exactly the payloads received that are not empty. -/
theorem loop_free (fresh : n.Fresh) (steps : List Step) :
    let after := (n.run steps).1
    let es := (n.run steps).2
    (∀ i j f e, .sent j f ∈ es → after.endpoint? i = some e → f ∉ e.handled) ∧
    (after.endpoints.flatMap Endpoint.handled).length ≤
      n.endpoints.length * (published steps).length ∧
    ∀ i e₀, n.endpoint? i = some e₀ → ∃ e, after.endpoint? i = some e ∧ e.id = e₀.id ∧
      (e.handled.map Frame.toMessage).Sublist (published steps) ∧
      (∀ f ∈ e.handled, f.topic = utf8 (e₀.id ++ "_south_topic")) ∧
      (sentBy i es).Perm
        (replies e₀.id e₀.handler [] e.handled ++ posted e₀.id (asked i steps)) ∧
      (e₀.handler = some .echo → asked i steps = [] →
        sentBy i es = (e.handled.filter fun f => f.payload ≠ []).map fun f =>
          ⟨utf8 (e₀.id ++ "_north_topic"), f.payload⟩) := by
  intro after es
  have accounted := accounted_run fresh steps
  refine ⟨fun i j f e sends he handles => ?_, ?_, fun i e₀ he₀ => ?_⟩
  · obtain ⟨id, north⟩ := topic_of_sent_run n steps j f sends
    have south := (handled_of_accounted accounted (List.mem_of_getElem? he)).2 f handles
    exact publishTopic_ne id e.id (north.symm.trans south)
  · have each : ∀ k ∈ after.endpoints.map fun e => e.handled.length,
        k ≤ (published steps).length := by
      intro k hk
      obtain ⟨e, he, rfl⟩ := List.mem_map.mp hk
      have few := (handled_of_accounted accounted he).1.length_le
      rwa [List.length_map] at few
    have all := List.sum_le_card_nsmul _ _ each
    rw [List.length_map, length_endpoints_run, Nat.nsmul_eq_mul] at all
    rwa [List.length_flatMap]
  · obtain ⟨e, he, tracks⟩ := tracks_run fresh he₀ steps
    obtain ⟨among, south⟩ := handled_of_accounted accounted (List.mem_of_getElem? he)
    rw [tracks.id_eq] at south
    refine ⟨e, he, tracks.id_eq, among, south, tracks.perm, fun echoes quiet => ?_⟩
    rw [tracks.ordered quiet, echoes, replies_echo, posted_eq, List.filter_map, List.map_map]
    rfl

/-- Two endpoints of one id, and between them one whose id is the topic of theirs: its reply passes
their inboxes and is not handled. -/
theorem loop_free_prefixed :
    let work : List Step := List.replicate 6 (.relay (.work {})) ++
      [0, 1, 2].flatMap fun i => List.replicate 6 (.endpoint i .work)
    let steps : List Step := .relay (.listen true) ::
      [0, 1, 2].map (fun i => .endpoint i (.listen true)) ++
      [.publish "ipc:///north" [utf8 "A_south_topic_south_topic", [7]],
        .publish "ipc:///north" [utf8 "A_south_topic", []],
        .publish "ipc:///north" [utf8 "A_south_topic", [8]]] ++
      work ++ work
    ∃ n : Network, n.Fresh ∧ n.endpoints.map Endpoint.id = ["A", "A_south_topic", "A"] ∧
      .relay (.south [utf8 "A_south_topic_north_topic", [7]]) ∈ (n.run steps).2 ∧
      ((n.run steps).1.endpoints.flatMap Endpoint.handled).length ≤ 9 ∧
      ∃ e, (n.run steps).1.endpoint? 0 = some e ∧
        (∀ j f, .sent j f ∈ (n.run steps).2 → f ∉ e.handled) ∧
        e.handled = [⟨utf8 "A_south_topic", []⟩, ⟨utf8 "A_south_topic", [8]⟩] ∧
        sentBy 0 (n.run steps).2 = [⟨utf8 "A_north_topic", [8]⟩] := by
  intro work steps
  have relay : Relay.create (fun _ => true) ⟨"ipc:///north", "ipc:///south"⟩ = .ok _ := rfl
  let echo (id : String) : Endpoint :=
    { id := id, addresses := ⟨"ipc:///north", "ipc:///south"⟩, handler := some .echo
      custody := { own := some { prefixes := [utf8 (Topics.ofId id).subscribe] } } }
  have created (id : String) :
      Endpoint.create id ⟨"ipc:///north", "ipc:///south"⟩ (some .echo) = .ok (echo id) := rfl
  let n : Network :=
    { relay := some { addresses := ⟨"ipc:///north", "ipc:///south"⟩ }
      endpoints := ["A", "A_south_topic", "A"].map echo }
  have fresh : n.Fresh := by
    refine ⟨fun r hr => ?_, fun e he => ?_⟩
    · cases hr
      exact ⟨_, _, relay⟩
    · obtain ⟨id, -, rfl⟩ := List.mem_map.mp he
      exact ⟨_, _, _, created id⟩
  obtain ⟨apart, few, each⟩ := loop_free fresh steps
  obtain ⟨e, he, -, -, -, -, echoes⟩ := each 0 (echo "A") rfl
  have handled : e.handled = [⟨utf8 "A_south_topic", []⟩, ⟨utf8 "A_south_topic", [8]⟩] := by
    have all : ((n.run steps).1.endpoint? 0).map Endpoint.handled =
        some [⟨utf8 "A_south_topic", []⟩, ⟨utf8 "A_south_topic", [8]⟩] := by decide +kernel
    rw [he] at all
    exact Option.some.inj all
  refine ⟨n, fresh, rfl, by decide, few.trans (by decide), e, he,
    fun j f sends => apart 0 j f e sends he, handled, ?_⟩
  rw [echoes rfl (by decide), handled]
  decide

end Network

end Fieldbus
