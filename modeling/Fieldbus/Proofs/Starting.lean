import Fieldbus.Proofs.Delivery
import Fieldbus.Proofs.Forwarding

/-!
# Starting a worker

A relay hands its sockets, and an endpoint its inbox, to the worker that it starts, before it is
known whether the worker comes to be. If it does not, they are gone with it.

* `Occurs`, `runSteps_until`: a run up to, and after, the first step at which something comes about.
* `Custody.AtWork`: a worker that is to go on has what there is.
* `Relay.Usable`, `Endpoint.Usable`: what a call for a worker does as long as nothing is lost.
* `Relay.steady_until`, `Endpoint.standing_until`: nothing is lost until a worker cannot be started.
* **`usable_until_start_fails`**: a relay and an endpoint are usable up to the first worker that
  cannot be started. After it a relay answers well and does not run, and an endpoint says that it
  has no handler, although it was made with one.
-/

namespace Fieldbus

/-! ## What comes about in a run -/

section Occurs

variable {σ ι ε : Type} {step : σ → ι → σ × List ε} {P : σ → ι → Prop} {s : σ}

/-- At some step of a run something comes about. -/
def Occurs (step : σ → ι → σ × List ε) (P : σ → ι → Prop) (s : σ) (is : List ι) : Prop :=
  ∃ before i after, is = before ++ i :: after ∧ P (runSteps step s before).1 i

theorem not_occurs_nil : ¬ Occurs step P s [] := by
  rintro ⟨before, i, after, split, -⟩
  exact absurd split.symm (List.append_ne_nil_of_right_ne_nil before (List.cons_ne_nil i after))

theorem occurs_cons {i : ι} {is : List ι} :
    Occurs step P s (i :: is) ↔ P s i ∨ Occurs step P (step s i).1 is := by
  constructor
  · rintro ⟨_ | ⟨j, before⟩, k, after, split, hP⟩
    · obtain ⟨rfl, rfl⟩ := List.cons.inj split
      exact Or.inl hP
    · obtain ⟨rfl, rest⟩ := List.cons.inj split
      exact Or.inr ⟨before, k, after, rest, hP⟩
  · rintro (now | ⟨before, k, after, rfl, hP⟩)
    · exact ⟨[], i, is, rfl, now⟩
    · exact ⟨i :: before, k, after, rfl, hP⟩

/-- What every step keeps but one at which something comes about, and what such a step brings about
and every step keeps from then on. -/
theorem runSteps_until (Until After : σ → Prop)
    (keeps : ∀ s i, Until s → ¬ P s i → Until (step s i).1)
    (turns : ∀ s i, Until s → P s i → After (step s i).1)
    (stays : ∀ s i, After s → After (step s i).1) (start : Until s) (is : List ι) :
    (¬ Occurs step P s is → Until (runSteps step s is).1) ∧
      (Occurs step P s is → After (runSteps step s is).1) := by
  induction is generalizing s with
  | nil => exact ⟨fun _ => start, fun now => absurd now not_occurs_nil⟩
  | cons i is ih =>
    rw [occurs_cons]
    by_cases now : P s i
    · have after := runSteps_invariant step After stays _ is (turns s i start now)
      exact ⟨fun never => absurd (Or.inl now) never, fun _ => after⟩
    · obtain ⟨until_, after⟩ := ih (keeps s i start now)
      refine ⟨fun never => until_ fun later => never (Or.inr later), ?_⟩
      rintro (here | later)
      · exact absurd here now
      · exact after later

end Occurs

/-- A worker that is to go on has what there is. -/
def Custody.AtWork {σ : Type} (c : Custody σ) : Prop :=
  c.running = true ∧ c.own = none ∧
    ∃ s, c.keeper = some (.looking s) ∨ c.keeper = some (.working s)

/-! ## The relay -/

namespace Relay

/-- In this step a worker is to be started and cannot be. -/
def StartFails (r : Relay) : Step → Prop
  | .act (.listen succeeds) => ∃ name, (r.listen succeeds).1 = .error (.noWorker name)
  | _ => False

/-- The sockets are there, a call that is answered well leaves a worker at work with them, and a
call that can start a worker is answered well. -/
structure Usable (r : Relay) : Prop where
  held : ∃ s, r.custody.held? = some s
  runs : ∀ succeeds, (r.listen succeeds).1 = .ok () → (r.listen succeeds).2.custody.AtWork
  starts : (r.listen true).1 = .ok ()

variable {r : Relay} {s : Sockets} {st : Step}

theorem Steady.usable (h : Steady s r.custody) : r.Usable := by
  have held := h.held?
  obtain ⟨a, c, k⟩ := r
  refine ⟨⟨s, held⟩, fun succeeds ok => ?_, ?_⟩
  · cases h with
    | idle =>
      cases succeeds with
      | true => exact ⟨rfl, rfl, s, Or.inl rfl⟩
      | false => cases ok
    | looking => exact ⟨rfl, rfl, s, Or.inl rfl⟩
    | working => exact ⟨rfl, rfl, s, Or.inr rfl⟩
  · cases h <;> rfl

theorem Steady.step_of_not_fails (h : Steady s r.custody) (starts : ¬ r.StartFails st) :
    ∃ s', Steady s' (r.step st).1.custody := by
  by_cases called : st = .act (.listen false)
  · subst called
    obtain ⟨a, c, k⟩ := r
    cases h with
    | idle => exact absurd ⟨_, rfl⟩ starts
    | looking => exact ⟨s, .looking⟩
    | working => exact ⟨s, .working⟩
  · exact h.step called

theorem Steady.step_of_fails (h : Steady s r.custody) (fails : r.StartFails st) :
    (r.step st).1.custody = {} := by
  match st, fails with
  | .act (.listen succeeds), ⟨name, answer⟩ =>
    obtain ⟨a, c, k⟩ := r
    cases h with
    | idle =>
      cases succeeds with
      | true => cases answer
      | false => rfl
    | looking => cases answer
    | working => cases answer

theorem listen_of_bare (bare : r.custody = {}) (succeeds : Bool) :
    r.listen succeeds = (.ok (), r) := by
  obtain ⟨a, c, k⟩ := r
  subst bare
  rfl

theorem step_of_bare (bare : r.custody = {}) (st : Step) : (r.step st).1.custody = {} := by
  obtain ⟨a, c, k⟩ := r
  subst bare
  cases st with
  | data m | control m => rfl
  | act action => cases action <;> rfl

theorem steady_until (a : Addresses) (steps : List Step) :
    (¬ Occurs step StartFails { addresses := a } steps →
      ∃ s, Steady s (run { addresses := a } steps).1.custody) ∧
    (Occurs step StartFails { addresses := a } steps →
      (run { addresses := a } steps).1.custody = {}) := by
  refine runSteps_until (fun r : Relay => ∃ s, Steady s r.custody)
    (fun r : Relay => r.custody = {}) ?keeps ?turns ?stays ⟨{}, .idle⟩ steps
  case keeps =>
    rintro r st ⟨s, h⟩ starts
    exact h.step_of_not_fails starts
  case turns =>
    rintro r st ⟨s, h⟩ fails
    exact h.step_of_fails fails
  case stays =>
    intro r st bare
    exact step_of_bare bare st

end Relay

/-! ## The endpoint -/

/-- The handler did not break down over any of these frames, which it handled in this order, nor did
it stop the endpoint itself. -/
def Handler.Calm (h : Handler) (fs : List Frame) : Prop :=
  ∀ before f, before ++ [f] <+: fs → (h before f).loses = false

theorem Handler.Calm.mono {h : Handler} {fs gs : List Frame} (calm : h.Calm gs) (le : fs <+: gs) :
    h.Calm fs :=
  fun before f here => calm before f (here.trans le)

namespace Endpoint

/-- In this step a worker is to be started and cannot be. -/
def StartFails (e : Endpoint) : Step → Prop
  | .act (.listen succeeds) => ∃ name, (e.listen succeeds).1 = .error (.noWorker name)
  | _ => False

/-- The inbox is there, a call that is answered well leaves a worker at work with it, and a call is
answered well if it can start a worker, and does not miss the handler in any case, unless the
handler loses the inbox while an earlier worker is waited for. -/
structure Usable (h : Handler) (e : Endpoint) : Prop where
  held : ∃ b, e.custody.held? = some b
  runs : ∀ succeeds, (e.listen succeeds).1 = .ok () → (e.listen succeeds).2.1.custody.AtWork
  starts : h.Calm (e.listen true).2.1.handled → (e.listen true).1 = .ok ()
  handles : ∀ succeeds name, h.Calm (e.listen succeeds).2.1.handled →
    (e.listen succeeds).1 ≠ .error (.noHandler name)

/-- The inbox is with the endpoint, which does not listen, or with its worker. A worker that has
ended was told to. -/
inductive Keeps (b : Inbox) : Custody Inbox → Prop where
  | idle : Keeps b ⟨false, some b, none⟩
  | looking (running : Bool) : Keeps b ⟨running, none, some (.looking b)⟩
  | working (running : Bool) : Keeps b ⟨running, none, some (.working b)⟩
  | ended : Keeps b ⟨false, none, some (.ended b)⟩

/-- The inbox is gone, with a worker that broke down or that the endpoint let go of. -/
inductive Gone : Custody Inbox → Prop where
  | broken (running : Bool) : Gone ⟨running, none, some .broken⟩
  | bare : Gone {}

/-- The endpoint has its handler, and its inbox unless the handler lost it. -/
structure Standing (h : Handler) (e : Endpoint) : Prop where
  handler_eq : e.handler = some h
  inbox : (∃ b, Keeps b e.custody) ∨ ¬ h.Calm e.handled ∧ Gone e.custody

variable {h : Handler} {e : Endpoint} {b : Inbox} {st : Step}

section

variable {c : Custody Inbox}

theorem Keeps.held? (hb : Keeps b c) : c.held? = some b := by
  cases hb <;> rfl

theorem Keeps.map (hb : Keeps b c) (f : Inbox → Inbox) : Keeps (f b) (c.map f) := by
  cases hb <;> constructor

theorem Keeps.halt (hb : Keeps b c) : Keeps b c.halt := by
  cases hb <;> constructor

theorem Gone.map (gone : Gone c) (f : Inbox → Inbox) : Gone (c.map f) := by
  cases gone <;> constructor

theorem Gone.halt (gone : Gone c) : Gone c.halt := by
  cases gone <;> constructor

end

theorem handler_goOn (e : Endpoint) (waited : Bool) : (e.goOn waited).1.handler = e.handler := by
  by_cases working : ∃ b, e.custody.keeper = some (.working b)
  · obtain ⟨b, hk⟩ := working
    rw [goOn_of_working hk]
    cases b.waiting with
    | nil => rfl
    | cons m rest =>
      dsimp only
      cases addressed? e.id m <;> rfl
  · rw [goOn_of_not_working fun b hb => working ⟨b, hb⟩]

/-- A worker at work looks at the flag next, unless the handler loses the inbox. A flag that is
clear stays clear. -/
theorem goOn_of_keeps (handler_eq : e.handler = some h) {running : Bool}
    (hc : e.custody = ⟨running, none, some (.working b)⟩) (waited : Bool) :
    ∃ going, (running = false → going = false) ∧
      ((∃ b', (e.goOn waited).1.custody = ⟨going, none, some (.looking b')⟩) ∨
        ¬ h.Calm (e.goOn waited).1.handled ∧
          ((e.goOn waited).1.custody = ⟨going, none, some .broken⟩ ∨
            (e.goOn waited).1.custody = {})) := by
  rw [goOn_of_working (b := b) (by rw [hc])]
  have passed (rest : List Message) :
      ({ e.custody with keeper := some (.looking { b with waiting := rest }) } : Custody Inbox) =
        ⟨running, none, some (.looking { b with waiting := rest })⟩ := by rw [hc]
  cases b.waiting with
  | nil => exact ⟨running, fun clear => clear, Or.inl ⟨_, passed []⟩⟩
  | cons m rest =>
    dsimp only
    cases addressed? e.id m with
    | none => exact ⟨running, fun clear => clear, Or.inl ⟨_, passed rest⟩⟩
    | some f =>
      have reacts : e.reaction f = h e.handled f := by rw [reaction, handler_eq]
      refine ⟨running && !((h e.handled f).stops || (h e.handled f).quits),
        fun clear => by rw [clear]; rfl, ?_⟩
      -- a handler that breaks down or stops the endpoint itself is not calm
      have wild (loses : (h e.handled f).loses = true) :
          ¬ h.Calm (e.handle waited { b with waiting := rest } f).1.handled := by
        intro calm
        have quiet : (h e.handled f).loses = false := calm e.handled f (List.prefix_refl _)
        rw [loses] at quiet
        cases quiet
      cases quits : (h e.handled f).quits && !waited with
      | true =>
        have told : (h e.handled f).quits = true := (Bool.and_eq_true_iff.mp quits).1
        refine Or.inr ⟨wild (by rw [Reaction.loses, told, Bool.or_true]), Or.inr ?_⟩
        simp [handle, reacts, told, (Bool.and_eq_true_iff.mp quits).2, hc]
      | false =>
        cases breaks : (h e.handled f).breaks with
        | false =>
          refine Or.inl ⟨{ b with waiting := rest }, ?_⟩
          simp [handle, reacts, breaks, quits, hc]
        | true =>
          refine Or.inr ⟨wild (by rw [Reaction.loses, breaks, Bool.true_or]), Or.inl ?_⟩
          simp [handle, reacts, breaks, quits, hc]

theorem handled_prefix_goOn (e : Endpoint) (waited : Bool) :
    e.handled <+: (e.goOn waited).1.handled := by
  obtain ⟨f, hf⟩ := handled_goOn e waited
  exact hf ▸ List.prefix_append _ _

theorem Gone.goOn (gone : Gone e.custody) (waited : Bool) :
    (e.goOn waited).1.custody = e.custody := by
  obtain ⟨i, a, hd, c, fs⟩ := e
  cases gone <;> rfl

theorem goOn_of_idle (hc : e.custody = ⟨false, some b, none⟩) (waited : Bool) :
    (e.goOn waited).1.custody = ⟨false, some b, none⟩ := by
  rw [goOn_of_not_working fun b' hb' => by rw [hc] at hb'; cases hb']
  simp [Custody.look, hc]

theorem goOn_of_told (hc : e.custody = ⟨false, none, some (.looking b)⟩) (waited : Bool) :
    (e.goOn waited).1.custody = ⟨false, none, some (.ended b)⟩ := by
  rw [goOn_of_looking (b := b) (by rw [hc]), hc]
  rfl

theorem goOn_of_over (hc : e.custody = ⟨false, none, some (.ended b)⟩) (waited : Bool) :
    (e.goOn waited).1.custody = ⟨false, none, some (.ended b)⟩ := by
  rw [goOn_of_ended (b := b) (by rw [hc]), hc]

theorem Standing.goOn (hS : Standing h e) (waited : Bool) : Standing h (e.goOn waited).1 := by
  refine ⟨(handler_goOn e waited).trans hS.handler_eq, ?_⟩
  rcases hS.inbox with ⟨b, hb⟩ | ⟨lost, gone⟩
  · generalize hc : e.custody = c at hb
    cases hb with
    | idle => exact Or.inl ⟨b, goOn_of_idle hc waited ▸ .idle⟩
    | looking running =>
      rw [goOn_of_looking (b := b) (by rw [hc]), hc]
      cases running with
      | true => exact Or.inl ⟨b, .working true⟩
      | false => exact Or.inl ⟨b, .ended⟩
    | working running =>
      obtain ⟨going, -, ⟨b', looks⟩ | ⟨lost, broken | bare⟩⟩ :=
        goOn_of_keeps hS.handler_eq hc waited
      · exact Or.inl ⟨b', looks ▸ .looking going⟩
      · exact Or.inr ⟨lost, broken ▸ .broken going⟩
      · exact Or.inr ⟨lost, bare ▸ .bare⟩
    | ended => exact Or.inl ⟨b, goOn_of_over hc waited ▸ .ended⟩
  · exact Or.inr
      ⟨fun calm => lost (calm.mono (handled_prefix_goOn e waited)), gone.goOn waited ▸ gone⟩

theorem Gone.join_eq {c : Custody Inbox} (gone : Gone c) (clear : c.running = false) :
    c.join = {} := by
  cases gone with
  | broken running =>
    subst clear
    rfl
  | bare => rfl

/-- Once a worker whose flag is clear was waited for, the endpoint has the inbox back, unless the
handler lost it. -/
theorem Standing.reclaim (hS : Standing h e) (clear : e.custody.running = false) :
    (∃ b, e.reclaim.1.custody = ⟨false, some b, none⟩) ∨
      ¬ h.Calm e.reclaim.1.handled ∧ e.reclaim.1.custody = {} := by
  have joined : e.reclaim.1.custody = ((e.goOn true).1.goOn true).1.custody.join := rfl
  have grown : e.handled <+: e.reclaim.1.handled :=
    (handled_prefix_goOn e true).trans (handled_prefix_goOn (e.goOn true).1 true)
  rcases hS.inbox with ⟨b, hb⟩ | ⟨lost, gone⟩
  · generalize hc : e.custody = c at hb clear
    cases hb with
    | idle => exact Or.inl ⟨b, by rw [joined, goOn_of_idle (goOn_of_idle hc true)]; rfl⟩
    | looking running =>
      subst clear
      exact Or.inl ⟨b, by rw [joined, goOn_of_over (goOn_of_told hc true)]; rfl⟩
    | working running =>
      obtain ⟨going, stays, ⟨b', looks⟩ | ⟨lost, without⟩⟩ := goOn_of_keeps hS.handler_eq hc true
      · rw [stays clear] at looks
        exact Or.inl ⟨b', by rw [joined, goOn_of_told looks]; rfl⟩
      · have gone : Gone (e.goOn true).1.custody := by
          rcases without with broken | bare
          · exact broken ▸ .broken going
          · exact bare ▸ .bare
        have still : (e.goOn true).1.custody.running = false := by
          rcases without with broken | bare
          · rw [broken]
            exact stays clear
          · rw [bare]
        refine Or.inr
          ⟨fun calm => lost (calm.mono (handled_prefix_goOn (e.goOn true).1 true)), ?_⟩
        rw [joined, gone.goOn true]
        exact gone.join_eq still
    | ended => exact Or.inl ⟨b, by rw [joined, goOn_of_over (goOn_of_over hc true)]; rfl⟩
  · refine Or.inr ⟨fun calm => lost (calm.mono grown), ?_⟩
    have same : (e.goOn true).1.custody = e.custody := gone.goOn true
    have gone' : Gone (e.goOn true).1.custody := same ▸ gone
    rw [joined, gone'.goOn true, same]
    exact gone.join_eq clear

theorem handler_reclaim (e : Endpoint) : e.reclaim.1.handler = e.handler :=
  (handler_goOn (e.goOn true).1 true).trans (handler_goOn e true)

theorem handler_readied (e : Endpoint) : e.readied.1.handler = e.handler := by
  unfold readied
  split
  · exact handler_reclaim e
  · rfl

theorem Standing.readied (hS : Standing h e) (idle : ¬ (e.custody.keeper.isSome && e.isListening)) :
    (∃ b, e.readied.1.custody = ⟨false, some b, none⟩) ∨
      ¬ h.Calm e.readied.1.handled ∧ e.readied.1.custody = {} := by
  unfold Endpoint.readied
  by_cases there : e.custody.keeper.isSome
  · rw [if_pos there]
    rw [there, Bool.true_and] at idle
    exact hS.reclaim (Bool.eq_false_iff.mpr idle)
  · rw [if_neg there]
    dsimp only
    rcases hS.inbox with ⟨b, hb⟩ | ⟨broke, gone⟩
    · generalize e.custody = c at hb there
      cases hb with
      | idle => exact Or.inl ⟨b, rfl⟩
      | looking | working | ended => exact absurd rfl there
    · refine Or.inr ⟨broke, ?_⟩
      generalize e.custody = c at gone there
      cases gone with
      | broken => exact absurd rfl there
      | bare => rfl

/-- What a call for a worker comes to at an endpoint. -/
inductive Called (h : Handler) (e : Endpoint) (succeeds : Bool) :
    Except BusError Unit × Endpoint × List Frame → Prop where
  /-- A worker is at work with the inbox. -/
  | works {e' : Endpoint} {sent : List Frame} {b : Inbox} (inbox : Keeps b e'.custody)
      (busy : e'.custody.AtWork) : Called h e succeeds (.ok (), e', sent)
  /-- The inbox is gone with a worker that could not be started. -/
  | fails {e' : Endpoint} {sent : List Frame} {name : String} (fails : succeeds = false)
      (bare : e'.custody = {}) : Called h e succeeds (.error (.noWorker name), e', sent)
  /-- The handler broke down before, and nobody waited for the worker. -/
  | broken (broke : ¬ h.Calm e.handled) (gone : Gone e.custody) :
    Called h e succeeds (.ok (), e, [])
  /-- The handler has lost the inbox. -/
  | misses {e' : Endpoint} {sent : List Frame} {name : String} (broke : ¬ h.Calm e'.handled)
      (gone : Gone e'.custody) : Called h e succeeds (.error (.noHandler name), e', sent)

theorem Standing.called (hS : Standing h e) (succeeds : Bool) :
    Called h e succeeds (e.listen succeeds) := by
  by_cases busy : e.custody.keeper.isSome && e.isListening
  · rw [Endpoint.listen, if_pos busy]
    rw [Bool.and_eq_true] at busy
    obtain ⟨there, going⟩ := busy
    rcases hS.inbox with ⟨b, hb⟩ | ⟨broke, gone⟩
    · refine .works hb ?_
      simp only [isListening] at going
      generalize e.custody = c at hb there going
      cases hb with
      | idle => cases there
      | looking running => exact ⟨going, rfl, b, Or.inl rfl⟩
      | working running => exact ⟨going, rfl, b, Or.inr rfl⟩
      | ended => cases going
    · exact .broken broke gone
  · rw [Endpoint.listen, if_neg busy]
    dsimp only
    rcases hS.readied busy with ⟨b, hc⟩ | ⟨broke, hc⟩
    · rw [if_neg (by rw [hc]; exact Bool.false_ne_true)]
      cases succeeds with
      | true =>
        have started : e.readied.1.custody.start true = ⟨true, none, some (.looking b)⟩ := by
          rw [hc]
          rfl
        rw [if_pos rfl]
        refine .works (b := b) ?_ ?_
        · exact started ▸ .looking true
        · rw [started]
          exact ⟨rfl, rfl, b, Or.inl rfl⟩
      | false => exact .fails rfl (by rw [hc]; rfl)
    · rw [if_pos (by rw [hc]; rfl)]
      exact .misses broke (hc ▸ .bare)

theorem handler_listen (e : Endpoint) (succeeds : Bool) :
    (e.listen succeeds).2.1.handler = e.handler := by
  rw [listen_eq]
  split
  · rfl
  · exact handler_readied e

theorem Standing.usable (hS : Standing h e) (calm : h.Calm e.handled) : Usable h e := by
  refine ⟨?_, fun succeeds ok => ?_, fun later => ?_, fun succeeds name later => ?_⟩
  · rcases hS.inbox with ⟨b, hb⟩ | ⟨broke, -⟩
    · exact ⟨b, hb.held?⟩
    · exact absurd calm broke
  · have called := hS.called succeeds
    generalize e.listen succeeds = result at called ok
    cases called with
    | works inbox busy => exact busy
    | fails | misses => cases ok
    | broken broke => exact absurd calm broke
  · have called := hS.called true
    generalize e.listen true = result at called later
    cases called with
    | works | broken => rfl
    | fails fails => cases fails
    | misses broke => exact absurd later broke
  · have called := hS.called succeeds
    generalize e.listen succeeds = result at called later
    cases called with
    | works | fails | broken => exact fun missed => by cases missed
    | misses broke => exact absurd later broke

theorem Standing.step (hS : Standing h e) (starts : ¬ e.StartFails st) :
    Standing h (e.step st).1 := by
  cases st with
  | deliver m =>
    refine ⟨hS.handler_eq, ?_⟩
    rcases hS.inbox with ⟨b, hb⟩ | ⟨broke, gone⟩
    · exact Or.inl ⟨b.deliver m, hb.map fun b => b.deliver m⟩
    · exact Or.inr ⟨broke, gone.map fun b => b.deliver m⟩
  | act a =>
    have halted : Standing h e.halt := by
      refine ⟨hS.handler_eq, ?_⟩
      rcases hS.inbox with ⟨b, hb⟩ | ⟨broke, gone⟩
      · exact Or.inl ⟨b, hb.halt⟩
      · exact Or.inr ⟨broke, gone.halt⟩
    cases a with
    | send payload => exact hS
    | halt => exact halted
    | work => exact hS.goOn false
    | stop =>
      refine ⟨(handler_reclaim e.halt).trans hS.handler_eq, ?_⟩
      rcases halted.reclaim rfl with ⟨b, hc⟩ | ⟨broke, hc⟩
      · exact Or.inl ⟨b, hc ▸ .idle⟩
      · exact Or.inr ⟨broke, hc ▸ .bare⟩
    | listen succeeds =>
      refine ⟨(handler_listen e succeeds).trans hS.handler_eq, ?_⟩
      have called := hS.called succeeds
      have answered : ¬ ∃ name, (e.listen succeeds).1 = .error (.noWorker name) := starts
      show (∃ b, Keeps b (e.listen succeeds).2.1.custody) ∨
        ¬ h.Calm (e.listen succeeds).2.1.handled ∧ Gone (e.listen succeeds).2.1.custody
      generalize e.listen succeeds = result at called answered
      cases called with
      | works inbox => exact Or.inl ⟨_, inbox⟩
      | fails => exact absurd ⟨_, rfl⟩ answered
      | broken broke gone | misses broke gone => exact Or.inr ⟨broke, gone⟩

theorem Standing.step_of_fails (hS : Standing h e) (fails : e.StartFails st) :
    (e.step st).1.custody = {} := by
  match st, fails with
  | .act (.listen succeeds), ⟨name, answer⟩ =>
    have called := hS.called succeeds
    show (e.listen succeeds).2.1.custody = {}
    generalize e.listen succeeds = result at called answer
    cases called with
    | works | broken | misses => cases answer
    | fails _ bare => exact bare

theorem listen_of_bare (bare : e.custody = {}) (succeeds : Bool) :
    e.listen succeeds = (.error (.noHandler e.id), e, []) := by
  obtain ⟨id, a, hd, c, fs⟩ := e
  subst bare
  rfl

theorem step_of_bare (bare : e.custody = {}) (st : Step) : (e.step st).1 = e := by
  obtain ⟨id, a, hd, c, fs⟩ := e
  subst bare
  cases st with
  | deliver m => rfl
  | act action => cases action <;> rfl

theorem standing_create {id : String} {a : Addresses} (created : create id a (some h) = .ok e) :
    Standing h e := by
  rw [eq_of_create created]
  exact ⟨rfl, Or.inl ⟨_, .idle⟩⟩

theorem standing_until {id : String} {a : Addresses} (created : create id a (some h) = .ok e)
    (steps : List Step) :
    (¬ Occurs step StartFails e steps → Standing h (e.run steps).1) ∧
      (Occurs step StartFails e steps → (e.run steps).1.custody = {}) := by
  refine runSteps_until (Standing h) (fun e : Endpoint => e.custody = {}) ?keeps ?turns ?stays
    (standing_create created) steps
  case keeps =>
    intro e st hS starts
    exact hS.step starts
  case turns =>
    intro e st hS fails
    exact hS.step_of_fails fails
  case stays =>
    intro e st bare
    rw [step_of_bare bare st]
    exact bare

end Endpoint

/-! ## The main statement -/

/-- **Workers that cannot be started.** Whatever is done with a relay, it is usable as long as no
worker failed to start; after the first that did its sockets are gone, and it answers every further
call well without ever running again. Likewise an endpoint with a handler is usable as long as no
worker failed to start and the handler neither broke down nor stopped the endpoint itself; after the
first worker that failed to start its inbox is gone, and it answers every further call by saying
that it has no handler. -/
theorem usable_until_start_fails {isDirectory : String → Bool} {a : Addresses} {r : Relay}
    (relay : Relay.create isDirectory a = .ok r) {id : String} {a' : Addresses} {h : Handler}
    {e : Endpoint} (endpoint : Endpoint.create id a' (some h) = .ok e)
    (steps : List Relay.Step) (steps' : List Endpoint.Step) :
    (let failed := Occurs Relay.step Relay.StartFails r steps
      let after := (r.run steps).1
      (¬ failed → after.Usable) ∧
      (failed → after.custody = {} ∧ ∀ succeeds, after.listen succeeds = (.ok (), after))) ∧
    (let failed := Occurs Endpoint.step Endpoint.StartFails e steps'
      let after := (e.run steps').1
      (¬ failed → h.Calm after.handled → after.Usable h) ∧
      (failed → after.custody = {} ∧
        ∀ succeeds, after.listen succeeds = (.error (.noHandler id), after, []))) := by
  obtain rfl := Relay.eq_of_create relay
  obtain ⟨steady, bare⟩ := Relay.steady_until a steps
  obtain ⟨standing, bare'⟩ := Endpoint.standing_until endpoint steps'
  refine ⟨⟨fun starts => ?_, fun fails => ?_⟩, fun starts calm => ?_, fun fails => ?_⟩
  · obtain ⟨s, h⟩ := steady starts
    exact h.usable
  · exact ⟨bare fails, Relay.listen_of_bare (bare fails)⟩
  · exact (standing starts).usable calm
  · have same : (e.run steps').1.id = id := (Endpoint.Accounts.run endpoint steps').id_eq
    refine ⟨bare' fails, fun succeeds => ?_⟩
    rw [Endpoint.listen_of_bare (bare' fails), same]

/-- A relay whose worker is started, stopped and started again, and an endpoint whose worker cannot
be started the second time. -/
theorem usable_until_start_fails_again :
    ∃ r e, Relay.create (fun _ => true) ⟨"ipc:///north", "ipc:///south"⟩ = .ok r ∧
      Endpoint.create "a" ⟨"ipc:///north", "ipc:///south"⟩ (some Handler.record) = .ok e ∧
      (r.run [.act (.listen true), .act (.stop {}), .act (.listen true)]).1.Usable ∧
      ((e.run [.act (.listen true), .act .stop, .act (.listen false)]).1.listen true).1 =
        .error (.noHandler "a") := by
  have relay : Relay.create (fun _ => true) ⟨"ipc:///north", "ipc:///south"⟩ = .ok _ := rfl
  have endpoint : Endpoint.create "a" ⟨"ipc:///north", "ipc:///south"⟩ (some Handler.record) =
    .ok _ := rfl
  obtain ⟨⟨usable, -⟩, -, lost⟩ := usable_until_start_fails relay endpoint
    [.act (.listen true), .act (.stop {}), .act (.listen true)]
    [.act (.listen true), .act .stop, .act (.listen false)]
  refine ⟨_, _, relay, endpoint, usable ?_, ?_⟩
  · simp only [occurs_cons, Relay.StartFails, false_or, not_or]
    refine ⟨?_, ?_, not_occurs_nil⟩
    all_goals
      rintro ⟨name, answer⟩
      cases answer
  · obtain ⟨-, answers⟩ := lost
      ⟨[.act (.listen true), .act .stop], .act (.listen false), [], rfl, "endpoint-a", rfl⟩
    rw [answers true]

/-- A call that fails does not leave things as they were: a relay then answers a further call well
without running, and an endpoint with a handler answers it by saying that it has none. -/
theorem failed_start_loses :
    (∃ r, Relay.create (fun _ => true) ⟨"ipc:///north", "ipc:///south"⟩ = .ok r ∧
      (r.listen false).1 = .error (.noWorker "relay") ∧
      ((r.listen false).2.listen true).1 = .ok () ∧
      ((r.listen false).2.listen true).2.isRunning = false ∧
      ((r.listen false).2.listen true).2.custody.held? = none) ∧
    ∃ e, Endpoint.create "a" ⟨"ipc:///north", "ipc:///south"⟩ (some Handler.record) = .ok e ∧
      (e.listen true).1 = .ok () ∧
      (e.listen false).1 = .error (.noWorker "endpoint-a") ∧
      ((e.listen false).2.1.listen true).1 = .error (.noHandler "a") :=
  ⟨⟨_, rfl, rfl, rfl, rfl, rfl⟩, _, rfl, rfl, rfl, rfl⟩

end Fieldbus
