import Fieldbus.Bus.Operator
import Fieldbus.Bus.Showing
import Fieldbus.CommandLine.Operator
import Fieldbus.Proofs.Reception

/-!
# What an operator is shown

An operator may ask for a number of frames under some topics, or for all of them. The first frames
that come by under the topics are shown, up to this number, however often calls for them are given
up; and then the command ends.

* `Showing.meant`: the frames that come by for an operator.
* `Showing.frames_run`: what was shown and what waits accounts for them.
* `Showing.Kept`: what the worker keeps, step by step.
* `Showing.Nearing`, `Showing.Nearing.run`: messages that wait are taken, unless the number is
  reached.
* **`raw_delivery`**: what subscribers are given, and what operators are shown.
-/

namespace Fieldbus

namespace Showing

open Reception (Socket Answer framesOf)

variable (s : Showing)

/-! ## The steps of the worker -/

/-- What a step of the worker comes to. -/
inductive Turn (socket : Socket) (now : Nat) : Showing × List Frame → Prop where
  /-- It begins a call. -/
  | begins (looking : s.stage = .looking) (goesOn : s.goesOn = true) :
    Turn socket now ({ s with reception := s.reception.call now slice, stage := .calling }, [])
  | ends (looking : s.stage = .looking) (halted : s.goesOn = false) :
    Turn socket now ({ s with stage := .ended }, [])
  /-- The call goes on. -/
  | waits {r : Reception} (calling : s.stage = .calling)
    (step : s.reception.work socket now = (r, none)) :
    Turn socket now ({ s with reception := r }, [])
  /-- The call returns a frame, which is shown. -/
  | shows {r : Reception} {f : Frame} (calling : s.stage = .calling)
    (step : s.reception.work socket now = (r, some (.frame f))) :
    Turn socket now
      ({ s with reception := r, received := s.received + 1, stage := .looking }, [f])
  /-- The call is given up. -/
  | misses {r : Reception} (calling : s.stage = .calling)
    (step : s.reception.work socket now = (r, some .nothing)) :
    Turn socket now ({ s with reception := r, stage := .looking }, [])
  | fails {r : Reception} (calling : s.stage = .calling)
    (step : s.reception.work socket now = (r, some .failure)) :
    Turn socket now ({ s with reception := r, stage := .failed }, [])
  | rests (halted : s.stage = .ended ∨ s.stage = .failed) : Turn socket now (s, [])

theorem turn_work (socket : Socket) (now : Nat) : s.Turn socket now (s.work socket now) := by
  unfold work
  split
  · next looking =>
    split
    · next goesOn => exact .begins looking goesOn
    · next halted => exact .ends looking (by simpa using halted)
  · next calling =>
    split
    · next step => exact .waits calling step
    · next step => exact .shows calling step
    · next step => exact .misses calling step
    · next step => exact .fails calling step
  · next ended => exact .rests (.inl ended)
  · next failed => exact .rests (.inr failed)

/-! ## What is shown and what waits -/

/-- The message that the relay passes on in a step. -/
def Step.message? : Step → Option Message
  | .relayed m => some m
  | .signal | .work .. => none

/-- The frames that come by for one who follows some prefixes. -/
def meant (ps : List Bytes) (steps : List Step) : List Frame :=
  (steps.filterMap Step.message?).filterMap (Frame.under? ps)

theorem meant_append (ps : List Bytes) (steps steps' : List Step) :
    meant ps (steps ++ steps') = meant ps steps ++ meant ps steps' := by
  simp only [meant, List.filterMap_append]

theorem frames_work (socket : Socket) (now : Nat) :
    (s.work socket now).2 ++ (s.work socket now).1.reception.inbox.frames =
        s.reception.inbox.frames ∧
      (s.work socket now).1.reception.inbox.prefixes = s.reception.inbox.prefixes := by
  obtain ⟨frames, prefixes⟩ := s.reception.frames_work socket now
  have turn := s.turn_work socket now
  generalize s.work socket now = out at turn ⊢
  cases turn with
  | begins => simp only [s.reception.inbox_call, List.nil_append, and_self]
  | ends | rests => exact ⟨rfl, rfl⟩
  | waits _ step | shows _ step | misses _ step | fails _ step =>
    rw [step] at frames prefixes
    exact ⟨frames, prefixes⟩

/-- **Whatever happens**, what is shown and what waits accounts for what waited and came by. -/
theorem frames_step (i : Step) :
    (s.step i).2 ++ (s.step i).1.reception.inbox.frames =
        s.reception.inbox.frames ++ meant s.reception.inbox.prefixes [i] ∧
      (s.step i).1.reception.inbox.prefixes = s.reception.inbox.prefixes := by
  cases i with
  | relayed m =>
    refine ⟨?_, s.reception.inbox.prefixes_deliver m⟩
    refine (s.reception.inbox.frames_deliver_under m).trans (congrArg _ ?_)
    rw [meant, List.filterMap_cons_some (f := Step.message?) rfl]
    cases read : Frame.under? s.reception.inbox.prefixes m <;> simp [read]
  | signal => exact ⟨(List.append_nil _).symm, rfl⟩
  | work socket now =>
    obtain ⟨frames, prefixes⟩ := s.frames_work socket now
    exact ⟨frames.trans (List.append_nil _).symm, prefixes⟩

/-- **After every run** what was shown and what waits accounts for what came by. -/
theorem frames_run (steps : List Step) :
    (s.run steps).2 ++ (s.run steps).1.reception.inbox.frames =
      s.reception.inbox.frames ++ meant s.reception.inbox.prefixes steps := by
  induction steps generalizing s with
  | nil => exact (List.append_nil _).symm
  | cons i steps ih =>
    obtain ⟨frames, prefixes⟩ := s.frames_step i
    have later := ih (s.step i).1
    rw [prefixes] at later
    have split : meant s.reception.inbox.prefixes (i :: steps) = _ := meant_append _ [i] steps
    show (s.step i).2 ++ ((s.step i).1.run steps).2 ++ _ = _
    rw [List.append_assoc]
    show _ ++ (((s.step i).1.run steps).2 ++ ((s.step i).1.run steps).1.reception.inbox.frames) = _
    rw [later, ← List.append_assoc, frames, split, List.append_assoc]

/-! ## How far the worker has come -/

/-- What a run keeps: the number of frames shown is within the limit, a call is under way only while
there is more to show, and a worker that has ended was told to, or has reached the limit. -/
structure Kept (limit : Option Nat) (s : Showing) (shown : List Frame) : Prop where
  limit_eq : s.limit = limit
  received : s.received = shown.length
  within : ∀ n, limit = some n → shown.length ≤ n
  wanted : s.stage = .calling ∨ s.stage = .failed → ∀ n, limit = some n → shown.length < n
  underWay : s.stage = .calling → s.reception.phase ≠ .idle
  idle : s.stage ≠ .calling → s.reception.phase = .idle
  ended : s.stage = .ended → s.running = false ∨ ∃ n, limit = some n ∧ shown.length = n

theorem kept_start (ps : List Bytes) (limit : Option Nat) : Kept limit (start ps limit) [] where
  limit_eq := rfl
  received := rfl
  within _ _ := Nat.zero_le _
  wanted stage := by rcases stage with stage | stage <;> cases stage
  underWay stage := by cases stage
  idle _ := rfl
  ended stage := by cases stage

theorem goesOn_iff :
    s.goesOn = true ↔ s.running = true ∧ ∀ n, s.limit = some n → s.received < n := by
  unfold goesOn
  cases s.limit <;> simp

variable {s : Showing} {limit : Option Nat} {shown : List Frame}

/-- The worker does not go on if it was told not to, or if the limit is reached. -/
theorem Kept.told_or_full (h : Kept limit s shown) (halted : s.goesOn = false) :
    s.running = false ∨ ∃ n, limit = some n ∧ shown.length = n := by
  cases running : s.running with
  | false => exact .inl rfl
  | true =>
    have reached : ¬ ∀ n, s.limit = some n → s.received < n := fun below => by
      rw [s.goesOn_iff.mpr ⟨running, below⟩] at halted
      cases halted
    simp only [not_forall, Nat.not_lt, h.limit_eq, h.received] at reached
    obtain ⟨n, some, le⟩ := reached
    exact .inr ⟨n, some, Nat.le_antisymm (h.within n some) le⟩

theorem Kept.work (h : Kept limit s shown) (socket : Socket) (now : Nat) :
    Kept limit (s.work socket now).1 (shown ++ (s.work socket now).2) := by
  have answered (calling : s.stage = .calling) {r : Reception} {a : Option Answer}
      (step : s.reception.work socket now = (r, a)) : r.phase = .idle ↔ a.isSome := by
    have phase := Reception.phase_work (h.underWay calling) socket now
    rwa [step] at phase
  have turn := s.turn_work socket now
  generalize s.work socket now = out at turn ⊢
  cases turn with
  | begins looking goesOn =>
    have idle := h.idle (by rw [looking]; decide)
    obtain ⟨-, below⟩ := s.goesOn_iff.mp goesOn
    rw [h.limit_eq, h.received] at below
    simp only [List.append_nil]
    exact { h with
      wanted := fun _ => below
      underWay := fun _ => by simp [Reception.call, idle]
      idle := fun stage => absurd rfl stage
      ended := fun stage => by cases stage }
  | ends looking halted =>
    simp only [List.append_nil]
    exact { h with
      wanted := fun stage => by rcases stage with stage | stage <;> cases stage
      underWay := fun stage => by cases stage
      idle := fun _ => h.idle (by rw [looking]; decide)
      ended := fun _ => h.told_or_full halted }
  | waits calling step =>
    simp only [List.append_nil]
    exact { h with
      underWay := fun _ idle => by cases (answered calling step).mp idle
      idle := fun stage => absurd calling stage }
  | shows calling step =>
    have below := h.wanted (.inl calling)
    exact {
      limit_eq := h.limit_eq
      received := by simp [h.received]
      within := fun n some => by
        rw [List.length_append]
        exact below n some
      wanted := fun stage => by rcases stage with stage | stage <;> cases stage
      underWay := fun stage => by cases stage
      idle := fun _ => (answered calling step).mpr rfl
      ended := fun stage => by cases stage }
  | misses calling step =>
    simp only [List.append_nil]
    exact { h with
      wanted := fun stage => by rcases stage with stage | stage <;> cases stage
      underWay := fun stage => by cases stage
      idle := fun _ => (answered calling step).mpr rfl
      ended := fun stage => by cases stage }
  | fails calling step =>
    simp only [List.append_nil]
    exact { h with
      wanted := fun _ => h.wanted (.inl calling)
      underWay := fun stage => by cases stage
      idle := fun _ => (answered calling step).mpr rfl
      ended := fun stage => by cases stage }
  | rests halted =>
    rw [List.append_nil]
    exact h

theorem Kept.step (h : Kept limit s shown) (i : Step) :
    Kept limit (s.step i).1 (shown ++ (s.step i).2) := by
  cases i with
  | relayed m =>
    rw [show (s.step (.relayed m)).2 = [] from rfl, List.append_nil]
    exact { h with }
  | signal =>
    rw [show (s.step .signal).2 = [] from rfl, List.append_nil]
    exact { h with ended := fun _ => .inl rfl }
  | work socket now => exact h.work socket now

theorem Kept.run (h : Kept limit s shown) (steps : List Step) :
    Kept limit (s.run steps).1 (shown ++ (s.run steps).2) := by
  induction steps generalizing s shown with
  | nil =>
    rw [show (s.run []).2 = [] from rfl, List.append_nil]
    exact h
  | cons i steps ih =>
    have later := ih (h.step i)
    rwa [List.append_assoc] at later

theorem running_run {steps : List Step} (calm : .signal ∉ steps) :
    (s.run steps).1.running = s.running := by
  induction steps generalizing s with
  | nil => rfl
  | cons i steps ih =>
    rw [List.mem_cons, not_or] at calm
    refine (ih calm.2).trans ?_
    cases i with
    | relayed m => rfl
    | signal => exact absurd rfl calm.1
    | work socket now =>
      have turn := s.turn_work socket now
      show (s.work socket now).1.running = s.running
      generalize s.work socket now = out at turn ⊢
      cases turn <;> rfl

/-! ## The end -/

/-- A step in which the worker does something. -/
def Step.isWork : Step → Bool
  | .work .. => true
  | .relayed _ | .signal => false

theorem ended_run (ended : s.stage = .ended) (steps : List Step) :
    (s.run steps).1.stage = .ended := by
  induction steps generalizing s with
  | nil => exact ended
  | cons i steps ih =>
    refine ih ?_
    cases i with
    | relayed m => exact ended
    | signal => exact ended
    | work socket now =>
      rw [step, work, ended]
      exact ended

theorem Kept.ends (h : Kept limit s shown) (reached : limit = some shown.length) (socket : Socket)
    (now : Nat) : (s.work socket now).1.stage = .ended := by
  have enough : ¬ (s.stage = .calling ∨ s.stage = .failed) := fun stage =>
    Nat.lt_irrefl _ (h.wanted stage _ reached)
  rw [not_or] at enough
  have turn := s.turn_work socket now
  generalize s.work socket now = out at turn ⊢
  cases turn with
  | begins _ goesOn =>
    have below := (s.goesOn_iff.mp goesOn).2 shown.length (h.limit_eq.trans reached)
    exact absurd below (Nat.not_lt_of_le (Nat.le_of_eq h.received.symm))
  | ends => rfl
  | waits calling | shows calling | misses calling | fails calling => exact absurd calling enough.1
  | rests halted => exact halted.resolve_right enough.2

/-- **At the limit nothing more is shown.** -/
theorem Kept.silent (h : Kept limit s shown) (reached : limit = some shown.length)
    (steps : List Step) : (s.run steps).2 = [] := by
  have within := (h.run steps).within _ reached
  rw [List.length_append] at within
  exact List.length_eq_zero_iff.mp (by omega)

/-- **At the limit the worker ends** as soon as it does something. -/
theorem Kept.closes (h : Kept limit s shown) (reached : limit = some shown.length)
    {steps : List Step} (works : ∃ i ∈ steps, i.isWork = true) :
    (s.run steps).1.stage = .ended := by
  induction steps generalizing s with
  | nil =>
    obtain ⟨i, hi, -⟩ := works
    cases hi
  | cons i steps ih =>
    have quiet : (s.step i).2 ++ [] = [] := h.silent reached [i]
    have kept := h.step i
    rw [List.append_nil] at quiet
    rw [quiet, List.append_nil] at kept
    cases i with
    | work socket now => exact ended_run (h.ends reached socket now) steps
    | relayed m => exact ih kept (by simpa [Step.isWork] using works)
    | signal => exact ih kept (by simpa [Step.isWork] using works)

/-! ## Frames that wait -/

/-- Whether a step is disturbed by a signal. -/
def Step.isInterrupted : Step → Bool
  | .work .interrupted _ => true
  | .work .. | .relayed _ | .signal => false

/-- A step in which nobody tells the command to end and no call fails. -/
def Calm (s : Showing) : Step → Prop
  | .signal => False
  | .work socket _ => s.reception.phase.fails socket = false
  | .relayed _ => True

instance (s : Showing) : DecidablePred s.Calm
  | .signal => inferInstanceAs (Decidable False)
  | .work .. => inferInstanceAs (Decidable (_ = _))
  | .relayed _ => inferInstanceAs (Decidable True)

/-- How many steps the worker takes at most to take `n` messages, if it is not interrupted. -/
def rank (n : Nat) (s : Showing) : Nat :=
  match s.stage with
  | .calling =>
    match s.reception.phase with
    | .timing _ | .idle => 4 * n
    | .waiting _ => 4 * n - 2
    | .taking _ => 4 * n - 3
  | .looking | .ended | .failed => 4 * n - 1

theorem rank_le (n : Nat) (s : Showing) : s.rank n ≤ 4 * n := by
  unfold rank
  split
  · split <;> omega
  all_goals omega

/-- The worker takes at most `n` steps to take some messages that wait, unless it is interrupted. -/
structure Nearing (old : List Message) (n : Nat) (s : Showing) : Prop where
  running : s.running = true
  active : s.stage = .looking ∨ s.stage = .calling
  waits : ∃ new, s.reception.inbox.waiting = old ++ new
  le : s.rank old.length ≤ n

variable {old : List Message} {n : Nat}

theorem Nearing.pos {m : Message} (h : Nearing (m :: old) n s) : 0 < n := by
  have le := h.le
  unfold rank at le
  rw [List.length_cons] at le
  split at le
  · split at le <;> omega
  all_goals omega

theorem Nearing.mono {n' : Nat} (h : Nearing old n s) (le : n ≤ n') : Nearing old n' s :=
  { h with le := Nat.le_trans h.le le }

theorem Nearing.relayed (h : Nearing old n s) (m : Message) :
    Nearing old n (s.step (.relayed m)).1 := by
  obtain ⟨new, waits⟩ := h.waits
  refine ⟨h.running, h.active, ?_, h.le⟩
  show ∃ new, (s.reception.inbox.deliver m).waiting = old ++ new
  unfold Inbox.deliver
  split
  · exact ⟨new ++ [m], by rw [waits, List.append_assoc]⟩
  · exact ⟨new, waits⟩

theorem Nearing.look (kept : Kept limit s shown) (h : Nearing old n s)
    (looking : s.stage = .looking) (socket : Socket) (now : Nat) :
    limit = some shown.length ∨
      (s.work socket now).2 = [] ∧ Nearing old (n - 1) (s.work socket now).1 := by
  have idle := kept.idle (by rw [looking]; decide)
  cases goesOn : s.goesOn with
  | false =>
    rcases kept.told_or_full goesOn with told | ⟨m, some, reached⟩
    · rw [h.running] at told
      cases told
    · exact .inl (reached ▸ some)
  | true =>
    have begins : s.work socket now =
        ({ s with
          reception := { s.reception with phase := .waiting (now + slice) }
          stage := .calling }, []) := by
      simp only [work, looking, goesOn, if_true, Reception.call, idle]
    have le := h.le
    rw [begins]
    refine .inr ⟨rfl, h.running, .inr rfl, h.waits, ?_⟩
    simp only [rank, looking] at le ⊢
    omega

/-- A call that looks at the clock begins anew, or is given up and followed by another one. -/
theorem Nearing.time (h : Nearing old n s) (calling : s.stage = .calling) {d : Nat}
    (timing : s.reception.phase = .timing d) (socket : Socket) (now : Nat) :
    (s.work socket now).2 = [] ∧ Nearing old (n - 1) (s.work socket now).1 := by
  have le := h.le
  simp only [rank, calling, timing] at le
  have clock := Reception.work_of_timing timing socket now
  split at clock
  · have late : s.work socket now =
        ({ s with reception := { s.reception with phase := .idle }, stage := .looking }, []) := by
      simp only [Showing.work, calling, clock]
    rw [late]
    exact ⟨rfl, h.running, .inl rfl, h.waits, Nat.sub_le_sub_right le 1⟩
  · have early : s.work socket now =
        ({ s with reception := { s.reception with phase := .waiting d } }, []) := by
      simp only [Showing.work, calling, clock]
    rw [early]
    refine ⟨rfl, h.running, .inr calling, h.waits, ?_⟩
    simp only [rank, calling]
    omega

/-- **An interruption takes the worker back** by no more than three steps. -/
theorem Nearing.interrupted (kept : Kept limit s shown) (h : Nearing old n s)
    (stands : s.reception.phase.fails .interrupted = false) (now : Nat) :
    limit = some shown.length ∨
      (s.work .interrupted now).2 = [] ∧ Nearing old (n + 3) (s.work .interrupted now).1 := by
  rcases h.active with looking | calling
  · exact (h.look kept looking .interrupted now).imp_right fun ⟨quiet, nearer⟩ =>
      ⟨quiet, nearer.mono (by omega)⟩
  · refine .inr ?_
    have le := h.le
    cases phase : s.reception.phase with
    | idle => exact absurd phase (kept.underWay calling)
    | timing d =>
      obtain ⟨quiet, nearer⟩ := h.time calling phase .interrupted now
      exact ⟨quiet, nearer.mono (by omega)⟩
    | waiting d =>
      have step := Reception.work_of_interrupted phase now
      have again : s.work .interrupted now =
          ({ s with reception := { s.reception with phase := .timing d } }, []) := by
        simp only [Showing.work, calling, step]
      rw [again]
      refine ⟨rfl, h.running, .inr calling, h.waits, ?_⟩
      simp only [rank, calling, phase] at le ⊢
      omega
    | taking d =>
      rw [phase] at stands
      cases stands

/-- **A step of the worker brings it nearer** to having taken the messages that wait, of which it
may take the oldest, unless the limit is reached. -/
theorem Nearing.work {m : Message} (kept : Kept limit s shown) (h : Nearing (m :: old) n s)
    {socket : Reception.Socket} (stands : s.reception.phase.fails socket = false)
    (uninterrupted : socket ≠ .interrupted) (now : Nat) :
    limit = some shown.length ∨ ∃ old',
      (m :: old).filterMap Frame.ofMessage? =
        (s.work socket now).2 ++ old'.filterMap Frame.ofMessage? ∧
      Nearing old' (n - 1) (s.work socket now).1 := by
  obtain ⟨new, waits⟩ := h.waits
  have le := h.le
  rcases h.active with looking | calling
  · refine (h.look kept looking socket now).imp_right fun ⟨quiet, nearer⟩ => ⟨m :: old, ?_, nearer⟩
    rw [quiet]
    rfl
  · refine .inr ?_
    simp only [rank, calling] at le
    -- a socket that is used is sound
    have sound (used : (∃ d, s.reception.phase = .waiting d) ∨ ∃ d, s.reception.phase = .taking d) :
        socket = .sound := by
      cases socket with
      | sound => rfl
      | interrupted => exact absurd rfl uninterrupted
      | broken =>
        rcases used with ⟨d, phase⟩ | ⟨d, phase⟩ <;> rw [phase] at stands <;> cases stands
    cases phase : s.reception.phase with
    | idle => exact absurd phase (kept.underWay calling)
    | timing d =>
      obtain ⟨quiet, nearer⟩ := h.time calling phase socket now
      refine ⟨m :: old, ?_, nearer⟩
      rw [quiet]
      rfl
    | waiting d =>
      obtain rfl := sound (.inl ⟨d, phase⟩)
      have step := Reception.work_of_waiting phase (by rw [waits]; simp) now
      have goesOn : s.work .sound now =
          ({ s with reception := { s.reception with phase := .taking d } }, []) := by
        simp only [Showing.work, calling, step]
      simp only [phase] at le
      rw [goesOn]
      refine ⟨m :: old, rfl, h.running, .inr calling, h.waits, ?_⟩
      simp only [rank, calling]
      omega
    | taking d =>
      obtain rfl := sound (.inr ⟨d, phase⟩)
      simp only [phase] at le
      have waits : s.reception.inbox.waiting = m :: (old ++ new) := waits
      have step := Reception.work_of_taking phase now
      cases read : Frame.ofMessage? m with
      | some f =>
        rw [Reception.takeNext_of_frame waits read] at step
        have shows : s.work .sound now =
            ({ s with
              reception := ⟨{ s.reception.inbox with waiting := old ++ new }, .idle⟩
              received := s.received + 1
              stage := .looking }, [f]) := by
          simp only [Showing.work, calling, step]
        rw [shows]
        refine ⟨old, List.filterMap_cons_some read, h.running, .inl rfl, ⟨new, rfl⟩, ?_⟩
        simp only [rank, List.length_cons] at le ⊢
        omega
      | none =>
        rw [Reception.takeNext_of_other waits read] at step
        have skips : s.work .sound now =
            ({ s with reception := ⟨{ s.reception.inbox with waiting := old ++ new }, .timing d⟩ },
              []) := by
          simp only [Showing.work, calling, step]
        rw [skips]
        refine ⟨old, List.filterMap_cons_none read, h.running, .inr calling, ⟨new, rfl⟩, ?_⟩
        simp only [rank, calling, List.length_cons] at le ⊢
        omega

/-- **Messages that wait are taken**, and the frames among them shown, unless the limit is
reached. -/
theorem Nearing.run {steps : List Step} (kept : Kept limit s shown) (h : Nearing old n s)
    (calm : Throughout step Calm s steps)
    (enough : n + 4 * steps.countP Step.isInterrupted ≤ steps.countP Step.isWork) :
    old.filterMap Frame.ofMessage? <+: (s.run steps).2 ∨
      ∃ m, limit = some m ∧ m ≤ (shown ++ (s.run steps).2).length := by
  induction steps generalizing s shown old n with
  | nil =>
    cases old with
    | nil => exact .inl List.nil_prefix
    | cons m old => exact absurd enough (Nat.not_le_of_lt h.pos)
  | cons i steps ih =>
    cases old with
    | nil => exact .inl List.nil_prefix
    | cons m old =>
      obtain ⟨now, later⟩ := calm
      have atLimit (reached : limit = some shown.length) :
          ∃ m, limit = some m ∧ m ≤ (shown ++ (s.run (i :: steps)).2).length :=
        ⟨_, reached, by rw [List.length_append]; exact Nat.le_add_right _ _⟩
      -- what is shown in this step comes before what is shown later
      have onward {old' : List Message} {n' : Nat}
          (split : (m :: old).filterMap Frame.ofMessage? =
            (s.step i).2 ++ old'.filterMap Frame.ofMessage?)
          (nearer : Nearing old' n' (s.step i).1)
          (enough : n' + 4 * steps.countP Step.isInterrupted ≤ steps.countP Step.isWork) :
          (m :: old).filterMap Frame.ofMessage? <+: (s.run (i :: steps)).2 ∨
            ∃ m, limit = some m ∧ m ≤ (shown ++ (s.run (i :: steps)).2).length := by
        refine (ih (kept.step i) nearer later enough).imp (fun first => ?_)
          fun ⟨k, limited, le⟩ => ?_
        · rw [split]
          exact List.prefix_append_right_inj _ |>.mpr first
        · rw [List.append_assoc] at le
          exact ⟨k, limited, le⟩
      have pos := h.pos
      rw [List.countP_cons, List.countP_cons] at enough
      cases i with
      | signal => exact absurd now id
      | relayed m' => exact onward rfl (h.relayed m') enough
      | work socket time =>
        cases socket with
        | broken | sound =>
          change n + 4 * (steps.countP Step.isInterrupted + 0) ≤ steps.countP Step.isWork + 1
            at enough
          rcases h.work kept now nofun time with reached | ⟨old', split, nearer⟩
          · exact .inr (atLimit reached)
          · exact onward split nearer (by omega)
        | interrupted =>
          change n + 4 * (steps.countP Step.isInterrupted + 1) ≤ steps.countP Step.isWork + 1
            at enough
          rcases h.interrupted kept now time with reached | ⟨quiet, nearer⟩
          · exact .inr (atLimit reached)
          · exact onward (by rw [show (s.step (.work .interrupted time)).2 = [] from quiet]; rfl)
              nearer (by omega)

theorem active_run {steps : List Step} (calm : Throughout step Calm s steps)
    (active : s.stage ≠ .failed) : (s.run steps).1.stage ≠ .failed := by
  induction steps generalizing s with
  | nil => exact active
  | cons i steps ih =>
    obtain ⟨now, later⟩ := calm
    refine ih later ?_
    cases i with
    | relayed m => exact active
    | signal => exact active
    | work socket time =>
      have turn := s.turn_work socket time
      show (s.work socket time).1.stage ≠ .failed
      generalize s.work socket time = out at turn ⊢
      cases turn with
      | begins | ends | shows | misses => simp
      | waits => exact active
      | rests => exact active
      | fails calling step =>
        have failed := (s.reception.work_failure_iff socket time).mp (congrArg Prod.snd step)
        have stands : s.reception.phase.fails socket = false := now
        rw [failed] at stands
        cases stands

theorem untold_of_calm {steps : List Step} (calm : Throughout step Calm s steps) :
    .signal ∉ steps := by
  induction steps generalizing s with
  | nil => exact List.not_mem_nil
  | cons i steps ih =>
    obtain ⟨now, later⟩ := calm
    rw [List.mem_cons, not_or]
    refine ⟨?_, ih later⟩
    rintro rfl
    exact now

/-! ## What an operator is shown -/

/-- What is shown to an operator who follows some prefixes, for a number of frames or without
limit. -/
structure Shows (ps : List Bytes) (limit : Option Nat) : Prop where
  /-- The frames that were shown, and after them those that wait, are at any time those that came
  by, in order and once each. -/
  exactly : ∀ steps, ((start ps limit).run steps).2 ++
    ((start ps limit).run steps).1.reception.inbox.frames = meant ps steps
  /-- No more frames are shown than were asked for. -/
  within : ∀ steps n, limit = some n → ((start ps limit).run steps).2.length ≤ n
  /-- The first frames that came by, up to the limit, are shown, however often calls are given up,
  unless the command is told to end or a call fails before the worker can have taken all messages
  that wait. -/
  promptly : ∀ before after, Throughout step Calm (start ps limit) (before ++ after) →
    4 * (((start ps limit).run before).1.reception.inbox.waiting.length +
      after.countP Step.isInterrupted) ≤ after.countP Step.isWork →
    (meant ps before).take (limit.getD (meant ps before).length) <+:
      ((start ps limit).run (before ++ after)).2
  /-- As soon as as many frames were shown as were asked for, no more are, and the worker ends. -/
  stops : ∀ before after n, limit = some n → ((start ps limit).run before).2.length = n →
    ((start ps limit).run (before ++ after)).2 = ((start ps limit).run before).2 ∧
    ((∃ i ∈ after, i.isWork = true) → ((start ps limit).run (before ++ after)).1.stage = .ended)
  /-- The worker does not end earlier, unless it is told to. -/
  lasts : ∀ steps, .signal ∉ steps → ((start ps limit).run steps).1.stage = .ended →
    ∃ n, limit = some n ∧ ((start ps limit).run steps).2.length = n
  /-- If all messages have come by before, the same frames are shown at once. -/
  atOnce : ∀ ms : List Message, (ms.foldl Inbox.deliver { prefixes := ps }).shown limit =
    Frame.printedAll ((ms.filterMap (Frame.under? ps)).take
      (limit.getD (ms.filterMap (Frame.under? ps)).length))

theorem kept_run (ps : List Bytes) (limit : Option Nat) (steps : List Step) :
    Kept limit ((start ps limit).run steps).1 ((start ps limit).run steps).2 :=
  (kept_start ps limit).run steps

theorem run_append (steps steps' : List Step) :
    (s.run (steps ++ steps')).1 = ((s.run steps).1.run steps').1 ∧
      (s.run (steps ++ steps')).2 = (s.run steps).2 ++ ((s.run steps).1.run steps').2 := by
  unfold run
  rw [runSteps_append]
  exact ⟨rfl, rfl⟩

theorem ended_at_limit (ps : List Bytes) (limit : Option Nat) {steps : List Step}
    (calm : .signal ∉ steps) (ended : ((start ps limit).run steps).1.stage = .ended) :
    ∃ n, limit = some n ∧ ((start ps limit).run steps).2.length = n := by
  refine ((kept_run ps limit steps).ended ended).resolve_left ?_
  rw [running_run calm]
  exact Bool.noConfusion

/-- After a calm beginning all messages that wait are taken, unless the limit is reached. -/
theorem takes_waiting (ps : List Bytes) (limit : Option Nat) {before after : List Step}
    (calm : Throughout step Calm (start ps limit) (before ++ after))
    (enough : 4 * (((start ps limit).run before).1.reception.inbox.waiting.length +
      after.countP Step.isInterrupted) ≤ after.countP Step.isWork) :
    ((start ps limit).run before).1.reception.inbox.frames <+:
        (((start ps limit).run before).1.run after).2 ∨
      ∃ m, limit = some m ∧ m ≤ (((start ps limit).run before).2 ++
        (((start ps limit).run before).1.run after).2).length := by
  obtain ⟨calmBefore, calmAfter⟩ := throughout_append.mp calm
  have untold : .signal ∉ before := untold_of_calm calmBefore
  have kept := kept_run ps limit before
  have active : ((start ps limit).run before).1.stage ≠ .failed :=
    active_run calmBefore fun failed => by cases failed
  have running : ((start ps limit).run before).1.running = true := running_run untold
  have atWork (active : ((start ps limit).run before).1.stage = .looking ∨
      ((start ps limit).run before).1.stage = .calling) :=
    Nearing.run kept ⟨running, active, ⟨[], (List.append_nil _).symm⟩, rank_le _ _⟩ calmAfter
      (by omega)
  cases stage : ((start ps limit).run before).1.stage with
  | looking => exact atWork (.inl stage)
  | calling => exact atWork (.inr stage)
  | failed => exact absurd stage active
  | ended =>
    obtain ⟨n, limited, reached⟩ := ended_at_limit ps limit untold stage
    refine .inr ⟨n, limited, ?_⟩
    rw [List.length_append, reached]
    exact Nat.le_add_right n _

/-- **The first frames are shown** as soon as the worker has had the time. -/
theorem shows_promptly (ps : List Bytes) (limit : Option Nat) {before after : List Step}
    (calm : Throughout step Calm (start ps limit) (before ++ after))
    (enough : 4 * (((start ps limit).run before).1.reception.inbox.waiting.length +
      after.countP Step.isInterrupted) ≤ after.countP Step.isWork) :
    (meant ps before).take (limit.getD (meant ps before).length) <+:
      ((start ps limit).run (before ++ after)).2 := by
  have sofar : _ = meant ps before := (start ps limit).frames_run before
  have all : _ = meant ps (before ++ after) := (start ps limit).frames_run (before ++ after)
  rw [((start ps limit).run_append before after).2]
  rcases takes_waiting ps limit calm enough with taken | ⟨m, limited, reached⟩
  · refine (List.take_prefix _ _).trans ?_
    rw [← sofar]
    exact (List.prefix_append_right_inj _).mpr taken
  · -- both are beginnings of what comes by in the whole run
    rw [((start ps limit).run_append before after).2] at all
    have first : (meant ps before).take (limit.getD (meant ps before).length) <+:
        meant ps (before ++ after) := by
      rw [meant_append]
      exact (List.take_prefix _ _).trans (List.prefix_append _ _)
    have few : limit.getD (meant ps before).length = m := by rw [limited, Option.getD_some]
    refine List.prefix_of_prefix_length_le first ⟨_, all⟩ ?_
    rw [few]
    exact Nat.le_trans (List.length_take_le _ _) reached

/-- **An operator is shown the first frames that come by**, in order and once each, and no more than
were asked for. -/
theorem shows (ps : List Bytes) (limit : Option Nat) : Shows ps limit where
  exactly steps := (start ps limit).frames_run steps
  within steps := (kept_run ps limit steps).within
  promptly _ _ := shows_promptly ps limit
  stops before after n limited reached := by
    have kept := kept_run ps limit before
    have reached : limit = some ((start ps limit).run before).2.length := by rw [reached, limited]
    obtain ⟨last, shown⟩ := (start ps limit).run_append before after
    rw [last, shown, kept.silent reached, List.append_nil]
    exact ⟨rfl, kept.closes reached⟩
  lasts steps := ended_at_limit ps limit
  atOnce ms := by
    have waits : (ms.foldl Inbox.deliver { prefixes := ps }).frames =
        ms.filterMap (Frame.under? ps) := by
      rw [Inbox.frames_deliverAll]
      rfl
    rw [Inbox.shown, Inbox.takeFrames_eq, waits]
    cases limit with
    | some n => rfl
    | none =>
      have all : (ms.filterMap (Frame.under? ps)).length ≤
          (ms.foldl Inbox.deliver { prefixes := ps }).waiting.length := by
        rw [← waits]
        exact List.length_filterMap_le _ _
      rw [Option.getD_none, Option.getD_none, List.take_of_length_le all, List.take_length]

end Showing

theorem under?_all (m : Message) : Frame.under? [[]] m = Frame.ofMessage? m := by
  match m with
  | [] | [_] | _ :: _ :: _ :: _ => rfl
  | [topic, payload] => simp [Frame.under?, Frame.ofMessage?]

/-- **Raw subscribers and operators are given every frame that comes by for them**, in order and
once each; an operator who names no topic is given all traffic. -/
theorem raw_delivery (ps : List Bytes) (a : SubscribeArgs) :
    Reception.Delivers ps ∧ Showing.Shows (a.topics.map utf8) a.count ∧
      (a.latestTopics = [] → ∀ m, Frame.under? (a.topics.map utf8) m = Frame.ofMessage? m) := by
  refine ⟨Reception.delivers ps, Showing.shows _ _, fun none m => ?_⟩
  have everything : a.topics.map utf8 = [[]] := by
    rw [SubscribeArgs.topics, none]
    rfl
  rw [everything, under?_all]

/-- A frame that begins with all of the prefixes, behind a message that is none, is returned once;
one that came by before its prefix was followed is not. An operator who asks for one frame is shown
the first, and none is missed if no topic was named. -/
theorem raw_delivery_overlapping :
    let ps : List Bytes := [[97], [97, 98], [97]]
    let stray : Message := [[97, 98]]
    let early : Message := [[113], [1]]
    let f : Frame := ⟨[97, 98, 99], [2]⟩
    let g : Frame := ⟨[113], [3]⟩
    let before : List Reception.Step := [.relayed stray, .relayed early, .relayed f.toMessage,
      .subscribe [113], .relayed g.toMessage, .call 0 100]
    let after : List Reception.Step :=
      .work .interrupted 1 :: List.replicate 12 (.work .sound 2)
    let messages : List Showing.Step := [.relayed stray, .relayed f.toMessage, .relayed f.toMessage]
    let works : List Showing.Step := List.replicate 12 (.work .sound 200)
    (∃ answers, (((Reception.start ps).run before).1.run after).2 = .frame f :: answers) ∧
      Reception.framesOf ((Reception.start ps).run before).2 ++
        ((Reception.start ps).run before).1.inbox.frames = [f, g] ∧
      [f] <+: ((Showing.start [[]] (some 1)).run (messages ++ works)).2 ∧
      ((Showing.start [[]] (some 1)).run (messages ++ works)).2.length ≤ 1 ∧
      Frame.under? [[]] early = some ⟨[113], [1]⟩ := by
  intro ps stray early f g before after messages works
  obtain ⟨delivers, -, -⟩ := raw_delivery ps {}
  obtain ⟨-, shows, everything⟩ := raw_delivery ps { count := some 1 }
  refine ⟨?_, ?_, ?_, ?_, ?_⟩
  · exact delivers.promptly before after 100 (by decide) (by decide) (by decide) f (by decide)
  · exact (delivers.exactly before).trans (by decide)
  · exact shows.promptly messages works (by decide) (by decide)
  · exact shows.within (messages ++ works) 1 rfl
  · exact everything rfl early

end Fieldbus
