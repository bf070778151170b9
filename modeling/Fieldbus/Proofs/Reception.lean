import Fieldbus.Bus.Reception
import Mathlib.Data.List.Basic

/-!
# Delivery to a subscriber

A subscriber follows topics by any number of prefixes, and its calls for the next frame may be
given up at any time. What its calls have returned and what still waits are nevertheless, in order
and once each, the frames that begin with a prefix that was followed when they came by.

* `Frame.under?`: the frame that a message brings to one who follows some prefixes.
* `Reception.meant`: the frames that come by in a run.
* `Reception.frames_step`, `Reception.frames_run`: what is returned and what waits accounts for
  them.
* `Reception.run_next`: a call that nothing disturbs does what `Inbox.next` does at once.
* `Reception.Nearing`, `Reception.Nearing.run`: a call that is neither given up nor failed returns
  the next frame, whatever comes by meanwhile.
* **`Reception.delivers`**: all of this together.
-/

namespace Fieldbus

/-- The frame that a message brings to one who follows some prefixes. The message has two parts, of
which the first begins with one of them. -/
def Frame.under? (ps : List Bytes) : Message → Option Frame
  | [topic, payload] => if ∃ p ∈ ps, p <+: topic then some ⟨topic, payload⟩ else none
  | _ => none

namespace Inbox

variable (b : Inbox)

theorem frames_deliver_under (m : Message) :
    (b.deliver m).frames = b.frames ++ (Frame.under? b.prefixes m).toList := by
  rw [frames_deliver]
  congr 1
  match m with
  | [] | [_] | _ :: _ :: _ :: _ => simp [Frame.under?, Frame.ofMessage?]
  | [topic, payload] =>
    have same : b.follows [topic, payload] = true ↔ ∃ p ∈ b.prefixes, p <+: topic := by
      simp [follows]
    simp only [Frame.under?, same]
    split <;> rfl

@[simp] theorem prefixes_deliver (m : Message) : (b.deliver m).prefixes = b.prefixes := by
  unfold deliver
  split <;> rfl

theorem frames_deliverAll (ms : List Message) :
    (ms.foldl deliver b).frames = b.frames ++ ms.filterMap (Frame.under? b.prefixes) := by
  induction ms generalizing b with
  | nil => simp
  | cons m ms ih =>
    rw [List.foldl_cons, ih, frames_deliver_under, prefixes_deliver, List.append_assoc]
    cases h : Frame.under? b.prefixes m <;> simp [h]

theorem filterMap_eq_nil_of_firstFrame {ms : List Message} (h : (firstFrame ms).1 = none) :
    ms.filterMap Frame.ofMessage? = [] := by
  induction ms with
  | nil => rfl
  | cons m ms ih =>
    rw [firstFrame] at h
    cases read : Frame.ofMessage? m with
    | some f =>
      rw [read] at h
      cases h
    | none =>
      rw [read] at h
      rw [List.filterMap_cons_none read, ih h]

theorem takeFrames_eq (n : Nat) : (b.takeFrames n).1 = b.frames.take n := by
  induction n generalizing b with
  | zero => rfl
  | succ n ih =>
    have first := b.frames_next
    rw [takeFrames]
    cases next : b.next with
    | mk f rest =>
      cases f with
      | none =>
        have none : b.frames = [] :=
          filterMap_eq_nil_of_firstFrame (congrArg Prod.fst next : b.next.1 = none)
        rw [none]
        rfl
      | some f =>
        rw [next] at first
        simp only [ih, ← first]
        rfl

theorem drain_eq : b.drain.1 = b.frames :=
  (b.takeFrames_eq _).trans (List.take_of_length_le (List.length_filterMap_le _ _))

end Inbox

namespace Reception

variable (r : Reception)

/-! ## What is returned and what waits -/

/-- The frames that come by, in the course of a run, for one who follows some prefixes and may come
to follow more. -/
def meant (ps : List Bytes) : List Step → List Frame
  | [] => []
  | .relayed m :: steps => (Frame.under? ps m).toList ++ meant ps steps
  | .subscribe topic :: steps => meant (ps ++ [topic]) steps
  | .call .. :: steps | .work .. :: steps => meant ps steps

/-- The prefixes that are followed after a run. -/
def followed (ps : List Bytes) : List Step → List Bytes
  | [] => ps
  | .subscribe topic :: steps => followed (ps ++ [topic]) steps
  | .relayed _ :: steps | .call .. :: steps | .work .. :: steps => followed ps steps

/-- The frames among some answers. -/
def framesOf (answers : List Answer) : List Frame := answers.filterMap Answer.frame?

theorem framesOf_append (as as' : List Answer) :
    framesOf (as ++ as') = framesOf as ++ framesOf as' :=
  List.filterMap_append

theorem meant_append (ps : List Bytes) (steps steps' : List Step) :
    meant ps (steps ++ steps') = meant ps steps ++ meant (followed ps steps) steps' := by
  induction steps generalizing ps with
  | nil => rfl
  | cons s steps ih => cases s <;> simp [meant, followed, ih]

theorem inbox_call (now timeout : Nat) : (r.call now timeout).inbox = r.inbox := by
  unfold call
  split <;> rfl

section Taking

variable {r : Reception} {m : Message} {rest : List Message}

theorem takeNext_of_empty (empty : r.inbox.waiting = []) (deadline : Nat) :
    r.takeNext deadline = ({ r with phase := .timing deadline }, none) := by
  simp only [takeNext, Inbox.take, empty]

theorem takeNext_of_frame {f : Frame} (oldest : r.inbox.waiting = m :: rest)
    (read : Frame.ofMessage? m = some f) (deadline : Nat) :
    r.takeNext deadline = (⟨{ r.inbox with waiting := rest }, .idle⟩, some (.frame f)) := by
  simp only [takeNext, Inbox.take, oldest, read]

theorem takeNext_of_other (oldest : r.inbox.waiting = m :: rest) (read : Frame.ofMessage? m = none)
    (deadline : Nat) :
    r.takeNext deadline = (⟨{ r.inbox with waiting := rest }, .timing deadline⟩, none) := by
  simp only [takeNext, Inbox.take, oldest, read]

end Taking

theorem frames_takeNext (deadline : Nat) :
    framesOf (r.takeNext deadline).2.toList ++ (r.takeNext deadline).1.inbox.frames =
        r.inbox.frames ∧
      (r.takeNext deadline).1.inbox.prefixes = r.inbox.prefixes := by
  cases oldest : r.inbox.waiting with
  | nil =>
    rw [takeNext_of_empty oldest]
    exact ⟨rfl, rfl⟩
  | cons m rest =>
    have waits : r.inbox.frames = (m :: rest).filterMap Frame.ofMessage? := by
      rw [Inbox.frames, oldest]
    cases read : Frame.ofMessage? m with
    | some f =>
      rw [takeNext_of_frame oldest read, waits, List.filterMap_cons_some read]
      exact ⟨rfl, rfl⟩
    | none =>
      rw [takeNext_of_other oldest read, waits, List.filterMap_cons_none read]
      exact ⟨rfl, rfl⟩

/-- **A step of a call** returns the oldest frame, or leaves the frames as they are. -/
theorem frames_work (socket : Socket) (now : Nat) :
    framesOf (r.work socket now).2.toList ++ (r.work socket now).1.inbox.frames = r.inbox.frames ∧
      (r.work socket now).1.inbox.prefixes = r.inbox.prefixes := by
  unfold work
  split
  · exact ⟨rfl, rfl⟩
  · split <;> exact ⟨rfl, rfl⟩
  · split <;> exact ⟨rfl, rfl⟩
  · exact r.frames_takeNext _
  all_goals exact ⟨rfl, rfl⟩

/-- **Whatever happens**, what is returned and what waits accounts for what waited and came by. -/
theorem frames_step (s : Step) :
    framesOf (r.step s).2 ++ (r.step s).1.inbox.frames =
        r.inbox.frames ++ meant r.inbox.prefixes [s] ∧
      (r.step s).1.inbox.prefixes = followed r.inbox.prefixes [s] := by
  cases s with
  | relayed m =>
    refine ⟨?_, r.inbox.prefixes_deliver m⟩
    simp only [meant, List.append_nil]
    exact r.inbox.frames_deliver_under m
  | subscribe topic => exact ⟨(List.append_nil _).symm, rfl⟩
  | call now timeout =>
    simp only [step, meant, List.append_nil, r.inbox_call]
    exact ⟨rfl, rfl⟩
  | work socket now =>
    simp only [step, meant, List.append_nil]
    exact r.frames_work socket now

/-- **After every run** what was returned and what waits accounts for what came by. -/
theorem frames_run (steps : List Step) :
    framesOf (r.run steps).2 ++ (r.run steps).1.inbox.frames =
        r.inbox.frames ++ meant r.inbox.prefixes steps := by
  induction steps generalizing r with
  | nil => exact (List.append_nil _).symm
  | cons s steps ih =>
    obtain ⟨frames, prefixes⟩ := r.frames_step s
    have later := ih (r.step s).1
    rw [prefixes] at later
    have split : meant r.inbox.prefixes (s :: steps) = _ := meant_append _ [s] steps
    show framesOf ((r.step s).2 ++ ((r.step s).1.run steps).2) ++ _ = _
    rw [framesOf_append, List.append_assoc]
    show _ ++ (framesOf ((r.step s).1.run steps).2 ++ ((r.step s).1.run steps).1.inbox.frames) = _
    rw [later, ← List.append_assoc, frames, split, List.append_assoc]

/-! ## The steps of a call -/

/-- The time at which the call under way gives up. -/
def Phase.deadline? : Phase → Option Nat
  | idle => none
  | waiting deadline | taking deadline | timing deadline => some deadline

/-- Whether the call fails over how the socket behaves in what it is about to do. A signal ends a
wait early, which is no failure, but keeps the call from taking a message, which is one. -/
def Phase.fails : Phase → Socket → Bool
  | waiting _, .broken | taking _, .broken | taking _, .interrupted => true
  | _, _ => false

section Working

variable {r : Reception} {d : Nat}

theorem work_of_waiting (phase : r.phase = .waiting d) (there : r.inbox.waiting ≠ [])
    (now : Nat) : r.work .sound now = ({ r with phase := .taking d }, none) := by
  simp [work, phase, there]

theorem work_of_taking (phase : r.phase = .taking d) (now : Nat) :
    r.work .sound now = r.takeNext d := by
  simp [work, phase]

theorem work_of_interrupted (phase : r.phase = .waiting d) (now : Nat) :
    r.work .interrupted now = ({ r with phase := .timing d }, none) := by
  simp [work, phase]

theorem work_of_timing (phase : r.phase = .timing d) (socket : Socket) (now : Nat) :
    r.work socket now =
      if d ≤ now then ({ r with phase := .idle }, some .nothing)
      else ({ r with phase := .waiting d }, none) := by
  simp [work, phase]

theorem phase_work (underWay : r.phase ≠ .idle) (socket : Socket) (now : Nat) :
    (r.work socket now).1.phase = .idle ↔ (r.work socket now).2.isSome := by
  unfold work takeNext
  grind

theorem work_failure_iff (r : Reception) (socket : Socket) (now : Nat) :
    (r.work socket now).2 = some .failure ↔ r.phase.fails socket = true := by
  unfold work takeNext Phase.fails
  grind

theorem run_work {socket : Socket} {now : Nat} {r' : Reception} {answer : Option Answer}
    (h : r.work socket now = (r', answer)) (steps : List Step) :
    r.run (.work socket now :: steps) = ((r'.run steps).1, answer.toList ++ (r'.run steps).2) := by
  have step : r.step (.work socket now) = (r', answer.toList) := by simp only [step, h]
  rw [run, runSteps_cons, step]
  rfl

end Working

/-- **A call that nothing disturbs** does what `Inbox.next` does at once: it returns the oldest
frame and skips the messages before it, or goes on waiting if there is none. -/
theorem run_next (ps : List Bytes) (ms : List Message) {now deadline : Nat}
    (early : now < deadline) :
    ∃ k, run ⟨⟨ps, ms⟩, .waiting deadline⟩ (List.replicate k (.work .sound now)) =
      match Inbox.next ⟨ps, ms⟩ with
      | (some f, b) => (⟨b, .idle⟩, [.frame f])
      | (none, b) => (⟨b, .waiting deadline⟩, []) := by
  induction ms with
  | nil => exact ⟨0, rfl⟩
  | cons m ms ih =>
    have finds : work ⟨⟨ps, m :: ms⟩, .waiting deadline⟩ .sound now = _ :=
      work_of_waiting rfl (List.cons_ne_nil m ms) now
    have takes : work ⟨⟨ps, m :: ms⟩, .taking deadline⟩ .sound now = _ := work_of_taking rfl now
    cases read : Frame.ofMessage? m with
    | some f =>
      rw [@takeNext_of_frame ⟨⟨ps, m :: ms⟩, .taking deadline⟩ m ms f rfl read] at takes
      refine ⟨2, ?_⟩
      simp only [List.replicate, run_work finds, run_work takes, Inbox.next, Inbox.firstFrame, read]
      rfl
    | none =>
      rw [@takeNext_of_other ⟨⟨ps, m :: ms⟩, .taking deadline⟩ m ms rfl read] at takes
      have looks : work ⟨⟨ps, ms⟩, .timing deadline⟩ .sound now = _ := work_of_timing rfl .sound now
      rw [if_neg (Nat.not_le_of_lt early)] at looks
      obtain ⟨k, later⟩ := ih
      refine ⟨k + 3, ?_⟩
      simp only [List.replicate, run_work finds, run_work takes, run_work looks, later, Inbox.next,
        Inbox.firstFrame, read]
      rfl

/-! ## Calls that are not given up -/

/-- A step that does not make the call under way end before there is a frame: its time is not over,
and it does not fail. -/
def Lasting (deadline : Nat) (r : Reception) : Step → Prop
  | .work socket now => r.phase.fails socket = false ∧ now < deadline
  | .relayed _ | .subscribe _ | .call .. => True

instance (deadline : Nat) (r : Reception) : DecidablePred (r.Lasting deadline)
  | .work .. => inferInstanceAs (Decidable (_ ∧ _))
  | .relayed _ | .subscribe _ | .call .. => inferInstanceAs (Decidable True)

/-- Whether a call makes a step. -/
def Step.isWork : Step → Bool
  | .work .. => true
  | .relayed _ | .subscribe _ | .call .. => false

/-- Whether a call is interrupted. -/
def Step.isInterrupted : Step → Bool
  | .work .interrupted _ => true
  | .work .. | .relayed _ | .subscribe _ | .call .. => false

/-- How many steps a call that is not interrupted takes at most, with a number of messages before
the next frame. -/
def rank (before : Nat) : Phase → Nat
  | .idle => 0
  | .taking _ => 3 * before + 1
  | .waiting _ => 3 * before + 2
  | .timing _ => 3 * before + 3

/-- A call is under way that gives up at some time, the next frame waits, and the call takes at most
`n` steps to return it, unless it is interrupted. -/
structure Nearing (deadline : Nat) (f : Frame) (n : Nat) (r : Reception) : Prop where
  underWay : r.phase.deadline? = some deadline
  /-- The messages before the frame are none. -/
  waits : ∃ skipped rest, r.inbox.waiting = skipped ++ f.toMessage :: rest ∧
    (∀ m ∈ skipped, Frame.ofMessage? m = none) ∧ rank skipped.length r.phase ≤ n

variable {r : Reception} {deadline n : Nat} {f : Frame}

theorem Nearing.pos (h : Nearing deadline f n r) : 0 < n := by
  obtain ⟨underWay, skipped, rest, -, -, le⟩ := h
  cases phase : r.phase <;> rw [phase] at underWay le
  · cases underWay
  all_goals
    simp only [rank] at le
    omega

theorem Nearing.relayed (h : Nearing deadline f n r) (m : Message) :
    Nearing deadline f n { r with inbox := r.inbox.deliver m } := by
  obtain ⟨underWay, skipped, rest, waits, others, le⟩ := h
  unfold Inbox.deliver
  split
  · refine ⟨underWay, skipped, rest ++ [m], ?_, others, le⟩
    simp only [waits, List.append_assoc, List.cons_append]
  · exact ⟨underWay, skipped, rest, waits, others, le⟩

theorem Nearing.call (h : Nearing deadline f n r) (now timeout : Nat) :
    r.call now timeout = r := by
  have underWay := h.underWay
  unfold Reception.call
  split
  · next idle =>
    rw [idle] at underWay
    cases underWay
  · rfl

/-- **A step of a call brings it nearer to the frame**, or returns the frame. An interruption takes
it back by less than three steps. -/
theorem Nearing.work (h : Nearing deadline f n r) {socket : Socket} {now : Nat}
    (stands : r.phase.fails socket = false) (early : now < deadline) :
    (r.work socket now).2 = some (.frame f) ∨
      (r.work socket now).2 = none ∧ Nearing deadline f
        (if socket = .interrupted then n + 2 else n - 1) (r.work socket now).1 := by
  obtain ⟨underWay, skipped, rest, waits, others, le⟩ := h
  cases phase : r.phase with
  | idle =>
    rw [phase] at underWay
    cases underWay
  | timing d =>
    rw [phase] at underWay le
    obtain rfl := Option.some.inj underWay
    rw [work_of_timing phase, if_neg (by omega)]
    refine .inr ⟨rfl, rfl, skipped, rest, waits, others, ?_⟩
    simp only [rank] at le ⊢
    split <;> omega
  | waiting d =>
    rw [phase] at underWay le
    obtain rfl := Option.some.inj underWay
    cases socket with
    | broken =>
      rw [phase] at stands
      cases stands
    | interrupted =>
      rw [work_of_interrupted phase]
      refine .inr ⟨rfl, rfl, skipped, rest, waits, others, ?_⟩
      simp only [rank, if_true] at le ⊢
      omega
    | sound =>
      rw [work_of_waiting phase (by rw [waits]; simp)]
      refine .inr ⟨rfl, rfl, skipped, rest, waits, others, ?_⟩
      simp only [rank, reduceCtorEq, if_false] at le ⊢
      omega
  | taking d =>
    rw [phase] at underWay le
    obtain rfl := Option.some.inj underWay
    cases socket with
    | broken | interrupted =>
      rw [phase] at stands
      cases stands
    | sound =>
      rw [work_of_taking phase]
      cases skipped with
      | nil =>
        rw [takeNext_of_frame waits f.ofMessage?_toMessage]
        exact .inl rfl
      | cons m skipped =>
        obtain ⟨other, others⟩ := List.forall_mem_cons.mp others
        rw [takeNext_of_other waits other]
        refine .inr ⟨rfl, rfl, skipped, rest, rfl, others, ?_⟩
        simp only [rank, List.length_cons, reduceCtorEq, if_false] at le ⊢
        omega

/-- **A call that has time enough returns the next frame**, whatever comes by meanwhile. -/
theorem Nearing.run {steps : List Step} (h : Nearing deadline f n r)
    (lasting : Throughout step (Lasting deadline) r steps)
    (enough : n + 3 * steps.countP Step.isInterrupted ≤ steps.countP Step.isWork) :
    ∃ answers, (r.run steps).2 = .frame f :: answers := by
  induction steps generalizing r n with
  | nil => exact absurd enough (Nat.not_le_of_lt h.pos)
  | cons s steps ih =>
    obtain ⟨now, later⟩ := lasting
    cases s with
    | relayed m => exact ih (h.relayed m) later enough
    | subscribe topic => exact ih ⟨h.underWay, h.waits⟩ later enough
    | call time timeout =>
      -- another call does nothing while one is under way
      have same : (r.step (.call time timeout)).1 = r := h.call time timeout
      have idle : (r.call time timeout).run steps = r.run steps := by rw [h.call]
      obtain ⟨answers, returned⟩ := ih h (same ▸ later) enough
      exact ⟨answers, (congrArg Prod.snd idle).trans returned⟩
    | work socket time =>
      have split : (r.run (.work socket time :: steps)).2 =
        (r.work socket time).2.toList ++ ((r.work socket time).1.run steps).2 := rfl
      rw [split]
      rcases h.work now.1 now.2 with returned | ⟨goesOn, nearer⟩
      · rw [returned]
        exact ⟨_, rfl⟩
      · rw [goesOn]
        refine ih nearer later ?_
        have pos := h.pos
        rw [List.countP_cons, List.countP_cons] at enough
        cases socket with
        | broken | sound =>
          change n + 3 * (steps.countP Step.isInterrupted + 0) ≤ steps.countP Step.isWork + 1
            at enough
          show n - 1 + 3 * steps.countP Step.isInterrupted ≤ steps.countP Step.isWork
          omega
        | interrupted =>
          change n + 3 * (steps.countP Step.isInterrupted + 1) ≤ steps.countP Step.isWork + 1
            at enough
          show n + 2 + 3 * steps.countP Step.isInterrupted ≤ steps.countP Step.isWork
          omega

/-! ## Deliveries -/

/-- A call under way with a frame waiting is on its way to the oldest one. -/
theorem nearing_of_waits {fs : List Frame} (underWay : r.phase.deadline? = some deadline)
    (waits : r.inbox.frames = f :: fs) : Nearing deadline f (3 * r.inbox.waiting.length) r := by
  obtain ⟨skipped, m, rest, split, others, read, -⟩ := List.filterMap_eq_cons_iff.mp waits
  rw [Frame.ofMessage?_eq_some_iff] at read
  subst read
  refine ⟨underWay, skipped, rest, split, others, ?_⟩
  rw [split, List.length_append, List.length_cons]
  cases r.phase <;> simp only [rank] <;> omega

/-- What a subscriber of some prefixes is given. -/
structure Delivers (ps : List Bytes) : Prop where
  /-- The frames that were returned, and after them those that wait, are at any time those that came
  by for one of the prefixes followed then, in order and once each. -/
  exactly : ∀ steps, framesOf ((start ps).run steps).2 ++ ((start ps).run steps).1.inbox.frames =
    meant ps steps
  /-- As long as not all of them were returned, a call returns the next one, unless the time is over
  or the call fails before it can have taken all messages that wait. -/
  promptly : ∀ before after deadline,
    ((start ps).run before).1.phase.deadline? = some deadline →
    Throughout step (Lasting deadline) ((start ps).run before).1 after →
    3 * (((start ps).run before).1.inbox.waiting.length + after.countP Step.isInterrupted) ≤
      after.countP Step.isWork →
    ∀ f, (meant ps before)[(framesOf ((start ps).run before).2).length]? = some f →
      ∃ answers, (((start ps).run before).1.run after).2 = .frame f :: answers
  /-- Without any prefix nothing is returned. -/
  silent : ps = [] → ∀ steps, (∀ topic, .subscribe topic ∉ steps) →
    framesOf ((start ps).run steps).2 = []
  /-- If nothing is taken until all messages have come by, the same frames can be taken at once. -/
  atOnce : ∀ ms : List Message,
    (ms.foldl Inbox.deliver { prefixes := ps }).drain.1 = ms.filterMap (Frame.under? ps)

theorem under?_nil (m : Message) : Frame.under? [] m = none := by
  unfold Frame.under?
  split
  · simp
  · rfl

theorem meant_nil {steps : List Step} (bare : ∀ topic, .subscribe topic ∉ steps) :
    meant [] steps = [] := by
  induction steps with
  | nil => rfl
  | cons s steps ih =>
    have later := ih fun topic hs => bare topic (List.mem_cons_of_mem s hs)
    cases s with
    | relayed m => rw [meant, under?_nil, later]; rfl
    | subscribe topic => exact absurd List.mem_cons_self (bare topic)
    | call now timeout => exact later
    | work socket now => exact later

/-- **A subscriber is given every frame that came by for it**, in order and once each. -/
theorem delivers (ps : List Bytes) : Delivers ps where
  exactly steps := (start ps).frames_run steps
  promptly before after deadline underWay lasting enough f next := by
    have exactly : _ = meant ps before := (start ps).frames_run before
    rw [← exactly, List.getElem?_append_right (Nat.le_refl _), Nat.sub_self] at next
    cases waits : ((start ps).run before).1.inbox.frames with
    | nil =>
      rw [waits] at next
      cases next
    | cons f' fs =>
      rw [waits] at next
      obtain rfl := Option.some.inj next
      exact (nearing_of_waits underWay waits).run lasting (by omega)
  silent := by
    rintro rfl steps bare
    have exactly := (start []).frames_run steps
    rw [show (start []).inbox.prefixes = [] from rfl, meant_nil bare] at exactly
    exact (List.append_eq_nil_iff.mp exactly).1
  atOnce ms := by
    rw [Inbox.drain_eq, Inbox.frames_deliverAll]
    rfl

end Reception

end Fieldbus
