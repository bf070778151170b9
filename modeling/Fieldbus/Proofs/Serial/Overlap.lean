import Fieldbus.Proofs.Serial.Crew

/-!
# Starts and stops that overlap

Any number of threads start and stop the workers of a set. A start works under the lock; a stop
clears the flag before it takes the lock, and waits for the workers after it gave the lock back. So
a start can set the flag again for workers that a stop waits for, or is about to wait for.

* `Crew.InOrder`: at most one pair is alive, and the workers that a stop waits for are told to end.
* `Crew.Clash`: a step that breaks in on a stop.
* `Crew.Calm`: what every other step keeps (`Crew.Calm.step`).
* **`Crew.one_pair_iff`**: the workers are in order all along exactly if no step breaks in on a
  stop; and none does if starts and stops are kept apart.
* `Crew.start_breaks_in`: starts that break in on a stop.
-/

namespace Fieldbus

namespace Call

/-- The call is a start that is under way. -/
def starts : Call → Bool
  | .starting | .flagging | .startingReader | .startingMonitor _ | .abandoning _ => true
  | _ => false

/-- The call is a stop that is under way. -/
def stops : Call → Bool
  | .stopping | .taking | .joining _ => true
  | _ => false

theorem stops_of_mem_joined {a : Call} {w : Worker} (h : w ∈ a.joined) : a.stops = true := by
  cases a with
  | joining => rfl
  | _ => exact absurd h List.not_mem_nil

end Call

namespace Crew

variable {c d : Crew} {i : Nat} {call x : Call}

/-! ## Steps that break in on a stop -/

/-- A stop waits for a worker that is alive. -/
def Waits (c : Crew) : Prop := ∃ w ∈ c.alive, c.awaits w = true

/-- A start sets the flag. -/
def Raises (c : Crew) (s : Step) : Prop :=
  ∃ i succeeds, s = .advance i succeeds ∧ c.calls[i]? = some .flagging

/-- A stop takes the handle of a worker that is alive. -/
def Takes (c : Crew) (s : Step) : Prop :=
  ∃ i succeeds, s = .advance i succeeds ∧ c.calls[i]? = some .taking ∧ c.locked = false ∧
    ∃ w ∈ c.handed, w ∈ c.alive

/-- A step breaks in on a stop: a start sets the flag for workers that a stop waits for, or has set
it since the stop cleared it. -/
def Clash (c : Crew) (s : Step) : Prop := c.Raises s ∧ c.Waits ∨ c.Takes s ∧ c.running = true

theorem not_raises_and_takes {s : Step} (raises : c.Raises s) (takes : c.Takes s) : False := by
  obtain ⟨i, b, rfl, flagging⟩ := raises
  obtain ⟨j, b', same, taking, -⟩ := takes
  obtain ⟨rfl, -⟩ := Step.advance.inj same
  rw [flagging] at taking
  exact absurd (Option.some.inj taking) (by decide)

theorem Turn.alive_cases (turn : c.Turn call x d) :
    d.alive = c.alive ∨ call.spawns = true ∧ ∃ kind, d.alive = c.alive ++ [(c.spawn kind).1] := by
  cases turn with
  | reader => exact .inr ⟨rfl, .reader, rfl⟩
  | monitor => exact .inr ⟨rfl, .monitor, rfl⟩
  | _ => exact .inl rfl

theorem Turn.running (turn : c.Turn call x d) (after : d.running = true) :
    c.running = true ∨ call = .flagging := by
  cases turn with
  | raise => exact .inr rfl
  | noReader | noMonitor | clear => exact absurd after Bool.false_ne_true
  | _ => exact .inl after

theorem Turn.spawns (turn : c.Turn call x d) (after : x.spawns = true) :
    call.spawns = true ∨ call = .flagging := by
  cases turn with
  | raise => exact .inr rfl
  | reader | noMonitor => exact .inl rfl
  | _ => exact absurd after Bool.false_ne_true

theorem Turn.joined (turn : c.Turn call x d) {w : Worker} (after : w ∈ x.joined) :
    w ∈ call.joined ∨ call = .taking ∧ c.locked = false ∧ w ∈ c.handed := by
  cases turn with
  | take r m unlocked some => exact .inr ⟨rfl, unlocked, handed_of_some some ▸ after⟩
  | join v ws => exact .inl (List.mem_cons_of_mem v after)
  | _ => exact absurd after List.not_mem_nil

theorem Turn.taking (turn : c.Turn call x d) (after : x = .taking) : d.running = false := by
  cases turn with
  | clear => rfl
  | _ => exact absurd after (by simp)

variable {s : Step}

theorem running_step (after : (c.step s).running = true) : c.running = true ∨ c.Raises s := by
  rcases step_cases c s with idle | ⟨x, -, added⟩ | ⟨i, b, call, x, d, same, hi, turn, moved⟩ |
    ⟨w, -, ended⟩
  · exact .inl (idle ▸ after)
  · rw [added] at after
    exact .inl after
  · rw [moved] at after
    obtain running | rfl := turn.running after
    · exact .inl running
    · exact .inr ⟨i, b, same, hi⟩
  · rw [ended] at after
    exact .inl after

theorem mem_calls_step {a : Call} (ha : a ∈ (c.step s).calls) :
    a ∈ c.calls ∨ (a = .starting ∨ a = .stopping) ∨
      ∃ i b call d, s = .advance i b ∧ c.calls[i]? = some call ∧ c.Turn call a d ∧
        c.step s = d.setCall i a := by
  rcases step_cases c s with idle | ⟨x, new, added⟩ | ⟨i, b, call, x, d, same, hi, turn, moved⟩ |
    ⟨w, -, ended⟩
  · exact .inl (idle ▸ ha)
  · rw [added] at ha
    obtain old | last := List.mem_append.mp ha
    · exact .inl old
    · exact .inr (.inl (List.mem_singleton.mp last ▸ new))
  · have among : a ∈ x :: c.calls.eraseIdx i :=
      (setCall_perm hi turn.calls_eq x).mem_iff.mp (moved ▸ ha)
    obtain rfl | other := List.mem_cons.mp among
    · exact .inr (.inr ⟨i, b, call, d, same, hi, turn, moved⟩)
    · exact .inl (List.mem_of_mem_eraseIdx other)
  · rw [ended] at ha
    exact .inl ha

theorem spawns_step (after : ∃ a ∈ (c.step s).calls, a.spawns = true) :
    (∃ a ∈ c.calls, a.spawns = true) ∨ c.Raises s := by
  obtain ⟨a, ha, spawns⟩ := after
  obtain old | new | ⟨i, b, call, d, same, hi, turn, -⟩ := mem_calls_step ha
  · exact .inl ⟨a, old, spawns⟩
  · obtain rfl | rfl := new <;> exact absurd spawns (by decide)
  · obtain mine | rfl := turn.spawns spawns
    · exact .inl ⟨call, List.mem_of_getElem? hi, mine⟩
    · exact .inr ⟨i, b, same, hi⟩

theorem alive_step (c : Crew) (s : Step) : (c.step s).alive.Sublist c.alive ∨
    (∃ a ∈ c.calls, a.spawns = true) ∧
      ∃ kind, (c.step s).alive = c.alive ++ [(c.spawn kind).1] := by
  rcases step_cases c s with idle | ⟨x, -, added⟩ | ⟨i, b, call, x, d, -, hi, turn, moved⟩ |
    ⟨w, -, ended⟩
  · rw [idle]
    exact .inl (List.Sublist.refl _)
  · rw [added]
    exact .inl (List.Sublist.refl _)
  · rw [moved]
    obtain same | ⟨spawns, grown⟩ := turn.alive_cases
    · exact .inl (same ▸ List.Sublist.refl _)
    · exact .inr ⟨⟨call, List.mem_of_getElem? hi, spawns⟩, grown⟩
  · rw [ended]
    exact .inl List.filter_sublist

theorem Sound.mem_alive_of_step (h : c.Sound) {w : Worker} (live : w ∈ (c.step s).alive)
    (known : c.Answers w) : w ∈ c.alive := by
  obtain fewer | ⟨-, kind, grown⟩ := alive_step c s
  · exact fewer.subset live
  · obtain old | new := List.mem_append.mp (grown ▸ live)
    · exact old
    · exact absurd (List.mem_singleton.mp new ▸ known) (h.not_answers kind)

theorem Sound.waits_step (h : c.Sound) (after : (c.step s).Waits) : c.Waits ∨ c.Takes s := by
  obtain ⟨w, live, awaited⟩ := after
  obtain ⟨a, ha, joined⟩ := awaits_iff.mp awaited
  have waited : ∀ a ∈ c.calls, w ∈ a.joined → c.Waits := by
    intro a ha joined
    have known : c.Answers w := .inr ⟨a, ha, a.joined_subset_workers joined⟩
    exact ⟨w, h.mem_alive_of_step live known, awaits_iff.mpr ⟨a, ha, joined⟩⟩
  obtain old | new | ⟨i, b, call, d, same, hi, turn, -⟩ := mem_calls_step ha
  · exact .inl (waited a old joined)
  · obtain rfl | rfl := new <;> exact absurd joined List.not_mem_nil
  · obtain mine | ⟨rfl, unlocked, handed⟩ := turn.joined joined
    · exact .inl (waited call (List.mem_of_getElem? hi) mine)
    · exact .inr ⟨i, b, same, hi, unlocked, w, handed, h.mem_alive_of_step live (.inl handed)⟩

/-! ## The workers are in order -/

/-- At most one worker of each kind is alive; and when a stop waits for a worker, the flag is clear,
so that the worker ends as soon as it looks. -/
structure InOrder (c : Crew) : Prop where
  single : (c.alive.map Worker.kind).Nodup
  told : ∀ w ∈ c.alive, c.awaits w = true → c.running = false ∧ w ∉ (c.step (.look w)).alive

/-- The workers are in order, and no stop waits for a worker after a start has set the flag. -/
structure Calm (c : Crew) : Prop where
  single : (c.alive.map Worker.kind).Nodup
  told : c.Waits → c.running = false
  guarded : (∃ a ∈ c.calls, a.spawns = true) → ¬ c.Waits

theorem Calm.initial : Calm {} where
  single := List.nodup_nil
  told := fun _ => rfl
  guarded := by simp

theorem Calm.inOrder (h : c.Calm) : c.InOrder where
  single := h.single
  told := by
    intro w live awaited
    have clear := h.told ⟨w, live, awaited⟩
    exact ⟨clear, by simp [Crew.step, clear]⟩

theorem Sound.single_of_not_waits (h : c.Sound) (none : ¬ c.Waits) :
    (c.alive.map Worker.kind).Nodup := by
  have all : c.alive.filter (fun w => !c.awaits w) = c.alive := by
    refine List.filter_eq_self.mpr fun w live => ?_
    by_contra awaited
    exact none ⟨w, live, by simpa using awaited⟩
  exact all ▸ h.nodup_unawaited

/-- **What a step keeps** that does not break in on a stop. -/
theorem Calm.step (h : c.Calm) (sound : c.Sound) (quiet : ¬ c.Clash s) : (c.step s).Calm := by
  -- While a start has the lock, no stop can take the handles.
  have locked : (∃ a ∈ c.calls, a.spawns = true) → ¬ c.Takes s := by
    rintro ⟨a, ha, spawns⟩ ⟨-, -, -, -, unlocked, -⟩
    have holds := sound.not_holdsLock unlocked ha
    rw [Call.holdsLock_of_spawns spawns] at holds
    exact absurd holds (by decide)
  -- To become true, each of the two needs a step of its own.
  have guarded : (∃ a ∈ (c.step s).calls, a.spawns = true) → ¬ (c.step s).Waits := by
    intro spawns waits
    rcases spawns_step spawns with spawned | raises <;>
      rcases sound.waits_step waits with waited | takes
    · exact h.guarded spawned waited
    · exact locked spawned takes
    · exact quiet (.inl ⟨raises, waited⟩)
    · exact not_raises_and_takes raises takes
  refine ⟨?_, ?_, guarded⟩
  · -- A worker starts only while no stop waits: then nobody else of its kind is alive.
    obtain fewer | ⟨spawned, -⟩ := alive_step c s
    · exact h.single.sublist (fewer.map _)
    · refine (sound.step s).single_of_not_waits fun waits => ?_
      exact (sound.waits_step waits).elim (h.guarded spawned) (locked spawned)
  · intro waits
    by_contra set
    rcases running_step (Bool.of_not_eq_false set) with running | raises <;>
      rcases sound.waits_step waits with waited | takes
    · exact absurd (h.told waited) (by simp [running])
    · exact quiet (.inr ⟨takes, running⟩)
    · exact quiet (.inl ⟨raises, waited⟩)
    · exact not_raises_and_takes raises takes

/-- After a step that breaks in on a stop, a stop waits for a worker that goes on. -/
theorem not_inOrder_of_clash (clash : c.Clash s) : ¬ (c.step s).InOrder := by
  suffices after : (c.step s).Waits ∧ (c.step s).running = true by
    obtain ⟨⟨w, live, awaited⟩, running⟩ := after
    intro order
    exact absurd (order.told w live awaited).1 (by simp [running])
  obtain ⟨⟨i, b, rfl, flagging⟩, w, live, awaited⟩ | ⟨⟨i, b, rfl, taking, unlocked, w, handed, live⟩,
    running⟩ := clash
  · have moved : c.step (.advance i b) = { c with running := true }.setCall i .startingReader := by
      simp only [step, flagging, advance]
    have others : ({ c with running := true } : Crew).calls = c.calls := rfl
    refine ⟨⟨w, moved ▸ live, ?_⟩, moved ▸ rfl⟩
    rw [awaits_iff, exists_mem_of_perm (calls_perm flagging)] at awaited
    rw [moved, awaits_iff, exists_mem_of_perm (setCall_perm flagging others _)]
    exact awaited.imp_left fun none => absurd none List.not_mem_nil
  · cases handles : c.handles with
    | none => exact absurd (handed_of_none handles ▸ handed) List.not_mem_nil
    | some pair =>
      have moved : c.step (.advance i b) =
          { c with handles := none }.setCall i (.joining [pair.1, pair.2]) := by
        simp [step, taking, advance, unlocked, handles]
      have others : ({ c with handles := none } : Crew).calls = c.calls := rfl
      refine ⟨⟨w, moved ▸ live, ?_⟩, moved ▸ running⟩
      rw [moved, awaits_iff, exists_mem_of_perm (setCall_perm taking others _)]
      exact .inl (handed_of_some handles ▸ handed)

/-! ## Starts and stops that are kept apart -/

/-- No start is under way together with a stop. -/
def Apart (c : Crew) : Prop :=
  ∀ a ∈ c.calls, ∀ b ∈ c.calls, a.starts = true → b.stops = false

instance : Decidable c.Apart :=
  inferInstanceAs (Decidable (∀ a ∈ c.calls, ∀ b ∈ c.calls, a.starts = true → b.stops = false))

/-- Who is about to take the handles has cleared the flag. -/
theorem taking_step (after : .taking ∈ (c.step s).calls) :
    .taking ∈ c.calls ∨ (c.step s).running = false := by
  obtain old | new | ⟨i, b, call, d, -, -, turn, moved⟩ := mem_calls_step after
  · exact .inl old
  · exact absurd new (by decide)
  · exact .inr (moved ▸ turn.taking rfl)

theorem Apart.cleared_step (h : c.Apart) (cleared : .taking ∈ c.calls → c.running = false)
    (after : .taking ∈ (c.step s).calls) : (c.step s).running = false := by
  by_contra set
  obtain taking | clear := taking_step after
  · obtain running | ⟨i, b, -, flagging⟩ := running_step (Bool.of_not_eq_false set)
    · exact absurd (cleared taking) (by simp [running])
    · exact absurd (h _ (List.mem_of_getElem? flagging) _ taking rfl) (by decide)
  · exact set clear

theorem Apart.not_clash (h : c.Apart) (cleared : .taking ∈ c.calls → c.running = false) :
    ¬ c.Clash s := by
  rintro (⟨⟨i, b, -, flagging⟩, w, -, awaited⟩ | ⟨⟨i, b, -, taking, -⟩, running⟩)
  · obtain ⟨a, ha, joined⟩ := awaits_iff.mp awaited
    have idle := h _ (List.mem_of_getElem? flagging) a ha rfl
    exact absurd (Call.stops_of_mem_joined joined) (by simp [idle])
  · exact absurd (cleared (List.mem_of_getElem? taking)) (by simp [running])

/-! ## Runs -/

/-- The workers of a new set after the first steps of a run. -/
def after (steps : List Step) (k : Nat) : Crew := ({} : Crew).run (steps.take k)

theorem after_succ {steps : List Step} {k : Nat} (h : steps[k]? = some s) :
    after steps (k + 1) = (after steps k).step s := by
  rw [after, run, List.take_add_one, h, List.foldl_append]
  rfl

/-- What a new set has and every step keeps holds all along. -/
theorem after_induction {p : Crew → Prop} (steps : List Step) (initial : p {})
    (step : ∀ k s, steps[k]? = some s → p (after steps k) → p ((after steps k).step s)) (k : Nat) :
    p (after steps k) := by
  induction k with
  | zero => exact initial
  | succ k ih =>
    cases hs : steps[k]? with
    | none =>
      have same : after steps (k + 1) = after steps k := by
        rw [after, List.take_add_one, hs, Option.toList_none, List.append_nil]
        rfl
      exact same ▸ ih
    | some s => exact after_succ hs ▸ step k s hs ih

theorem after_of_length_le {steps : List Step} {k : Nat} (h : steps.length ≤ k) :
    after steps k = after steps steps.length := by
  rw [after, after, List.take_of_length_le h, List.take_length]

theorem sound_after (steps : List Step) (k : Nat) : (after steps k).Sound :=
  after_induction steps .initial (fun _ s _ h => h.step s) k

theorem calm_after {steps : List Step}
    (quiet : ∀ k s, steps[k]? = some s → ¬ (after steps k).Clash s) (k : Nat) :
    (after steps k).Calm :=
  after_induction steps .initial (fun k s hs h => h.step (sound_after steps k) (quiet k s hs)) k

theorem cleared_after {steps : List Step} (apart : ∀ k, (after steps k).Apart) (k : Nat) :
    .taking ∈ (after steps k).calls → (after steps k).running = false :=
  after_induction (p := fun c => .taking ∈ c.calls → c.running = false) steps (fun _ => rfl)
    (fun k _ _ cleared => (apart k).cleared_step cleared) k

/-- **Starts and stops from any number of threads.** At any time at most one pair is alive that no
stop waits for. The workers are in order all along exactly if no step breaks in on a stop; and they
are if starts and stops are kept apart. -/
theorem one_pair_iff (steps : List Step) :
    (∀ k, (((after steps k).alive.filter fun w => !(after steps k).awaits w).map Worker.kind).Nodup) ∧
    ((∀ k, (after steps k).InOrder) ↔ ∀ k s, steps[k]? = some s → ¬ (after steps k).Clash s) ∧
    ((∀ k, (after steps k).Apart) → ∀ k, (after steps k).InOrder) := by
  have order : (∀ k s, steps[k]? = some s → ¬ (after steps k).Clash s) →
      ∀ k, (after steps k).InOrder := fun quiet k => (calm_after quiet k).inOrder
  refine ⟨fun k => (sound_after steps k).nodup_unawaited, ⟨fun kept k s hs clash => ?_, order⟩,
    fun apart => order fun k s _ => (apart k).not_clash (cleared_after apart k)⟩
  exact not_inOrder_of_clash clash (after_succ hs ▸ kept (k + 1))

/-- Workers that are started, stopped and started again. -/
theorem one_pair_restarted :
    let steps : List Step := .callStart :: List.replicate 4 (.advance 0 true) ++
      [.callStop, .advance 1 true, .advance 1 true, .look ⟨.reader, 0⟩, .look ⟨.monitor, 1⟩] ++
      List.replicate 3 (.advance 1 true) ++ .callStart :: List.replicate 4 (.advance 2 true)
    (∀ k, (after steps k).Apart) ∧ (∀ k, (after steps k).InOrder) ∧
      (after steps 18).alive = [⟨.reader, 2⟩, ⟨.monitor, 3⟩] := by
  intro steps
  have early : ∀ k < steps.length, (after steps k).Apart := by decide
  have late : (after steps steps.length).Apart := by decide
  have apart : ∀ k, (after steps k).Apart := by
    intro k
    by_cases hk : k < steps.length
    · exact early k hk
    · rw [after_of_length_le (by omega)]
      exact late
  exact ⟨apart, (one_pair_iff steps).2.2 apart, by decide⟩

/-- A stop has taken the handles of two workers when a start sets the flag again: two pairs are
alive, and the stop waits for workers that go on. Or a stop has cleared the flag, but not yet taken
the handles, when a start that has the lock sets it. -/
theorem start_breaks_in :
    (let c := (({} : Crew).start.run [.callStop, .advance 1 true, .advance 1 true]).start
     c.alive.map Worker.kind = [.reader, .monitor, .reader, .monitor] ∧ c.running = true ∧
       ∃ w ∈ c.alive, c.awaits w = true ∧ w ∈ (c.step (.look w)).alive) ∧
    let c := ({} : Crew).run ([.callStart, .advance 0 true, .callStop, .advance 1 true] ++
      List.replicate 3 (.advance 0 true) ++ [.advance 1 true])
    c.running = true ∧ ∃ w ∈ c.alive, c.awaits w = true ∧ w ∈ (c.step (.look w)).alive := by
  decide

end Crew

end Fieldbus
