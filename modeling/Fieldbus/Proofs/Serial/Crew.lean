import Fieldbus.Serial.Crew
import Mathlib.Data.List.Nodup
import Mathlib.Data.List.Perm.Basic

/-!
# The workers of a set, step by step

* `Call.workers`, `Crew.Answers`, `Crew.awaits`: who answers for a worker, and whether a stop waits
  for it.
* `Crew.Turn`, `Crew.step_cases`: what a step does.
* `Crew.Sound`: the lock has one holder, and somebody answers for every worker that is alive; kept
  by every step (`Crew.Sound.step`).
* `Crew.Sound.nodup_unawaited`: at most one pair is alive that no stop waits for.
-/

namespace Fieldbus

namespace Call

/-- The call has the lock. -/
def holdsLock : Call → Bool
  | .flagging | .startingReader | .startingMonitor _ | .abandoning _ => true
  | _ => false

/-- The call is a start that has set the flag. -/
def spawns : Call → Bool
  | .startingReader | .startingMonitor _ | .abandoning _ => true
  | _ => false

/-- The workers that a call answers for. -/
def workers : Call → List Worker
  | .startingMonitor r | .abandoning r => [r]
  | .joining ws => ws
  | _ => []

/-- The workers that a call waits for as a stop. -/
def joined : Call → List Worker
  | .joining ws => ws
  | _ => []

theorem holdsLock_of_spawns {a : Call} (h : a.spawns = true) : a.holdsLock = true := by
  cases a with
  | startingReader | startingMonitor | abandoning => rfl
  | _ => exact absurd h Bool.false_ne_true

theorem eq_of_spawns {a : Call} {v w : Worker} (spawns : a.spawns = true) (hv : v ∈ a.workers)
    (hw : w ∈ a.workers) : v = w := by
  cases a with
  | startingReader => exact absurd hv List.not_mem_nil
  | startingMonitor r | abandoning r =>
    exact (List.mem_singleton.mp hv).trans (List.mem_singleton.mp hw).symm
  | _ => exact absurd spawns Bool.false_ne_true

theorem joined_subset_workers (a : Call) : a.joined ⊆ a.workers := by
  cases a with
  | joining ws => exact List.Subset.refl ws
  | _ => exact List.nil_subset _

/-- A call answers for a worker because it started it, or because it waits for it. -/
theorem mem_joined_of_mem_workers {a : Call} {w : Worker} (h : w ∈ a.workers)
    (other : a.spawns = false) : w ∈ a.joined := by
  cases a with
  | startingMonitor | abandoning => exact absurd other.symm Bool.false_ne_true
  | _ => exact h

end Call

namespace Crew

variable {c d : Crew} {i : Nat} {call x : Call} {others : List Call}

/-- The workers whose handles are there to be taken. -/
def handed (c : Crew) : List Worker :=
  match c.handles with
  | none => []
  | some (r, m) => [r, m]

/-- Somebody answers for a worker. -/
def Answers (c : Crew) (w : Worker) : Prop := w ∈ c.handed ∨ ∃ a ∈ c.calls, w ∈ a.workers

/-- A stop waits for a worker. -/
def awaits (c : Crew) (w : Worker) : Bool := c.calls.any fun a => a.joined.contains w

theorem awaits_iff {w : Worker} : c.awaits w = true ↔ ∃ a ∈ c.calls, w ∈ a.joined := by
  simp [awaits]

theorem handed_of_none (h : c.handles = none) : c.handed = [] := by rw [handed, h]

theorem handed_of_some {r m : Worker} (h : c.handles = some (r, m)) : c.handed = [r, m] := by
  rw [handed, h]

/-! ## What a step does -/

/-- What a call does when it goes on: how far it has come, how far it comes, and the rest of the
crew afterwards. -/
inductive Turn (c : Crew) : Call → Call → Crew → Prop where
  | lock (unlocked : c.locked = false) (none : c.handles = none) :
    Turn c .starting .flagging { c with locked := true }
  | refuse : Turn c .starting (.finished true) c
  | raise : Turn c .flagging .startingReader { c with running := true }
  | reader : Turn c .startingReader (.startingMonitor (c.spawn .reader).1) (c.spawn .reader).2
  | noReader : Turn c .startingReader (.finished false) { c with running := false, locked := false }
  | monitor (r : Worker) : Turn c (.startingMonitor r) (.finished true)
      { (c.spawn .monitor).2 with handles := some (r, (c.spawn .monitor).1), locked := false }
  | noMonitor (r : Worker) : Turn c (.startingMonitor r) (.abandoning r) { c with running := false }
  | abandon (r : Worker) (dead : r ∉ c.alive) :
    Turn c (.abandoning r) (.finished false) { c with locked := false }
  | clear : Turn c .stopping .taking { c with running := false }
  | miss : Turn c .taking (.finished true) c
  | take (r m : Worker) (unlocked : c.locked = false) (some : c.handles = some (r, m)) :
    Turn c .taking (.joining [r, m]) { c with handles := none }
  | join (w : Worker) (ws : List Worker) (dead : w ∉ c.alive) :
    Turn c (.joining (w :: ws)) (.joining ws) c
  | leave : Turn c (.joining []) (.finished true) c

theorem Turn.calls_eq (h : c.Turn call x d) : d.calls = c.calls := by
  cases h <;> rfl

theorem advance_cases (c : Crew) (i : Nat) (succeeds : Bool) (call : Call) :
    c.advance i succeeds call = c ∨
      ∃ x d, c.Turn call x d ∧ c.advance i succeeds call = d.setCall i x := by
  cases call with
  | starting =>
    by_cases locked : c.locked = true
    · exact .inl (if_pos locked)
    · by_cases busy : c.handles.isSome = true
      · exact .inr ⟨_, _, .refuse, (if_neg locked).trans (if_pos busy)⟩
      · have none : c.handles = none := by simpa using busy
        exact .inr ⟨_, _, .lock (Bool.eq_false_iff.mpr locked) none,
          (if_neg locked).trans (if_neg busy)⟩
  | flagging => exact .inr ⟨_, _, .raise, rfl⟩
  | startingReader =>
    cases succeeds with
    | true => exact .inr ⟨_, _, .reader, rfl⟩
    | false => exact .inr ⟨_, _, .noReader, rfl⟩
  | startingMonitor r =>
    cases succeeds with
    | true => exact .inr ⟨_, _, .monitor r, rfl⟩
    | false => exact .inr ⟨_, _, .noMonitor r, rfl⟩
  | abandoning r =>
    by_cases live : c.alive.contains r = true
    · exact .inl (if_pos live)
    · exact .inr ⟨_, _, .abandon r (by simpa using live), if_neg live⟩
  | stopping => exact .inr ⟨_, _, .clear, rfl⟩
  | taking =>
    by_cases locked : c.locked = true
    · exact .inl (if_pos locked)
    · refine .inr ?_
      cases handles : c.handles with
      | none => exact ⟨_, _, .miss, by simp [advance, locked, handles]⟩
      | some pair =>
        exact ⟨_, _, .take pair.1 pair.2 (Bool.eq_false_iff.mpr locked) handles,
          by simp [advance, locked, handles]⟩
  | joining ws =>
    cases ws with
    | nil => exact .inr ⟨_, _, .leave, rfl⟩
    | cons w ws =>
      by_cases live : c.alive.contains w = true
      · exact .inl (if_pos live)
      · exact .inr ⟨_, _, .join w ws (by simpa using live), if_neg live⟩
  | finished => exact .inl rfl

/-- **What a step does.** Nothing; or it adds a call; or it puts a call further; or a worker ends
because the flag is clear. -/
theorem step_cases (c : Crew) (s : Step) :
    c.step s = c ∨
    (∃ x, (x = .starting ∨ x = .stopping) ∧ c.step s = { c with calls := c.calls ++ [x] }) ∨
    (∃ i succeeds call x d, s = .advance i succeeds ∧ c.calls[i]? = some call ∧ c.Turn call x d ∧
      c.step s = d.setCall i x) ∨
    ∃ w, c.running = false ∧ c.step s = { c with alive := c.alive.filter fun v => v ≠ w } := by
  cases s with
  | callStart => exact .inr (.inl ⟨_, .inl rfl, rfl⟩)
  | callStop => exact .inr (.inl ⟨_, .inr rfl, rfl⟩)
  | advance i succeeds =>
    cases hi : c.calls[i]? with
    | none => exact .inl (by simp only [step, hi])
    | some call =>
      have same : c.step (.advance i succeeds) = c.advance i succeeds call := by
        simp only [step, hi]
      rcases advance_cases c i succeeds call with idle | ⟨x, d, turn, moved⟩
      · exact .inl (same.trans idle)
      · exact .inr (.inr (.inl ⟨i, succeeds, call, x, d, rfl, hi, turn, same.trans moved⟩))
  | look w =>
    cases running : c.running with
    | true => exact .inl (if_pos running)
    | false => exact .inr (.inr (.inr ⟨w, rfl, by simp only [step, running]; rfl⟩))

/-! ## A call among others -/

theorem calls_perm (h : c.calls[i]? = some call) : c.calls.Perm (call :: c.calls.eraseIdx i) := by
  obtain ⟨hi, rfl⟩ := List.getElem?_eq_some_iff.mp h
  exact (List.getElem_cons_eraseIdx_perm hi).symm

theorem setCall_perm (h : c.calls[i]? = some call) (same : d.calls = c.calls) (x : Call) :
    (d.setCall i x).calls.Perm (x :: c.calls.eraseIdx i) := by
  obtain ⟨hi, -⟩ := List.getElem?_eq_some_iff.mp h
  show (d.calls.set i x).Perm _
  rw [same]
  exact List.set_perm_cons_eraseIdx hi x

theorem exists_mem_of_perm (h : c.calls.Perm (call :: others)) {p : Call → Prop} :
    (∃ a ∈ c.calls, p a) ↔ p call ∨ ∃ a ∈ others, p a := by
  simp only [h.mem_iff, List.exists_mem_cons_iff]

theorem forall_mem_of_perm (h : c.calls.Perm (call :: others)) {p : Call → Prop} :
    (∀ a ∈ c.calls, p a) ↔ p call ∧ ∀ a ∈ others, p a := by
  simp only [h.mem_iff, List.forall_mem_cons]

/-! ## What is kept -/

/-- The lock has at most one holder, and somebody answers for every worker that is alive. -/
structure Sound (c : Crew) : Prop where
  lock : c.calls.countP Call.holdsLock = c.locked.toNat
  /-- A start works on a set without workers. -/
  free : c.locked = true → c.handles = none
  kinds : ∀ r m, c.handles = some (r, m) → r.kind = .reader ∧ m.kind = .monitor
  readers : ∀ a ∈ c.calls, a.spawns = true → ∀ w ∈ a.workers, w.kind = .reader
  answered : ∀ w ∈ c.alive, c.Answers w
  numbered : ∀ w, c.Answers w → w.number < c.started
  distinct : c.alive.Nodup

theorem Sound.initial : Sound {} where
  lock := rfl
  free := by simp
  kinds := by simp
  readers := by simp
  answered := by simp
  numbered := by simp [Answers, handed]
  distinct := List.nodup_nil

theorem Sound.alone (h : c.Sound) (hc : c.calls.Perm (call :: others))
    (holds : call.holdsLock = true) : c.locked = true ∧ ∀ a ∈ others, a.holdsLock = false := by
  have count := h.lock
  rw [hc.countP_eq, List.countP_cons_of_pos holds] at count
  have bound := c.locked.toNat_le
  refine ⟨Bool.toNat_eq_one.mp (by omega), fun a ha => ?_⟩
  have none : others.countP Call.holdsLock = 0 := by omega
  exact Bool.eq_false_iff.mpr (List.countP_eq_zero.mp none a ha)

theorem Sound.not_holdsLock (h : c.Sound) (unlocked : c.locked = false) {a : Call}
    (ha : a ∈ c.calls) : a.holdsLock = false := by
  have none : c.calls.countP Call.holdsLock = 0 := by rw [h.lock, unlocked]; rfl
  exact Bool.eq_false_iff.mpr (List.countP_eq_zero.mp none a ha)

theorem Sound.replace (h : c.Sound) (hc : c.calls.Perm (call :: others))
    (hd : d.calls.Perm (x :: others))
    (lock : d.locked.toNat + call.holdsLock.toNat = c.locked.toNat + x.holdsLock.toNat)
    (free : d.locked = true → d.handles = none)
    (kinds : ∀ r m, d.handles = some (r, m) → r.kind = .reader ∧ m.kind = .monitor)
    (readers : x.spawns = true → ∀ w ∈ x.workers, w.kind = .reader)
    (answered : ∀ w ∈ d.alive, (w ∈ d.handed ∨ w ∈ x.workers) ∨
      w ∈ c.alive ∧ w ∉ c.handed ∧ w ∉ call.workers)
    (started : c.started ≤ d.started)
    (numbered : ∀ w, w ∈ d.handed ∨ w ∈ x.workers → w.number < d.started)
    (distinct : d.alive.Nodup) : d.Sound where
  lock := by
    have before := h.lock
    rw [hc.countP_eq, List.countP_cons] at before
    rw [hd.countP_eq, List.countP_cons]
    cases hcall : call.holdsLock <;> cases hx : x.holdsLock <;>
      simp only [hcall, hx, Bool.toNat_false, Bool.toNat_true, if_true, Bool.false_eq_true,
        if_false] at before lock ⊢ <;> omega
  free := free
  kinds := kinds
  readers := by
    rw [forall_mem_of_perm hd]
    exact ⟨readers, ((forall_mem_of_perm hc).mp h.readers).2⟩
  answered := by
    intro w hw
    rw [Answers, exists_mem_of_perm hd]
    obtain (handed | mine) | ⟨was, unhanded, other⟩ := answered w hw
    · exact .inl handed
    · exact .inr (.inl mine)
    · have before := h.answered w was
      rw [Answers, exists_mem_of_perm hc] at before
      exact .inr (.inr ((before.resolve_left unhanded).resolve_left other))
  numbered := by
    intro w hw
    rw [Answers, exists_mem_of_perm hd] at hw
    obtain handed | mine | rest := hw
    · exact numbered w (.inl handed)
    · exact numbered w (.inr mine)
    · have before := h.numbered w (.inr ((exists_mem_of_perm hc).mpr (.inr rest)))
      omega
  distinct := distinct

/-- A call is put further and no worker starts or ends: it goes on to answer for those that it has
answered for, as long as they are alive. -/
theorem Sound.pass (h : c.Sound) (hc : c.calls.Perm (call :: others))
    (hd : d.calls.Perm (x :: others))
    (lock : d.locked.toNat + call.holdsLock.toNat = c.locked.toNat + x.holdsLock.toNat)
    (free : d.locked = true → c.handles = none) (handles : d.handles = c.handles)
    (alive : d.alive = c.alive) (started : d.started = c.started)
    (fewer : x.workers ⊆ call.workers)
    (readers : x.spawns = true → x.workers = [] ∨ call.spawns = true)
    (enough : ∀ w ∈ c.alive, w ∈ call.workers → w ∈ x.workers) : d.Sound := by
  have handed : d.handed = c.handed := by rw [Crew.handed, Crew.handed, handles]
  have mine := ((forall_mem_of_perm hc).mp h.readers).1
  refine h.replace hc hd lock (handles ▸ free) (handles ▸ h.kinds) ?_ ?_
    (Nat.le_of_eq started.symm) ?_
    (alive ▸ h.distinct)
  · intro spawns w hw
    obtain none | spawned := readers spawns
    · exact absurd (none ▸ hw) List.not_mem_nil
    · exact mine spawned w (fewer hw)
  · rw [alive, handed]
    intro w hw
    by_cases hh : w ∈ c.handed
    · exact .inl (.inl hh)
    · by_cases hm : w ∈ call.workers
      · exact .inl (.inr (enough w hw hm))
      · exact .inr ⟨hw, hh, hm⟩
  · rw [handed, started]
    rintro w (hh | hm)
    · exact h.numbered w (.inl hh)
    · exact h.numbered w (.inr ((exists_mem_of_perm hc).mpr (.inl (fewer hm))))

theorem Sound.not_answers (h : c.Sound) (kind : WorkerKind) : ¬ c.Answers (c.spawn kind).1 :=
  fun known => Nat.lt_irrefl _ (h.numbered _ known)

theorem Sound.nodup_spawn (h : c.Sound) (kind : WorkerKind) :
    (c.alive ++ [(c.spawn kind).1]).Nodup := by
  rw [List.nodup_append]
  refine ⟨h.distinct, by simp, ?_⟩
  rintro w hw v hv rfl
  obtain rfl := List.mem_singleton.mp hv
  exact h.not_answers kind (h.answered _ hw)

theorem Sound.turn (h : c.Sound) (hi : c.calls[i]? = some call) (turn : c.Turn call x d) :
    (d.setCall i x).Sound := by
  have hc := calls_perm hi
  have hd := setCall_perm hi turn.calls_eq x
  -- Who has the lock works on a set without handles.
  have holder : call.holdsLock = true → c.locked = true ∧ c.handed = [] := fun holds =>
    have locked := (h.alone hc holds).1
    ⟨locked, handed_of_none (h.free locked)⟩
  cases turn with
  | lock unlocked none =>
    refine h.pass hc hd ?_ (fun _ => none) rfl rfl rfl (by simp [Call.workers])
      (by simp [Call.spawns]) (by simp [Call.workers])
    rw [unlocked]
    rfl
  | refuse | raise | clear | miss | leave =>
    exact h.pass hc hd rfl h.free rfl rfl rfl (by simp [Call.workers]) (by simp [Call.workers])
      (by simp [Call.workers])
  | reader =>
    obtain ⟨-, none⟩ := holder rfl
    refine h.replace hc hd rfl h.free h.kinds ?_ ?_ (Nat.le_succ _) ?_ (h.nodup_spawn .reader)
    · intro _ w hw
      obtain rfl := List.mem_singleton.mp hw
      rfl
    · -- The start answers for its reader until the handles are there.
      intro w hw
      obtain was | new := List.mem_append.mp hw
      · exact .inr ⟨was, by simp [none], by simp [Call.workers]⟩
      · exact .inl (.inr new)
    · rintro w (handed | new)
      · have old : w ∈ c.handed := handed
        exact absurd (none ▸ old) List.not_mem_nil
      · obtain rfl := List.mem_singleton.mp new
        exact Nat.lt_succ_self _
  | noReader =>
    obtain ⟨locked, -⟩ := holder rfl
    refine h.pass hc hd ?_ (by simp [setCall]) rfl rfl rfl (by simp [Call.workers])
      (by simp [Call.spawns]) (by simp [Call.workers])
    rw [locked]
    rfl
  | monitor r =>
    obtain ⟨locked, none⟩ := holder rfl
    have mine : r ∈ (Call.startingMonitor r).workers := List.mem_singleton_self r
    have first := ((forall_mem_of_perm hc).mp h.readers).1 rfl r mine
    have known := h.numbered r (.inr ((exists_mem_of_perm hc).mpr (.inl mine)))
    refine h.replace hc hd ?_ (by simp [setCall]) ?_ (by simp [Call.spawns]) ?_ (Nat.le_succ _) ?_
      (h.nodup_spawn .monitor)
    · rw [locked]
      rfl
    · rintro r' m' hm
      obtain ⟨rfl, rfl⟩ := Prod.mk.inj (Option.some.inj hm)
      exact ⟨first, rfl⟩
    · intro w hw
      obtain was | new := List.mem_append.mp hw
      · by_cases same : w = r
        · exact .inl (.inl (same ▸ List.mem_cons_self))
        · exact .inr ⟨was, by simp [none], by simpa [Call.workers] using same⟩
      · exact .inl (.inl (List.mem_cons_of_mem _ new))
    · rintro w (handed | other)
      · obtain rfl | new := List.mem_cons.mp handed
        · exact Nat.lt_succ_of_lt known
        · obtain rfl := List.mem_singleton.mp new
          exact Nat.lt_succ_self _
      · exact absurd other List.not_mem_nil
  | noMonitor r =>
    exact h.pass hc hd rfl h.free rfl rfl rfl (List.Subset.refl _) (fun _ => .inr rfl)
      (fun _ _ hm => hm)
  | abandon r dead =>
    obtain ⟨locked, -⟩ := holder rfl
    refine h.pass hc hd ?_ (by simp [setCall]) rfl rfl rfl (by simp [Call.workers])
      (by simp [Call.spawns]) ?_
    · rw [locked]
      rfl
    · intro w hw hm
      obtain rfl := List.mem_singleton.mp hm
      exact absurd hw dead
  | take r m unlocked some =>
    have handed := handed_of_some some
    refine h.replace hc hd rfl (by simp [setCall]) (by simp [setCall]) (by simp [Call.spawns]) ?_
      (Nat.le_refl _) ?_ h.distinct
    · intro w hw
      by_cases hh : w ∈ c.handed
      · exact .inl (.inr (handed ▸ hh))
      · exact .inr ⟨hw, hh, by simp [Call.workers]⟩
    · rintro w (none | mine)
      · exact absurd none List.not_mem_nil
      · exact h.numbered w (.inl (handed ▸ mine))
  | join w ws dead =>
    refine h.pass hc hd rfl h.free rfl rfl rfl (List.subset_cons_self _ _)
      (by simp [Call.spawns]) ?_
    intro v hv hm
    obtain rfl | later := List.mem_cons.mp hm
    · exact absurd hv dead
    · exact later

theorem Sound.step (h : c.Sound) (s : Step) : (c.step s).Sound := by
  rcases step_cases c s with idle | ⟨x, new, added⟩ | ⟨i, b, call, x, d, -, hi, turn, moved⟩ |
    ⟨w, -, ended⟩
  · rwa [idle]
  · have lock : x.holdsLock = false := by obtain rfl | rfl := new <;> rfl
    have spawns : x.spawns = false := by obtain rfl | rfl := new <;> rfl
    have workers : x.workers = [] := by obtain rfl | rfl := new <;> rfl
    have answers : ∀ w, (c.step s).Answers w ↔ c.Answers w := by
      simp [added, Answers, handed, workers, or_and_right, exists_or]
    exact {
      lock := by simp [added, lock, h.lock]
      free := by simpa only [added] using h.free
      kinds := by simpa only [added] using h.kinds
      readers := by simpa [added, or_imp, forall_and, spawns] using h.readers
      answered := fun w hw => (answers w).mpr (h.answered w (by simpa only [added] using hw))
      numbered := fun w hw => by simpa only [added] using h.numbered w ((answers w).mp hw)
      distinct := by simpa only [added] using h.distinct }
  · rw [moved]
    exact h.turn hi turn
  · rw [ended]
    exact { h with
      answered := fun w hw => h.answered w (List.mem_of_mem_filter hw)
      distinct := h.distinct.filter _ }

/-- The handles of a worker that no stop waits for are there, or a start that has the lock holds it.
-/
theorem Sound.held (h : c.Sound) {w : Worker} (live : w ∈ c.alive) (free : c.awaits w = false) :
    w ∈ c.handed ∨ ∃ a ∈ c.calls, a.spawns = true ∧ w ∈ a.workers := by
  refine (h.answered w live).imp_right fun ⟨a, ha, mine⟩ => ⟨a, ha, ?_, mine⟩
  by_contra other
  have joined := Call.mem_joined_of_mem_workers mine (Bool.eq_false_iff.mpr other)
  simp [awaits_iff.mpr ⟨a, ha, joined⟩] at free

theorem Sound.handed_of_spawns (h : c.Sound) {a : Call} (ha : a ∈ c.calls)
    (spawns : a.spawns = true) :
    c.handed = [] := by
  have locked := (h.alone (List.perm_cons_erase ha) (Call.holdsLock_of_spawns spawns)).1
  exact handed_of_none (h.free locked)

theorem Sound.eq_of_spawns (h : c.Sound) {a b : Call} (ha : a ∈ c.calls) (hb : b ∈ c.calls)
    (spawnsA : a.spawns = true) (spawnsB : b.spawns = true) : a = b := by
  have others := (h.alone (List.perm_cons_erase ha) (Call.holdsLock_of_spawns spawnsA)).2
  by_contra differ
  have idle := others b ((List.mem_erase_of_ne (Ne.symm differ)).mpr hb)
  rw [Call.holdsLock_of_spawns spawnsB] at idle
  exact absurd idle (by decide)

theorem Sound.eq_of_handed (h : c.Sound) {v w : Worker} (hv : v ∈ c.handed) (hw : w ∈ c.handed)
    (kind : v.kind = w.kind) : v = w := by
  cases handles : c.handles with
  | none => exact absurd (handed_of_none handles ▸ hv) List.not_mem_nil
  | some pair =>
    obtain ⟨reader, monitor⟩ := h.kinds _ _ handles
    have differ : pair.1.kind ≠ pair.2.kind := by simp [reader, monitor]
    have pairV : v = pair.1 ∨ v = pair.2 := by simpa [handed, handles] using hv
    have pairW : w = pair.1 ∨ w = pair.2 := by simpa [handed, handles] using hw
    obtain rfl | rfl := pairV <;> obtain rfl | rfl := pairW
    · rfl
    · exact absurd kind differ
    · exact absurd kind.symm differ
    · rfl

/-- At most one pair is alive that no stop waits for. -/
theorem Sound.nodup_unawaited (h : c.Sound) :
    ((c.alive.filter fun w => !c.awaits w).map Worker.kind).Nodup := by
  refine List.Nodup.map_on (fun v hv w hw kind => ?_) (h.distinct.filter _)
  obtain ⟨liveV, freeV⟩ := List.mem_filter.mp hv
  obtain ⟨liveW, freeW⟩ := List.mem_filter.mp hw
  rcases h.held liveV (by simpa using freeV) with handedV | ⟨a, ha, spawnsA, mineV⟩ <;>
    rcases h.held liveW (by simpa using freeW) with handedW | ⟨b, hb, spawnsB, mineW⟩
  · exact h.eq_of_handed handedV handedW kind
  · exact absurd (h.handed_of_spawns hb spawnsB ▸ handedV) List.not_mem_nil
  · exact absurd (h.handed_of_spawns ha spawnsA ▸ handedW) List.not_mem_nil
  · obtain rfl := h.eq_of_spawns ha hb spawnsA spawnsB
    exact Call.eq_of_spawns spawnsA mineV mineW

end Crew

end Fieldbus
