import Fieldbus.Proofs.Gateway.Ledger
import Mathlib.Logic.Function.Iterate

/-!
# The worker of the gateway for clients gets on

Left alone, the worker treats all that is staged while it should go on, and it ends once it should
not.

* `TcpGateway.next`: the gateway after a step of its worker.
* `TcpGateway.Manned`: the worker was started, and has not ended while it should go on.
* **`TcpGateway.Manned.treats_all`**, **`TcpGateway.Manned.ends`**: where its steps lead.
-/

namespace Fieldbus.TcpGateway

variable {σ : Type} {g : TcpGateway σ}

/-- The gateway after a step of its worker. -/
def next (g : TcpGateway σ) : TcpGateway σ := g.work.1

/-- The worker was started, and goes on as long as it should. -/
structure Manned (g : TcpGateway σ) : Prop where
  /-- It was started. -/
  started : g.worker ≠ none
  /-- It is not about to end. -/
  going : g.running = true → g.worker ≠ some .clearing ∧ g.worker ≠ some .ended

/-- Where the worker is in its loop. -/
def InLoop (g : TcpGateway σ) : Prop :=
  g.worker = some .looking ∨ g.worker = some .taking ∨ ∃ s, g.worker = some (.holding s)

theorem Manned.inLoop (h : Manned g) (hr : g.running = true) : InLoop g := by
  obtain ⟨hc, he⟩ := h.going hr
  cases hw : g.worker with
  | none => exact absurd hw h.started
  | some phase =>
    cases phase with
    | looking => exact Or.inl hw
    | taking => exact Or.inr (Or.inl hw)
    | holding s => exact Or.inr (Or.inr ⟨s, hw⟩)
    | clearing => exact absurd hw hc
    | ended => exact absurd hw he

/-! ## One step -/

theorem next_of_looking (hw : g.worker = some .looking) :
    g.next = { g with worker := some (if g.running then .taking else .clearing) } := by
  rw [next, work_of_looking g hw]

theorem next_of_taking (hw : g.worker = some .taking) :
    g.next = { g with
      queue := g.queue.pop.2
      worker := some ((g.queue.pop.1.map Phase.holding).getD .looking) } := by
  rw [next, work_of_taking g hw]

theorem worker_next_of_holding {s : Staged} (hw : g.worker = some (.holding s)) :
    g.next.worker = some .looking ∧ g.next.queue = g.queue := by
  rw [next, work_of_holding g hw, process_eq]
  exact ⟨rfl, rfl⟩

theorem worker_next_of_clearing (hw : g.worker = some .clearing) :
    g.next.worker = some .ended := by
  rw [next, work_of_clearing g hw]

theorem running_next : g.next.running = g.running := by
  unfold next work
  split
  · rfl
  · rfl
  · rw [process_eq]
  · rfl
  · rfl
  · rfl

theorem Manned.next (h : Manned g) : Manned g.next := by
  cases hw : g.worker with
  | none => exact absurd hw h.started
  | some phase =>
    cases phase with
    | looking =>
      rw [next_of_looking hw]
      refine ⟨by simp, fun hr => ?_⟩
      have hr' : g.running = true := hr
      simp [hr']
    | taking =>
      rw [next_of_taking hw]
      cases g.queue.pop.1 <;> exact ⟨by simp, fun _ => by simp⟩
    | holding s =>
      obtain ⟨hl, -⟩ := worker_next_of_holding hw
      exact ⟨by simp [hl], fun _ => by simp [hl]⟩
    | clearing =>
      have he := worker_next_of_clearing hw
      refine ⟨by simp [he], fun hr => ?_⟩
      rw [running_next] at hr
      exact absurd hw (h.going hr).1
    | ended =>
      rw [TcpGateway.next, work_of_idle g (Or.inr hw)]
      exact h

theorem Manned.iterate (h : Manned g) (n : Nat) : Manned (TcpGateway.next^[n] g) := by
  induction n with
  | zero => exact h
  | succ n ih =>
    rw [Function.iterate_succ_apply']
    exact ih.next

theorem running_iterate (n : Nat) : (next^[n] g).running = g.running := by
  induction n with
  | zero => rfl
  | succ n ih => rw [Function.iterate_succ_apply', running_next, ih]

/-! ## Many steps -/

/-- A worker that looks whether it should go on, and should, takes all that is staged: three steps
for each payload. -/
theorem kept_eq_nil_of_looking (hr : g.running = true) (hw : g.worker = some .looking) :
    ∃ n, (next^[n] g).kept = [] := by
  induction hq : g.queue.toList generalizing g with
  | nil =>
    refine ⟨0, ?_⟩
    rw [Function.iterate_zero_apply, kept, held?, hw, hq]
    rfl
  | cons s rest ih =>
    have hw₁ : g.next.worker = some .taking := by
      rw [next_of_looking hw, hr]
      rfl
    have hq₁ : g.next.queue.toList = s :: rest := by
      rw [next_of_looking hw]
      exact hq
    have hp : g.next.queue.pop = (some s, { g.next.queue with toList := rest }) := by
      rw [Queue.pop, hq₁]
    have hw₂ : g.next.next.worker = some (.holding s) := by
      rw [next_of_taking hw₁, hp]
      rfl
    have hq₂ : g.next.next.queue.toList = rest := by rw [next_of_taking hw₁, hp]
    obtain ⟨hw₃, hq₃⟩ := worker_next_of_holding hw₂
    obtain ⟨n, hn⟩ := ih (g := g.next.next.next)
      (by rw [running_next, running_next, running_next, hr]) hw₃ (by rw [hq₃, hq₂])
    exact ⟨n + 3, hn⟩

theorem looks_of_inLoop (h : InLoop g) : ∃ n, (next^[n] g).worker = some .looking := by
  rcases h with hw | hw | ⟨s, hw⟩
  · exact ⟨0, hw⟩
  · have h₁ := next_of_taking hw
    cases hp : g.queue.pop.1 with
    | none =>
      refine ⟨1, ?_⟩
      show g.next.worker = _
      rw [h₁, hp]
      rfl
    | some s =>
      refine ⟨2, (worker_next_of_holding (s := s) ?_).1⟩
      rw [h₁, hp]
      rfl
  · exact ⟨1, (worker_next_of_holding hw).1⟩

/-- **A worker that should go on** treats all that is there. -/
theorem Manned.treats_all (h : Manned g) (hr : g.running = true) :
    ∃ n, (TcpGateway.next^[n] g).kept = [] ∧ (TcpGateway.next^[n] g).worker ≠ some .ended := by
  obtain ⟨k, hk⟩ := looks_of_inLoop (h.inLoop hr)
  obtain ⟨n, hn⟩ := kept_eq_nil_of_looking (g := TcpGateway.next^[k] g)
    (by rw [running_iterate, hr]) hk
  refine ⟨n + k, by rw [Function.iterate_add_apply, hn], ?_⟩
  exact ((h.iterate (n + k)).going (by rw [running_iterate, hr])).2

/-- **A worker that should not go on** ends. -/
theorem Manned.ends (h : Manned g) (hr : g.running = false) :
    ∃ n, (TcpGateway.next^[n] g).worker = some .ended := by
  have ends_of_looking {g : TcpGateway σ} (hr : g.running = false)
      (hw : g.worker = some .looking) : g.next.next.worker = some .ended := by
    have h₁ := next_of_looking hw
    rw [hr, if_neg Bool.false_ne_true] at h₁
    exact worker_next_of_clearing (by rw [h₁])
  have of_inLoop (hl : InLoop g) : ∃ n, (TcpGateway.next^[n] g).worker = some .ended := by
    obtain ⟨k, hk⟩ := looks_of_inLoop hl
    refine ⟨2 + k, ?_⟩
    rw [Function.iterate_add_apply]
    exact ends_of_looking (by rw [running_iterate, hr]) hk
  cases hw : g.worker with
  | none => exact absurd hw h.started
  | some phase =>
    cases phase with
    | looking => exact of_inLoop (Or.inl hw)
    | taking => exact of_inLoop (Or.inr (Or.inl hw))
    | holding s => exact of_inLoop (Or.inr (Or.inr ⟨s, hw⟩))
    | clearing => exact ⟨1, worker_next_of_clearing hw⟩
    | ended => exact ⟨0, hw⟩

end Fieldbus.TcpGateway
