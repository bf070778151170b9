import Fieldbus.Flow.Pacer
import Mathlib.Data.List.Chain

/-!
# Sends are kept apart

The time of which a pacer takes note is read after the wait, so the next call counts from a time at
which the send was not yet made. Whatever the clock shows in between, two sends are apart.

* `Pacer.Follows`, `Pacer.Spaced`: a call after another, and a sequence of calls.
* `Pacer.calls_append`: calls in two parts.
* **`Pacer.spaced_calls`**: the calls of a pacer are spaced.
-/

namespace Fieldbus.Pacer

/-- A call that comes after another one: it waits for what is left of the least time between two
sends, hence only if it is early, and the sends are apart. -/
structure Follows (minDelay : Nat) (a b : Call) : Prop where
  waits : b.waited = a.sent + minDelay - b.begun
  early : 0 < b.waited ↔ b.begun < a.sent + minDelay
  apart : a.sent + minDelay ≤ b.sent

/-- Calls one after the other, of which the first does not wait. -/
structure Spaced (minDelay : Nat) (cs : List Call) : Prop where
  free : ∀ c ∈ cs.head?, c.waited = 0
  chain : cs.IsChain (Follows minDelay)

variable {p : Pacer} {now slack : Nat} {times : List (Nat × Nat)}

theorem calls_cons (p : Pacer) (now slack : Nat) (times : List (Nat × Nat)) :
    p.calls ((now, slack) :: times) = (((p.call now slack).1.calls times).1,
      ⟨now, p.remaining now, now + p.remaining now + slack⟩ ::
        ((p.call now slack).1.calls times).2) := rfl

/-- Calls in two parts: the second begins with the pacer that the first left. -/
theorem calls_append (p : Pacer) (times times' : List (Nat × Nat)) :
    p.calls (times ++ times') =
      (((p.calls times).1.calls times').1,
        (p.calls times).2 ++ ((p.calls times).1.calls times').2) :=
  runSteps_append _ p times times'

theorem minDelay_calls (p : Pacer) (times : List (Nat × Nat)) :
    (p.calls times).1.minDelay = p.minDelay :=
  runSteps_invariant _ (fun q => q.minDelay = p.minDelay) (fun _ _ h => h) p times rfl

/-- No wait is longer than the least time between two sends, if the last one is not ahead. -/
theorem remaining_le (past : ∀ last ∈ p.lastSend, last ≤ now) : p.remaining now ≤ p.minDelay := by
  unfold remaining
  cases h : p.lastSend with
  | none => exact Nat.zero_le _
  | some last =>
    have := past last h
    dsimp only
    omega

theorem follows_remaining {c : Call} (last : p.lastSend = some c.sent) (now slack : Nat) :
    Follows p.minDelay c ⟨now, p.remaining now, now + p.remaining now + slack⟩ := by
  have wait : p.remaining now = c.sent + p.minDelay - now := by rw [remaining, last]
  refine ⟨wait, ?_, ?_⟩
  · rw [wait]
    exact Nat.sub_pos_iff_lt
  · show c.sent + p.minDelay ≤ now + p.remaining now + slack
    rw [wait]
    omega

theorem chain_calls (times : List (Nat × Nat)) {c : Call} (last : p.lastSend = some c.sent) :
    (c :: (p.calls times).2).IsChain (Follows p.minDelay) := by
  induction times generalizing p c with
  | nil => exact .singleton c
  | cons t times ih =>
    obtain ⟨now, slack⟩ := t
    rw [calls_cons]
    exact .cons_cons (follows_remaining last now slack) (ih (p := (p.call now slack).1) rfl)

/-- **The calls of a pacer are spaced**, whatever the clock shows and however much longer than it
has to every wait takes. -/
theorem spaced_calls (minDelay : Nat) (times : List (Nat × Nat)) :
    Spaced minDelay (calls { minDelay := minDelay } times).2 := by
  cases times with
  | nil => exact ⟨fun c hc => absurd hc (by simp [calls]), .nil⟩
  | cons t times =>
    obtain ⟨now, slack⟩ := t
    rw [calls_cons]
    refine ⟨fun c hc => ?_,
      chain_calls (p := (call { minDelay := minDelay } now slack).1) times rfl⟩
    obtain rfl := Option.some.inj hc
    rfl

end Fieldbus.Pacer
