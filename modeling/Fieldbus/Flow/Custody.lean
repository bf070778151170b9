/-!
# Custody

Something that only one party can use at a time, such as a socket, is either held by the object that
it belongs to or by the one worker of that object. The worker looks at a flag before every piece of
work and ends when the flag is clear; only then can the object take back what the worker holds.

* `Keeper`: a worker and what it holds.
* `Custody`: the flag, what the object holds, and its worker.
* `Custody.start`, `Custody.halt`, `Custody.look`, `Custody.join`: how things change hands.
* `Custody.Apart`: only one side holds something.
* `Custody.held?_look`, `Custody.held?_join`, `Custody.held?_start`: none of this loses what is
  held, unless a start fails.
-/

namespace Fieldbus

/-- A worker that was given something. -/
inductive Keeper (σ : Type) where
  /-- It is about to look at the flag. -/
  | looking (held : σ)
  /-- It is about to do a piece of work. -/
  | working (held : σ)
  | ended (held : σ)
  /-- It broke down, and what it held is gone. -/
  | broken
  deriving DecidableEq, Repr

namespace Keeper

variable {σ : Type}

/-- What the worker holds. -/
def held? : Keeper σ → Option σ
  | looking s | working s | ended s => some s
  | broken => none

/-- Changes what the worker holds. -/
def map (f : σ → σ) : Keeper σ → Keeper σ
  | looking s => looking (f s)
  | working s => working (f s)
  | ended s => ended (f s)
  | broken => broken

end Keeper

/-- An object, its worker, and what one of them holds. -/
structure Custody (σ : Type) where
  /-- Whether the worker should go on. -/
  running : Bool := false
  /-- What the object itself holds. -/
  own : Option σ := none
  /-- The worker, from its start until the object has waited for its end. -/
  keeper : Option (Keeper σ) := none
  deriving DecidableEq, Repr

namespace Custody

variable {σ : Type} (c : Custody σ)

/-- What is held on either side. -/
def held? : Option σ := c.own.or (c.keeper.bind Keeper.held?)

/-- Changes what is held, on whichever side it is. -/
def map (f : σ → σ) : Custody σ :=
  { c with own := c.own.map f, keeper := c.keeper.map (Keeper.map f) }

/-- Starts a worker, if that succeeds, and gives it what the object holds. If it does not succeed,
what was to be given is gone. -/
def start (succeeds : Bool) : Custody σ :=
  match c.own with
  | none => c
  | some s =>
    if succeeds then ⟨true, none, some (.looking s)⟩
    else { c with running := false, own := none }

/-- Clears the flag. -/
def halt : Custody σ := { c with running := false }

/-- A worker that is about to look at the flag looks: it goes to work, or ends. -/
def look : Custody σ :=
  match c.keeper with
  | some (.looking s) => { c with keeper := some (if c.running then .working s else .ended s) }
  | _ => c

/-- Takes back what a worker that has ended holds. A worker that has not is still waited for. -/
def join : Custody σ :=
  match c.keeper with
  | some (.ended s) => { c with own := some s, keeper := none }
  | some .broken => { c with keeper := none }
  | _ => c

/-- Only one side holds something. -/
def Apart : Prop := c.own = none ∨ c.keeper = none

variable {c}

theorem Apart.own_eq_none (h : c.Apart) (hk : c.keeper.isSome) : c.own = none := by
  rcases h with h | h
  · exact h
  · rw [h] at hk
    exact absurd hk (by simp)

theorem Apart.keeper_eq_none (h : c.Apart) {s : σ} (ho : c.own = some s) : c.keeper = none := by
  rcases h with h | h
  · rw [ho] at h
    exact absurd h (by simp)
  · exact h

theorem Apart.held?_of_keeper (h : c.Apart) {k : Keeper σ} (hk : c.keeper = some k) :
    c.held? = k.held? := by
  rw [held?, h.own_eq_none (by rw [hk]; rfl), hk]
  rfl

variable (c)

@[simp] theorem held?_map (f : σ → σ) : (c.map f).held? = c.held?.map f := by
  obtain ⟨running, own, keeper⟩ := c
  cases own with
  | some s => rfl
  | none =>
    cases keeper with
    | none => rfl
    | some k => cases k <;> rfl

theorem map_eq_self (h : c.Apart) {f : σ → σ} (same : ∀ s, c.held? = some s → f s = s) :
    c.map f = c := by
  obtain ⟨running, own, keeper⟩ := c
  cases own with
  | some s =>
    obtain rfl : keeper = none := h.keeper_eq_none rfl
    simp [map, same s rfl]
  | none =>
    cases keeper with
    | none => rfl
    | some k =>
      cases k with
      | broken => rfl
      | looking s | working s | ended s => simp [map, Keeper.map, same s rfl]

@[simp] theorem held?_halt : c.halt.held? = c.held? := rfl

/-- A look at the flag leaves everything where it is. -/
@[simp] theorem held?_look : c.look.held? = c.held? := by
  unfold look
  split
  · next s h =>
    cases hr : c.running <;> simp [held?, Keeper.held?, h]
  · rfl

/-- What an ended worker held is with the object after a join; nothing else changes hands. -/
theorem held?_join (h : c.Apart) : c.join.held? = c.held? := by
  unfold join
  split
  · next s hs => simp [held?, hs, h.own_eq_none, Keeper.held?]
  · next hs => simp [held?, hs, Keeper.held?]
  · rfl

/-- A start that succeeds hands over what the object holds. -/
@[simp] theorem held?_start : (c.start true).held? = c.held? := by
  unfold start
  split
  · rfl
  · next s hs => simp [held?, hs, Keeper.held?]

theorem held?_of_start (h : c.Apart) (succeeds : Bool) {s : σ}
    (hs : (c.start succeeds).held? = some s) : c.held? = some s := by
  cases succeeds with
  | true => rwa [held?_start] at hs
  | false =>
    unfold start at hs
    split at hs
    · exact hs
    · next s' ho => simp [held?, h.keeper_eq_none ho] at hs

variable {c}

theorem Apart.map (h : c.Apart) (f : σ → σ) : (c.map f).Apart := by
  rcases h with h | h
  · exact Or.inl (by rw [Custody.map, h]; rfl)
  · exact Or.inr (by rw [Custody.map, h]; rfl)

theorem Apart.look (h : c.Apart) : c.look.Apart := by
  unfold Custody.look
  split
  · next s hk => exact Or.inl (h.own_eq_none (by rw [hk]; rfl))
  · exact h

theorem Apart.join (h : c.Apart) : c.join.Apart := by
  unfold Custody.join
  split
  · exact Or.inr rfl
  · exact Or.inr rfl
  · exact h

theorem Apart.start (h : c.Apart) (succeeds : Bool) : (c.start succeeds).Apart := by
  unfold Custody.start
  split
  · exact h
  · cases succeeds
    · exact Or.inl rfl
    · exact Or.inl rfl

end Custody

end Fieldbus
