/-!
# Runs

A machine makes steps, each of which changes its state and has effects.

* `runSteps`: the state after a list of steps, and all effects in order.
* `runSteps_append`: a run of two lists is a run of the one followed by a run of the other.
* `runSteps_invariant`: what every step keeps, every run keeps.
* `Throughout`: what holds at every step of a run.
* `runSteps_throughout`, `runSteps_induction`: what every step keeps, or every step of some kind,
  where this relates the steps made, the state and the effects.
* `runSteps_relation`: what every step is, every run is.
* `Traced`: effects that may come about one after the other.
-/

namespace Fieldbus

variable {σ ι ε : Type}

/-- Makes steps one after the other: the state after them, and all effects in order. -/
def runSteps (step : σ → ι → σ × List ε) : σ → List ι → σ × List ε
  | s, [] => (s, [])
  | s, i :: is =>
    let first := step s i
    let rest := runSteps step first.1 is
    (rest.1, first.2 ++ rest.2)

@[simp] theorem runSteps_nil (step : σ → ι → σ × List ε) (s : σ) :
    runSteps step s [] = (s, []) := rfl

@[simp] theorem runSteps_cons (step : σ → ι → σ × List ε) (s : σ) (i : ι) (is : List ι) :
    runSteps step s (i :: is) =
      ((runSteps step (step s i).1 is).1, (step s i).2 ++ (runSteps step (step s i).1 is).2) := rfl

/-- A run of two lists is a run of the one followed by a run of the other. -/
theorem runSteps_append (step : σ → ι → σ × List ε) (s : σ) (is js : List ι) :
    runSteps step s (is ++ js) =
      ((runSteps step (runSteps step s is).1 js).1,
        (runSteps step s is).2 ++ (runSteps step (runSteps step s is).1 js).2) := by
  induction is generalizing s with
  | nil => simp
  | cons i is ih => simp [ih, List.append_assoc]

/-- What every step keeps, every run keeps. -/
theorem runSteps_invariant (step : σ → ι → σ × List ε) (P : σ → Prop)
    (keeps : ∀ s i, P s → P (step s i).1) (s : σ) (is : List ι) (h : P s) :
    P (runSteps step s is).1 := by
  induction is generalizing s with
  | nil => exact h
  | cons i is ih => exact ih _ (keeps s i h)

/-- At every step of a run something holds of the state and the step. -/
def Throughout (step : σ → ι → σ × List ε) (P : σ → ι → Prop) : σ → List ι → Prop
  | _, [] => True
  | s, i :: is => P s i ∧ Throughout step P (step s i).1 is

instance Throughout.decidable (step : σ → ι → σ × List ε) (P : σ → ι → Prop)
    [∀ s i, Decidable (P s i)] : (s : σ) → (is : List ι) → Decidable (Throughout step P s is)
  | _, [] => inferInstanceAs (Decidable True)
  | s, i :: is =>
    have := Throughout.decidable step P (step s i).1 is
    inferInstanceAs (Decidable (P s i ∧ Throughout step P (step s i).1 is))

theorem throughout_append {step : σ → ι → σ × List ε} {P : σ → ι → Prop} {s : σ} {is js : List ι} :
    Throughout step P s (is ++ js) ↔
      Throughout step P s is ∧ Throughout step P (runSteps step s is).1 js := by
  induction is generalizing s with
  | nil => exact (iff_of_eq (true_and _)).symm
  | cons i is ih => exact (and_congr_right fun _ => ih).trans and_assoc.symm

theorem throughout_of_forall {step : σ → ι → σ × List ε} {P : σ → ι → Prop} (h : ∀ s i, P s i)
    (s : σ) (is : List ι) : Throughout step P s is := by
  induction is generalizing s with
  | nil => trivial
  | cons i is ih => exact ⟨h s i, ih _⟩

/-- What relates the steps made, the state and the effects holds after a run if it holds at the
start and every further step of a certain kind keeps it, and all steps of the run are of this kind.
-/
theorem runSteps_throughout {step : σ → ι → σ × List ε} {Q : σ → ι → Prop}
    (P : List ι → σ → List ε → Prop)
    (keeps : ∀ is s es, P is s es → ∀ i, Q s i → P (is ++ [i]) (step s i).1 (es ++ (step s i).2))
    {s : σ} (start : P [] s []) {is : List ι} (kind : Throughout step Q s is) :
    P is (runSteps step s is).1 (runSteps step s is).2 := by
  -- the steps made before and their effects vary in the induction
  have go : ∀ js pre s es, P pre s es → Throughout step Q s js →
      P (pre ++ js) (runSteps step s js).1 (es ++ (runSteps step s js).2) := by
    intro js
    induction js with
    | nil => intro pre s es h _; simpa using h
    | cons j js ih =>
      intro pre s es h kind
      have := ih _ _ _ (keeps pre s es h j kind.1) kind.2
      simpa [List.append_assoc] using this
  simpa using go is [] s [] start kind

/-- What relates the steps made, the state and the effects holds after every run if it holds at the
start and every further step keeps it. -/
theorem runSteps_induction (step : σ → ι → σ × List ε) (P : List ι → σ → List ε → Prop)
    (keeps : ∀ is s es, P is s es → ∀ i, P (is ++ [i]) (step s i).1 (es ++ (step s i).2))
    (s : σ) (start : P [] s []) (is : List ι) :
    P is (runSteps step s is).1 (runSteps step s is).2 :=
  runSteps_throughout P (fun is s es h i _ => keeps is s es h i) start
    (throughout_of_forall (fun _ _ => trivial) s is)

/-- A relation between states, by way of effects, that can be composed holds of a run if it holds of
every step in it. -/
theorem runSteps_relation (step : σ → ι → σ × List ε) (R : σ → σ → List ε → Prop)
    (refl : ∀ s, R s s [])
    (trans : ∀ {s s' s'' es es'}, R s s' es → R s' s'' es' → R s s'' (es ++ es'))
    (is : List ι) (steps : ∀ s, ∀ i ∈ is, R s (step s i).1 (step s i).2) (s : σ) :
    R s (runSteps step s is).1 (runSteps step s is).2 := by
  induction is generalizing s with
  | nil => exact refl s
  | cons i is ih =>
    exact trans (steps s i List.mem_cons_self)
      (ih (fun s j hj => steps s j (List.mem_cons_of_mem i hj)) _)

/-- Effects that come about one after the other, each as is allowed between the state before it and
the one after it. -/
inductive Traced (allows : σ → ε → σ → Prop) : σ → List ε → σ → Prop where
  | nil (s : σ) : Traced allows s [] s
  | cons {s s' s'' : σ} {e : ε} {es : List ε} (now : allows s e s')
      (later : Traced allows s' es s'') : Traced allows s (e :: es) s''

theorem Traced.append {allows : σ → ε → σ → Prop} {s s' s'' : σ} {es es' : List ε}
    (h : Traced allows s es s') (h' : Traced allows s' es' s'') :
    Traced allows s (es ++ es') s'' := by
  induction h with
  | nil s => exact h'
  | cons now later ih => exact .cons now (ih h')

end Fieldbus
