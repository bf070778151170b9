import Fieldbus.Plugin.Load
import Mathlib.Data.Option.Basic

/-!
# Scripts and libraries keep one contract

A function of a script gives a value and one of a library leaves a buffer behind. What counts is the
bytes in them, and no bytes are no output. If a script and a library register functions for the same
directions, and these give the same output for the same payloads, then both are loaded or neither
is, and whoever calls them cannot tell one from the other.

* `Scalar.output?`, `Buffer.output?`: what a value and a buffer give.
* `Script.Registers`, `Library.Registers`: the functions that are registered.
* `SameOutput`: a function of a script and one of a library give the same.
* `Transform.outcomes`, `Transform.Outcome.answer`: what functions give for calls one after the
  other, and what the contract makes of it.
* `Transform.answers_eq`: a transform answers as the contract says.
* **`plugins_agree`**: scripts and libraries keep one contract.
-/

namespace Fieldbus

/-! ## Outputs -/

/-- Some bytes as an output, if there are any. -/
def nonempty? (bs : Bytes) : Option Bytes := if bs = [] then none else some bs

/-- The output of a value: a text, or the text of a number. -/
def Scalar.output? : Scalar → Option Bytes
  | .string bs => nonempty? bs
  | .integer n => nonempty? (utf8 (toString n))
  | .number text => nonempty? (utf8 text)
  | .nil | .boolean _ | .table | .function | .thread => none

/-- The output in a buffer. -/
def Buffer.output? : Buffer → Option Bytes
  | .null _ => none
  | .data bs => nonempty? bs

theorem Scalar.nonempty?_bytes (v : Scalar) : nonempty? v.bytes = v.output? := by
  cases v <;> rfl

theorem Buffer.nonempty?_bytes (b : Buffer) : nonempty? b.bytes = b.output? := by
  cases b <;> rfl

/-! ## The contract -/

theorem rel_cases {α β : Type} {r : α → β → Prop} {a : Option α} {b : Option β}
    (h : Option.Rel r a b) : (a = none ∧ b = none) ∨ ∃ x y, a = some x ∧ b = some y ∧ r x y := by
  cases h with
  | none => exact .inl ⟨rfl, rfl⟩
  | some h => exact .inr ⟨_, _, rfl, rfl, h⟩

namespace Transform

variable {ρ σ : Type}

/-- A function by the output that it gives, if any. -/
abbrev Behaviour (ρ : Type) := Bytes → ρ → Option Bytes × ρ

/-- What comes of a call. -/
inductive Outcome where
  /-- There is no function for the direction. -/
  | unregistered
  | nothing
  | output (bs : Bytes)

/-- What becomes of a payload: without a function it goes on unchanged, without an output it goes no
further, and otherwise the output goes on. -/
def Outcome.verdict (input : Bytes) : Outcome → Verdict
  | unregistered => .forward input
  | nothing => .drop .empty
  | output bs => .forward bs

/-- The transform's own result. -/
def Outcome.result : Outcome → Option Bytes
  | unregistered => none
  | nothing => some []
  | output bs => some bs

/-- The answer to a call. -/
def Outcome.answer (c : TransformCall) (o : Outcome) : TransformAnswer :=
  if c.raw then .result (.ok o.result) else .verdict (o.verdict c.input)

/-- What comes of a call of a function that gives an output or none. -/
def Outcome.ofOutput : Option Bytes → Outcome
  | none => nothing
  | some bs => output bs

/-- What comes of a call, by how the functions for the directions behave. -/
def outcome (fs : Direction → Option (Behaviour ρ)) (c : TransformCall) (r : ρ) : Outcome × ρ :=
  match fs c.direction with
  | none => (.unregistered, r)
  | some f => (.ofOutput (f c.input r).1, (f c.input r).2)

/-- What comes of calls one after the other. -/
def outcomes (fs : Direction → Option (Behaviour ρ)) : ρ → List TransformCall → List Outcome
  | _, [] => []
  | r, c :: cs => (outcome fs c r).1 :: outcomes fs (outcome fs c r).2 cs

/-- A callback gives what a function does, from states that correspond to those of the function and
into such states. -/
def Follows (R : ρ → σ → Prop) (f : Behaviour ρ) (g : Callback σ) : Prop :=
  ∀ input r s, R r s → ∃ bs, (g input s).1 = .ok bs ∧ (f input r).1 = nonempty? bs ∧
    R (f input r).2 (g input s).2

/-- The transform with a given callback for each direction, if any. -/
def ofCallbacks (name : String) (cs : Direction → Option (Callback σ)) : Transform σ :=
  ⟨name, cs .north, cs .south⟩

theorem callback_ofCallbacks (name : String) (cs : Direction → Option (Callback σ))
    (d : Direction) : (ofCallbacks name cs).callback d = cs d := by
  cases d <;> rfl

variable {R : ρ → σ → Prop} {fs : Direction → Option (Behaviour ρ)} {t : Transform σ} {r : ρ}
  {s : σ} {c : TransformCall}

theorem answer_of_run {x : Option Bytes} {s' : σ}
    (ran : t.run c.direction c.input s = (.ok x, s')) : t.answer c s =
      (if c.raw then .result (.ok x) else .verdict (verdict c.input (.ok x)), s') := by
  unfold answer apply
  rw [ran]
  cases c.raw <;> rfl

theorem answer_of_none (unregistered : t.callback c.direction = none) (s : σ) :
    t.answer c s = (Outcome.unregistered.answer c, s) := by
  have ran : t.run c.direction c.input s = (.ok none, s) := by rw [run, unregistered]
  exact answer_of_run ran

theorem answer_of_some {g : Callback σ} {bs : Bytes} (found : t.callback c.direction = some g)
    (gives : (g c.input s).1 = .ok bs) :
    t.answer c s = ((Outcome.ofOutput (nonempty? bs)).answer c, (g c.input s).2) := by
  have left : g c.input s = (.ok bs, (g c.input s).2) := Prod.ext gives rfl
  have ran : t.run c.direction c.input s = (.ok (some bs), (g c.input s).2) := by
    rw [run, found]
    dsimp only
    rw [left]
  rw [answer_of_run ran]
  cases bs <;> rfl

theorem answer_eq (follows : ∀ d, Option.Rel (Follows R) (fs d) (t.callback d)) (here : R r s)
    (c : TransformCall) : (t.answer c s).1 = (outcome fs c r).1.answer c ∧
      R (outcome fs c r).2 (t.answer c s).2 := by
  rcases rel_cases (follows c.direction) with ⟨hf, hg⟩ | ⟨f, g, hf, hg, same⟩
  · rw [outcome, hf, answer_of_none hg]
    exact ⟨rfl, here⟩
  · obtain ⟨bs, gives, output, next⟩ := same c.input r s here
    rw [outcome, hf, answer_of_some hg gives, ← output]
    exact ⟨rfl, next⟩

/-- **A transform answers as the contract says**, whatever it is called for. -/
theorem answers_eq (follows : ∀ d, Option.Rel (Follows R) (fs d) (t.callback d)) (here : R r s)
    (calls : List TransformCall) :
    t.answers s calls = List.zipWith Outcome.answer calls (outcomes fs r calls) := by
  induction calls generalizing r s with
  | nil => rfl
  | cons c calls ih =>
    obtain ⟨first, next⟩ := answer_eq follows here c
    rw [answers, outcomes, List.zipWith_cons_cons, ← first, ← ih next]

/-- A function never makes an empty payload go on. -/
theorem answer_ne_forward_nil (registered : (t.callback c.direction).isSome) (s : σ) :
    (t.answer c s).1 ≠ .verdict (.forward []) := by
  obtain ⟨g, found⟩ := Option.isSome_iff_exists.mp registered
  unfold answer apply run
  rw [found]
  dsimp only
  obtain ⟨⟨e⟩ | ⟨bs⟩, s'⟩ := g c.input s
  · cases c.raw <;> simp [verdict]
  · cases bs <;> cases c.raw <;> simp [verdict]

theorem getElem?_answers {calls : List TransformCall} {i : Nat}
    (there : calls[i]? = some c) (s : σ) :
    ∃ s', (t.answers s calls)[i]? = some (t.answer c s').1 := by
  induction calls generalizing i s with
  | nil => exact absurd there (by simp)
  | cons first calls ih =>
    cases i with
    | zero =>
      obtain rfl := Option.some.inj there
      exact ⟨s, rfl⟩
    | succ i => exact ih there _

end Transform

/-! ## Registration -/

variable {σ τ : Type} {R : σ → τ → Prop}

/-- What a script puts in the place of a function that it has or has not. -/
def Registered.place : Option (ScriptFunction σ) → Registered σ
  | none => .value .nil
  | some f => .function f

/-- Something that is no function is in the place of one. -/
def Registered.Refused : Registered σ → Prop
  | .function _ => False
  | .value v => v ≠ .nil

/-- The functions that a script registers, if it raises no error. A script that is refused registers
none: one without an entry function, or of which the entry function gives no table, or something
that is no function in it. -/
inductive Script.Registers : Script σ → (Direction → Option (ScriptFunction σ)) → Prop where
  | functions (fs : Direction → Option (ScriptFunction σ)) :
      Registers (.ok (some (.ok (.table (.place (fs .north)) (.place (fs .south)))))) fs
  | noEntry : Registers (.ok none) fun _ => none
  | noTable (v : Scalar) : Registers (.ok (some (.ok (.value v)))) fun _ => none
  | noFunction {north south : Registered σ} (refused : north.Refused ∨ south.Refused) :
      Registers (.ok (some (.ok (.table north south)))) fun _ => none

/-- The functions that a library registers, if it can be loaded and has an entry function. One that
reports a failure registers none. -/
inductive Library.Registers : Library τ → (Direction → Option (LibraryFunction τ)) → Prop where
  | functions (gs : Direction → Option (LibraryFunction τ)) :
      Registers (.entry ⟨0, gs .north, gs .south⟩) gs
  | failure {driver : Driver τ} (failed : driver.status ≠ 0) :
      Registers (.entry driver) fun _ => none

theorem Script.registered_of_refused {x : Registered σ} (refused : x.Refused) (d : Direction) :
    ∃ cause, registered d x = .error cause := by
  cases x with
  | function f => exact refused.elim
  | value v =>
    cases v with
    | nil => exact absurd rfl refused
    | _ => exact ⟨_, rfl⟩

theorem Script.functions_of_refused {north south : Registered σ}
    (refused : north.Refused ∨ south.Refused) :
    ∃ cause, functions north south = .error cause := by
  cases first : registered .north north with
  | error cause =>
    refine ⟨cause, ?_⟩
    rw [functions, first]
    rfl
  | ok n =>
    -- the second place is looked at only if the first is in order
    have second : south.Refused := refused.resolve_left fun h => by
      obtain ⟨cause, failed⟩ := registered_of_refused h .north
      rw [first] at failed
      cases failed
    obtain ⟨cause, failed⟩ := registered_of_refused second .south
    refine ⟨cause, ?_⟩
    rw [functions, first, failed]
    rfl

theorem Script.functions_place (n s : Option (ScriptFunction σ)) :
    functions (.place n) (.place s) =
      if n.isNone && s.isNone then .error .noFunctions
      else .ok (n.map callback, s.map callback) := by
  cases n <;> cases s <;> rfl

theorem not_both_none {α : Type} {fs : Direction → Option α} {d : Direction} {f : α}
    (found : fs d = some f) : ((fs .north).isNone && (fs .south).isNone) = false := by
  cases d <;> simp [found]

namespace Script.Registers

variable {script : Script σ} {fs : Direction → Option (ScriptFunction σ)}

theorem load_of_none (registers : script.Registers fs) (nothing : ∀ d, fs d = none)
    (path : String) : ∃ cause, script.load path = .error (.register path cause) := by
  cases registers with
  | functions fs =>
    rw [nothing .north, nothing .south]
    exact ⟨.noFunctions, rfl⟩
  | noEntry => exact ⟨.noEntry, rfl⟩
  | noTable v => exact ⟨.noTable v.typeName, rfl⟩
  | noFunction refused =>
    obtain ⟨cause, failed⟩ := functions_of_refused refused
    refine ⟨cause, ?_⟩
    rw [load, failed]

theorem load_of_some (registers : script.Registers fs) {d : Direction} {f : ScriptFunction σ}
    (found : fs d = some f) (path : String) :
    script.load path = .ok (.ofCallbacks path fun d => (fs d).map Script.callback) := by
  cases registers with
  | functions fs =>
    rw [load, functions_place, not_both_none found, if_neg Bool.false_ne_true]
    rfl
  | noEntry | noTable | noFunction => cases found

end Script.Registers

namespace Library.Registers

variable {library : Library τ} {gs : Direction → Option (LibraryFunction τ)}

theorem load_of_none (registers : library.Registers gs) (nothing : ∀ d, gs d = none)
    (path : String) : ∃ cause, library.load path = .error (.register path cause) := by
  cases registers with
  | functions gs =>
    rw [nothing .north, nothing .south]
    exact ⟨.noCallbacks, rfl⟩
  | @failure driver failed =>
    refine ⟨.status driver.status, ?_⟩
    rw [load, if_pos failed]

theorem load_of_some (registers : library.Registers gs) {d : Direction} {g : LibraryFunction τ}
    (found : gs d = some g) (path : String) :
    library.load path = .ok (.ofCallbacks path fun d => (gs d).map Library.callback) := by
  cases registers with
  | functions gs =>
    rw [load, if_neg (not_not_intro rfl)]
    dsimp only
    rw [not_both_none found, if_neg Bool.false_ne_true]
    rfl
  | failure => cases found

end Library.Registers

/-! ## Two plugins -/

/-- A function of a script and one of a library that give the same output for the same payload, from
states that correspond to each other, and leave such states behind. -/
def SameOutput (R : σ → τ → Prop) (f : ScriptFunction σ) (g : LibraryFunction τ) : Prop :=
  ∀ input s s', R s s' → ∃ v, (f input s).1 = .ok v ∧ v.output? = (g input s').1.output? ∧
    R (f input s).2 (g input s').2

/-- How a function of a library behaves. -/
def LibraryFunction.behaviour (g : LibraryFunction τ) : Transform.Behaviour τ := fun input s =>
  ((g input s).1.output?, (g input s).2)

theorem Library.follows (g : LibraryFunction τ) :
    Transform.Follows Eq g.behaviour (Library.callback g) := by
  rintro input s _ rfl
  exact ⟨(g input s).1.bytes, rfl, (Buffer.nonempty?_bytes _).symm, rfl⟩

theorem SameOutput.follows {f : ScriptFunction σ} {g : LibraryFunction τ}
    (same : SameOutput R f g) :
    Transform.Follows (fun s' s => R s s') g.behaviour (Script.callback f) := by
  intro input s' s here
  obtain ⟨v, gives, output, next⟩ := same input s s' here
  have called : f input s = (.ok v, (f input s).2) := Prod.ext gives rfl
  refine ⟨v.bytes, ?_, ?_, ?_⟩
  · rw [Script.callback, called]
  · rw [Scalar.nonempty?_bytes, output]
    rfl
  · rw [Script.callback, called]
    exact next

section

variable {fs : Direction → Option (ScriptFunction σ)} {gs : Direction → Option (LibraryFunction τ)}

/-- A script of which the functions give the same as those of a library behaves as the library
does. -/
theorem follows_script (same : ∀ d, Option.Rel (SameOutput R) (fs d) (gs d)) (path : String)
    (d : Direction) : Option.Rel (Transform.Follows fun s' s => R s s')
      ((gs d).map LibraryFunction.behaviour)
      ((Transform.ofCallbacks path fun d => (fs d).map Script.callback).callback d) := by
  rw [Transform.callback_ofCallbacks]
  rcases rel_cases (same d) with ⟨hf, hg⟩ | ⟨f, g, hf, hg, alike⟩
  · rw [hf, hg]
    exact .none
  · rw [hf, hg]
    exact .some alike.follows

theorem follows_library (gs : Direction → Option (LibraryFunction τ)) (path : String)
    (d : Direction) : Option.Rel (Transform.Follows Eq)
      ((gs d).map LibraryFunction.behaviour)
      ((Transform.ofCallbacks path fun d => (gs d).map Library.callback).callback d) := by
  rw [Transform.callback_ofCallbacks]
  cases gs d with
  | none => exact .none
  | some g => exact .some (Library.follows g)

/-- **Scripts and libraries keep one contract.** If a script and a library register functions for
the same directions, and these give the same output for the same payloads, then both are loaded, or
both are refused since nothing is registered. Once loaded they answer any calls alike, and as the
contract says by what the functions give: a payload goes on unchanged if there is no function for
its direction, goes no further if there is no output, and otherwise the output goes on, which is
never empty. -/
theorem plugins_agree {script : Script σ} {library : Library τ} (first : script.Registers fs)
    (second : library.Registers gs) (same : ∀ d, Option.Rel (SameOutput R) (fs d) (gs d))
    (path path' : String) :
    ((∃ cause, script.load path = .error (.register path cause)) ↔ ∀ d, gs d = none) ∧
    ((∃ cause, library.load path' = .error (.register path' cause)) ↔ ∀ d, gs d = none) ∧
    ((∃ d, gs d ≠ none) → ∃ (t : Transform σ) (u : Transform τ),
      script.load path = .ok t ∧ library.load path' = .ok u ∧
      ∀ s s', R s s' → ∀ calls : List TransformCall,
        t.answers s calls = List.zipWith Transform.Outcome.answer calls
          (Transform.outcomes (fun d => (gs d).map LibraryFunction.behaviour) s' calls) ∧
        u.answers s' calls = t.answers s calls ∧
        ∀ (i : Nat) (c : TransformCall), calls[i]? = some c → gs c.direction ≠ none →
          (t.answers s calls)[i]? ≠ some (TransformAnswer.verdict (.forward []))) := by
  by_cases nothing : ∀ d, gs d = none
  · have nothing' (d : Direction) : fs d = none := by
      rcases rel_cases (same d) with ⟨hf, -⟩ | ⟨f, g, -, hg, -⟩
      · exact hf
      · rw [nothing d] at hg
        cases hg
    exact ⟨iff_of_true (first.load_of_none nothing' path) nothing,
      iff_of_true (second.load_of_none nothing path') nothing, fun ⟨d, h⟩ => absurd (nothing d) h⟩
  · obtain ⟨d, something⟩ := not_forall.mp nothing
    obtain ⟨f, g, hf, hg, -⟩ := (rel_cases (same d)).resolve_left fun h => something h.2
    have loaded := first.load_of_some hf path
    have loaded' := second.load_of_some hg path'
    refine ⟨iff_of_false ?_ nothing, iff_of_false ?_ nothing,
      fun _ => ⟨_, _, loaded, loaded', fun s s' here calls => ?_⟩⟩
    · rintro ⟨cause, refused⟩
      rw [loaded] at refused
      cases refused
    · rintro ⟨cause, refused⟩
      rw [loaded'] at refused
      cases refused
    · have answers := Transform.answers_eq (follows_script same path) here calls
      have answers' := Transform.answers_eq (follows_library gs path') (Eq.refl s') calls
      refine ⟨answers, answers'.trans answers.symm, fun i c there registered => ?_⟩
      -- a library answers alike, and its functions are known to be registered
      rw [answers, ← answers']
      obtain ⟨s'', reached⟩ := Transform.getElem?_answers there s'
      rw [reached]
      refine fun empty => Transform.answer_ne_forward_nil ?_ s'' (Option.some.inj empty)
      rw [Transform.callback_ofCallbacks, Option.isSome_map]
      exact Option.isSome_iff_ne_none.mpr registered

/-- A script and a library that cut off the first byte of a payload that goes north. The script
counts its calls, and the library says that there are three bytes where it leaves no buffer. -/
theorem plugins_agree_cutting :
    let f : ScriptFunction Nat := fun input n =>
      (.ok (if input = [] then .nil else .string (input.drop 1)), n + 1)
    let g : LibraryFunction Unit := fun input s =>
      (if input = [] then .null 3 else .data (input.drop 1), s)
    let script : Script Nat := .ok (some (.ok (.table (.function f) (.value .nil))))
    let library : Library Unit := .entry ⟨0, some g, none⟩
    let calls : List TransformCall := [⟨.north, [0x61, 0x62], false⟩, ⟨.north, [0x61], false⟩,
      ⟨.north, [], false⟩, ⟨.south, [], false⟩]
    ∃ t u, script.load "a.lua" = .ok t ∧ library.load "a.so" = .ok u ∧
      t.answers 0 calls = [.verdict (.forward [0x62]), .verdict (.drop .empty),
        .verdict (.drop .empty), .verdict (.forward [])] ∧
      u.answers () calls = t.answers 0 calls := by
  intro f g script library calls
  let fs (d : Direction) : Option (ScriptFunction Nat) := if d = .north then some f else none
  let gs (d : Direction) : Option (LibraryFunction Unit) := if d = .north then some g else none
  have alike : SameOutput (fun _ _ => True) f g := by
    intro input n s _
    refine ⟨_, rfl, ?_, trivial⟩
    by_cases empty : input = [] <;> simp [g, empty, Scalar.output?, Buffer.output?]
  have same (d : Direction) : Option.Rel (SameOutput fun _ _ => True) (fs d) (gs d) := by
    cases d with
    | north => exact .some alike
    | south => exact .none
  have registers : script.Registers fs := .functions fs
  have registers' : library.Registers gs := .functions gs
  obtain ⟨-, -, loads⟩ := plugins_agree registers registers' same "a.lua" "a.so"
  obtain ⟨t, u, loaded, loaded', agree⟩ := loads ⟨.north, Option.some_ne_none g⟩
  obtain ⟨answers, answers', -⟩ := agree 0 () trivial calls
  exact ⟨t, u, loaded, loaded', answers.trans rfl, answers'⟩

end

end Fieldbus
