import Fieldbus.CommandLine.Arguments
import Mathlib.Data.List.Nodup

/-!
# Switches with their values attached

* `Value.below_toString`, `Value.shorter_toString`: a number is read from its digits.
* `Command.Fills`: arguments that put values into the record, each under a name of its own.
* `Command.surround`: what the environment gives for a switch that is not given.
* **`Command.parse_of_fills`**: the record that such arguments and the environment spell.
-/

namespace Fieldbus

/-! ## Numbers -/

namespace Value

variable {n bound : Nat}

theorem toDigits_ne_cons {c : Char} (sign : c.isDigit = false) (n : Nat) (r : List Char) :
    Nat.toDigits 10 n ≠ c :: r := by
  intro h
  have digit : c.isDigit = true :=
    Nat.isDigit_of_mem_toDigits (by decide) (by decide) (h ▸ List.mem_cons_self)
  exact Bool.false_ne_true (sign.symm.trans digit)

theorem digits?_toDigits (n : Nat) : digits? (Nat.toDigits 10 n) = some n := by
  have some_ : (Nat.toDigits 10 n).isEmpty = false :=
    List.isEmpty_eq_false_iff.mpr Nat.toDigits_ne_nil
  have all : (Nat.toDigits 10 n).all Char.isDigit = true :=
    List.all_eq_true.mpr fun c hc => Nat.isDigit_of_mem_toDigits (by decide) (by decide) hc
  have spelled := Nat.ofDigitChars_toDigits (b := 10) (n := n) (by decide) (by decide)
  unfold Nat.ofDigitChars at spelled
  unfold digits?
  rw [some_, all]
  simp only [Nat.mul_comm _ 10]
  exact congrArg some spelled

theorem below_toDigits (h : n < bound) : below bound (Nat.toDigits 10 n) = .ok n := by
  rw [below, digits?_toDigits]
  · exact if_pos h
  · exact fun r digits => toDigits_ne_cons rfl n r digits

theorem below_toString (h : n < bound) : below bound (toString n).toList = .ok n := by
  have digits : (toString n).toList = Nat.toDigits 10 n := Nat.toList_repr
  rw [digits]
  exact below_toDigits h

theorem shorter_toString (h : n < bound) : shorter bound (toString n) = .ok n := by
  have digits : (toString n).toList = Nat.toDigits 10 n := Nat.toList_repr
  rw [shorter, digits]
  split
  · next r digits => exact absurd digits (toDigits_ne_cons rfl n r)
  · exact below_toDigits h

end Value

namespace Command

variable {α : Type} {c : Command α} {p : Progress α} {r : α}

/-! ## Switches -/

/-- Every value has been looked at, and only some names were given. -/
structure Progress.Ready (p : Progress α) (r : α) (names : List String) : Prop where
  record : p.record = r
  pending : p.pending = none
  switches : p.operandsOnly = false
  given : p.given ⊆ names

theorem Progress.Ready.settle {names : List String} (h : p.Ready r names) :
    p.settle = .ok { p with waiting := false } := by
  unfold Progress.settle
  split
  · rfl
  · next q pending =>
    rw [h.pending] at pending
    cases pending

/-- Arguments under names not given before change the record. -/
def Fills (c : Command α) (args names : List String) (f : α → α) : Prop :=
  ∀ p r old, Progress.Ready p r old → (∀ n ∈ names, n ∉ old) →
    ∃ p', args.foldlM c.step p = .ok p' ∧ p'.Ready (f r) (names ++ old)

theorem fills_nil (c : Command α) (names : List String) : c.Fills [] names id := by
  intro p r old ready _
  exact ⟨p, rfl, ready.record, ready.pending, ready.switches,
    List.subset_append_of_subset_right names ready.given⟩

theorem Fills.append {args args' names names' : List String} {f g : α → α}
    (h : c.Fills args names f) (h' : c.Fills args' names' g) (apart : ∀ n ∈ names', n ∉ names) :
    c.Fills (args ++ args') (names' ++ names) (g ∘ f) := by
  intro p r old ready fresh
  obtain ⟨p', first, ready'⟩ := h p r old ready fun n hn =>
    fresh n (List.mem_append_right names' hn)
  obtain ⟨p'', second, ready''⟩ := h' p' (f r) (names ++ old) ready' fun n hn => by
    rw [List.mem_append, not_or]
    exact ⟨apart n hn, fresh n (List.mem_append_left names hn)⟩
  refine ⟨p'', ?_, ?_⟩
  · rw [List.foldlM_append, first]
    exact second
  · rw [List.append_assoc]
    exact ready''

theorem takeWhile_name {name : List Char} (plain : '=' ∉ name) (v : List Char) :
    (name ++ '=' :: v).takeWhile (· ≠ '=') = name ∧
      (name ++ '=' :: v).dropWhile (· ≠ '=') = '=' :: v := by
  induction name with
  | nil => exact ⟨rfl, rfl⟩
  | cons a name ih =>
    rw [List.mem_cons, not_or] at plain
    obtain ⟨before, after⟩ := ih plain.2
    have other : a ≠ '=' := fun h => plain.1 h.symm
    rw [List.cons_append, List.takeWhile_cons, List.dropWhile_cons, before, after]
    simp [other]

theorem step_attached {name : String} {s : Switch α}
    (found : (c.switches.find? fun s => s.long = name) = some s) (plain : '=' ∉ name.toList)
    (switches : p.operandsOnly = false) (v : String) :
    c.step p ("--" ++ name ++ "=" ++ v) = p.takeAttached s v := by
  have spelled : ("--" ++ name ++ "=" ++ v).toList =
      '-' :: '-' :: (name.toList ++ '=' :: v.toList) := by
    simp [String.toList_append]
  obtain ⟨before, after⟩ := takeWhile_name plain v.toList
  have long : c.takeLong p (name.toList ++ '=' :: v.toList) = p.takeAttached s v := by
    simp only [takeLong, before, after, String.ofList_toList, found]
  obtain ⟨a, cs, cons⟩ : ∃ a cs, name.toList ++ '=' :: v.toList = a :: cs :=
    List.exists_cons_of_ne_nil (List.append_ne_nil_of_right_ne_nil _ (List.cons_ne_nil _ _))
  rw [step, switches, if_neg Bool.false_ne_true, spelled, ← long, cons]
  rfl

theorem fills_attached {β : Type} {name v : String} {s : Switch α}
    {read : String → Except Refusal β} {put : β → α → α} {b : β} {f : α → α}
    (found : (c.switches.find? fun s => s.long = name) = some s) (plain : '=' ∉ name.toList)
    (takes : s.action = .of read put) (reads : read v = .ok b) (given : f = put b) :
    c.Fills ["--" ++ name ++ "=" ++ v] [name] f := by
  intro p r old ready fresh
  have named : s.long = name := by simpa using List.find?_some found
  have new : p.given.contains name = false := by
    rw [List.contains_eq_mem, decide_eq_false_iff_not]
    exact fun given => fresh name (List.mem_singleton_self name) (ready.given given)
  subst given
  let p' : Progress α := { p with waiting := false, record := put b r, given := name :: p.given }
  have accepted : p.takeAttached s v = .ok p' := by
    simp only [Progress.takeAttached, takes, Action.of, ready.settle, named, bind, Except.bind,
      Progress.accept, new, Bool.and_false, Bool.false_eq_true, if_false, reads, ready.record]
    rfl
  refine ⟨p', ?_, rfl, ready.pending, ready.switches, List.cons_subset_cons name ready.given⟩
  rw [List.foldlM_cons, step_attached found plain ready.switches, accepted]
  rfl

theorem fills_optional {β γ δ : Type} {n : String} {s : Switch α}
    {read : String → Except Refusal β} {put : β → α → α} {w : γ → String × δ} {value : γ → β}
    {o : Option γ} {f : α → α} (found : (c.switches.find? fun s => s.long = n) = some s)
    (plain : '=' ∉ n.toList) (takes : s.action = .of read put)
    (reads : ∀ x, read (w x).1 = .ok (value x)) (left : o = none → f = id)
    (given : ∀ x, o = some x → f = put (value x)) :
    c.Fills ((o.map w).map fun g => "--" ++ n ++ "=" ++ g.1).toList [n] f := by
  cases o with
  | none =>
    rw [left rfl]
    exact fills_nil c [n]
  | some x =>
    exact fills_attached found plain takes (reads x) (given x rfl)

/-! ## The environment -/

/-- The record with what the environment gives for a switch. -/
def surround (env : List (String × String)) (r : α) (s : Switch α) : Except Refusal α :=
  match s.environment.bind fun v => (env.find? fun e => e.1 = v).map Prod.snd, s.action with
  | some v, .value take | some v, .values take => take v r
  | _, _ => .ok r

/-- The switches for which the environment may stand in. -/
def surrounded (ss : List (Switch α)) : List String :=
  (ss.filter fun s => s.environment.isSome).map Switch.long

theorem surrounded_cons (s : Switch α) (ss : List (Switch α)) :
    surrounded (s :: ss) = surrounded [s] ++ surrounded ss := by
  unfold surrounded
  rw [← List.map_append, ← List.filter_append]
  rfl

theorem fromEnvironment_cases (env : List (String × String)) (p : Progress α) (s : Switch α)
    (new : ∀ n ∈ surrounded [s], n ∉ p.given) :
    (∃ e, surround env p.record s = .error e ∧ fromEnvironment env p s = .error e) ∨
      ∃ r given, given ⊆ surrounded [s] ++ p.given ∧ surround env p.record s = .ok r ∧
        fromEnvironment env p s = .ok { p with record := r, given := given } := by
  have kept : p.given ⊆ surrounded [s] ++ p.given := List.subset_append_right _ _
  unfold surround fromEnvironment
  cases hv : s.environment.bind fun v => (env.find? fun e => e.1 = v).map Prod.snd with
  | none => exact .inr ⟨_, _, kept, rfl, rfl⟩
  | some v =>
    obtain ⟨name, named, -⟩ := Option.bind_eq_some_iff.mp hv
    have alone : surrounded [s] = [s.long] := by simp [surrounded, named]
    have fresh : p.given.contains s.long = false := by
      rw [List.contains_eq_mem, decide_eq_false_iff_not]
      exact new s.long (alone ▸ List.mem_singleton_self _)
    cases s.action with
    | flag | help | version => exact .inr ⟨_, _, kept, rfl, rfl⟩
    | value take | values take =>
      simp only [fresh, Bool.false_eq_true, if_false, Progress.accept, Bool.and_false]
      cases take v p.record with
      | error e => exact .inl ⟨e, rfl, rfl⟩
      | ok r =>
        refine .inr ⟨r, s.long :: p.given, ?_, rfl, rfl⟩
        rw [alone]
        exact List.Subset.refl _

theorem foldlM_fromEnvironment (env : List (String × String)) (ss : List (Switch α))
    (distinct : (ss.map Switch.long).Nodup) (p : Progress α)
    (new : ∀ n ∈ surrounded ss, n ∉ p.given) :
    (∃ e, ss.foldlM (surround env) p.record = .error e ∧
        ss.foldlM (fromEnvironment env) p = .error e) ∨
      ∃ r given, given ⊆ surrounded ss ++ p.given ∧ ss.foldlM (surround env) p.record = .ok r ∧
        ss.foldlM (fromEnvironment env) p = .ok { p with record := r, given := given } := by
  induction ss generalizing p with
  | nil => exact .inr ⟨_, _, List.Subset.refl _, rfl, rfl⟩
  | cons s ss ih =>
    rw [surrounded_cons] at new ⊢
    rw [List.map_cons, List.nodup_cons] at distinct
    rw [List.foldlM_cons, List.foldlM_cons]
    rcases fromEnvironment_cases env p s fun n hn => new n (List.mem_append_left _ hn) with
      ⟨e, refused, refused'⟩ | ⟨r, given, among, put, put'⟩
    · rw [refused, refused']
      exact .inl ⟨e, rfl, rfl⟩
    · rw [put, put']
      -- the names of the other switches are other names
      have fresh : ∀ n ∈ surrounded ss, n ∉ given := by
        intro n hn hg
        rcases List.mem_append.mp (among hg) with own | old
        · obtain ⟨s', hs', rfl⟩ := List.mem_map.mp hn
          obtain ⟨s'', hs'', same⟩ := List.mem_map.mp own
          rw [List.mem_singleton.mp (List.mem_filter.mp hs'').1] at same
          exact distinct.1 (same ▸ List.mem_map_of_mem (List.mem_filter.mp hs').1)
        · exact new n (List.mem_append_right _ hn) old
      rcases ih distinct.2 { p with record := r, given := given } fresh with
        refused | ⟨r', given', among', rest⟩
      · exact .inl refused
      · refine .inr ⟨r', given', fun n hn => ?_, rest⟩
        rw [List.append_assoc, List.mem_append, List.mem_append]
        rcases List.mem_append.mp (among' hn) with later | earlier
        · exact .inr (.inl later)
        · exact (List.mem_append.mp (among earlier)).imp_right .inr

/-- **The record that arguments and environment spell.** The environment stands in for switches that
are not given; it is asked after all arguments were taken. -/
theorem parse_of_fills {args names : List String} {f : α → α} (fills : c.Fills args names f)
    (distinct : (c.switches.map Switch.long).Nodup)
    (new : ∀ n ∈ surrounded c.switches, n ∉ names)
    (compatible : ∀ x ∈ c.exclusive, x.1 ∉ surrounded c.switches ++ names) (free : c.required = [])
    (env : List (String × String)) :
    c.parse env args = c.switches.foldlM (surround env) (f c.start) := by
  have start : Progress.Ready ({ record := c.start } : Progress α) c.start [] :=
    ⟨rfl, rfl, rfl, List.Subset.refl _⟩
  obtain ⟨p, taken, ready⟩ := fills _ _ _ start fun n _ => List.not_mem_nil
  rw [List.append_nil] at ready
  let p' : Progress α := { p with waiting := false }
  have settled : p.settle = .ok p' := ready.settle
  have record : p'.record = f c.start := ready.record
  have around := foldlM_fromEnvironment env c.switches distinct p' fun n hn hg =>
    new n hn (ready.given hg)
  rw [record] at around
  simp only [parse, taken, settled, bind, Except.bind]
  rcases around with ⟨e, refused, refused'⟩ | ⟨r, given, among, put, put'⟩
  · rw [refused, refused']
  · have apart (x : String × String) (hx : x ∈ c.exclusive) : given.contains x.1 = false := by
      rw [List.contains_eq_mem, decide_eq_false_iff_not]
      intro hg
      have one := List.mem_append.mp (among hg)
      exact compatible x hx (List.mem_append.mpr (one.imp_right fun old => ready.given old))
    rw [put, put']
    simp only [free, List.any_nil, Bool.false_eq_true, if_false]
    rw [if_neg]
    · rfl
    · rw [Bool.not_eq_true, List.any_eq_false]
      rintro ⟨a, b⟩ hx
      rw [apart _ hx, Bool.false_and]
      exact Bool.false_ne_true

theorem surround_map {env : List (String × String)} {f : α → α} {s : Switch α}
    (apart : s.environment = none ∨
      ∃ (β : Type) (read : String → Except Refusal β) (put : β → α → α),
        s.action = .of read put ∧ ∀ b r, put b (f r) = f (put b r)) (r : α) :
    surround env (f r) s = (surround env r s).map f := by
  unfold surround
  rcases apart with none | ⟨β, read, put, takes, comm⟩
  · rw [none]
    rfl
  · rw [takes]
    cases s.environment.bind fun v => (env.find? fun e => e.1 = v).map Prod.snd with
    | none => rfl
    | some v =>
      show (read v).map (fun b => put b (f r)) = ((read v).map fun b => put b r).map f
      cases read v with
      | error e => rfl
      | ok b => exact congrArg Except.ok (comm b r)

theorem foldlM_surround {env : List (String × String)} {f : α → α} {ss : List (Switch α)}
    (apart : ∀ s ∈ ss, ∀ r, surround env (f r) s = (surround env r s).map f) (r : α) :
    ss.foldlM (surround env) (f r) = (ss.foldlM (surround env) r).map f := by
  induction ss generalizing r with
  | nil => rfl
  | cons s ss ih =>
    have rest := ih fun s hs => apart s (List.mem_cons_of_mem _ hs)
    rw [List.foldlM_cons, List.foldlM_cons, apart s List.mem_cons_self]
    cases surround env r s with
    | error e => rfl
    | ok r' => exact rest r'

end Command

end Fieldbus
