import Fieldbus.Json.Decode
import Mathlib.Data.List.Nodup

/-!
# What a decoded record holds

The members of an object are put in order before they are read, and the items of an array stand for
the fields in their order. Either way every field is read at most once, from the value that was
given for it.

* `Json.given?`: the value that is given for a field.
* `find?_canonical`: putting the members in order keeps what counts.
* `Record.assignments`: the fields that are read, with their values.
* `Record.Reads`: a field, as what is read back of a record.
* **`Record.Reads.decode`**: a decoded record holds what was given, or the default.
* **`Record.decode_cases`**: a record that cannot be decoded fails over one of its fields.
* **`Record.decode_congr`**: an object is decoded by the members that are named like fields.
-/

namespace Fieldbus.Json

/-- The value that is given for a field: the member of that name, or the item in its place. -/
def given? (names : List String) (name : String) : Json → Option Json
  | obj members => member? name members
  | arr items => items[names.idxOf name]?
  | _ => none

/-! ## Members in order -/

/-- The names of some members increase. -/
def Increasing (ms : List (String × Json)) : Prop := ms.Pairwise fun a b => a.1 < b.1

theorem find?_place (name : String) (v : Json) (ms : List (String × Json)) (n : String) :
    (place name v ms).find? (fun m => m.1 = n) =
      if name = n then some (name, v) else ms.find? fun m => m.1 = n := by
  induction ms with
  | nil => by_cases h : name = n <;> simp [place, h]
  | cons m ms ih =>
    unfold place
    split
    · by_cases h : name = n <;> simp [h]
    · next before =>
      split
      · next same => by_cases h : name = n <;> simp [← same, h]
      · next differ =>
        by_cases hm : m.1 = n
        · have h : name ≠ n := fun h => differ (h.trans hm.symm)
          simp [hm, h]
        · simp [hm, ih]

theorem find?_foldl_place (ms sorted : List (String × Json)) (n : String) :
    (ms.foldl (fun sorted m => place m.1 m.2 sorted) sorted).find? (fun m => m.1 = n) =
      (ms.reverse.find? fun m => m.1 = n).or (sorted.find? fun m => m.1 = n) := by
  induction ms generalizing sorted with
  | nil => simp
  | cons m ms ih =>
    rw [List.foldl_cons, ih, find?_place, List.reverse_cons, List.find?_append, Option.or_assoc]
    congr 1
    by_cases h : m.1 = n
    · subst h
      simp
    · simp [h]

/-- Putting the members in order keeps what counts. -/
theorem find?_canonical (ms : List (String × Json)) (n : String) :
    ((canonical ms).find? fun m => m.1 = n).map Prod.snd = member? n ms := by
  rw [canonical, find?_foldl_place]
  simp [member?]

theorem mem_place {name : String} {v : Json} {ms : List (String × Json)} {m : String × Json}
    (h : m ∈ place name v ms) : m = (name, v) ∨ m ∈ ms := by
  induction ms with
  | nil => exact .inl (List.mem_singleton.mp h)
  | cons x ms ih =>
    unfold place at h
    split at h
    · exact List.mem_cons.mp h
    · split at h
      · exact (List.mem_cons.mp h).imp_right (List.mem_cons_of_mem x)
      · rcases List.mem_cons.mp h with rfl | h
        · exact .inr List.mem_cons_self
        · exact (ih h).imp_right (List.mem_cons_of_mem x)

theorem Increasing.place {name : String} {v : Json} {ms : List (String × Json)}
    (h : Increasing ms) : Increasing (place name v ms) := by
  induction ms with
  | nil => exact List.pairwise_singleton _ _
  | cons m ms ih =>
    obtain ⟨first, rest⟩ := List.pairwise_cons.mp h
    unfold Json.place
    split
    · next before =>
      refine List.pairwise_cons.mpr ⟨fun x hx => ?_, h⟩
      rcases List.mem_cons.mp hx with rfl | hx
      · exact before
      · exact String.lt_trans before (first x hx)
    · next before =>
      split
      · next same => exact List.pairwise_cons.mpr ⟨fun x hx => same ▸ first x hx, rest⟩
      · next differ =>
        have after : m.1 < name := Classical.byContradiction fun h =>
          differ (String.le_antisymm (String.not_lt.mp h) (String.not_lt.mp before))
        refine List.pairwise_cons.mpr ⟨fun x hx => ?_, ih rest⟩
        rcases mem_place hx with rfl | hx
        · exact after
        · exact first x hx

theorem increasing_canonical (ms : List (String × Json)) : Increasing (canonical ms) := by
  have go : ∀ (ms sorted : List (String × Json)), Increasing sorted →
      Increasing (ms.foldl (fun sorted m => place m.1 m.2 sorted) sorted) := by
    intro ms
    induction ms with
    | nil => exact fun _ h => h
    | cons m ms ih => exact fun sorted h => ih _ h.place
  exact go ms [] List.Pairwise.nil

/-! ## Members of distinct names -/

theorem find?_eq_some_iff {ms : List (String × Json)} (distinct : (ms.map Prod.fst).Nodup)
    {name : String} {m : String × Json} :
    ms.find? (fun m => m.1 = name) = some m ↔ m ∈ ms ∧ m.1 = name := by
  constructor
  · intro found
    exact ⟨List.mem_of_find?_eq_some found, by simpa using List.find?_some found⟩
  · rintro ⟨member, rfl⟩
    have some : (ms.find? fun x => x.1 = m.1).isSome :=
      List.find?_isSome.mpr ⟨m, member, decide_eq_true rfl⟩
    obtain ⟨x, found⟩ := Option.isSome_iff_exists.mp some
    have same : x.1 = m.1 := by simpa using List.find?_some found
    rw [found, List.inj_on_of_nodup_map distinct (List.mem_of_find?_eq_some found) member same]

theorem find?_perm {ms ms' : List (String × Json)} (perm : ms.Perm ms')
    (distinct : (ms.map Prod.fst).Nodup) (name : String) :
    ms.find? (fun m => m.1 = name) = ms'.find? fun m => m.1 = name := by
  have distinct' := (perm.map Prod.fst).nodup_iff.mp distinct
  refine Option.ext fun m => ?_
  rw [find?_eq_some_iff distinct, find?_eq_some_iff distinct', perm.mem_iff]

theorem member?_perm {ms ms' : List (String × Json)} (perm : ms.Perm ms')
    (distinct : (ms.map Prod.fst).Nodup) (name : String) :
    member? name ms = member? name ms' := by
  have reversed : ms.reverse.Perm ms'.reverse :=
    (List.reverse_perm ms).trans (perm.trans (List.reverse_perm ms').symm)
  have distinct' : (ms.reverse.map Prod.fst).Nodup :=
    ((List.reverse_perm ms).map Prod.fst).nodup_iff.mpr distinct
  rw [member?, find?_perm reversed distinct', member?]

theorem member?_eq_none {name : String} {ms : List (String × Json)}
    (missing : ∀ m ∈ ms, m.1 ≠ name) : member? name ms = none := by
  rw [member?, Option.map_eq_none_iff, List.find?_eq_none]
  intro m hm
  simpa using missing m (List.mem_reverse.mp hm)

theorem member?_of_ne {name : String} {m : String × Json} (differ : m.1 ≠ name)
    (before after : List (String × Json)) :
    member? name (before ++ m :: after) = member? name (before ++ after) := by
  simp [member?, List.find?_append, differ]

/-- The last member of a name counts. -/
theorem member?_of_last {name : String} {v : Json} {before after : List (String × Json)}
    (last : ∀ m ∈ after, m.1 ≠ name) : member? name (before ++ (name, v) :: after) = some v := by
  have none : (after.reverse.find? fun m => m.1 = name) = none := by
    refine List.find?_eq_none.mpr fun m hm => ?_
    simpa using last m (List.mem_reverse.mp hm)
  simp [member?, List.find?_append, none]

theorem find?_canonical_eq (ms : List (String × Json)) (name : String) :
    ((canonical ms).find? fun m => m.1 = name) = (member? name ms).map fun v => (name, v) := by
  rw [← find?_canonical]
  cases found : (canonical ms).find? fun m => m.1 = name with
  | none => rfl
  | some m =>
    have named : m.1 = name := by simpa using List.find?_some found
    rw [← named]
    rfl

theorem Increasing.nodup {ms : List (String × Json)} (h : Increasing ms) :
    (ms.map Prod.fst).Nodup :=
  List.pairwise_map.mpr (h.imp fun lt => String.ne_of_lt lt)

theorem Increasing.ext {ms ms' : List (String × Json)} (h : Increasing ms) (h' : Increasing ms')
    (same : ∀ name, (ms.find? fun m => m.1 = name) = ms'.find? fun m => m.1 = name) :
    ms = ms' := by
  have mem (m : String × Json) : m ∈ ms ↔ m ∈ ms' := by
    have found : (ms.find? fun a => a.1 = m.1) = some m ↔ _ := find?_eq_some_iff h.nodup
    have found' : (ms'.find? fun a => a.1 = m.1) = some m ↔ _ := find?_eq_some_iff h'.nodup
    rw [same] at found
    simpa using found.symm.trans found'
  have perm : ms.Perm ms' :=
    (List.perm_ext_iff_of_nodup h.nodup.of_map h'.nodup.of_map).mpr mem
  refine perm.eq_of_pairwise (fun a b _ _ lt gt => ?_) h h'
  exact absurd (String.lt_trans lt gt) (String.lt_irrefl _)

/-! ## Records -/

theorem Field.read_of_error {α β : Type} {name : String} {read : Json → Except DecodeError β}
    {put : β → α → α} {w : Json} {r : α} {err : DecodeError}
    (h : (Field.of name read put).read w r = .error err) : read w = .error err := by
  simp only [Field.of] at h
  cases hw : read w with
  | error e =>
    rw [hw] at h
    exact congrArg Except.error (Except.error.inj h)
  | ok b =>
    rw [hw] at h
    cases h

theorem Field.read_ne_error {α β : Type} {names : List String} {name : String}
    {read : Json → Except DecodeError β} {put : β → α → α} {v w default : Json} {b : β}
    (holds : read ((given? names name v).getD default) = .ok b)
    (given : given? names name v = some w) {r : α} {err : DecodeError} :
    (Field.of name read put).read w r ≠ .error err := by
  intro fails
  rw [given, Option.getD_some, read_of_error fails] at holds
  cases holds

namespace Record

variable {α β : Type} (R : Record α)

/-- The names of the fields, in their order. -/
def names : List String := R.fields.map Field.name

/-- The field of a name. -/
def field? (name : String) : Option (Field α) := R.fields.find? fun f => f.name = name

/-- The fields that are read, in the order in which this is done, with the values that are given for
them. -/
def assignments : Json → List (Field α × Json)
  | obj members => (canonical members).filterMap fun m => (R.field? m.1).map fun f => (f, m.2)
  | arr items => R.fields.zip items
  | _ => []

/-- Reads a field. -/
def assign (r : α) (a : Field α × Json) : Except DecodeError α := a.1.read a.2 r

variable {R} {r r' : α} {v : Json}

theorem foldlM_takeMember (ms : List (String × Json)) (r : α) :
    ms.foldlM R.takeMember r =
      (ms.filterMap fun m => (R.field? m.1).map fun f => (f, m.2)).foldlM assign r := by
  induction ms generalizing r with
  | nil => rfl
  | cons m ms ih =>
    rw [List.foldlM_cons, List.filterMap_cons]
    cases h : R.field? m.1 with
    | none =>
      have taken : R.takeMember r m = .ok r := by
        unfold takeMember
        rw [show R.fields.find? (fun f => f.name = m.1) = none from h]
      rw [taken]
      exact ih r
    | some f =>
      have taken : R.takeMember r m = assign r (f, m.2) := by
        unfold takeMember
        rw [show R.fields.find? (fun f => f.name = m.1) = some f from h]
        rfl
      rw [taken, Option.map_some, List.foldlM_cons]
      exact bind_congr fun r => ih r

theorem foldlM_assign_of_takeItems {fs : List (Field α)} {vs rest : List Json}
    (h : takeItems fs vs r = .ok (r', rest)) : (fs.zip vs).foldlM assign r = .ok r' := by
  induction fs generalizing vs r with
  | nil =>
    simp only [takeItems, Except.ok.injEq, Prod.mk.injEq] at h
    rw [h.1]
    rfl
  | cons f fs ih =>
    cases vs with
    | nil =>
      simp only [takeItems, Except.ok.injEq, Prod.mk.injEq] at h
      rw [h.1]
      rfl
    | cons v vs =>
      simp only [takeItems] at h
      cases hf : f.read v r with
      | error e =>
        rw [hf] at h
        exact absurd h (by simp)
      | ok r'' =>
        rw [hf] at h
        rw [List.zip_cons_cons, List.foldlM_cons, assign, hf]
        exact ih h

theorem foldlM_assign_of_decode (h : R.decode v = .ok r) :
    (R.assignments v).foldlM assign R.start = .ok r := by
  cases v with
  | obj members =>
    rw [assignments, ← foldlM_takeMember]
    simp only [decode] at h
    split at h
    · exact absurd h (by simp)
    · next r' hr =>
      split at h
      · exact absurd h (by simp)
      · rw [hr, ← h]
  | arr items =>
    simp only [decode] at h
    split at h
    · exact absurd h (by simp)
    · next r' rest hr =>
      split at h
      · exact absurd h (by simp)
      · split at h
        · rw [← Except.ok.inj h]
          exact foldlM_assign_of_takeItems hr
        · exact absurd h (by simp)
  | null | bool | int | float | str => exact absurd h (by simp [decode])

/-! ### What is read back -/

theorem field?_eq_some {name : String} {f : Field α} (h : R.field? name = some f) :
    f ∈ R.fields ∧ f.name = name :=
  ⟨List.mem_of_find?_eq_some h, by simpa using List.find?_some h⟩

theorem mem_assignments {a : Field α × Json} (h : a ∈ R.assignments v) : a.1 ∈ R.fields := by
  cases v with
  | obj members =>
    obtain ⟨m, -, hm⟩ := List.mem_filterMap.mp h
    obtain ⟨f, hf, rfl⟩ := Option.map_eq_some_iff.mp hm
    exact (field?_eq_some hf).1
  | arr items => exact (List.of_mem_zip h).1
  | null | bool | int | float | str => exact absurd h List.not_mem_nil

theorem keys_zip_sublist {κ : Type} (key : κ → String) (ks : List κ) (vs : List Json) :
    ((ks.zip vs).map fun a => key a.1).Sublist (ks.map key) := by
  induction ks generalizing vs with
  | nil => exact List.Sublist.slnil
  | cons k ks ih =>
    cases vs with
    | nil => exact List.nil_sublist _
    | cons v vs => exact (ih vs).cons_cons (key k)

theorem nodup_assignments (distinct : R.names.Nodup) (v : Json) :
    ((R.assignments v).map fun a => a.1.name).Nodup := by
  cases v with
  | obj members =>
    refine List.pairwise_map.mpr ((increasing_canonical members).filterMap _ ?_)
    intro m m' lt a ha a' ha' same
    obtain ⟨f, hf, rfl⟩ := Option.map_eq_some_iff.mp ha
    obtain ⟨f', hf', rfl⟩ := Option.map_eq_some_iff.mp ha'
    rw [(field?_eq_some hf).2, (field?_eq_some hf').2] at same
    exact String.lt_irrefl _ (same ▸ lt)
  | arr items => exact distinct.sublist (keys_zip_sublist Field.name R.fields items)
  | null | bool | int | float | str => exact List.nodup_nil

theorem exists_field? {name : String} (known : name ∈ R.names) : ∃ f, R.field? name = some f := by
  obtain ⟨f, hf, rfl⟩ := List.mem_map.mp known
  exact Option.isSome_iff_exists.mp (List.find?_isSome.mpr ⟨f, hf, by simp⟩)

theorem find?_zip {κ : Type} (key : κ → String) (ks : List κ) {name : String}
    (known : name ∈ ks.map key) (vs : List Json) :
    ((ks.zip vs).find? fun a => key a.1 = name).map Prod.snd =
      vs[(ks.map key).idxOf name]? := by
  induction ks generalizing vs with
  | nil => exact absurd known List.not_mem_nil
  | cons k ks ih =>
    by_cases hk : key k = name
    · cases vs <;> simp [hk]
    · have known' : name ∈ ks.map key :=
        (List.mem_cons.mp known).resolve_left fun h => hk h.symm
      cases vs with
      | nil => simp
      | cons v vs =>
        have differ : (key k == name) = false := by simpa using hk
        simpa [List.idxOf_cons, differ, hk] using ih known' vs

theorem find?_assignments {name : String} (known : name ∈ R.names) (v : Json) :
    ((R.assignments v).find? fun a => a.1.name = name).map Prod.snd = given? R.names name v := by
  cases v with
  | obj members =>
    obtain ⟨f, hf⟩ := exists_field? known
    -- the members that are read into the field are those of its name
    have same : ∀ m : String × Json, ((R.field? m.1).map fun f => (f, m.2)).any
        (fun a => decide (a.1.name = name)) = decide (m.1 = name) := by
      intro m
      cases hm : R.field? m.1 with
      | none =>
        have : m.1 ≠ name := by
          rintro rfl
          exact absurd (hf.symm.trans hm) (by simp)
        simp [this]
      | some g => simp [(field?_eq_some hm).2]
    rw [assignments, List.find?_filterMap, given?, ← find?_canonical]
    simp only [same]
    cases hm : (canonical members).find? fun m => m.1 = name with
    | none => rfl
    | some m =>
      have hn : m.1 = name := by simpa using List.find?_some hm
      simp [hn, hf]
  | arr items => exact find?_zip Field.name R.fields known items
  | null | bool | int | float | str => rfl

variable {name : String} {read : Json → Except DecodeError β} {get : α → β}

/-- A field is the one that is read back of a record, or has nothing to do with it. -/
def Apart (name : String) (read : Json → Except DecodeError β) (get : α → β) (f : Field α) : Prop :=
  f.name = name ∧ (∀ v r r', f.read v r = .ok r' → read v = .ok (get r')) ∨
    f.name ≠ name ∧ ∀ v r r', f.read v r = .ok r' → get r' = get r

theorem read_of {γ : Type} {n : String} {reads : Json → Except DecodeError γ} {put : γ → α → α}
    (h : (Field.of n reads put).read v r = .ok r') : ∃ c, reads v = .ok c ∧ r' = put c r := by
  simp only [Field.of] at h
  cases hv : reads v with
  | error e =>
    rw [hv] at h
    exact absurd h (by simp [Except.map])
  | ok c =>
    rw [hv] at h
    exact ⟨c, rfl, (Except.ok.inj h).symm⟩

theorem apart_self {put : β → α → α} (found : ∀ b r, get (put b r) = b) :
    Apart name read get (.of name read put) := by
  refine .inl ⟨rfl, fun v r r' h => ?_⟩
  obtain ⟨b, hb, rfl⟩ := read_of h
  rw [hb, found]

/-- A field has nothing to do with another one if what is put into the record leaves that as it is.
-/
theorem apart_of_ne {γ : Type} {n : String} {reads : Json → Except DecodeError γ}
    {put : γ → α → α} (differ : n ≠ name) (kept : ∀ c r, get (put c r) = get r) :
    Apart name read get (.of n reads put) := by
  refine .inr ⟨differ, fun v r r' h => ?_⟩
  obtain ⟨c, -, rfl⟩ := read_of h
  exact kept c r

/-- A field, as what is read back of a record: the values that it takes and where they are put. -/
structure Reads (R : Record α) (name : String) (read : Json → Except DecodeError β)
    (get : α → β) : Prop where
  /-- The field is there. -/
  known : name ∈ R.names
  /-- The other fields have nothing to do with it. -/
  apart : ∀ f ∈ R.fields, Apart name read get f

/-- Reading fields reads this one last from the value given for it, or leaves it as it was. -/
theorem Reads.foldlM_assign (reads : R.Reads name read get) (as : List (Field α × Json))
    (fields : ∀ a ∈ as, a.1 ∈ R.fields) (nodup : (as.map fun a => a.1.name).Nodup)
    (h : as.foldlM assign r = .ok r') :
    match as.find? fun a => a.1.name = name with
    | some a => read a.2 = .ok (get r')
    | none => get r' = get r := by
  induction as generalizing r with
  | nil => rw [Except.ok.inj h]; rfl
  | cons a as ih =>
    rw [List.foldlM_cons] at h
    cases ha : assign r a with
    | error e =>
      rw [ha] at h
      exact absurd h (by simp [bind, Except.bind])
    | ok r₁ =>
      rw [ha] at h
      obtain ⟨fresh, nodup⟩ := List.nodup_cons.mp nodup
      have rest := ih (fun a ha => fields a (List.mem_cons_of_mem _ ha)) nodup h
      have member := fields a List.mem_cons_self
      rcases reads.apart a.1 member with ⟨hn, own⟩ | ⟨hn, other⟩
      · -- no further value is read into the field
        have none : (as.find? fun a => a.1.name = name) = none := by
          refine List.find?_eq_none.mpr fun b hb => ?_
          have : b.1.name ≠ name := fun h =>
            fresh (List.mem_map.mpr ⟨b, hb, h.trans hn.symm⟩)
          simpa using this
        rw [none] at rest
        rw [List.find?_cons_of_pos (by simpa using hn), rest]
        exact own a.2 r r₁ ha
      · rw [List.find?_cons_of_neg (by simpa using hn)]
        split at rest
        · exact rest
        · exact rest.trans (other a.2 r r₁ ha)

/-- **A decoded record holds what was given, or the default.** -/
theorem Reads.decode (reads : R.Reads name read get) (distinct : R.names.Nodup) {w : Json}
    (default : read w = .ok (get R.start)) (h : R.decode v = .ok r) :
    read ((given? R.names name v).getD w) = .ok (get r) := by
  have held := reads.foldlM_assign _ (fun _ ha => mem_assignments ha)
    (nodup_assignments distinct v) (foldlM_assign_of_decode h)
  rw [← find?_assignments reads.known]
  split at held
  · next a ha => rwa [ha]
  · next ha => rw [ha, held]; exact default

/-! ### What cannot be decoded -/

theorem takeItems_eq_foldlM (fs : List (Field α)) (vs : List Json) (r : α) :
    takeItems fs vs r =
      ((fs.zip vs).foldlM assign r).map fun r' => (r', vs.drop fs.length) := by
  induction fs generalizing vs r with
  | nil => rfl
  | cons f fs ih =>
    cases vs with
    | nil => rfl
    | cons v vs =>
      rw [takeItems, List.zip_cons_cons, List.foldlM_cons, assign, List.length_cons,
        List.drop_succ_cons]
      cases f.read v r with
      | error e => rfl
      | ok r' => exact ih vs r'

/-- A value that is to be read as a record whose fields all have defaults: an object, or an array
that is not too long. -/
def Formed (R : Record α) (v : Json) : Prop :=
  (∃ ms, v = .obj ms) ∨ ∃ items, v = .arr items ∧ items.length ≤ R.fields.length

theorem decode_eq_foldlM (complete : ∀ r, R.missing r = none) (formed : R.Formed v) :
    R.decode v = (R.assignments v).foldlM assign R.start := by
  rcases formed with ⟨ms, rfl⟩ | ⟨items, rfl, short⟩
  · rw [assignments, ← foldlM_takeMember, decode]
    split
    · next e he => exact he.symm
    · next r hr => simp only [complete, hr]
  · have none : items.drop R.fields.length = [] := List.drop_eq_nil_of_le short
    rw [assignments, decode, takeItems_eq_foldlM, none]
    cases (R.fields.zip items).foldlM assign R.start with
    | error e => rfl
    | ok r => simp [Except.map, complete]

/-- Reading fields fails with the error of one of them. -/
theorem foldlM_assign_cases (as : List (Field α × Json)) (r : α) :
    (∃ r', as.foldlM assign r = .ok r') ∨
      ∃ a ∈ as, ∃ r' e, assign r' a = .error e ∧ as.foldlM assign r = .error e := by
  induction as generalizing r with
  | nil => exact .inl ⟨r, rfl⟩
  | cons a as ih =>
    rw [List.foldlM_cons]
    cases ha : assign r a with
    | error e => exact .inr ⟨a, List.mem_cons_self, r, e, ha, rfl⟩
    | ok r' =>
      rcases ih r' with read | ⟨b, hb, fails⟩
      · exact .inl read
      · exact .inr ⟨b, List.mem_cons_of_mem a hb, fails⟩

theorem given?_of_mem_assignments (distinct : R.names.Nodup) {a : Field α × Json}
    (h : a ∈ R.assignments v) : given? R.names a.1.name v = some a.2 := by
  have known : a.1.name ∈ R.names := List.mem_map.mpr ⟨a.1, mem_assignments h, rfl⟩
  rw [← find?_assignments known]
  have found : ((R.assignments v).find? fun b => b.1.name = a.1.name).isSome :=
    List.find?_isSome.mpr ⟨a, h, by simp⟩
  obtain ⟨b, hb⟩ := Option.isSome_iff_exists.mp found
  have same : b.1.name = a.1.name := by simpa using List.find?_some hb
  have unique := List.inj_on_of_nodup_map (nodup_assignments distinct v)
    (List.mem_of_find?_eq_some hb) h same
  rw [hb, unique]
  rfl

/-- **A record that cannot be decoded** fails with the error of a field, over the value given for
it. -/
theorem decode_cases (complete : ∀ r, R.missing r = none) (distinct : R.names.Nodup)
    (formed : R.Formed v) :
    (∃ r, R.decode v = .ok r) ∨
      ∃ f ∈ R.fields, ∃ w r e, given? R.names f.name v = some w ∧ f.read w r = .error e ∧
        R.decode v = .error e := by
  rw [decode_eq_foldlM complete formed]
  rcases foldlM_assign_cases (R.assignments v) R.start with read | ⟨a, ha, r, e, fails, error⟩
  · exact .inl read
  · exact .inr ⟨a.1, mem_assignments ha, a.2, r, e, given?_of_mem_assignments distinct ha, fails,
      error⟩

/-! ### What an object is decoded by -/

/-- The members that are named like fields, in the order in which they are read. -/
def known (R : Record α) (ms : List (String × Json)) : List (String × Json) :=
  (canonical ms).filter fun m => m.1 ∈ R.names

theorem assignments_obj (ms : List (String × Json)) :
    R.assignments (.obj ms) =
      (R.known ms).filterMap fun m => (R.field? m.1).map fun f => (f, m.2) := by
  rw [assignments, known, List.filterMap_filter]
  refine List.filterMap_congr fun m _ => ?_
  split
  · rfl
  · next unknown =>
    cases hf : R.field? m.1 with
    | none => rfl
    | some f =>
      obtain ⟨member, named⟩ := field?_eq_some hf
      exact absurd (decide_eq_true (List.mem_map.mpr ⟨f, member, named⟩)) unknown

theorem find?_known (ms : List (String × Json)) (name : String) :
    ((R.known ms).find? fun m => m.1 = name) =
      if name ∈ R.names then (member? name ms).map fun v => (name, v) else none := by
  rw [← find?_canonical_eq, known, List.find?_filter]
  split
  · next h =>
    congr 1
    funext m
    by_cases same : m.1 = name <;> simp [same, h]
  · next h =>
    refine List.find?_eq_none.mpr fun m _ => ?_
    by_cases same : m.1 = name <;> simp [same, h]

theorem increasing_known (ms : List (String × Json)) : Increasing (R.known ms) :=
  (increasing_canonical ms).filter _

theorem assignments_congr {ms ms' : List (String × Json)}
    (same : ∀ name ∈ R.names, member? name ms = member? name ms') :
    R.assignments (.obj ms) = R.assignments (.obj ms') := by
  have equal : R.known ms = R.known ms' := by
    refine (increasing_known ms).ext (increasing_known ms') fun name => ?_
    rw [find?_known, find?_known]
    split
    · next h => rw [same name h]
    · rfl
  rw [assignments_obj, assignments_obj, equal]

/-- **An object is decoded by the members that are named like fields.** -/
theorem decode_congr {ms ms' : List (String × Json)}
    (same : ∀ name ∈ R.names, member? name ms = member? name ms') :
    R.decode (.obj ms) = R.decode (.obj ms') := by
  have equal := assignments_congr same
  simp only [assignments] at equal
  simp only [decode, foldlM_takeMember, equal]

end Record

/-! ## Single values -/

theorem integer_eq_ok {range : IntRange} {v : Json} {n : Int} (h : integer range v = .ok n) :
    v = .int n ∧ range.low ≤ n ∧ n ≤ range.high := by
  cases v with
  | int m =>
    simp only [integer] at h
    split at h
    · next fits =>
      obtain rfl := Except.ok.inj h
      exact ⟨rfl, fits⟩
    · exact absurd h (by simp)
  | null | bool | float | str | arr | obj => exact absurd h (by simp [integer])

theorem text_eq_ok {expected : String} {v : Json} {s : String} (h : text expected v = .ok s) :
    v = .str s := by
  cases v with
  | str s' => rw [Except.ok.inj h]
  | null | bool | int | float | arr | obj => exact absurd h (by simp [text])

theorem optional_text_eq_ok {expected : String} {v : Json} {o : Option String}
    (h : optional (text expected) v = .ok o) :
    v = .null ∧ o = none ∨ ∃ s, v = .str s ∧ o = some s := by
  cases v with
  | null => exact .inl ⟨rfl, (Except.ok.inj h).symm⟩
  | str s => exact .inr ⟨s, rfl, (Except.ok.inj h).symm⟩
  | bool | int | float | arr | obj => exact absurd h (by simp [optional, text, Except.map])

theorem checked_eq_ok_iff {α β : Type} {read : Json → Except DecodeError α}
    {check : α → Except Invalid β} {w : Json} {b : β} :
    checked read check w = .ok b ↔ ∃ a, read w = .ok a ∧ check a = .ok b := by
  unfold checked
  cases read w with
  | error e => simp
  | ok a => cases accepted : check a <;> simp [accepted]

/-- A whole number may be read within any range that holds all numbers that are accepted. -/
theorem integer_of_integer {range range' : IntRange} {w : Json} {n : Int}
    (h : integer range w = .ok n) (low : range'.low ≤ n) (high : n ≤ range'.high) :
    integer range' w = .ok n := by
  obtain ⟨rfl, -, -⟩ := integer_eq_ok h
  exact if_pos ⟨low, high⟩

theorem checked_integer_iff {β : Type} (range range' : IntRange) {check : Int → Except Invalid β}
    {w : Json} {b : β} {k : Int} (only : ∀ n, check n = .ok b → n = k)
    (inside : range.low ≤ k ∧ k ≤ range.high) (inside' : range'.low ≤ k ∧ k ≤ range'.high) :
    checked (integer range) check w = .ok b ↔ ∃ n, integer range' w = .ok n ∧ check n = .ok b := by
  rw [checked_eq_ok_iff]
  constructor
  · rintro ⟨n, read, accepted⟩
    obtain rfl := only n accepted
    exact ⟨n, integer_of_integer read inside'.1 inside'.2, accepted⟩
  · rintro ⟨n, read, accepted⟩
    obtain rfl := only n accepted
    exact ⟨n, integer_of_integer read inside.1 inside.2, accepted⟩

end Fieldbus.Json
