import Fieldbus.Descriptor.Document
import Fieldbus.Proofs.Descriptor.Entries
import Fieldbus.Proofs.Serial.Move
import Mathlib.Data.List.Forall2

/-!
# Documents that are accepted

A document is accepted if every entry is a port or names no device, and no uid comes twice. What was
accepted can be registered.

* `Entry.Outcome.port?`, `Entry.Outcome.isSkipped`, `Entry.Outcome.Fine`: what an entry contributes.
* `Document.Progress.takeAll`: the entries, one after the other.
* **`Document.ofEntries_eq_ok_iff`**: which lists of entries are accepted, and what they give.
* `PortSet.Listed`: a set that consists of some ports, in their order.
* **`Document.loads_soundly`**: the ports of a document are those of its entries, and are accepted
  one after the other by an empty set.
-/

namespace Fieldbus

/-! ## What an entry contributes -/

namespace Entry.Outcome

/-- The port that an entry describes. -/
def port? : Outcome → Option Descriptor
  | .port d => some d
  | _ => none

/-- Whether an entry is passed over. -/
def isSkipped : Outcome → Bool
  | .skipped => true
  | _ => false

/-- An entry is a port or is passed over. -/
def Fine : Outcome → Prop
  | .port _ | .skipped => True
  | _ => False

end Entry.Outcome

namespace Document

open Entry (Outcome)

/-- The ports that some entries describe. -/
def portsOf (vs : List Json) : List Descriptor := vs.filterMap fun v => (Entry.read v).port?

theorem portsOf_cons (v : Json) (vs : List Json) :
    portsOf (v :: vs) = (Entry.read v).port?.toList ++ portsOf vs := by
  unfold portsOf
  rw [List.filterMap_cons]
  cases (Entry.read v).port? <;> rfl

namespace Progress

/-- Takes entries one after the other. -/
def takeAll (s : Progress) (vs : List Json) : Progress :=
  vs.foldl (fun s v => s.take (Entry.read v)) s

variable {s : Progress} {v : Json} {vs : List Json}

theorem problems_take (v : Json) :
    (s.take (Entry.read v)).problems = [] ↔ s.problems = [] ∧ (Entry.read v).Fine ∧
      ∀ d, (Entry.read v).port? = some d → d.uid ∉ s.ports.map Descriptor.uid := by
  cases h : Entry.read v with
  | undecodable e => simp [take, Outcome.Fine]
  | skipped => simp [take, Outcome.Fine, Outcome.port?]
  | faulty uid fs =>
    obtain ⟨e, -, he⟩ := Entry.read_eq_outcome h (by simp)
    have faults := Entry.faults_ne_nil he
    simp [take, Outcome.Fine, faults]
  | port d =>
    have taken : s.ports.any (fun p => p.uid = d.uid) = true ↔
        d.uid ∈ s.ports.map Descriptor.uid := by
      simp only [List.any_eq_true, decide_eq_true_eq, List.mem_map]
    simp only [take, Outcome.Fine, Outcome.port?, Option.some.injEq, true_and, forall_eq', ← taken]
    split
    · next h => simp [h]
    · next h => simp [h]

theorem take_of_fine (fine : (Entry.read v).Fine)
    (fresh : ∀ d, (Entry.read v).port? = some d → d.uid ∉ s.ports.map Descriptor.uid) :
    (s.take (Entry.read v)).ports = (Entry.read v).port?.toList ++ s.ports ∧
      (s.take (Entry.read v)).skipped =
        s.skipped + if (Entry.read v).isSkipped then 1 else 0 := by
  cases h : Entry.read v with
  | undecodable | faulty =>
    rw [h] at fine
    exact fine.elim
  | skipped => exact ⟨rfl, rfl⟩
  | port d =>
    have new : ¬ (s.ports.any fun p => p.uid = d.uid) = true := by
      simp only [List.any_eq_true, decide_eq_true_eq]
      rintro ⟨p, hp, same⟩
      exact fresh d (by rw [h]; rfl) (List.mem_map.mpr ⟨p, hp, same⟩)
    simp [take, new, Outcome.port?, Outcome.isSkipped]

/-- A problem is never taken back. -/
theorem problems_of_takeAll (h : (s.takeAll vs).problems = []) : s.problems = [] := by
  induction vs generalizing s with
  | nil => exact h
  | cons v vs ih => exact ((problems_take v).mp (ih h)).1

/-- Entries make no problem if all of them are ports or are passed over and no uid comes twice; then
the ports are added in their order. -/
theorem problems_takeAll (vs : List Json) :
    ∀ s : Progress, (s.ports.map Descriptor.uid).Nodup →
      ((s.takeAll vs).problems = [] ↔ s.problems = [] ∧ (∀ v ∈ vs, (Entry.read v).Fine) ∧
        ((s.ports.reverse ++ portsOf vs).map Descriptor.uid).Nodup) ∧
      ((s.takeAll vs).problems = [] →
        (s.takeAll vs).ports.reverse = s.ports.reverse ++ portsOf vs ∧
        (s.takeAll vs).skipped = s.skipped + vs.countP fun v => (Entry.read v).isSkipped) := by
  induction vs with
  | nil =>
    intro s distinct
    refine ⟨?_, fun _ => ⟨(List.append_nil _).symm, rfl⟩⟩
    have reversed := (List.reverse_perm (s.ports.map Descriptor.uid)).nodup_iff.mpr distinct
    simp [takeAll, portsOf, List.map_reverse, reversed]
  | cons v vs ih =>
    intro s distinct
    by_cases good : (Entry.read v).Fine ∧
        ∀ d, (Entry.read v).port? = some d → d.uid ∉ s.ports.map Descriptor.uid
    · obtain ⟨fine, fresh⟩ := good
      obtain ⟨ports, skipped⟩ := take_of_fine fine fresh
      have distinct' : ((s.take (Entry.read v)).ports.map Descriptor.uid).Nodup := by
        rw [ports]
        cases hp : (Entry.read v).port? with
        | none => exact distinct
        | some d => exact List.nodup_cons.mpr ⟨fresh d hp, distinct⟩
      have same : (s.take (Entry.read v)).ports.reverse ++ portsOf vs =
          s.ports.reverse ++ portsOf (v :: vs) := by
        rw [ports, portsOf_cons]
        cases (Entry.read v).port? <;> simp
      obtain ⟨accepted, holds⟩ := ih (s.take (Entry.read v)) distinct'
      rw [same] at accepted holds
      refine ⟨accepted.trans ?_, fun h => ?_⟩
      · rw [problems_take, List.forall_mem_cons]
        exact ⟨fun ⟨⟨h, _⟩, rest, nodup⟩ => ⟨h, ⟨fine, rest⟩, nodup⟩,
          fun ⟨h, ⟨_, rest⟩, nodup⟩ => ⟨⟨h, fine, fresh⟩, rest, nodup⟩⟩
      · obtain ⟨hports, hskipped⟩ := holds h
        refine ⟨hports, hskipped.trans ?_⟩
        rw [skipped, List.countP_cons, Nat.add_assoc, Nat.add_comm (List.countP _ vs)]
    · -- the entry makes a problem
      have bad : (s.takeAll (v :: vs)).problems ≠ [] := fun h =>
        good ((problems_take v).mp (problems_of_takeAll h)).2
      refine ⟨⟨fun h => absurd h bad, fun ⟨_, fine, nodup⟩ => absurd ?_ good⟩,
        fun h => absurd h bad⟩
      refine ⟨fine v List.mem_cons_self, fun d hd taken => ?_⟩
      rw [portsOf_cons, hd, List.map_append, List.nodup_append] at nodup
      refine nodup.2.2 d.uid ?_ d.uid (by simp) rfl
      rwa [List.map_reverse, List.mem_reverse]

end Progress

/-- **A list of entries is accepted if all of them are ports or are passed over, and no uid comes
twice.** -/
theorem ofEntries_eq_ok_iff {vs : List Json} {doc : Document} :
    ofEntries vs = .ok doc ↔ (∀ v ∈ vs, (Entry.read v).Fine) ∧
      ((portsOf vs).map Descriptor.uid).Nodup ∧
      doc = ⟨portsOf vs, vs.countP fun v => (Entry.read v).isSkipped⟩ := by
  have start := Progress.problems_takeAll vs {} List.nodup_nil
  simp only [List.reverse_nil, List.nil_append, true_and, Nat.zero_add] at start
  obtain ⟨accepted, holds⟩ := start
  show (Progress.takeAll {} vs).finish = .ok doc ↔ _
  unfold Progress.finish
  split
  · next h =>
    have none := List.isEmpty_iff.mp h
    obtain ⟨ports, skipped⟩ := holds none
    obtain ⟨fine, distinct⟩ := accepted.mp none
    rw [ports, skipped, Except.ok.injEq]
    exact ⟨fun h => ⟨fine, distinct, h.symm⟩, fun h => h.2.2.symm⟩
  · next h =>
    refine ⟨fun h => absurd h (by simp), fun ⟨fine, distinct, _⟩ => ?_⟩
    exact absurd (List.isEmpty_iff.mpr (accepted.mpr ⟨fine, distinct⟩)) h

end Document

/-! ## Registration -/

namespace PortSet

/-- A set that consists of some ports, which are closed, in their order. -/
structure Listed (ds : List Descriptor) (s : PortSet) : Prop where
  /-- The ports, which are closed. -/
  ports : s.ports = ds.map fun d => { descriptor := d }
  /-- The members, under their uids. -/
  members : s.members = ds.mapIdx fun i d => ⟨d.uid, i⟩

variable {ds : List Descriptor} {s : PortSet}

theorem Listed.find?_eq_none (h : s.Listed ds) {uid : String}
    (fresh : uid ∉ ds.map Descriptor.uid) : s.find? uid = none := by
  rw [find?, Option.map_eq_none_iff, List.find?_eq_none, h.members]
  intro m hm
  obtain ⟨i, hi, rfl⟩ := List.mem_mapIdx.mp hm
  have : ds[i].uid ≠ uid := fun same =>
    fresh (List.mem_map.mpr ⟨ds[i], List.getElem_mem hi, same⟩)
  simpa using this

theorem Listed.add (h : s.Listed ds) {d : Descriptor} (valid : d.Valid)
    (fresh : d.uid ∉ ds.map Descriptor.uid) :
    (s.add d).1 = .ok ds.length ∧ (s.add d).2.Listed (ds ++ [d]) := by
  have size : s.ports.length = ds.length := by rw [h.ports, List.length_map]
  rw [add_of_fresh valid (h.find?_eq_none fresh), size]
  refine ⟨rfl, ?_, ?_⟩
  · rw [h.ports, List.map_append]
    rfl
  · rw [h.members, List.mapIdx_concat]

/-- **Ports are accepted one after the other** if their descriptors are in order and no uid comes
twice. -/
theorem Listed.addAll (more : List Descriptor) :
    ∀ {ds : List Descriptor} {s : PortSet}, s.Listed ds → (∀ d ∈ more, d.Valid) →
      ((ds ++ more).map Descriptor.uid).Nodup →
      ∃ s', s.addAll more = (.ok (), s') ∧ s'.Listed (ds ++ more) := by
  induction more with
  | nil =>
    intro ds s h _ _
    exact ⟨s, rfl, by rwa [List.append_nil]⟩
  | cons d more ih =>
    intro ds s h valid distinct
    have fresh : d.uid ∉ ds.map Descriptor.uid := by
      intro taken
      rw [List.map_append, List.nodup_append] at distinct
      exact distinct.2.2 d.uid taken d.uid (by simp) rfl
    obtain ⟨added, listed⟩ := h.add (valid d List.mem_cons_self) fresh
    rw [List.append_cons] at distinct
    have valid' : ∀ x ∈ more, x.Valid := fun x hx => valid x (List.mem_cons_of_mem d hx)
    obtain ⟨s', hs', listed'⟩ := ih listed valid' distinct
    rw [← List.append_cons] at listed'
    refine ⟨s', ?_, listed'⟩
    rw [PortSet.addAll, show s.add d = (.ok ds.length, (s.add d).2) from Prod.ext added rfl]
    exact hs'

theorem Listed.statuses_eq (h : s.Listed ds) :
    s.statuses = ds.map fun d => ⟨d.uid, d.device, false⟩ := by
  have status : ∀ x ∈ ds.zipIdx, (s.port? x.2).map Port.status =
      some ⟨x.1.uid, x.1.device, false⟩ := by
    rintro ⟨d, i⟩ hx
    rw [port?, h.ports, List.getElem?_map, List.mem_zipIdx_iff_getElem?.mp hx]
    rfl
  rw [statuses, h.members, List.mapIdx_eq_zipIdx_map, List.filterMap_map]
  show ds.zipIdx.filterMap (fun x => (s.port? x.2).map Port.status) = _
  calc ds.zipIdx.filterMap (fun x => (s.port? x.2).map Port.status)
      = ds.zipIdx.filterMap (fun x => some ⟨x.1.uid, x.1.device, false⟩) :=
        List.filterMap_congr status
    _ = (ds.zipIdx.map Prod.fst).map fun d => ⟨d.uid, d.device, false⟩ := by
        rw [List.map_map]
        exact congrFun List.filterMap_eq_map _
    _ = ds.map fun d => ⟨d.uid, d.device, false⟩ := by rw [List.zipIdx_map_fst]

end PortSet

namespace Document

open Entry (Outcome)

/-- The entries of a document: an array, or the member `ports` of an object. -/
theorem ofJson_eq_ok {v : Json} {doc : Document} (h : ofJson v = .ok doc) :
    ∃ entries, (v = .arr entries ∨
        ∃ ms, v = .obj ms ∧ Json.member? "ports" ms = some (.arr entries)) ∧
      ofEntries entries = .ok doc := by
  unfold ofJson at h
  split at h
  · next entries => exact ⟨entries, .inl rfl, h⟩
  · next ms =>
    split at h
    · next entries hm => exact ⟨entries, .inr ⟨ms, rfl, hm⟩, h⟩
    · exact absurd h (by simp)
  · exact absurd h (by simp)

theorem describes_portsOf {vs : List Json} (fine : ∀ v ∈ vs, (Entry.read v).Fine) :
    List.Forall₂ Entry.Describes (vs.filter fun v => (Entry.filled? "device" v).isSome)
      (portsOf vs) ∧
    (portsOf vs).length + vs.countP (fun v => (Entry.read v).isSkipped) = vs.length := by
  induction vs with
  | nil => exact ⟨.nil, rfl⟩
  | cons v vs ih =>
    obtain ⟨described, counted⟩ := ih fun v hv => fine v (List.mem_cons_of_mem _ hv)
    rw [portsOf_cons, List.filter_cons, List.countP_cons]
    cases h : Entry.read v with
    | undecodable | faulty =>
      have := fine v List.mem_cons_self
      rw [h] at this
      exact this.elim
    | skipped =>
      rw [Entry.filled?_of_skipped h]
      refine ⟨described, ?_⟩
      show (portsOf vs).length + (_ + 1) = vs.length + 1
      omega
    | port d =>
      obtain ⟨describes, -⟩ := Entry.describes_of_read h
      rw [describes.device]
      refine ⟨.cons describes described, ?_⟩
      show (portsOf vs).length + 1 + (_ + 0) = vs.length + 1
      omega

theorem loadable_of_mem {vs : List Json} {d : Descriptor} (h : d ∈ portsOf vs) : d.Loadable := by
  obtain ⟨v, -, hv⟩ := List.mem_filterMap.mp h
  cases hr : Entry.read v with
  | undecodable | skipped | faulty =>
    rw [hr] at hv
    exact absurd hv (by simp [Outcome.port?])
  | port d' =>
    rw [hr] at hv
    obtain rfl := Option.some.inj hv
    exact (Entry.describes_of_read hr).2

/-- **Loading is sound.** A document that is accepted has an array of entries, each of which is a
port or was passed over because it names no device. The ports are what the entries that name a
device describe, in the order of the document; they are in order, and no uid is blank or comes
twice. An empty set accepts them one after the other, and then consists of them, in this order. -/
theorem loads_soundly {v : Json} {doc : Document} (h : ofJson v = .ok doc) :
    ∃ entries, (v = .arr entries ∨
        ∃ ms, v = .obj ms ∧ Json.member? "ports" ms = some (.arr entries)) ∧
      doc.ports.length + doc.skipped = entries.length ∧
      List.Forall₂ Entry.Describes (entries.filter fun e => (Entry.filled? "device" e).isSome)
        doc.ports ∧
      (∀ d ∈ doc.ports, d.check = .ok () ∧ Text.isBlankText d.uid = false) ∧
      (doc.ports.map Descriptor.uid).Nodup ∧
      ∃ s, ({} : PortSet).addAll doc.ports = (.ok (), s) ∧
        s.ports = doc.ports.map (fun d => { descriptor := d }) ∧
        s.members = doc.ports.mapIdx (fun i d => ⟨d.uid, i⟩) ∧
        s.statuses = doc.ports.map fun d => ⟨d.uid, d.device, false⟩ := by
  obtain ⟨entries, isEntries, accepted⟩ := ofJson_eq_ok h
  obtain ⟨fine, distinct, rfl⟩ := ofEntries_eq_ok_iff.mp accepted
  obtain ⟨described, counted⟩ := describes_portsOf fine
  have empty : ({} : PortSet).Listed [] := ⟨rfl, rfl⟩
  obtain ⟨s, added, listed⟩ := empty.addAll (portsOf entries)
    (fun d hd => (loadable_of_mem hd).valid) distinct
  refine ⟨entries, isEntries, counted, described, fun d hd => ⟨?_, (loadable_of_mem hd).uid⟩,
    distinct, s, added, listed.ports, listed.members, listed.statuses_eq⟩
  unfold Descriptor.check
  rw [show d.fault? = none from (loadable_of_mem hd).valid]

/-- Of three entries one names no device, one is an array, and one gives a blank uid, so that it
gets one from its device. -/
theorem loads_soundly_three :
    let v : Json := .obj [("ports", .arr [
      .obj [("uid", .str "ghost")],
      .arr [.str "A", .str "/dev/a", .int 9600],
      .obj [("maxlen", .int 16), ("uid", .str " "), ("device", .str "/dev/ttyS1"),
        ("parity", .str "Even")]])]
    let a : Descriptor :=
      { uid := "A", device := "/dev/a", line := { baud := ⟨9600, by decide⟩ } }
    let b : Descriptor :=
      { uid := "ttys1", device := "/dev/ttyS1", line := { parity := .even }, maxLen := 16 }
    ofJson v = .ok ⟨[a, b], 1⟩ ∧ ∃ s, ({} : PortSet).addAll [a, b] = (.ok (), s) ∧
      s.statuses = [⟨"A", "/dev/a", false⟩, ⟨"ttys1", "/dev/ttyS1", false⟩] := by
  intro v a b
  have accepted : ofJson v = .ok ⟨[a, b], 1⟩ := by rfl
  obtain ⟨entries, -, -, -, -, -, s, added, -, -, statuses⟩ := loads_soundly accepted
  exact ⟨accepted, s, added, statuses⟩

end Document

end Fieldbus
