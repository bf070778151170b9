import Fieldbus.Proofs.Descriptor.Loading

/-!
# Reports on documents

What is wrong with a document is told entry by entry. An entry by itself adds the same lines
wherever it stands and whatever stands around it; beside these there are only lines for uids that
are taken.

* `Document.entries?`: the entries of a document, in either form.
* `Document.block`: the lines that an entry adds after others.
* `Document.Progress.Follows`, `Progress.Follows.takeAll`: what is told of further entries, from any
  state on.
* `Document.Part`: the lines about an entry, in terms of the report on this entry alone.
* **`Document.ofJson_append_iff`**: documents can be put one after the other.
* **`Document.tells_every_entry`**: a report consists of the parts about the entries.
* **`Document.tells_duplicate_iff`**: a uid is told to be taken if two entries of this uid are
  without fault.
-/

namespace Fieldbus

/-- The same problem, of an entry at another place. -/
def Problem.moveTo (i : Nat) : Problem → Problem
  | .undecodable _ e => .undecodable i e
  | p => p

namespace Entry.Outcome

/-- What is wrong with an entry by itself. -/
def problems (i : Nat) : Outcome → List Problem
  | .undecodable e => [.undecodable i e]
  | .faulty uid fs => fs.map (.field uid)
  | .skipped | .port _ => []

/-- The line that is added if the uid of an entry is taken. -/
def duplicates (taken : List String) (o : Outcome) : List Problem :=
  (o.port?.toList.filter fun d => d.uid ∈ taken).map fun d => .duplicate d.uid

theorem problems_eq_map (i : Nat) (o : Outcome) : o.problems i = (o.problems 0).map (.moveTo i) := by
  cases o with
  | undecodable | skipped | port => rfl
  | faulty uid fs =>
    show fs.map (Problem.field uid) = (fs.map (Problem.field uid)).map (Problem.moveTo i)
    rw [List.map_map]
    rfl

theorem duplicate_notMem_problems {uid : String} {i : Nat} {o : Outcome} :
    Problem.duplicate uid ∉ o.problems i := by
  cases o <;> simp [problems]

theorem duplicate_mem_duplicates {uid : String} {taken : List String} {o : Outcome} :
    Problem.duplicate uid ∈ o.duplicates taken ↔
      (∃ d, o.port? = some d ∧ d.uid = uid) ∧ uid ∈ taken := by
  simp only [duplicates, List.mem_map, List.mem_filter, Option.mem_toList, decide_eq_true_eq,
    Problem.duplicate.injEq]
  constructor
  · rintro ⟨d, ⟨hd, used⟩, rfl⟩
    exact ⟨⟨d, hd, rfl⟩, used⟩
  · rintro ⟨⟨d, hd, rfl⟩, used⟩
    exact ⟨d, ⟨hd, used⟩, rfl⟩

theorem duplicates_nil (o : Outcome) : o.duplicates [] = [] := by
  simp [duplicates]

end Entry.Outcome

namespace Entry

/-- An entry that can be decoded and names a device, with its uid: the one that is written, or that
of the device. -/
structure Named (v : Json) (uid : String) : Prop where
  decoded : ∃ e, record.decode v = .ok e
  named : ∃ device, filled? "device" v = some device ∧
    (filled? "uid" v).getD (deviceUid (utf8 device)) = uid

theorem Named.read_cases {v : Json} {uid : String} (h : Named v uid) :
    (∃ d, read v = .port d ∧ d.uid = uid) ∨ ∃ fs, read v = .faulty uid fs := by
  obtain ⟨e, decoded⟩ := h.decoded
  obtain ⟨device, hdevice, huid⟩ := h.named
  have holds := holds_of_decode decoded
  rw [← holds.device?_eq] at hdevice
  rw [← holds.uidFor_eq] at huid
  rw [read, decoded]
  simp only [outcome, hdevice, huid]
  split
  · exact .inl ⟨_, rfl, rfl⟩
  · exact .inr ⟨_, rfl⟩

end Entry

namespace Document

open Entry (Outcome)

/-! ## The entries of a document -/

/-- The entries of a document: an array, or the member `ports` of an object. -/
def entries? : Json → Option (List Json)
  | .arr entries => some entries
  | .obj ms =>
    match Json.member? "ports" ms with
    | some (.arr entries) => some entries
    | _ => none
  | _ => none

theorem ofJson_of_entries? {v : Json} {vs : List Json} (h : entries? v = some vs) :
    ofJson v = ofEntries vs := by
  unfold entries? at h
  split at h
  · next entries =>
    obtain rfl := Option.some.inj h
    rfl
  · next ms =>
    split at h
    · next entries hm =>
      obtain rfl := Option.some.inj h
      simp only [ofJson, hm]
    · exact absurd h (by simp)
  · exact absurd h (by simp)

/-! ## Documents one after the other -/

theorem portsOf_append (xs ys : List Json) : portsOf (xs ++ ys) = portsOf xs ++ portsOf ys :=
  List.filterMap_append

/-- **Documents can be put one after the other.** The entries of two documents make up a document
that is accepted if both are and no uid of the one is a uid of the other. The ports of the first
come before those of the second, and the numbers of entries passed over add up. -/
theorem ofJson_append_iff {u v w : Json} {xs ys : List Json} (hu : entries? u = some xs)
    (hv : entries? v = some ys) (hw : entries? w = some (xs ++ ys)) {doc : Document} :
    ofJson w = .ok doc ↔ ∃ a b, ofJson u = .ok a ∧ ofJson v = .ok b ∧
      (∀ p ∈ a.ports, ∀ q ∈ b.ports, p.uid ≠ q.uid) ∧
      doc = ⟨a.ports ++ b.ports, a.skipped + b.skipped⟩ := by
  rw [ofJson_of_entries? hu, ofJson_of_entries? hv, ofJson_of_entries? hw]
  simp only [ofEntries_eq_ok_iff, portsOf_append, List.map_append, List.nodup_append,
    List.countP_append, List.forall_mem_append, List.forall_mem_map]
  constructor
  · rintro ⟨⟨fine, fine'⟩, ⟨nodup, nodup', apart⟩, rfl⟩
    exact ⟨_, _, ⟨fine, nodup, rfl⟩, ⟨fine', nodup', rfl⟩, apart, rfl⟩
  · rintro ⟨a, b, ⟨fine, nodup, rfl⟩, ⟨fine', nodup', rfl⟩, apart, rfl⟩
    exact ⟨⟨fine, fine'⟩, ⟨nodup, nodup', apart⟩, rfl⟩

/-- An object and an array are put one after the other; each passes over an entry. -/
theorem ofJson_append_two :
    let x : Json := .obj [("uid", .str "ghost")]
    let y : Json := .obj [("device", .str "/dev/ttyS1")]
    let z : Json := .arr [.str "A", .str "/dev/a"]
    let d : Descriptor := { uid := "ttys1", device := "/dev/ttyS1" }
    let e : Descriptor := { uid := "A", device := "/dev/a" }
    ofJson (.obj [("ports", .arr [x, y])]) = .ok ⟨[d], 1⟩ ∧ ofJson (.arr [z, x]) = .ok ⟨[e], 1⟩ ∧
      ofJson (.arr [x, y, z, x]) = .ok ⟨[d, e], 2⟩ := by
  intro x y z d e
  have first : ofJson (.obj [("ports", .arr [x, y])]) = .ok ⟨[d], 1⟩ := by rfl
  have second : ofJson (.arr [z, x]) = .ok ⟨[e], 1⟩ := by rfl
  have apart : ∀ p ∈ [d], ∀ q ∈ [e], p.uid ≠ q.uid := by decide
  exact ⟨first, second,
    (ofJson_append_iff rfl rfl rfl).mpr ⟨_, _, first, second, apart, rfl⟩⟩

/-! ## What is told of an entry -/

/-- The uids of the ports that some entries describe. -/
def uidsOf (vs : List Json) : List String := (portsOf vs).map Descriptor.uid

/-- The lines that an entry adds after others. -/
def block (before : List Json) (v : Json) : List Problem :=
  (Entry.read v).problems before.length ++ (Entry.read v).duplicates (uidsOf before)

/-- The lines that each of some entries adds after others. -/
def blocks (before : List Json) : List Json → List (List Problem)
  | [] => []
  | v :: vs => block before v :: blocks (before ++ [v]) vs

/-- A state in which some entries were taken. -/
structure Progress.Follows (s : Progress) (before : List Json) : Prop where
  index : s.index = before.length
  /-- A uid is taken if an entry without fault has it. -/
  taken : ∀ uid, uid ∈ s.ports.map Descriptor.uid ↔ uid ∈ uidsOf before

namespace Progress

variable {s : Progress} {before : List Json}

theorem mem_uidsOf_concat {v : Json} {uid : String} :
    uid ∈ uidsOf (before ++ [v]) ↔
      uid ∈ uidsOf before ∨ ∃ d, (Entry.read v).port? = some d ∧ d.uid = uid := by
  rw [uidsOf, portsOf_append, List.map_append, List.mem_append, ← uidsOf, portsOf_cons]
  cases (Entry.read v).port? <;> simp [portsOf, eq_comm]

theorem Follows.take (h : s.Follows before) (v : Json) :
    (s.take (Entry.read v)).Follows (before ++ [v]) ∧
      (s.take (Entry.read v)).problems = (block before v).reverse ++ s.problems := by
  have next : s.index + 1 = (before ++ [v]).length := by rw [h.index, List.length_append]; rfl
  have same : (Entry.read v).port? = none → ∀ uid,
      uid ∈ s.ports.map Descriptor.uid ↔ uid ∈ uidsOf (before ++ [v]) := by
    intro none uid
    rw [mem_uidsOf_concat, h.taken, none]
    simp
  unfold block
  rw [← h.index]
  cases hr : Entry.read v with
  | undecodable | skipped | faulty =>
    rw [hr] at same
    refine ⟨⟨next, same rfl⟩, ?_⟩
    simp [Progress.take, Outcome.problems, Outcome.duplicates, Outcome.port?]
  | port d =>
    have used : s.ports.any (fun p => p.uid = d.uid) = true ↔ d.uid ∈ uidsOf before := by
      simp only [← h.taken, List.any_eq_true, decide_eq_true_eq, List.mem_map]
    have grown : ∀ uid, uid ∈ uidsOf (before ++ [v]) ↔ uid ∈ uidsOf before ∨ d.uid = uid := by
      intro uid
      rw [mem_uidsOf_concat, hr]
      simp [Outcome.port?]
    by_cases taken : d.uid ∈ uidsOf before
    · simp only [Progress.take, if_pos (used.mpr taken)]
      refine ⟨⟨next, fun uid => ?_⟩, ?_⟩
      · rw [grown, h.taken]
        exact ⟨.inl, fun hu => hu.elim id fun same => same ▸ taken⟩
      · simp [Outcome.problems, Outcome.duplicates, Outcome.port?, taken]
    · simp only [Progress.take, if_neg (fun ok => taken (used.mp ok))]
      refine ⟨⟨next, fun uid => ?_⟩, ?_⟩
      · rw [grown, List.map_cons, List.mem_cons, h.taken, or_comm, eq_comm]
      · simp [Outcome.problems, Outcome.duplicates, Outcome.port?, taken]

/-- **What further entries add,** from any state on. -/
theorem Follows.takeAll (vs : List Json) :
    ∀ {s : Progress} {before : List Json}, s.Follows before →
      (s.takeAll vs).problems.reverse = s.problems.reverse ++ (blocks before vs).flatten := by
  induction vs with
  | nil =>
    intro s before _
    simp [Progress.takeAll, blocks]
  | cons v vs ih =>
    intro s before h
    obtain ⟨follows, problems⟩ := h.take v
    show ((s.take (Entry.read v)).takeAll vs).problems.reverse = _
    rw [ih follows, problems, blocks, List.flatten_cons, List.reverse_append, List.reverse_reverse,
      List.append_assoc]

end Progress

/-- The report on some entries. -/
def report (vs : List Json) : List Problem := (blocks [] vs).flatten

theorem ofEntries_cases (vs : List Json) :
    (report vs = [] ∧ ∃ doc, ofEntries vs = .ok doc) ∨
      (report vs ≠ [] ∧ ofEntries vs = .error (.problems (report vs))) := by
  have start : Progress.Follows {} [] := ⟨rfl, fun _ => Iff.rfl⟩
  have told : (Progress.takeAll {} vs).problems.reverse = report vs := start.takeAll vs
  have finish : ofEntries vs = (Progress.takeAll {} vs).finish := rfl
  unfold Progress.finish at finish
  split at finish
  · next none =>
    rw [List.isEmpty_iff.mp none] at told
    exact .inl ⟨told.symm, _, finish⟩
  · next some =>
    rw [told] at finish
    refine .inr ⟨fun none => some ?_, finish⟩
    rw [none, List.reverse_eq_nil_iff] at told
    rw [told]
    rfl

theorem ofEntries_of_report {vs : List Json} (h : report vs ≠ []) :
    ofEntries vs = .error (.problems (report vs)) := by
  rcases ofEntries_cases vs with ⟨none, -⟩ | ⟨-, rejected⟩
  · exact absurd none h
  · exact rejected

theorem eq_report_of_error {vs : List Json} {e : LoadError} (h : ofEntries vs = .error e) :
    e = .problems (report vs) ∧ report vs ≠ [] := by
  rcases ofEntries_cases vs with ⟨-, doc, accepted⟩ | ⟨some, rejected⟩
  · rw [accepted] at h
    exact absurd h (by simp)
  · rw [rejected] at h
    exact ⟨(Except.error.inj h).symm, some⟩

/-! ## Entries by themselves -/

theorem report_singleton (v : Json) : report [v] = (Entry.read v).problems 0 := by
  show ((Entry.read v).problems 0 ++ (Entry.read v).duplicates []) ++ [] = _
  rw [Outcome.duplicates_nil, List.append_nil, List.append_nil]

theorem ofEntries_port {v : Json} {d : Descriptor} (h : Entry.read v = .port d) :
    ofEntries [v] = .ok ⟨[d], 0⟩ := by
  refine ofEntries_eq_ok_iff.mpr ⟨?_, ?_, ?_⟩ <;> simp [portsOf, h, Outcome.port?, Outcome.Fine,
    Outcome.isSkipped]

/-- The lines about the entry at a place. -/
inductive Part (i : Nat) (v : Json) : List Problem → Prop
  /-- The entry is rejected by itself: the lines are those of this report. -/
  | own {ps : List Problem} (alone : ofJson (.arr [v]) = .error (.problems ps)) :
    Part i v (ps.map (.moveTo i))
  /-- The entry by itself is accepted, but its uid is taken. -/
  | duplicate {d : Descriptor} (alone : ofJson (.arr [v]) = .ok ⟨[d], 0⟩) :
    Part i v [.duplicate d.uid]
  /-- The entry by itself is accepted, and there is nothing to tell. -/
  | nothing {doc : Document} (alone : ofJson (.arr [v]) = .ok doc) : Part i v []

/-- What is told of an entry by itself is told after others, under its own number. -/
theorem block_of_rejected {v : Json} {e : LoadError} (h : ofEntries [v] = .error e)
    (before : List Json) :
    ∃ ps, e = .problems ps ∧ ps ≠ [] ∧ block before v = ps.map (.moveTo before.length) := by
  obtain ⟨rfl, some⟩ := eq_report_of_error h
  refine ⟨report [v], rfl, some, ?_⟩
  rw [report_singleton] at some ⊢
  have unnamed : (Entry.read v).port? = none := by
    cases hr : Entry.read v with
    | undecodable | skipped | faulty => rfl
    | port d => exact absurd (by rw [hr]; rfl) some
  rw [block, ← Outcome.problems_eq_map, Outcome.duplicates, unnamed]
  exact List.append_nil _

theorem read_of_accepted {v : Json} {doc : Document} (h : ofEntries [v] = .ok doc) :
    Entry.read v = .skipped ∨ ∃ d, Entry.read v = .port d := by
  have fine := (ofEntries_eq_ok_iff.mp h).1 v List.mem_cons_self
  cases hr : Entry.read v with
  | undecodable | faulty =>
    rw [hr] at fine
    exact fine.elim
  | skipped => exact .inl rfl
  | port d => exact .inr ⟨d, rfl⟩

theorem ofEntries_named_iff {v : Json} {device : String}
    (named : Entry.filled? "device" v = some device) {doc : Document} :
    ofEntries [v] = .ok doc ↔ ∃ d, Entry.read v = .port d ∧ ⟨[d], 0⟩ = doc := by
  constructor
  · intro accepted
    rcases read_of_accepted accepted with skipped | ⟨d, port⟩
    · rw [Entry.filled?_of_skipped skipped] at named
      cases named
    · exact ⟨d, port, Except.ok.inj ((ofEntries_port port).symm.trans accepted)⟩
  · rintro ⟨d, port, rfl⟩
    exact ofEntries_port port

theorem part_block (before : List Json) (v : Json) : Part before.length v (block before v) := by
  cases alone : ofEntries [v] with
  | error e =>
    obtain ⟨ps, rfl, -, same⟩ := block_of_rejected alone before
    rw [same]
    exact .own alone
  | ok doc =>
    rcases read_of_accepted alone with hr | ⟨d, hr⟩
    · have none : block before v = [] := by simp [block, hr, Outcome.problems, Outcome.duplicates,
        Outcome.port?]
      rw [none]
      exact .nothing alone
    · by_cases taken : d.uid ∈ uidsOf before
      · have told : block before v = [.duplicate d.uid] := by
          simp [block, hr, Outcome.problems, Outcome.duplicates, Outcome.port?, taken]
        rw [told]
        exact .duplicate (ofEntries_port hr)
      · have none : block before v = [] := by
          simp [block, hr, Outcome.problems, Outcome.duplicates, Outcome.port?, taken]
        rw [none]
        exact .nothing alone

theorem parts_blocks (vs : List Json) : ∀ before : List Json,
    List.Forall₂ (fun x b => Part x.2 x.1 b) (vs.zipIdx before.length) (blocks before vs) := by
  induction vs with
  | nil => exact fun _ => .nil
  | cons v vs ih =>
    intro before
    have rest := ih (before ++ [v])
    rw [List.length_append] at rest
    exact .cons (part_block before v) rest

theorem getElem?_blocks (vs : List Json) : ∀ (before : List Json) (i : Nat),
    (blocks before vs)[i]? = vs[i]?.map (block (before ++ vs.take i)) := by
  induction vs with
  | nil => exact fun _ _ => rfl
  | cons v vs ih =>
    intro before i
    cases i with
    | zero => simp [blocks]
    | succ i => simp [blocks, ih]

/-- **Every entry is told of.** A report consists of one part for each entry, in the order of the
document. The part about an entry that is rejected by itself is the report on this entry alone,
under its own number; any other part at most tells that the uid of the entry is taken. If an entry
is rejected by itself, so is every document with this entry. -/
theorem tells_every_entry {v : Json} {vs : List Json} (h : entries? v = some vs) :
    ∃ parts : List (List Problem),
      List.Forall₂ (fun x part => Part x.2 x.1 part) vs.zipIdx parts ∧
      (∀ (i : Nat) x e, vs[i]? = some x → ofJson (.arr [x]) = .error e →
        ∃ ps, e = .problems ps ∧ parts[i]? = some (ps.map (.moveTo i)) ∧
          ofJson v = .error (.problems parts.flatten)) ∧
      ∀ e, ofJson v = .error e → e = .problems parts.flatten := by
  rw [ofJson_of_entries? h]
  refine ⟨blocks [] vs, parts_blocks vs [], ?_, fun e he => (eq_report_of_error he).1⟩
  intro i x e hx alone
  have length : (vs.take i).length = i := by
    obtain ⟨hi, -⟩ := List.getElem?_eq_some_iff.mp hx
    rw [List.length_take]
    omega
  obtain ⟨ps, rfl, wrong, same⟩ := block_of_rejected alone (vs.take i)
  rw [length] at same
  have place : (blocks [] vs)[i]? = some (ps.map (.moveTo i)) := by
    rw [getElem?_blocks, hx, ← same]
    rfl
  have told : report vs ≠ [] := by
    intro none
    have empty := List.flatten_eq_nil_iff.mp none _ (List.mem_of_getElem? place)
    exact wrong (List.map_eq_nil_iff.mp empty)
  exact ⟨ps, rfl, place, ofEntries_of_report told⟩

/-- The second entry has two faults, and the third cannot be decoded. The last one takes the uid of
the first. -/
theorem tells_every_entry_of_four :
    let a : Json := .obj [("device", .str "/dev/a")]
    let b : Json := .obj [("device", .str "/dev/b"), ("databits", .int 9), ("maxlen", .int 0)]
    let c : Json := .int 5
    ∃ parts : List (List Problem),
      parts[1]? = some [.field "b" (.maxLen 0), .field "b" (.line (.dataBits 9))] ∧
      parts[2]? = some [.undecodable 2 (.wrongKind c "struct RawPortEntry")] ∧
      ofJson (.obj [("ports", .arr [a, b, c, a])]) = .error (.problems parts.flatten) := by
  intro a b c
  obtain ⟨parts, -, own, -⟩ := tells_every_entry (v := .obj [("ports", .arr [a, b, c, a])]) rfl
  obtain ⟨ps, hb, second, -⟩ := own 1 b _ rfl (by rfl)
  obtain ⟨qs, hc, third, rejected⟩ := own 2 c _ rfl (by rfl)
  obtain rfl := LoadError.problems.inj hb
  obtain rfl := LoadError.problems.inj hc
  exact ⟨parts, second, third, rejected⟩

/-! ## Uids that come twice -/

/-- By itself, an entry is accepted as a port with a uid. -/
def Faultless (v : Json) (uid : String) : Prop :=
  ∃ d, ofJson (.arr [v]) = .ok ⟨[d], 0⟩ ∧ d.uid = uid

variable {uid : String}

theorem faultless_iff {v : Json} :
    Faultless v uid ↔ ∃ d, (Entry.read v).port? = some d ∧ d.uid = uid := by
  constructor
  · rintro ⟨d, alone, rfl⟩
    have ports := congrArg Document.ports (ofEntries_eq_ok_iff.mp alone).2.2
    refine ⟨d, ?_, rfl⟩
    rw [portsOf_cons] at ports
    cases hp : (Entry.read v).port? with
    | none =>
      rw [hp] at ports
      exact absurd ports (by simp [portsOf])
    | some d' =>
      rw [hp] at ports
      simpa [portsOf] using ports.symm
  · rintro ⟨d, hd, rfl⟩
    cases hr : Entry.read v with
    | undecodable | skipped | faulty =>
      rw [hr] at hd
      exact absurd hd (by simp [Outcome.port?])
    | port d' =>
      rw [hr] at hd
      obtain rfl := Option.some.inj hd
      exact ⟨_, ofEntries_port hr, rfl⟩

theorem duplicate_mem_block {before : List Json} {v : Json} :
    Problem.duplicate uid ∈ block before v ↔ Faultless v uid ∧ uid ∈ uidsOf before := by
  rw [block, List.mem_append, Outcome.duplicate_mem_duplicates, faultless_iff]
  exact or_iff_right Outcome.duplicate_notMem_problems

/-- A uid is told to be taken if an entry without fault has it and another one had it before. -/
theorem duplicate_mem_blocks (vs : List Json) : ∀ before : List Json,
    Problem.duplicate uid ∈ (blocks before vs).flatten ↔
      (uid ∈ uidsOf before ∧ ∃ y ∈ vs, Faultless y uid) ∨
        ∃ x y, [x, y].Sublist vs ∧ Faultless x uid ∧ Faultless y uid := by
  induction vs with
  | nil => simp [blocks]
  | cons v vs ih =>
    intro before
    have pairs : (∃ x y, [x, y].Sublist (v :: vs) ∧ Faultless x uid ∧ Faultless y uid) ↔
        (Faultless v uid ∧ ∃ y ∈ vs, Faultless y uid) ∨
          ∃ x y, [x, y].Sublist vs ∧ Faultless x uid ∧ Faultless y uid := by
      constructor
      · rintro ⟨x, y, two, hx, hy⟩
        cases two with
        | cons _ two => exact .inr ⟨x, y, two, hx, hy⟩
        | cons_cons _ two => exact .inl ⟨hx, y, List.singleton_sublist.mp two, hy⟩
      · rintro (⟨hv, y, mem, hy⟩ | ⟨x, y, two, hx, hy⟩)
        · exact ⟨v, y, (List.singleton_sublist.mpr mem).cons_cons v, hv, hy⟩
        · exact ⟨x, y, two.cons v, hx, hy⟩
    rw [blocks, List.flatten_cons, List.mem_append, duplicate_mem_block, ih (before ++ [v]),
      Progress.mem_uidsOf_concat, ← faultless_iff, pairs, List.exists_mem_cons_iff]
    constructor
    · rintro (⟨hv, used⟩ | ⟨used | hv, again⟩ | later)
      · exact .inl ⟨used, .inl hv⟩
      · exact .inl ⟨used, .inr again⟩
      · exact .inr (.inl ⟨hv, again⟩)
      · exact .inr (.inr later)
    · rintro (⟨used, hv | again⟩ | ⟨hv, again⟩ | later)
      · exact .inl ⟨hv, used⟩
      · exact .inr (.inl ⟨.inl used, again⟩)
      · exact .inr (.inl ⟨.inr hv, again⟩)
      · exact .inr (.inr later)

/-- **A uid is told to be taken if two entries of this uid are without fault.** A document in which
two entries have the same uid is rejected in any case; but the uid is told to be taken only if the
faults of the entries leave two of them. -/
theorem tells_duplicate_iff {v : Json} {vs : List Json} (h : entries? v = some vs) {x y : Json}
    (two : [x, y].Sublist vs) (hx : Entry.Named x uid) (hy : Entry.Named y uid) :
    ∃ ps, ofJson v = .error (.problems ps) ∧
      (Problem.duplicate uid ∈ ps ↔
        ∃ x y, [x, y].Sublist vs ∧ Faultless x uid ∧ Faultless y uid) := by
  have told : Problem.duplicate uid ∈ report vs ↔
      ∃ x y, [x, y].Sublist vs ∧ Faultless x uid ∧ Faultless y uid := by
    rw [report, duplicate_mem_blocks]
    exact or_iff_right fun taken => absurd taken.1 List.not_mem_nil
  have rejected : report vs ≠ [] := by
    intro none
    have fine := (ofEntries_cases vs).resolve_right fun rejected => rejected.1 none
    obtain ⟨-, doc, accepted⟩ := fine
    have port : ∀ z ∈ [x, y], Entry.Named z uid → Faultless z uid := by
      intro z hz named
      have fine := (ofEntries_eq_ok_iff.mp accepted).1 z (two.subset hz)
      rcases named.read_cases with ⟨d, hr, hd⟩ | ⟨fs, hr⟩
      · exact ⟨d, ofEntries_port hr, hd⟩
      · rw [hr] at fine
        exact fine.elim
    have mem := told.mpr ⟨x, y, two, port x (by simp) hx, port y (by simp) hy⟩
    rw [none] at mem
    exact List.not_mem_nil mem
  rw [ofJson_of_entries? h]
  exact ⟨report vs, ofEntries_of_report rejected, told⟩

/-- A fault of the first entry leaves two others of the same uid, which is that of the device. -/
theorem tells_duplicate_of_three :
    let x : Json := .obj [("uid", .str "tty"), ("device", .str "/dev/a"), ("timeout", .int 0)]
    let y : Json := .obj [("device", .str "/a/tty")]
    let z : Json := .obj [("uid", .str " "), ("device", .str "/b/TTY")]
    [x, y].Sublist [x, y, z] ∧ Entry.Named x "tty" ∧ Entry.Named y "tty" ∧
      ∃ ps, ofJson (.arr [x, y, z]) = .error (.problems ps) ∧ Problem.duplicate "tty" ∈ ps := by
  intro x y z
  have two : [x, y].Sublist [x, y, z] := ((List.nil_sublist [z]).cons_cons y).cons_cons x
  have hx : Entry.Named x "tty" := ⟨⟨_, rfl⟩, "/dev/a", by decide, by decide⟩
  have hy : Entry.Named y "tty" := ⟨⟨_, rfl⟩, "/a/tty", by decide, by decide⟩
  have left : [y, z].Sublist [x, y, z] := (List.Sublist.refl [y, z]).cons x
  have py : Faultless y "tty" := ⟨{ uid := "tty", device := "/a/tty" }, by rfl, rfl⟩
  have pz : Faultless z "tty" := ⟨{ uid := "tty", device := "/b/TTY" }, by rfl, rfl⟩
  obtain ⟨ps, rejected, told⟩ := tells_duplicate_iff (v := .arr [x, y, z]) rfl two hx hy
  exact ⟨two, hx, hy, ps, rejected, told.mpr ⟨y, z, left, py, pz⟩⟩

/-- A rate that is not supported hides that the uid is taken. -/
theorem fault_hides_duplicate :
    let x : Json := .obj [("uid", .str "a"), ("device", .str "/dev/a"), ("baud", .int 12345)]
    let y : Json := .obj [("uid", .str "a"), ("device", .str "/dev/b")]
    Entry.Named x "a" ∧ Entry.Named y "a" ∧
      ∃ ps, ofJson (.arr [x, y]) = .error (.problems ps) ∧ Problem.duplicate "a" ∉ ps := by
  intro x y
  have hx : Entry.Named x "a" := ⟨⟨_, rfl⟩, "/dev/a", by decide, by decide⟩
  have hy : Entry.Named y "a" := ⟨⟨_, rfl⟩, "/dev/b", by decide, by decide⟩
  exact ⟨hx, hy, [.field "a" (.line (.baud 12345))], by rfl, by simp⟩

end Document

end Fieldbus
