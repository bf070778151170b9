import Fieldbus.Proofs.Descriptor.Constraints
import Mathlib.Logic.Relation

/-!
# Spellings of a document

The same document can be written in several ways: as an array or as the member of an object, with
the members of an entry in any order and others between them, or with the fields of an entry told
apart by their positions. An entry is decoded by what is given for its fields, and this is the same
in every spelling.

* `Entry.decode_eq_ok_iff`: an entry is decoded if every field can be read from what is given for
  it.
* `Entry.Respelled`: the same entry with its members in another order, or with others between them.
* `Entry.Unnamed`: the same entry as an array.
* **`Document.spelling_is_free`**: what becomes of a document does not depend on its spelling.
-/

namespace Fieldbus

open Json

/-! ## What is given for the fields of an entry -/

namespace Entry

variable {v v' : Json} {e e' : Entry}

theorem Holds.unique (h : Holds v e) (h' : Holds v e') : e = e' := by
  have uid := Except.ok.inj (h.uid.symm.trans h'.uid)
  have device := Except.ok.inj (h.device.symm.trans h'.device)
  have parity := Except.ok.inj (h.parity.symm.trans h'.parity)
  exact eq_of_figures uid device parity fun k =>
    Except.ok.inj ((h.figure k).symm.trans (h'.figure k))

theorem Holds.congr (same : ∀ name ∈ names, given? name v = given? name v') (h : Holds v e) :
    Holds v' e where
  uid := by rw [← same "uid" (by decide)]; exact h.uid
  device := by rw [← same "device" (by decide)]; exact h.device
  baud := by rw [← same "baud" (by decide)]; exact h.baud
  dataBits := by rw [← same "databits" (by decide)]; exact h.dataBits
  stopBits := by rw [← same "stopbits" (by decide)]; exact h.stopBits
  parity := by rw [← same "parity" (by decide)]; exact h.parity
  minDelay := by rw [← same "mindelay" (by decide)]; exact h.minDelay
  maxLen := by rw [← same "maxlen" (by decide)]; exact h.maxLen
  timeout := by rw [← same "timeout" (by decide)]; exact h.timeout

theorem Holds.read_ne_error (h : Holds v e) {f : Json.Field Entry} (hf : f ∈ record.fields)
    {w : Json} (given : given? f.name v = some w) {r : Entry} {err : DecodeError} :
    f.read w r ≠ .error err := by
  rcases field_cases hf with ⟨put, rfl⟩ | ⟨put, rfl⟩ | ⟨put, rfl⟩ | ⟨k, put, rfl⟩
  · exact Field.read_ne_error h.uid given
  · exact Field.read_ne_error h.device given
  · exact Field.read_ne_error h.parity given
  · exact Field.read_ne_error (h.figure k) given

/-- **An entry is decoded exactly if every field can be read from what is given for it.** -/
theorem decode_eq_ok_iff (formed : record.Formed v) : record.decode v = .ok e ↔ Holds v e := by
  refine ⟨holds_of_decode, fun holds => ?_⟩
  rcases Record.decode_cases (fun _ => rfl) distinct_names formed with
    ⟨e', decoded⟩ | ⟨f, hf, w, r, err, given, fails, -⟩
  · rw [decoded, (holds_of_decode decoded).unique holds]
  · exact absurd fails (holds.read_ne_error hf given)

/-! ## Spellings of an entry -/

/-- The same entry, with its members in another order, or with one more of an unknown name. -/
inductive Respelled : Json → Json → Prop where
  | reordered {ms ms' : List (String × Json)} (distinct : (ms.map Prod.fst).Nodup)
    (perm : ms.Perm ms') : Respelled (.obj ms) (.obj ms')
  | widened {before after : List (String × Json)} {m : String × Json} (unknown : m.1 ∉ names) :
    Respelled (.obj (before ++ after)) (.obj (before ++ m :: after))

/-- The same entry, whose members are the first fields, as an array of their values. -/
inductive Unnamed : Json → Json → Prop where
  | positions {ms : List (String × Json)} {vs : List Json} (short : vs.length ≤ names.length)
    (perm : ms.Perm (names.zip vs)) : Unnamed (.obj ms) (.arr vs)

theorem Respelled.read_eq (h : Respelled v v') : read v = read v' := by
  unfold read
  cases h with
  | reordered distinct perm =>
    rw [Record.decode_congr fun name _ => member?_perm perm distinct name]
  | widened unknown =>
    rw [Record.decode_congr fun name known => (member?_of_ne ?_ _ _).symm]
    rintro rfl
    exact unknown known

/-- An entry is read alike after any number of changes of its spelling, back and forth. -/
theorem read_eq_of_respelled (h : Relation.EqvGen Respelled v v') : read v = read v' := by
  induction h with
  | rel v v' h => exact h.read_eq
  | refl v => rfl
  | symm v v' _ ih => exact ih.symm
  | trans v v' v'' _ _ ih ih' => exact ih.trans ih'

theorem distinct_zip (vs : List Json) : ((names.zip vs).map Prod.fst).Nodup := by
  have taken := Record.keys_zip_sublist id names vs
  rw [List.map_id] at taken
  exact distinct_names.sublist taken

theorem given?_of_perm {ms : List (String × Json)} {vs : List Json} (perm : ms.Perm (names.zip vs))
    {name : String} (known : name ∈ names) : given? name (.obj ms) = given? name (.arr vs) := by
  have distinct : (ms.map Prod.fst).Nodup := (perm.map Prod.fst).nodup_iff.mpr (distinct_zip vs)
  have inOrder := (List.reverse_perm (names.zip vs)).symm
  have found := Record.find?_zip id names (by simpa using known) vs
  rw [List.map_id] at found
  show member? name ms = vs[names.idxOf name]?
  rw [member?_perm perm distinct, member?, ← find?_perm inOrder (distinct_zip vs), ← found]
  rfl

/-- Two outcomes that come to the same, except for the reason why an entry cannot be decoded. -/
def Outcome.Alike (o o' : Outcome) : Prop :=
  o = o' ∨ ∃ err err', o = .undecodable err ∧ o' = .undecodable err'

theorem alike_of_given (formed : record.Formed v) (formed' : record.Formed v')
    (same : ∀ name ∈ names, given? name v = given? name v') : (read v).Alike (read v') := by
  have decoded_iff (e : Entry) : record.decode v = .ok e ↔ record.decode v' = .ok e := by
    rw [decode_eq_ok_iff formed, decode_eq_ok_iff formed']
    exact ⟨.congr same, .congr fun name known => (same name known).symm⟩
  unfold read
  cases decoded : record.decode v with
  | ok e =>
    rw [(decoded_iff e).mp decoded]
    exact .inl rfl
  | error err =>
    cases decoded' : record.decode v' with
    | ok e =>
      rw [(decoded_iff e).mpr decoded'] at decoded
      cases decoded
    | error err' => exact .inr ⟨err, err', rfl, rfl⟩

theorem Unnamed.alike (h : Unnamed v v') : (read v).Alike (read v') := by
  cases h with
  | positions short perm =>
    exact alike_of_given (.inl ⟨_, rfl⟩) (.inr ⟨_, rfl, short⟩) fun _ => given?_of_perm perm

end Entry

/-! ## Spellings of a document -/

namespace Document

open Entry (Outcome Respelled Unnamed)

variable {vs vs' : List Json}

theorem ofEntries_congr (same : vs.map Entry.read = vs'.map Entry.read) :
    ofEntries vs = ofEntries vs' := by
  have read (vs : List Json) :
      ofEntries vs = ((vs.map Entry.read).foldl Progress.take {}).finish := by
    rw [List.foldl_map]
    rfl
  rw [read, read, same]

theorem ofEntries_eq_ok_of_alike
    (alike : List.Forall₂ (fun v v' => (Entry.read v).Alike (Entry.read v')) vs vs')
    (doc : Document) : ofEntries vs = .ok doc ↔ ofEntries vs' = .ok doc := by
  have counts : ((∀ v ∈ vs, (Entry.read v).Fine) ↔ ∀ v ∈ vs', (Entry.read v).Fine) ∧
      portsOf vs = portsOf vs' ∧
      (vs.countP fun v => (Entry.read v).isSkipped) =
        vs'.countP fun v => (Entry.read v).isSkipped := by
    induction alike with
    | nil => exact ⟨Iff.rfl, rfl, rfl⟩
    | cons h _ ih =>
      obtain ⟨fine, ports, skipped⟩ := ih
      simp only [List.forall_mem_cons, portsOf_cons, List.countP_cons, fine, ports, skipped]
      rcases h with same | ⟨err, err', h, h'⟩
      · rw [same]
        exact ⟨Iff.rfl, rfl, rfl⟩
      · rw [h, h']
        exact ⟨Iff.rfl, rfl, rfl⟩
  obtain ⟨fine, ports, skipped⟩ := counts
  rw [ofEntries_eq_ok_iff, ofEntries_eq_ok_iff, fine, ports, skipped]

/-- **What becomes of a document does not depend on its spelling.** It comes to the same, down to
the report, whether its entries are an array or the member `ports` of an object, whatever the other
members of this object are, and if members of an entry, whose names are distinct, change their
places or members of unknown names are added or left out. With the values of the first fields as an
array in the place of an object, an entry makes the same document, or none in either spelling. -/
theorem spelling_is_free (vs vs' : List Json) :
    (∀ before after : List (String × Json), (∀ m ∈ after, m.1 ≠ "ports") →
      ofJson (.obj (before ++ ("ports", .arr vs) :: after)) = ofJson (.arr vs)) ∧
    (List.Forall₂ (Relation.EqvGen Respelled) vs vs' → ofJson (.arr vs) = ofJson (.arr vs')) ∧
    (List.Forall₂ (Relation.ReflGen Unnamed) vs vs' →
      ∀ doc, ofJson (.arr vs) = .ok doc ↔ ofJson (.arr vs') = .ok doc) := by
  refine ⟨fun before after last => ?_, fun respelled => ?_, fun unnamed => ?_⟩
  · simp only [ofJson, member?_of_last last]
  · have same : vs.map Entry.read = vs'.map Entry.read := by
      induction respelled with
      | nil => rfl
      | cons h _ ih => rw [List.map_cons, List.map_cons, Entry.read_eq_of_respelled h, ih]
    exact ofEntries_congr same
  · refine ofEntries_eq_ok_of_alike (unnamed.imp fun v v' h => ?_)
    cases h with
    | refl => exact .inl rfl
    | single h => exact h.alike

/-- Other members around the list; two members that change their places, with another one between
them; and an entry without names. -/
theorem spelling_is_free_threefold :
    let x : Json := .obj [("uid", .str "a"), ("device", .str "/dev/a")]
    let x' : Json := .obj [("device", .str "/dev/a"), ("note", .null), ("uid", .str "a")]
    let y : Json := .obj [("uid", .str "b"), ("device", .str "/dev/b"), ("baud", .int 9600)]
    let y' : Json := .arr [.str "b", .str "/dev/b", .int 9600]
    let a : Descriptor := { uid := "a", device := "/dev/a" }
    let b : Descriptor :=
      { uid := "b", device := "/dev/b", line := { baud := ⟨9600, by decide⟩ } }
    ofJson (.arr [x, y]) = .ok ⟨[a, b], 0⟩ ∧
      ofJson (.obj [("name", .null), ("ports", .arr [x, y]), ("zone", .int 1)]) =
        .ok ⟨[a, b], 0⟩ ∧
      ofJson (.arr [x', y]) = .ok ⟨[a, b], 0⟩ ∧ ofJson (.arr [x, y']) = .ok ⟨[a, b], 0⟩ := by
  intro x x' y y' a b
  have accepted : ofJson (.arr [x, y]) = .ok ⟨[a, b], 0⟩ := by rfl
  have respelled : Relation.EqvGen Respelled x x' := by
    refine .trans _ _ _ (.rel _ _ (.reordered (by decide) (.swap _ _ []))) (.rel _ _ ?_)
    exact @Respelled.widened [_] [_] _ (by decide)
  have unnamed : Unnamed y y' := .positions (by decide) (.refl _)
  obtain ⟨form, spelled, -⟩ := spelling_is_free [x, y] [x', y]
  obtain ⟨-, -, placed⟩ := spelling_is_free [x, y] [x, y']
  refine ⟨accepted, ?_, ?_, ?_⟩
  · exact (form [("name", .null)] [("zone", .int 1)] (by decide)).trans accepted
  · exact (spelled (.cons respelled (.cons (.refl y) .nil))).symm.trans accepted
  · exact (placed (.cons .refl (.cons (.single unnamed) .nil)) _).mp accepted

end Document

end Fieldbus
