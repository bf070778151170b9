import Fieldbus.Descriptor.Listing
import Fieldbus.Proofs.Descriptor.Loading
import Fieldbus.Proofs.Json.Reading

/-!
# Documents in normal form

Ports are written by one set of rules and read by another. What is written is read back: every field
of a port comes through the text of the document, and the entries of the document are its ports.

* `Descriptor.canonical_members`: the members of a port in the order in which they are read.
* `Descriptor.read_toJson`: the entry that a port is written as describes this port.
* `Document.plain_toJson`: documents hold nothing that is lost in a text.
* **`Document.normal_form_faithful`**: a document in normal form has the same ports, and is its own
  normal form.
-/

namespace Fieldbus

open Json

/-! ## Line parameters -/

theorem Baud.ofInt_rate (b : Baud) : Baud.ofInt b.rate = .ok b :=
  dif_pos ⟨Int.natCast_nonneg _, b.supported⟩

theorem Baud.rate_le (b : Baud) : b.rate ≤ 4000000 := by
  have bound : ∀ r ∈ supportedRates, r ≤ 4000000 := by decide
  exact bound b.rate b.supported

theorem DataBits.ofInt_toNat (b : DataBits) : DataBits.ofInt b.toNat = .ok b := by
  cases b <;> rfl

theorem DataBits.toNat_le (b : DataBits) : b.toNat ≤ 8 := by
  cases b <;> decide

theorem StopBits.ofInt_toNat (b : StopBits) : StopBits.ofInt b.toNat = .ok b := by
  cases b <;> rfl

theorem StopBits.toNat_le (b : StopBits) : b.toNat ≤ 2 := by
  cases b <;> decide

theorem Parity.ofText_label (p : Parity) : Parity.ofText p.label = .ok p := by
  cases p <;> rfl

/-! ## Ports -/

namespace Descriptor

variable {d : Descriptor}

/-- The members of a port in the order in which they are read. -/
def sortedMembers (d : Descriptor) : List (String × Json) :=
  [("baud", .int d.line.baud.rate), ("databits", .int d.line.dataBits.toNat),
    ("device", .str d.device), ("maxlen", .int d.maxLen), ("mindelay", .int d.minDelay),
    ("parity", .str d.line.parity.label), ("stopbits", .int d.line.stopBits.toNat),
    ("timeout", .int d.timeout), ("uid", .str d.uid)]

theorem canonical_members (d : Descriptor) :
    ∃ ms, d.toJson = .obj ms ∧ canonical ms = d.sortedMembers :=
  ⟨_, rfl, by
    simp only [canonical, Line.members, List.cons_append, List.nil_append, List.foldl_cons,
      List.foldl_nil, place, String.reduceLT, String.reduceEq, if_true, if_false, sortedMembers]⟩

/-- The entry whose fields are those of a port. -/
def entry (d : Descriptor) : Entry where
  uid := some d.uid
  device := some d.device
  baud := d.line.baud.rate
  dataBits := d.line.dataBits.toNat
  stopBits := d.line.stopBits.toNat
  parity := d.line.parity.label
  minDelay := d.minDelay
  maxLen := d.maxLen
  timeout := d.timeout

theorem integer_i64 {n : Nat} (h : n < 2 ^ 63) : integer i64 (.int n) = .ok (n : Int) := by
  refine if_pos ⟨?_, ?_⟩ <;> simp only [i64, Nat.pow_eq] <;> omega

theorem Loadable.decode_toJson (h : d.Loadable) : Entry.record.decode d.toJson = .ok d.entry := by
  obtain ⟨ms, written, sorted⟩ := d.canonical_members
  have baud : integer i64 (.int d.line.baud.rate) = .ok (d.line.baud.rate : Int) :=
    integer_i64 (Nat.lt_of_le_of_lt d.line.baud.rate_le (by decide))
  have dataBits : integer i64 (.int d.line.dataBits.toNat) = .ok (d.line.dataBits.toNat : Int) :=
    integer_i64 (Nat.lt_of_le_of_lt d.line.dataBits.toNat_le (by decide))
  have stopBits : integer i64 (.int d.line.stopBits.toNat) = .ok (d.line.stopBits.toNat : Int) :=
    integer_i64 (Nat.lt_of_le_of_lt d.line.stopBits.toNat_le (by decide))
  have maxLen : integer i64 (.int d.maxLen) = .ok (d.maxLen : Int) :=
    integer_i64 (Nat.lt_of_le_of_lt h.maxLen_le (by decide))
  have minDelay := integer_i64 h.minDelay
  have timeout := integer_i64 h.timeout_lt
  -- the members are read in the order of their names, not in that in which they are written
  rw [written, Record.decode, sorted]
  simp [sortedMembers, Record.takeMember, Entry.record, Field.of, baud, dataBits, stopBits,
    minDelay, maxLen, timeout, text, Json.optional, Except.map, bind, Except.bind, pure,
    Except.pure, entry]

theorem Loadable.faults_entry (h : d.Loadable) : d.entry.faults = [] := by
  have pos := h.maxLen_pos
  have le := h.maxLen_le
  have waits := h.timeout_pos
  have limits : d.entry.limitFaults = [] := by
    refine Entry.limitFaults_eq_nil_iff.mpr ?_
    show 0 ≤ (d.minDelay : Int) ∧ 0 < (d.maxLen : Int) ∧ (d.maxLen : Int) ≤ maxMaxLen ∧
      0 < (d.timeout : Int)
    omega
  rw [Entry.faults, limits, Entry.lineFaults, entry, Baud.ofInt_rate, DataBits.ofInt_toNat,
    StopBits.ofInt_toNat, Parity.ofText_label]
  rfl

theorem line?_entry (d : Descriptor) : d.entry.line? = .ok d.line :=
  Entry.line?_eq_ok_iff.mpr ⟨d.line.baud.ofInt_rate, d.line.dataBits.ofInt_toNat,
    d.line.stopBits.ofInt_toNat, d.line.parity.ofText_label⟩

/-- **The entry that a port is written as describes this port.** -/
theorem Loadable.read_toJson (h : d.Loadable) : Entry.read d.toJson = .port d := by
  have device : d.entry.device? = some d.device := by simp [Entry.device?, entry, h.device]
  have uid : d.entry.uidFor d.device = d.uid := by
    simp [Entry.uidFor, entry, Option.filter, h.uid]
  simp only [Entry.read, h.decode_toJson, Entry.outcome, device, h.faults_entry, line?_entry, uid]
  rfl

theorem Loadable.plain_toJson (h : d.Loadable) (room : Nat) : Plain (room + 1) d.toJson := by
  have baud := d.line.baud.rate_le
  have dataBits := d.line.dataBits.toNat_le
  have stopBits := d.line.stopBits.toNat_le
  have minDelay := h.minDelay
  have maxLen : d.maxLen ≤ 1048576 := h.maxLen_le
  have timeout := h.timeout_lt
  simp only [toJson, Line.members, List.cons_append, List.nil_append, Plain, PlainMembers, true_and,
    and_true]
  omega

end Descriptor

/-! ## Documents -/

namespace Document

theorem ofEntries_toJson {ds : List Descriptor} (loadable : ∀ d ∈ ds, d.Loadable)
    (distinct : (ds.map Descriptor.uid).Nodup) :
    ofEntries (ds.map Descriptor.toJson) = .ok ⟨ds, 0⟩ := by
  have each : ∀ d ∈ ds, Entry.read d.toJson = .port d := fun d hd => (loadable d hd).read_toJson
  have ports : portsOf (ds.map Descriptor.toJson) = ds := by
    rw [portsOf, List.filterMap_map]
    calc ds.filterMap (fun d => (Entry.read d.toJson).port?)
        = ds.filterMap some := List.filterMap_congr fun d hd => by rw [each d hd]; rfl
      _ = ds := List.filterMap_some
  refine ofEntries_eq_ok_iff.mpr ⟨?_, by rwa [ports], ?_⟩
  · rw [List.forall_mem_map]
    intro d hd
    rw [each d hd]
    trivial
  · have none : (ds.map Descriptor.toJson).countP (fun v => (Entry.read v).isSkipped) = 0 := by
      rw [List.countP_map, List.countP_eq_zero]
      intro d hd
      simp [each d hd, Entry.Outcome.isSkipped]
    rw [ports, none]

theorem ofJson_toJson (doc : Document) :
    ofJson doc.toJson = ofEntries (doc.ports.map Descriptor.toJson) := by
  simp [toJson, ofJson, member?]

theorem plain_items {ds : List Descriptor} (loadable : ∀ d ∈ ds, d.Loadable) (room : Nat) :
    PlainItems (room + 1) (ds.map Descriptor.toJson) := by
  induction ds with
  | nil => simp [PlainItems]
  | cons d ds ih =>
    rw [List.map_cons, PlainItems]
    exact ⟨(loadable d List.mem_cons_self).plain_toJson room,
      ih fun x hx => loadable x (List.mem_cons_of_mem d hx)⟩

/-- A document holds nothing that is lost in a text. -/
theorem plain_toJson {doc : Document} (loadable : ∀ d ∈ doc.ports, d.Loadable) :
    Plain Reader.maxDepth doc.toJson := by
  simp only [toJson, Plain, PlainMembers, and_true]
  exact ⟨by decide, by decide, plain_items loadable 124⟩

/-- **The normal form is faithful.** The text that is printed for an accepted document is accepted.
It gives the same ports in the same order and passes over nothing, and its own normal form is the
same text. So a file that holds what was printed passes the check, and the same is printed for it.
-/
theorem normal_form_faithful {v : Json} {doc : Document} (h : ofJson v = .ok doc) (path : String) :
    ofText path (doc.render true) = .ok ⟨doc.ports, 0⟩ ∧
      (⟨doc.ports, 0⟩ : Document).render true = doc.render true ∧
      validate path (some (utf8 (doc.render true ++ "\n"))) true =
        .ok (doc.render true ++ "\n") := by
  obtain ⟨entries, -, accepted⟩ := ofJson_eq_ok h
  obtain ⟨-, distinct, hdoc⟩ := ofEntries_eq_ok_iff.mp accepted
  have ports : doc.ports = portsOf entries := by rw [hdoc]
  rw [← ports] at distinct
  have loadable : ∀ d ∈ doc.ports, d.Loadable := fun d hd => loadable_of_mem (ports ▸ hd)
  have read : ofJson doc.toJson = .ok ⟨doc.ports, 0⟩ :=
    (ofJson_toJson doc).trans (ofEntries_toJson loadable distinct)
  obtain ⟨alone, followed⟩ := parse?_pretty (plain_toJson loadable)
  have rendered : doc.render true = doc.toJson.pretty := if_pos rfl
  have again : (⟨doc.ports, 0⟩ : Document).render true = doc.toJson.pretty := if_pos rfl
  rw [rendered]
  refine ⟨?_, again, ?_⟩
  · rw [ofText, alone]
    exact read
  · have file : ofFile path (some (utf8 (doc.toJson.pretty ++ "\n"))) = .ok ⟨doc.ports, 0⟩ := by
      rw [ofFile, Option.bind_some, Utf8.decode?_utf8]
      show ofText path (doc.toJson.pretty ++ "\n") = _
      rw [ofText, followed]
      exact read
    rw [validate, file]
    show Except.ok ((⟨doc.ports, 0⟩ : Document).render true ++ "\n") = _
    rw [again]

/-- A uid with a quote, a backslash and a control character, next to an entry without a device. -/
theorem normal_form_faithful_escaped :
    let v : Json := .arr [.obj [("uid", .str "ghost")],
      .obj [("uid", .str "a\"\\\x01\n"), ("device", .str "/dev/té"), ("parity", .str " Odd")]]
    let d : Descriptor :=
      { uid := "a\"\\\x01\n", device := "/dev/té", line := { parity := .odd } }
    ofJson v = .ok ⟨[d], 1⟩ ∧
      ofText inlinePath ((⟨[d], 1⟩ : Document).render true) = .ok ⟨[d], 0⟩ := by
  intro v d
  have accepted : ofJson v = .ok ⟨[d], 1⟩ := by rfl
  exact ⟨accepted, (normal_form_faithful accepted inlinePath).1⟩

end Document

end Fieldbus
