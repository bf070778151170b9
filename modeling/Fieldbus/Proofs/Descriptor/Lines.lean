import Fieldbus.Proofs.Descriptor.NormalForm
import Fieldbus.Proofs.Descriptor.Spelling

/-!
# Lines by themselves and in entries

The parameters of a line are decoded in two places: as an object of their own, each in its own
range, and among the fields of an entry, as wide numbers that are checked afterwards. Both accept
the same values, since whatever a check accepts is within either range.

* `Line.Holds`: a decoded line holds what is given, or the default.
* `Line.ofJson_eq_ok_iff`: a line is decoded if every field can be read from what is given for it.
* `Entry.Lined`: an entry that gives a device and the fields of a line.
* `Entry.Lined.read_eq_port_iff`: it is a port if the line is decoded.
* **`Document.line_matches_entry`**: a line is decoded by itself exactly if the document with this
  entry is accepted.
-/

namespace Fieldbus

open Json

/-! ## Lines by themselves -/

namespace Line

variable {v : Json} {l : Line}

/-- A decoded line holds what is given, or the default. -/
structure Holds (v : Json) (l : Line) : Prop where
  /-- The rate is 115200 by default. -/
  baud : checked (integer u32) Baud.ofInt
    ((given? record.names "baud" v).getD (.int 115200)) = .ok l.baud
  /-- There are eight data bits by default. -/
  dataBits : checked (integer u8) DataBits.ofInt
    ((given? record.names "databits" v).getD (.int 8)) = .ok l.dataBits
  /-- There is one stop bit by default. -/
  stopBits : checked (integer u8) StopBits.ofInt
    ((given? record.names "stopbits" v).getD (.int 1)) = .ok l.stopBits
  /-- There is no parity by default. -/
  parity : checked (Json.text aString) Parity.ofText
    ((given? record.names "parity" v).getD (.str "n")) = .ok l.parity

theorem reads :
    record.Reads "baud" (checked (integer u32) Baud.ofInt) baud ∧
    record.Reads "databits" (checked (integer u8) DataBits.ofInt) dataBits ∧
    record.Reads "stopbits" (checked (integer u8) StopBits.ofInt) stopBits ∧
    record.Reads "parity" (checked (Json.text aString) Parity.ofText) parity := by
  refine ⟨?_, ?_, ?_, ?_⟩ <;> refine ⟨by decide, ?_⟩ <;>
    simp only [record, List.forall_mem_cons, List.not_mem_nil, false_implies, implies_true,
      and_true] <;>
    refine ⟨?_, ?_, ?_, ?_⟩
  -- each of the four fields is the one in question or another one
  all_goals
    first
    | exact Record.apart_self fun _ _ => rfl
    | exact Record.apart_of_ne (by decide) fun _ _ => rfl

theorem distinct_names : record.names.Nodup := by decide

theorem holds_of_ofJson (h : ofJson v = .ok l) : Holds v l := by
  obtain ⟨baud, dataBits, stopBits, parity⟩ := reads
  exact ⟨baud.decode distinct_names rfl h, dataBits.decode distinct_names rfl h,
    stopBits.decode distinct_names rfl h, parity.decode distinct_names rfl h⟩

theorem Holds.unique {l' : Line} (h : Holds v l) (h' : Holds v l') : l = l' := by
  have baud := Except.ok.inj (h.baud.symm.trans h'.baud)
  have dataBits := Except.ok.inj (h.dataBits.symm.trans h'.dataBits)
  have stopBits := Except.ok.inj (h.stopBits.symm.trans h'.stopBits)
  have parity := Except.ok.inj (h.parity.symm.trans h'.parity)
  cases l
  cases l'
  simp only at baud dataBits stopBits parity
  rw [baud, dataBits, stopBits, parity]

/-- **A line is decoded exactly if every field can be read from what is given for it.** -/
theorem ofJson_eq_ok_iff (formed : record.Formed v) : ofJson v = .ok l ↔ Holds v l := by
  refine ⟨holds_of_ofJson, fun holds => ?_⟩
  rcases Record.decode_cases (fun _ => rfl) distinct_names formed with
    ⟨l', decoded⟩ | ⟨f, hf, w, r, err, given, fails, -⟩
  · rw [← (holds_of_ofJson decoded).unique holds]
    exact decoded
  · simp only [record, List.mem_cons, List.not_mem_nil, or_false] at hf
    rcases hf with rfl | rfl | rfl | rfl
    · exact absurd fails (Field.read_ne_error holds.baud given)
    · exact absurd fails (Field.read_ne_error holds.dataBits given)
    · exact absurd fails (Field.read_ne_error holds.stopBits given)
    · exact absurd fails (Field.read_ne_error holds.parity given)

end Line

/-! ## Lines in entries -/

/-- The port of a device with a line; all else is as it is by default. -/
def Descriptor.ofDevice (device : String) (l : Line) : Descriptor :=
  { uid := deviceUid (utf8 device), device := device, line := l }

namespace Entry

/-- Of the fields of a port, an entry gives a visible device and those of a line. -/
structure Lined (v x : Json) (device : String) : Prop where
  formed : record.Formed x
  named : given? "device" x = some (.str device)
  visible : Text.isBlankText device = false
  /-- The fields of the line are those of a line by itself. -/
  line : ∀ name ∈ Line.record.names, given? name x = Json.given? Line.record.names name v
  /-- Nothing else is given. -/
  others : ∀ name ∈ ["uid", "mindelay", "maxlen", "timeout"], given? name x = none

variable {v x : Json} {device : String} {e : Entry} {l : Line} {d : Descriptor}

theorem Lined.holds_iff (h : Lined v x device) : Line.Holds v l ↔
    (∃ n, integer i64 ((given? "baud" x).getD (.int 115200)) = .ok n ∧
      Baud.ofInt n = .ok l.baud) ∧
    (∃ n, integer i64 ((given? "databits" x).getD (.int 8)) = .ok n ∧
      DataBits.ofInt n = .ok l.dataBits) ∧
    (∃ n, integer i64 ((given? "stopbits" x).getD (.int 1)) = .ok n ∧
      StopBits.ofInt n = .ok l.stopBits) ∧
    ∃ s, text aString ((given? "parity" x).getD (.str "n")) = .ok s ∧
      Parity.ofText s = .ok l.parity := by
  -- each number that is accepted is in the range of either form
  have rate := l.baud.rate_le
  have dataBits := l.dataBits.toNat_le
  have stopBits := l.stopBits.toNat_le
  have byte : u8.low = 0 ∧ u8.high = 255 := ⟨rfl, rfl⟩
  have word : u32.low = 0 ∧ u32.high = 4294967295 := ⟨rfl, rfl⟩
  have long : i64.low = -9223372036854775808 ∧ i64.high = 9223372036854775807 := ⟨rfl, rfl⟩
  rw [← checked_integer_iff u32 i64 (fun n => ofInt_eq_ok) (by omega) (by omega),
    ← checked_integer_iff u8 i64 (fun n => dataBits_eq_ok) (by omega) (by omega),
    ← checked_integer_iff u8 i64 (fun n => stopBits_eq_ok) (by omega) (by omega),
    ← checked_eq_ok_iff]
  rw [h.line "baud" (by decide), h.line "databits" (by decide), h.line "stopbits" (by decide),
    h.line "parity" (by decide)]
  exact ⟨fun ⟨b, d, s, p⟩ => ⟨b, d, s, p⟩, fun ⟨b, d, s, p⟩ => ⟨b, d, s, p⟩⟩

theorem Lined.exists_holds (h : Lined v x device) (line : Line.Holds v l) : ∃ e, Holds x e := by
  obtain ⟨⟨baud, hb, -⟩, ⟨dataBits, hd, -⟩, ⟨stopBits, hs, -⟩, parity, hp, -⟩ :=
    h.holds_iff.mp line
  refine ⟨⟨none, some device, baud, dataBits, stopBits, parity, 0, 1024, 100⟩, ?_⟩
  exact {
    uid := by rw [h.others "uid" (by decide)]; rfl
    device := by rw [h.named]; rfl
    baud := hb
    dataBits := hd
    stopBits := hs
    parity := hp
    minDelay := by rw [h.others "mindelay" (by decide)]; rfl
    maxLen := by rw [h.others "maxlen" (by decide)]; rfl
    timeout := by rw [h.others "timeout" (by decide)]; rfl }

theorem Lined.line?_iff (h : Lined v x device) (holds : Holds x e) :
    e.line? = .ok l ↔ Line.Holds v l := by
  rw [h.holds_iff, line?_eq_ok_iff, holds.baud, holds.dataBits, holds.stopBits, holds.parity]
  simp only [Except.ok.injEq, exists_eq_left']

theorem Lined.outcome_eq (h : Lined v x device) (holds : Holds x e) (line : e.line? = .ok l) :
    e.outcome = .port (.ofDevice device l) := by
  have uid := holds.uid
  have named := holds.device
  have minDelay := holds.minDelay
  have maxLen := holds.maxLen
  have timeout := holds.timeout
  rw [h.others "uid" (by decide)] at uid
  rw [h.named] at named
  rw [h.others "mindelay" (by decide)] at minDelay
  rw [h.others "maxlen" (by decide)] at maxLen
  rw [h.others "timeout" (by decide)] at timeout
  have uid : none = e.uid := Except.ok.inj uid
  have named : some device = e.device := Except.ok.inj named
  have minDelay : 0 = e.minDelay := Except.ok.inj minDelay
  have maxLen : 1024 = e.maxLen := Except.ok.inj maxLen
  have timeout : 100 = e.timeout := Except.ok.inj timeout
  have device? : e.device? = some device := by
    rw [Entry.device?, ← named, Option.filter_some, h.visible]
    rfl
  have limits : e.limitFaults = [] := by
    rw [limitFaults, ← minDelay, ← maxLen, ← timeout]
    rfl
  rw [outcome_of_line device? limits line, uidFor, ← uid, ← minDelay, ← maxLen, ← timeout]
  rfl

/-- **An entry that names a device and gives a line is a port exactly if the line is decoded.** -/
theorem Lined.read_eq_port_iff (h : Lined v x device) :
    read x = .port d ↔ ∃ l, Line.Holds v l ∧ .ofDevice device l = d := by
  constructor
  · intro port
    obtain ⟨e, holds, outcome⟩ := read_eq_outcome port (by simp)
    obtain ⟨-, l, -, -, line, -⟩ := outcome_eq_port outcome
    rw [h.outcome_eq holds line] at outcome
    exact ⟨l, (h.line?_iff holds).mp line, Outcome.port.inj outcome⟩
  · rintro ⟨l, line, rfl⟩
    obtain ⟨e, holds⟩ := h.exists_holds line
    rw [read, (decode_eq_ok_iff h.formed).mpr holds]
    exact h.outcome_eq holds ((h.line?_iff holds).mpr line)

theorem lined_of_members {before after : List (String × Json)}
    (only : ∀ m ∈ before ++ after, m.1 ∈ names → m.1 ∈ Line.record.names)
    (visible : Text.isBlankText device = false) :
    Lined (.obj (before ++ after)) (.obj (before ++ ("device", .str device) :: after)) device := by
  have missing {name : String} (known : name ∈ names) (other : name ∉ Line.record.names) :
      ∀ m ∈ before ++ after, m.1 ≠ name := by
    rintro m hm rfl
    exact other (only m hm known)
  refine ⟨.inl ⟨_, rfl⟩, member?_of_last fun m hm => ?_, visible, fun name hn => ?_,
    fun name hn => ?_⟩
  · exact missing (by decide) (by decide) m (List.mem_append_right before hm)
  · have differ : "device" ≠ name := by
      rintro rfl
      revert hn
      decide
    exact member?_of_ne differ before after
  · have ⟨known, other, differ⟩ :
        name ∈ names ∧ name ∉ Line.record.names ∧ "device" ≠ name := by
      revert name
      decide
    exact (member?_of_ne differ before after).trans (member?_eq_none (missing known other))

end Entry

namespace Document

/-- **Both decoders of lines agree.** The members of a line may stand in an object of their own, or
in the only entry of a document, together with a device that is not blank; whatever the members
are, in whatever order they stand, and whether or not there are members of unknown names. A line is
decoded from the object exactly if the document is accepted, and then the port has this line. -/
theorem line_matches_entry {before after : List (String × Json)} {device : String} {w : Json}
    (only : ∀ m ∈ before ++ after, m.1 ∈ Entry.names → m.1 ∈ Line.record.names)
    (visible : Text.isBlankText device = false)
    (single : entries? w = some [.obj (before ++ ("device", .str device) :: after)]) :
    (∀ l, Line.ofJson (.obj (before ++ after)) = .ok l ↔
      ofJson w = .ok ⟨[.ofDevice device l], 0⟩) ∧
    ((∃ l, Line.ofJson (.obj (before ++ after)) = .ok l) ↔ ∃ doc, ofJson w = .ok doc) := by
  have lined := Entry.lined_of_members only visible
  have named : Entry.filled? "device" (.obj (before ++ ("device", .str device) :: after)) =
      some device := by
    rw [Entry.filled?, lined.named]
    simp only [visible, Bool.false_eq_true, if_false]
  have accepted (doc : Document) : ofJson w = .ok doc ↔
      ∃ l, Line.ofJson (.obj (before ++ after)) = .ok l ∧ ⟨[.ofDevice device l], 0⟩ = doc := by
    rw [ofJson_of_entries? single, ofEntries_named_iff named]
    simp only [lined.read_eq_port_iff, Line.ofJson_eq_ok_iff (.inl ⟨_, rfl⟩)]
    constructor
    · rintro ⟨d, ⟨l, line, rfl⟩, rfl⟩
      exact ⟨l, line, rfl⟩
    · rintro ⟨l, line, rfl⟩
      exact ⟨_, ⟨l, line, rfl⟩, rfl⟩
  simp only [accepted]
  refine ⟨fun l => ⟨fun line => ⟨l, line, rfl⟩, ?_⟩, ?_⟩
  · rintro ⟨l', line, same⟩
    have equal : l' = l := by simpa [Descriptor.ofDevice] using same
    rw [← equal]
    exact line
  · exact ⟨fun ⟨l, line⟩ => ⟨_, l, line, rfl⟩, fun ⟨_, l, line, _⟩ => ⟨l, line⟩⟩

/-- A line with the device in its midst and a member of an unknown name; with a rate of too many
bits it is refused in either form. -/
theorem line_matches_entry_among :
    ofJson (.arr [.obj [("parity", .str "Odd"), ("device", .str "/dev/a"), ("baud", .int 9600),
      ("note", .null)]]) =
        .ok ⟨[.ofDevice "/dev/a" { baud := ⟨9600, by decide⟩, parity := .odd }], 0⟩ ∧
    ¬ ∃ doc, ofJson (.obj [("ports", .arr [.obj [("parity", .str "Odd"),
      ("device", .str "/dev/a"), ("baud", .int (2 ^ 64)), ("note", .null)]])]) = .ok doc := by
  have visible : Text.isBlankText "/dev/a" = false := by decide
  constructor
  · refine ((@line_matches_entry [_] [_, _] _ _ ?_ visible rfl).1 _).mp rfl
    decide
  · refine (@line_matches_entry [_] [_, _] _ _ ?_ visible rfl).2.not.mp ?_
    · decide
    · have refused : Line.ofJson (.obj [("parity", .str "Odd"), ("baud", .int (2 ^ 64)),
          ("note", .null)]) = .error (.outOfRange (2 ^ 64) "u32") := by rfl
      rintro ⟨l, decoded⟩
      cases refused.symm.trans decoded

end Document

end Fieldbus
