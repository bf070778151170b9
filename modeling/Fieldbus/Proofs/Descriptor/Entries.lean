import Fieldbus.Descriptor.Entry
import Fieldbus.Proofs.Json.Decoding
import Fieldbus.Proofs.Text.Utf8
import Mathlib.Algebra.Group.Int.Defs
import Mathlib.Algebra.Group.Nat.Defs

/-!
# What an entry describes

An entry is checked in two ways: loosely when it is decoded and field by field afterwards. What gets
through both is a descriptor in order, whose fields are those of the entry.

* `Entry.given?`, `Entry.filled?`: what is written in an entry.
* `Entry.Describes`: the descriptor that an entry describes.
* `Descriptor.Loadable`: what a descriptor from a document is like.
* `Entry.Holds`: a decoded entry holds what is written.
* `deviceUid_visible`: a uid that is taken from a device is never blank.
* **`Entry.describes_of_read`**: an entry that becomes a port describes it.
-/

namespace Fieldbus

open Json

/-! ## What is written -/

namespace Entry

/-- The names of the fields, in the order in which an array gives them. -/
def names : List String :=
  ["uid", "device", "baud", "databits", "stopbits", "parity", "mindelay", "maxlen", "timeout"]

/-- The value that is written for a field. -/
def given? (name : String) (v : Json) : Option Json := Json.given? names name v

/-- The text that is written for a field; a blank one does not count. -/
def filled? (name : String) (v : Json) : Option String :=
  match given? name v with
  | some (.str s) => if Text.isBlankText s then none else some s
  | _ => none

/-- The descriptor that an entry describes: every field is as it is written, or the default. -/
structure Describes (v : Json) (d : Descriptor) : Prop where
  /-- The device is the one that is written. -/
  device : filled? "device" v = some d.device
  /-- The uid is the one that is written, or that of the device. -/
  uid : (filled? "uid" v).getD (deviceUid (utf8 d.device)) = d.uid
  /-- The rate is 115200 by default. -/
  baud : (given? "baud" v).getD (.int 115200) = .int d.line.baud.rate
  /-- There are eight data bits by default. -/
  dataBits : (given? "databits" v).getD (.int 8) = .int d.line.dataBits.toNat
  /-- There is one stop bit by default. -/
  stopBits : (given? "stopbits" v).getD (.int 1) = .int d.line.stopBits.toNat
  /-- There is no parity by default. -/
  parity : ∃ s, (given? "parity" v).getD (.str "n") = .str s ∧ Parity.ofText s = .ok d.line.parity
  /-- Writes need not wait by default. -/
  minDelay : (given? "mindelay" v).getD (.int 0) = .int d.minDelay
  /-- The read buffer holds 1024 bytes by default. -/
  maxLen : (given? "maxlen" v).getD (.int 1024) = .int d.maxLen
  /-- Reads wait for 100 milliseconds by default. -/
  timeout : (given? "timeout" v).getD (.int 100) = .int d.timeout

end Entry

/-- What a descriptor from a document is like: its names are not blank, and its limits are in range.
-/
structure Descriptor.Loadable (d : Descriptor) : Prop where
  /-- The uid is not blank. -/
  uid : Text.isBlankText d.uid = false
  /-- The device is not blank. -/
  device : Text.isBlankText d.device = false
  /-- The least time between two writes is a signed number of 64 bits. -/
  minDelay : d.minDelay < 2 ^ 63
  /-- The read buffer is not empty. -/
  maxLen_pos : 0 < d.maxLen
  /-- The read buffer is not too large. -/
  maxLen_le : d.maxLen ≤ maxMaxLen
  /-- Reads wait. -/
  timeout_pos : 0 < d.timeout
  /-- The read timeout is a signed number of 64 bits. -/
  timeout_lt : d.timeout < 2 ^ 63

theorem Descriptor.Loadable.valid {d : Descriptor} (h : d.Loadable) : d.Valid := by
  have named : d.device ≠ "" := by
    intro empty
    have blank := h.device
    rw [empty] at blank
    exact absurd blank (by decide)
  have pos := h.maxLen_pos
  have le := h.maxLen_le
  have waits := h.timeout_pos
  unfold Valid fault?
  rw [h.uid, if_neg (by simp), if_neg named, if_neg (by omega), if_neg (by omega)]

/-! ## Uids from devices -/

theorem uidChar_visible (c : Char) : Text.isBlank (uidChar c) = false := by
  unfold uidChar
  split
  · next h =>
    generalize c.toLower = c at h
    delta Char.isAlphanum Char.isAlpha Char.isUpper Char.isLower Char.isDigit at h
    simp only [Bool.or_eq_true, Bool.and_eq_true, decide_eq_true_eq, UInt32.le_iff_toNat_le,
      ge_iff_le] at h
    change ((65 ≤ c.toNat ∧ c.toNat ≤ 90) ∨ (97 ≤ c.toNat ∧ c.toNat ≤ 122)) ∨
      (48 ≤ c.toNat ∧ c.toNat ≤ 57) at h
    simp only [Text.isBlank, Bool.or_eq_false_iff, Bool.and_eq_false_iff, beq_eq_false_iff_ne,
      decide_eq_false_iff_not]
    omega
  · decide

theorem utf8_ne_nil {s : String} (h : s ≠ "") : utf8 s ≠ [] :=
  fun empty => h (utf8_inj.mp empty)

/-- **A uid that is taken from a device is never blank.** -/
theorem deviceUid_visible {path : Bytes} (h : path ≠ []) :
    Text.isBlankText (deviceUid path) = false := by
  -- what names the device is not empty
  have named : (Path.fileName? path).getD path ≠ [] := by
    cases hf : Path.fileName? path with
    | none => exact h
    | some name =>
      obtain ⟨p, hp, hn⟩ := Option.bind_eq_some_iff.mp hf
      split at hn
      · exact absurd hn (by simp)
      · obtain rfl := Option.some.inj hn
        have := (List.mem_filter.mp (List.mem_of_getLast? hp)).2
        simp only [decide_eq_true_eq] at this
        exact this.1
  have scanned := Utf8.scan_ne_nil named
  unfold deviceUid Text.isBlankText Utf8.lossy
  simp only [String.toList_ofList]
  obtain ⟨c, cs, hcs⟩ := List.exists_cons_of_ne_nil scanned
  rw [hcs]
  simp [uidChar_visible]

/-! ## Decoded entries -/

namespace Entry

variable {v : Json} {e : Entry} {d : Descriptor}

/-- A decoded entry holds what is written, or the default. -/
structure Holds (v : Json) (e : Entry) : Prop where
  /-- The uid may be missing. -/
  uid : optional (text aString) ((given? "uid" v).getD .null) = .ok e.uid
  /-- The device may be missing. -/
  device : optional (text aString) ((given? "device" v).getD .null) = .ok e.device
  /-- The rate is 115200 by default. -/
  baud : integer i64 ((given? "baud" v).getD (.int 115200)) = .ok e.baud
  /-- There are eight data bits by default. -/
  dataBits : integer i64 ((given? "databits" v).getD (.int 8)) = .ok e.dataBits
  /-- There is one stop bit by default. -/
  stopBits : integer i64 ((given? "stopbits" v).getD (.int 1)) = .ok e.stopBits
  /-- There is no parity by default. -/
  parity : text aString ((given? "parity" v).getD (.str "n")) = .ok e.parity
  /-- Writes need not wait by default. -/
  minDelay : integer i64 ((given? "mindelay" v).getD (.int 0)) = .ok e.minDelay
  /-- The read buffer holds 1024 bytes by default. -/
  maxLen : integer i64 ((given? "maxlen" v).getD (.int 1024)) = .ok e.maxLen
  /-- Reads wait for 100 milliseconds by default. -/
  timeout : integer i64 ((given? "timeout" v).getD (.int 100)) = .ok e.timeout

theorem reads :
    record.Reads "uid" (optional (text aString)) uid ∧
    record.Reads "device" (optional (text aString)) device ∧
    record.Reads "baud" (integer i64) baud ∧
    record.Reads "databits" (integer i64) dataBits ∧
    record.Reads "stopbits" (integer i64) stopBits ∧
    record.Reads "parity" (text aString) parity ∧
    record.Reads "mindelay" (integer i64) minDelay ∧
    record.Reads "maxlen" (integer i64) maxLen ∧
    record.Reads "timeout" (integer i64) timeout := by
  refine ⟨?_, ?_, ?_, ?_, ?_, ?_, ?_, ?_, ?_⟩ <;> refine ⟨by decide, ?_⟩ <;>
    simp only [record, List.forall_mem_cons, List.not_mem_nil, false_implies, implies_true,
      and_true] <;>
    refine ⟨?_, ?_, ?_, ?_, ?_, ?_, ?_, ?_, ?_⟩
  -- each of the nine fields is the one in question or another one
  all_goals
    first
    | exact Record.apart_self fun _ _ => rfl
    | exact Record.apart_of_ne (by decide) fun _ _ => rfl

theorem distinct_names : record.names.Nodup := by decide

theorem holds_of_decode (h : record.decode v = .ok e) : Holds v e := by
  obtain ⟨uid, device, baud, dataBits, stopBits, parity, minDelay, maxLen, timeout⟩ := reads
  exact ⟨uid.decode distinct_names rfl h, device.decode distinct_names rfl h,
    baud.decode distinct_names rfl h, dataBits.decode distinct_names rfl h,
    stopBits.decode distinct_names rfl h, parity.decode distinct_names rfl h,
    minDelay.decode distinct_names rfl h, maxLen.decode distinct_names rfl h,
    timeout.decode distinct_names rfl h⟩

theorem filled?_eq {name : String} {o : Option String}
    (h : optional (text aString) ((given? name v).getD .null) = .ok o) :
    filled? name v = o.filter fun s => !Text.isBlankText s := by
  unfold filled?
  cases hg : given? name v with
  | none =>
    rw [hg] at h
    rw [← Except.ok.inj h]
    rfl
  | some w =>
    rw [hg, Option.getD_some] at h
    rcases optional_text_eq_ok h with ⟨rfl, rfl⟩ | ⟨s, rfl, rfl⟩
    · rfl
    · cases hb : Text.isBlankText s <;> simp [hb, Option.filter]

theorem Holds.device?_eq (h : Holds v e) : e.device? = filled? "device" v :=
  (filled?_eq h.device).symm

theorem Holds.uidFor_eq (h : Holds v e) (device : String) :
    e.uidFor device = (filled? "uid" v).getD (deviceUid (utf8 device)) := by
  rw [filled?_eq h.uid]
  rfl

/-! ## Line parameters -/

theorem ofInt_eq_ok {n : Int} {b : Baud} (h : Baud.ofInt n = .ok b) : n = b.rate := by
  unfold Baud.ofInt at h
  split at h
  · next ok =>
    obtain rfl := Except.ok.inj h
    show n = (n.toNat : Int)
    omega
  · exact absurd h (by simp)

theorem dataBits_eq_ok {n : Int} {b : DataBits} (h : DataBits.ofInt n = .ok b) : n = b.toNat := by
  unfold DataBits.ofInt at h
  iterate 4
    split at h
    · next hn => rw [hn, ← Except.ok.inj h]; rfl
  exact absurd h (by simp)

theorem stopBits_eq_ok {n : Int} {b : StopBits} (h : StopBits.ofInt n = .ok b) : n = b.toNat := by
  unfold StopBits.ofInt at h
  iterate 2
    split at h
    · next hn => rw [hn, ← Except.ok.inj h]; rfl
  exact absurd h (by simp)

theorem line?_eq_ok_iff {l : Line} :
    e.line? = .ok l ↔ Baud.ofInt e.baud = .ok l.baud ∧ DataBits.ofInt e.dataBits = .ok l.dataBits ∧
      StopBits.ofInt e.stopBits = .ok l.stopBits ∧ Parity.ofText e.parity = .ok l.parity := by
  obtain ⟨baud, dataBits, stopBits, parity⟩ := l
  unfold line?
  cases Baud.ofInt e.baud <;> cases DataBits.ofInt e.dataBits <;>
    cases StopBits.ofInt e.stopBits <;> cases Parity.ofText e.parity <;>
    simp [bind, Except.bind, pure, Except.pure]

theorem exists_line? (h : e.lineFaults = []) : ∃ l, e.line? = .ok l := by
  unfold lineFaults at h
  cases hb : Baud.ofInt e.baud <;> cases hd : DataBits.ofInt e.dataBits <;>
    cases hs : StopBits.ofInt e.stopBits <;> cases hp : Parity.ofText e.parity <;>
    simp [hb, hd, hs, hp, lineFault] at h
  next baud dataBits stopBits parity =>
  exact ⟨⟨baud, dataBits, stopBits, parity⟩, line?_eq_ok_iff.mpr ⟨hb, hd, hs, hp⟩⟩

theorem limitFaults_eq_nil_iff :
    e.limitFaults = [] ↔ 0 ≤ e.minDelay ∧ 0 < e.maxLen ∧ e.maxLen ≤ maxMaxLen ∧ 0 < e.timeout := by
  unfold limitFaults
  simp only [List.append_eq_nil_iff, ite_eq_right_iff, List.cons_ne_nil, imp_false, not_or,
    Int.not_lt, Int.not_le, and_assoc]

/-! ## What becomes of an entry -/

theorem outcome_eq_port (h : e.outcome = .port d) :
    ∃ device l, e.device? = some device ∧ e.faults = [] ∧ e.line? = .ok l ∧
      d = ⟨e.uidFor device, device, l, e.minDelay.toNat, e.maxLen.toNat, e.timeout.toNat⟩ := by
  unfold outcome at h
  split at h
  · exact absurd h (by simp)
  · next device hd =>
    split at h
    · next l hf hl => exact ⟨device, l, hd, hf, hl, (Outcome.port.inj h).symm⟩
    · exact absurd h (by simp)

/-- What becomes of an entry that names a device, if its limits and its line are accepted. -/
theorem outcome_of_line {device : String} {l : Line} (named : e.device? = some device)
    (limits : e.limitFaults = []) (line : e.line? = .ok l) :
    e.outcome =
      .port ⟨e.uidFor device, device, l, e.minDelay.toNat, e.maxLen.toNat, e.timeout.toNat⟩ := by
  obtain ⟨baud, dataBits, stopBits, parity⟩ := line?_eq_ok_iff.mp line
  have faultless : e.faults = [] := by
    rw [faults, limits, lineFaults, baud, dataBits, stopBits, parity]
    rfl
  simp only [outcome, named, faultless, line]

theorem faults_ne_nil {uid : String} {fs : List Fault} (h : e.outcome = .faulty uid fs) :
    fs ≠ [] := by
  unfold outcome at h
  split at h
  · exact absurd h (by simp)
  · split at h
    · exact absurd h (by simp)
    · next hno =>
      obtain ⟨-, rfl⟩ := Outcome.faulty.inj h
      intro none
      obtain ⟨l, hl⟩ := exists_line? (List.append_eq_nil_iff.mp none).2
      exact hno l none hl

theorem outcome_eq_skipped : e.outcome = .skipped ↔ e.device? = none := by
  unfold outcome
  split
  · next h => simp [h]
  · next device h =>
    split <;> simp [h]

theorem read_eq_outcome {o : Outcome} (h : read v = o) (decoded : ∀ e, o ≠ .undecodable e) :
    ∃ e, Holds v e ∧ e.outcome = o := by
  unfold read at h
  split at h
  · next err _ => exact absurd h.symm (decoded err)
  · next e he => exact ⟨e, holds_of_decode he, h⟩

theorem uidFor_visible {device : String} (h : Text.isBlankText device = false) :
    Text.isBlankText (e.uidFor device) = false := by
  have named : device ≠ "" := by
    rintro rfl
    exact absurd h (by decide)
  unfold uidFor
  cases hu : e.uid.filter fun u => !Text.isBlankText u with
  | none => exact deviceUid_visible (utf8_ne_nil named)
  | some u => simpa using (Option.filter_eq_some_iff.mp hu).2

/-- **An entry that becomes a port describes it,** and the port is in order. -/
theorem describes_of_read (h : read v = .port d) : Describes v d ∧ d.Loadable := by
  obtain ⟨e, holds, he⟩ := read_eq_outcome h (by simp)
  obtain ⟨device, l, hdev, hf, hl, rfl⟩ := outcome_eq_port he
  obtain ⟨limits, -⟩ := List.append_eq_nil_iff.mp hf
  obtain ⟨delay, pos, le, waits⟩ := limitFaults_eq_nil_iff.mp limits
  obtain ⟨baud, dataBits, stopBits, parity⟩ := line?_eq_ok_iff.mp hl
  obtain ⟨hdelay, -, delay_le⟩ := integer_eq_ok holds.minDelay
  obtain ⟨hlen, -, -⟩ := integer_eq_ok holds.maxLen
  obtain ⟨htime, -, time_le⟩ := integer_eq_ok holds.timeout
  have visible : Text.isBlankText device = false := by
    simpa using (Option.filter_eq_some_iff.mp hdev).2
  constructor
  · exact {
      device := holds.device?_eq.symm.trans hdev
      uid := (holds.uidFor_eq device).symm
      baud := by rw [(integer_eq_ok holds.baud).1, ofInt_eq_ok baud]
      dataBits := by rw [(integer_eq_ok holds.dataBits).1, dataBits_eq_ok dataBits]
      stopBits := by rw [(integer_eq_ok holds.stopBits).1, stopBits_eq_ok stopBits]
      parity := ⟨_, text_eq_ok holds.parity, parity⟩
      minDelay := by rw [hdelay, Int.toNat_of_nonneg delay]
      maxLen := by rw [hlen, Int.toNat_of_nonneg (by omega)]
      timeout := by rw [htime, Int.toNat_of_nonneg (by omega)] }
  · have high : i64.high = 2 ^ 63 - 1 := by decide
    rw [high] at delay_le time_le
    exact {
      uid := uidFor_visible visible
      device := visible
      minDelay := by show e.minDelay.toNat < 2 ^ 63; omega
      maxLen_pos := by show 0 < e.maxLen.toNat; omega
      maxLen_le := by show e.maxLen.toNat ≤ maxMaxLen; omega
      timeout_pos := by show 0 < e.timeout.toNat; omega
      timeout_lt := by show e.timeout.toNat < 2 ^ 63; omega }

/-- **An entry that is passed over names no device.** -/
theorem filled?_of_skipped (h : read v = .skipped) : filled? "device" v = none := by
  obtain ⟨e, holds, he⟩ := read_eq_outcome h (by simp)
  rw [← holds.device?_eq]
  exact outcome_eq_skipped.mp he

end Entry

end Fieldbus
