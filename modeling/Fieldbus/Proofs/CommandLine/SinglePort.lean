import Fieldbus.CommandLine.SinglePort
import Fieldbus.Proofs.CommandLine.Arguments
import Fieldbus.Proofs.Descriptor.Constraints

/-!
# Switches and entries

A single port is the same port, whether it is given by switches or as an entry. Switches are read
into numbers of their own sizes, and the descriptor is checked once it is there; entries are read
into signed numbers of 64 bits, and are checked before.

* `SinglePort.parse_arguments`: the switches are put into the record of the collector.
* `SinglePort.written`, `SinglePort.decode_entry`: the fields of the entry, if it is decoded.
* `SinglePort.descriptor`: the port that is described, by the switches
  (`SinglePort.singlePort_eq_ok_iff`) and by the entry (`SinglePort.outcome_eq_port_iff`).
* **`SinglePort.switches_match_entry`**: both are accepted or neither is, and the port is the same.
-/

namespace Fieldbus

open Json

namespace Value

theorem word64_toString {n : Nat} (h : n < 2 ^ 64) : word64 (toString n) = .ok n := below_toString h

theorem word32_toString (n : UInt32) : word32 (toString n.toNat) = .ok n.toNat :=
  shorter_toString n.toNat_lt

theorem word8_toString (n : UInt8) : word8 (toString n.toNat) = .ok n.toNat :=
  shorter_toString n.toNat_lt

end Value

/-! ## Switches -/

namespace Collector

/-- A change of the record that has nothing to do with the addresses and the log. -/
def Aside (f : Collector → Collector) : Prop :=
  ∀ (g : Addresses → Addresses) (h : LogSettings → LogSettings) c,
    { f c with bus := g (f c).bus, logging := h (f c).logging } =
      f { c with bus := g c.bus, logging := h c.logging }

variable {f : Collector → Collector}

theorem Aside.foldlM_surround (aside : Aside f) (env : List (String × String)) (c : Collector) :
    command.switches.foldlM (Command.surround env) (f c) =
      (command.switches.foldlM (Command.surround env) c).map f := by
  refine Command.foldlM_surround (fun s hs => Command.surround_map ?_) c
  simp only [command, List.mem_cons, List.not_mem_nil, or_false] at hs
  rcases hs with rfl | rfl | rfl | rfl | rfl | rfl | rfl | rfl | rfl | rfl | rfl | rfl | rfl | rfl |
    rfl | rfl
  all_goals try exact .inl rfl
  · exact .inr ⟨_, _, _, rfl, fun s c => aside (fun a => { a with north := s }) id c⟩
  · exact .inr ⟨_, _, _, rfl, fun s c => aside (fun a => { a with south := s }) id c⟩
  · exact .inr ⟨_, _, _, rfl, fun s c => aside id (fun l => { l with directory := some s }) c⟩

theorem parse_nil (env : List (String × String)) :
    parse env [] = command.switches.foldlM (Command.surround env) {} :=
  Command.parse_of_fills (Command.fills_nil command []) (by decide) (by decide) (by decide) rfl env

theorem parse_nil_map (env : List (String × String)) :
    (parse env []).map (fun c => { bus := c.bus, logging := c.logging }) = parse env [] := by
  have bare : Aside fun c => { bus := c.bus, logging := c.logging } := fun _ _ _ => rfl
  rw [parse_nil]
  exact (bare.foldlM_surround env {}).symm

/-- A single port is checked once it is there. -/
theorem singlePort_eq_ok_iff {c : Collector} {device : String} {d : Descriptor} :
    c.singlePort device = .ok d ↔ ∃ l, c.line = .ok l ∧ d.Valid ∧
      ⟨c.uid.getD (deviceUid (utf8 device)), device, l, c.minDelay, c.maxLen, c.timeout⟩ = d := by
  unfold singlePort
  cases c.line with
  | error e => simp [bind, Except.bind]
  | ok l =>
    simp only [bind, Except.bind, pure, Except.pure, Except.ok.injEq, exists_eq_left']
    generalize (⟨c.uid.getD (deviceUid (utf8 device)), device, l, c.minDelay, c.maxLen, c.timeout⟩ :
      Descriptor) = d'
    unfold Descriptor.check Descriptor.Valid
    cases checked : d'.fault? with
    | some e =>
      constructor
      · intro h
        cases h
      · rintro ⟨valid, rfl⟩
        rw [checked] at valid
        cases valid
    | none =>
      constructor
      · intro h
        obtain rfl := Except.ok.inj h
        exact ⟨checked, rfl⟩
      · rintro ⟨-, rfl⟩
        rfl

theorem ports_of_device {c : Collector} {device : String} (config : c.config = none)
    (given : c.device = some device) (read : String → Option Bytes) :
    c.ports read = ((c.singlePort device).map fun d => [d]).mapError .invalid := by
  simp only [ports, config, given]
  cases c.singlePort device <;> rfl

end Collector

namespace SinglePort

variable (s : SinglePort)

theorem filterMap_settings {β : Type} (g : String × Option (String × Json) → Option β)
    (x : String × Option (String × Json)) (xs : List (String × Option (String × Json))) :
    (x :: xs).filterMap g = (g x).toList ++ xs.filterMap g := by
  rw [List.filterMap_cons]
  cases g x <;> rfl

theorem named : s.device ≠ "" := by
  intro empty
  have visible := s.visible
  rw [empty] at visible
  exact absurd visible (by decide)

theorem fills_setting {β γ : Type} {n : String} {sw : Switch Collector}
    {read : String → Except Refusal β} {put : β → Collector → Collector} {o : Option γ}
    {w : γ → String × Json} {v : γ → β} (g : Collector → β)
    (found : (Collector.command.switches.find? fun s => s.long = n) = some sw)
    (plain : '=' ∉ n.toList) (takes : sw.action = .of read put)
    (reads : ∀ x, read (w x).1 = .ok (v x)) (same : ∀ c, put (g c) c = c) :
    Collector.command.Fills ((o.map w).map fun g => "--" ++ n ++ "=" ++ g.1).toList [n]
      fun c => put ((o.map v).getD (g c)) c := by
  refine Command.fills_optional found plain takes reads ?_ ?_
  · rintro rfl
    exact funext same
  · rintro x rfl
    rfl

theorem fills_arguments :
    Collector.command.Fills s.arguments
      ["timeout", "maxlen", "mindelay", "parity", "stopbits", "databits", "baud", "uid", "device"]
      s.fill := by
  have word63 (n : Fin (Nat.pow 2 63)) : Value.word64 (toString n.val) = .ok n.val :=
    Value.word64_toString (Nat.lt_trans n.isLt (by decide))
  have device : Collector.command.Fills ["--" ++ "device" ++ "=" ++ s.device] ["device"]
      fun c => { c with device := some s.device } :=
    Command.fills_attached rfl (by decide) rfl (if_neg s.named) rfl
  have uid := Command.fills_optional (c := Collector.command) (n := "uid") (o := s.uid)
    (w := ofText) (f := fun c => { c with uid := s.uid.or c.uid }) rfl (by decide) rfl
    (fun _ => rfl) (fun h => by rw [h]; rfl) (fun x h => by rw [h]; rfl)
  have baud := fills_setting (n := "baud") (o := s.baud) (w := fun n => ofNat n.toNat)
    Collector.baud rfl (by decide) rfl Value.word32_toString fun _ => rfl
  have dataBits := fills_setting (n := "databits") (o := s.dataBits) (w := fun n => ofNat n.toNat)
    Collector.dataBits rfl (by decide) rfl Value.word8_toString fun _ => rfl
  have stopBits := fills_setting (n := "stopbits") (o := s.stopBits) (w := fun n => ofNat n.toNat)
    Collector.stopBits rfl (by decide) rfl Value.word8_toString fun _ => rfl
  have parity := fills_setting (n := "parity") (o := s.parity) (w := ofText) (v := id)
    Collector.parity rfl (by decide) rfl (fun _ => rfl) fun _ => rfl
  rw [Option.map_id] at parity
  have minDelay := fills_setting (n := "mindelay") (o := s.minDelay) (w := fun n => ofNat n.val)
    Collector.minDelay rfl (by decide) rfl word63 fun _ => rfl
  have maxLen := fills_setting (n := "maxlen") (o := s.maxLen) (w := fun n => ofNat n.toNat)
    Collector.maxLen rfl (by decide) rfl (fun n => Value.word64_toString n.toNat_lt) fun _ => rfl
  have timeout := fills_setting (n := "timeout") (o := s.timeout) (w := fun n => ofNat n.val)
    Collector.timeout rfl (by decide) rfl word63 fun _ => rfl
  unfold arguments settings
  simp only [filterMap_settings, List.filterMap_nil, List.append_nil]
  exact device.append (uid.append (baud.append (dataBits.append (stopBits.append (parity.append
    (minDelay.append (maxLen.append timeout (by decide)) (by decide)) (by decide)) (by decide))
    (by decide)) (by decide)) (by decide)) (by decide)

/-- The switches are put into what the environment alone gives. -/
theorem parse_arguments (env : List (String × String)) :
    ∃ around : Except Refusal (Addresses × LogSettings),
      Collector.parse env [] = around.map (fun a => { bus := a.1, logging := a.2 }) ∧
      Collector.parse env s.arguments =
        around.map fun a => s.fill { bus := a.1, logging := a.2 } := by
  have aside : Collector.Aside s.fill := fun _ _ _ => rfl
  have added : Collector.parse env s.arguments = (Collector.parse env []).map s.fill := by
    rw [Collector.parse_nil, ← aside.foldlM_surround env]
    exact Command.parse_of_fills s.fills_arguments (by decide) (by decide) (by decide) rfl env
  have bare := Collector.parse_nil_map env
  rw [added]
  cases alone : Collector.parse env [] with
  | error cause => exact ⟨.error cause, rfl, rfl⟩
  | ok c =>
    rw [alone] at bare
    have same : { bus := c.bus, logging := c.logging } = c := Except.ok.inj bare
    refine ⟨.ok (c.bus, c.logging), congrArg Except.ok same.symm, ?_⟩
    show Except.ok (s.fill c) = .ok (s.fill { bus := c.bus, logging := c.logging })
    rw [same]

/-! ## The entry -/

/-- The fields of the entry, with what is left out. -/
def written : Entry where
  uid := s.uid
  device := some s.device
  baud := ((s.fill {}).baud : Nat)
  dataBits := ((s.fill {}).dataBits : Nat)
  stopBits := ((s.fill {}).stopBits : Nat)
  parity := s.parity.getD "n"
  minDelay := ((s.fill {}).minDelay : Nat)
  maxLen := ((s.fill {}).maxLen : Nat)
  timeout := ((s.fill {}).timeout : Nat)

/-- A number that is given. -/
def figure : Entry.Figure → Option Nat
  | .baud => s.baud.map UInt32.toNat
  | .dataBits => s.dataBits.map UInt8.toNat
  | .stopBits => s.stopBits.map UInt8.toNat
  | .minDelay => s.minDelay.map Fin.val
  | .maxLen => s.maxLen.map UInt64.toNat
  | .timeout => s.timeout.map Fin.val

theorem given?_entry {name : String} {given : Option (String × Json)}
    (h : (name, given) ∈ s.settings) : Entry.given? name s.entry = given.map Prod.snd := by
  have distinct : (s.settings.map Prod.fst).Nodup := by
    show (["device", "uid", "baud", "databits", "stopbits", "parity", "mindelay", "maxlen",
      "timeout"] : List String).Nodup
    decide
  -- a member of the name is the one that is given
  have only (m : String × Json) (hm : m ∈ s.members) (same : m.1 = name) :
      given.map Prod.snd = some m.2 := by
    obtain ⟨⟨name', given'⟩, hx, listed⟩ := List.mem_filterMap.mp hm
    obtain ⟨g, rfl, rfl⟩ := Option.map_eq_some_iff.mp listed
    have both := List.inj_on_of_nodup_map distinct h hx same.symm
    rw [(Prod.mk.inj both).2]
    rfl
  show ((s.members.reverse.find? fun m => m.1 = name).map Prod.snd) = _
  cases found : s.members.reverse.find? fun m => m.1 = name with
  | some m =>
    have same : m.1 = name := by simpa using List.find?_some found
    exact (only m (List.mem_reverse.mp (List.mem_of_find?_eq_some found)) same).symm
  | none =>
    cases given with
    | none => rfl
    | some g =>
      have member : (name, g.2) ∈ s.members := List.mem_filterMap.mpr ⟨_, h, rfl⟩
      have unseen := List.find?_eq_none.mp found _ (List.mem_reverse.mpr member)
      exact absurd (decide_eq_true rfl) unseen

theorem figure_mem (k : Entry.Figure) : (k.name, (s.figure k).map ofNat) ∈ s.settings := by
  cases k <;> rw [figure, Option.map_map]
  · exact List.mem_of_getElem? (i := 2) rfl
  · exact List.mem_of_getElem? (i := 3) rfl
  · exact List.mem_of_getElem? (i := 4) rfl
  · exact List.mem_of_getElem? (i := 6) rfl
  · exact List.mem_of_getElem? (i := 7) rfl
  · exact List.mem_of_getElem? (i := 8) rfl

theorem given?_figure (k : Entry.Figure) :
    Entry.given? k.name s.entry = (s.figure k).map fun n => .int n := by
  rw [s.given?_entry (s.figure_mem k), Option.map_map]
  rfl

theorem of_written (k : Entry.Figure) :
    k.of s.written = ((s.figure k).map fun n => (n : Int)).getD (k.of {}) := by
  have pushed (o : Option Nat) (d : Nat) :
      ((o.getD d : Nat) : Int) = (o.map fun n => (n : Int)).getD d := by
    cases o <;> rfl
  cases k <;> exact pushed _ _

/-- All numbers have 64 bits, and all but the size of the read buffer have 63. -/
theorem figure_lt {k : Entry.Figure} {n : Nat} (h : s.figure k = some n) :
    n < 2 ^ 64 ∧ (n < 2 ^ 63 ∨ k = .maxLen) := by
  cases k <;> obtain ⟨m, -, rfl⟩ := Option.map_eq_some_iff.mp h
  · have := m.toNat_lt
    omega
  · have := m.toNat_lt
    omega
  · have := m.toNat_lt
    omega
  · exact ⟨Nat.lt_trans m.isLt (by decide), .inl m.isLt⟩
  · exact ⟨m.toNat_lt, .inr rfl⟩
  · exact ⟨Nat.lt_trans m.isLt (by decide), .inl m.isLt⟩

theorem written_entry : Entry.Written s.entry s.written := by
  refine ⟨.inl ⟨_, rfl⟩, ⟨s.device, ?_, rfl, s.visible⟩, ?_, ?_, fun k => ?_⟩
  · exact s.given?_entry (List.mem_of_getElem? (i := 0) rfl)
  · rw [s.given?_entry (List.mem_of_getElem? (i := 1) rfl)]
    show s.uid = none ∧ _ ∨ ∃ u, s.uid = some u ∧ _
    cases s.uid with
    | none => exact .inl ⟨rfl, rfl⟩
    | some u => exact .inr ⟨u, rfl, rfl⟩
  · rw [s.given?_entry (List.mem_of_getElem? (i := 5) rfl)]
    show _ = Json.str (s.parity.getD "n")
    cases s.parity <;> rfl
  · rw [given?_figure, of_written]
    cases h : s.figure k with
    | none => exact .inl ⟨rfl, rfl⟩
    | some n =>
      have lt : (n : Int) < 2 ^ 64 := by exact_mod_cast (s.figure_lt h).1
      exact .inr ⟨_, rfl, Number.whole_int (by show (-2 ^ 63 : Int) ≤ n; omega) lt⟩

/-- **Whether the entry is decoded:** the size of the read buffer may have one bit too many. -/
theorem decode_entry : Entry.record.decode s.entry = .ok s.written ∨
    2 ^ 63 ≤ (s.fill {}).maxLen ∧ ∃ e, Entry.record.decode s.entry = .error e := by
  rcases s.written_entry.decode_cases with ⟨-, decoded⟩ | ⟨wide, -, -, e, -, -, error⟩
  · exact .inl decoded
  · refine .inr ⟨?_, e, error⟩
    by_contra small
    refine wide fun k w given => ?_
    rw [given?_figure] at given
    obtain ⟨n, h, rfl⟩ := Option.map_eq_some_iff.mp given
    have lt : n < 2 ^ 63 := by
      rcases (s.figure_lt h).2 with lt | rfl
      · exact lt
      · have same : (s.fill {}).maxLen = n := by
          show (s.maxLen.map UInt64.toNat).getD _ = n
          rw [show s.maxLen.map UInt64.toNat = some n from h]
          rfl
        omega
    rw [of_written, h]
    show (-2 ^ 63 : Int) ≤ n ∧ (n : Int) < 2 ^ 63 ∧ ((n : Int) = 0 → Json.int n = .int 0)
    exact ⟨by omega, by omega, fun zero => by rw [zero]⟩

/-! ## The port -/

variable {bus : Addresses} {logging : LogSettings} {d : Descriptor}

/-- Both forms have the same line; the parity that is left out is written differently. -/
theorem line?_written (bus : Addresses) (logging : LogSettings) :
    s.written.line? = (s.fill { bus := bus, logging := logging }).line := by
  have parity : Parity.ofText (s.parity.getD "n") = Parity.ofText (s.parity.getD "none") := by
    cases s.parity <;> rfl
  show ({ s.written with parity := s.parity.getD "n" } : Entry).line? =
    ({ s.written with parity := s.parity.getD "none" } : Entry).line?
  unfold Entry.line?
  simp only [parity]

theorem uidFor_written :
    s.written.uidFor s.device = s.uid.getD (deviceUid (utf8 s.device)) := by
  show (s.uid.filter fun u => !Text.isBlankText u).getD _ = _
  cases given : s.uid with
  | none => rfl
  | some u =>
    rw [Option.filter_some, s.uid_visible u given]
    rfl

/-- The port that is described, if the line is accepted. -/
def descriptor (l : Line) : Descriptor :=
  ⟨s.uid.getD (deviceUid (utf8 s.device)), s.device, l, (s.fill {}).minDelay, (s.fill {}).maxLen,
    (s.fill {}).timeout⟩

/-- The limits are checked before there is a port, or afterwards. -/
theorem limitFaults_written (l : Line) : s.written.limitFaults = [] ↔ (s.descriptor l).Valid := by
  have visible : Text.isBlankText (s.descriptor l).uid = false := by
    show Text.isBlankText (s.uid.getD _) = false
    rw [← uidFor_written]
    exact Entry.uidFor_visible s.visible
  have named : (s.descriptor l).device ≠ "" := s.named
  rw [Entry.limitFaults_eq_nil_iff]
  unfold Descriptor.Valid Descriptor.fault?
  rw [visible, if_neg Bool.false_ne_true, if_neg named]
  show 0 ≤ ((s.fill {}).minDelay : Int) ∧ 0 < ((s.fill {}).maxLen : Int) ∧
    ((s.fill {}).maxLen : Int) ≤ maxMaxLen ∧ 0 < ((s.fill {}).timeout : Int) ↔
      (if (s.fill {}).maxLen = 0 ∨ maxMaxLen < (s.fill {}).maxLen then _
        else if (s.fill {}).timeout = 0 then _ else _) = none
  split
  · next outside => exact iff_of_false (by omega) (by simp)
  · next inside =>
    split
    · next still => exact iff_of_false (by omega) (by simp)
    · next waits => exact iff_of_true (by omega) rfl

/-- What the switches describe. -/
theorem singlePort_eq_ok_iff :
    (s.fill { bus := bus, logging := logging }).singlePort s.device = .ok d ↔
      ∃ l, s.written.line? = .ok l ∧ d.Valid ∧ s.descriptor l = d := by
  have described (l : Line) : (⟨(s.uid.or none).getD (deviceUid (utf8 s.device)), s.device, l,
      (s.fill {}).minDelay, (s.fill {}).maxLen, (s.fill {}).timeout⟩ : Descriptor) =
        s.descriptor l := by
    rw [Option.or_none]
    rfl
  rw [Collector.singlePort_eq_ok_iff, s.line?_written bus logging]
  simp only [← described]
  rfl

/-- What the entry describes. -/
theorem outcome_eq_port_iff :
    s.written.outcome = .port d ↔ ∃ l, s.written.line? = .ok l ∧ d.Valid ∧ s.descriptor l = d := by
  have device : s.written.device? = some s.device := s.written_entry.device? rfl
  have described (l : Line) : (⟨s.written.uidFor s.device, s.device, l, s.written.minDelay.toNat,
      s.written.maxLen.toNat, s.written.timeout.toNat⟩ : Descriptor) = s.descriptor l := by
    rw [uidFor_written]
    rfl
  constructor
  · intro port
    obtain ⟨device', l, given, faultless, line, rfl⟩ := Entry.outcome_eq_port port
    obtain rfl := Option.some.inj (device.symm.trans given)
    rw [described]
    refine ⟨l, line, ?_, rfl⟩
    exact (s.limitFaults_written l).mp (List.append_eq_nil_iff.mp faultless).1
  · rintro ⟨l, line, valid, rfl⟩
    rw [← described l]
    exact Entry.outcome_of_line device ((s.limitFaults_written l).mpr valid) line

theorem read_entry_iff :
    Entry.read s.entry = .port d ↔
      (s.fill { bus := bus, logging := logging }).singlePort s.device = .ok d := by
  rw [singlePort_eq_ok_iff, ← outcome_eq_port_iff]
  rcases s.decode_entry with decoded | ⟨large, e, error⟩
  · rw [Entry.read, decoded]
  · rw [Entry.read, error]
    constructor
    · intro port
      cases port
    · intro port
      obtain ⟨l, -, valid, rfl⟩ := s.outcome_eq_port_iff.mp port
      have limits := (s.limitFaults_written l).mpr valid
      obtain ⟨-, -, le, -⟩ := Entry.limitFaults_eq_nil_iff.mp limits
      have small : ((s.fill {}).maxLen : Int) ≤ 1048576 := le
      omega

/-- A document of the entry alone: the entry names a device, so that it is not passed over. -/
theorem ofJson_entry_iff {doc : Document} : Document.ofJson (.arr [s.entry]) = .ok doc ↔
    ∃ d, Entry.read s.entry = .port d ∧ ⟨[d], 0⟩ = doc := by
  have named : Entry.filled? "device" s.entry = some s.device := by
    rw [Entry.filled?, s.given?_entry (List.mem_of_getElem? (i := 0) rfl)]
    show (if Text.isBlankText s.device then none else some s.device) = _
    rw [s.visible]
    rfl
  exact Document.ofEntries_named_iff named

/-- **Switches and entries agree.** The switches of a port are read whenever the command line is
read without them, and add to the addresses and the log that the environment gives. Whatever these
are, and whatever files there are, the port is accepted from the switches exactly if it is accepted
from a document with its entry alone, and is the same port then. The entry may be in an array or in
the member `ports` of an object. -/
theorem switches_match_entry (env : List (String × String)) (read : String → Option Bytes) :
    (∃ around : Except Refusal (Addresses × LogSettings),
      Collector.parse env [] = around.map (fun a => { bus := a.1, logging := a.2 }) ∧
      Collector.parse env s.arguments =
        around.map fun a => s.fill { bus := a.1, logging := a.2 }) ∧
    (∀ bus logging,
      (∃ d, (s.fill { bus := bus, logging := logging }).ports read = .ok [d] ∧
        Document.ofJson (.arr [s.entry]) = .ok ⟨[d], 0⟩) ∨
      ∃ cause problems, (s.fill { bus := bus, logging := logging }).ports read = .error cause ∧
        Document.ofJson (.arr [s.entry]) = .error problems) ∧
    Document.ofJson (.obj [("ports", .arr [s.entry])]) = Document.ofJson (.arr [s.entry]) := by
  refine ⟨s.parse_arguments env, fun bus logging => ?_, rfl⟩
  have device : (s.fill { bus := bus, logging := logging }).device = some s.device := rfl
  rw [Collector.ports_of_device rfl device]
  cases single : (s.fill { bus := bus, logging := logging }).singlePort s.device with
  | ok d => exact .inl ⟨d, rfl, s.ofJson_entry_iff.mpr ⟨d, s.read_entry_iff.mpr single, rfl⟩⟩
  | error cause =>
    cases document : Document.ofJson (.arr [s.entry]) with
    | error problems => exact .inr ⟨_, _, rfl, rfl⟩
    | ok doc =>
      obtain ⟨d, port, -⟩ := s.ofJson_entry_iff.mp document
      rw [s.read_entry_iff.mp port] at single
      cases single

/-- A port with a uid and a rate is accepted either way, and one with seven data bits and no timeout
is rejected either way. -/
theorem switches_match_entry_given_and_omitted :
    let s : SinglePort := { device := "/dev/a", uid := some "A", baud := some 9600 }
    let t : SinglePort := { device := "/dev/a", dataBits := some 7, timeout := some 0 }
    let d : Descriptor :=
      { uid := "A", device := "/dev/a", line := { baud := ⟨9600, by decide⟩ } }
    s.arguments = ["--device=/dev/a", "--uid=A", "--baud=9600"] ∧
      s.entry = .obj [("device", .str "/dev/a"), ("uid", .str "A"), ("baud", .int 9600)] ∧
      (s.fill {}).ports (fun _ => none) = .ok [d] ∧
      Document.ofJson (.arr [s.entry]) = .ok ⟨[d], 0⟩ ∧
      (t.fill {}).ports (fun _ => none) = .error (.invalid (.zeroTimeout "a")) ∧
      ∃ problems, Document.ofJson (.arr [t.entry]) = .error problems := by
  have accepted : (fill { device := "/dev/a", uid := some "A", baud := some 9600 } {}).ports
      (fun _ => none) =
        .ok [{ uid := "A", device := "/dev/a", line := { baud := ⟨9600, by decide⟩ } }] := by rfl
  have rejected : (fill { device := "/dev/a", dataBits := some 7, timeout := some 0 } {}).ports
      (fun _ => none) = .error (.invalid (.zeroTimeout "a")) := by rfl
  intro s t d
  obtain ⟨-, same, -⟩ := s.switches_match_entry [] fun _ => none
  obtain ⟨-, same', -⟩ := t.switches_match_entry [] fun _ => none
  refine ⟨by rfl, by rfl, accepted, ?_, rejected, ?_⟩
  · rcases same ({} : Collector).bus ({} : Collector).logging with
      ⟨d', ports, entry⟩ | ⟨cause, problems, ports, -⟩
    · obtain rfl := List.singleton_inj.mp (Except.ok.inj (accepted.symm.trans ports))
      exact entry
    · cases accepted.symm.trans ports
  · rcases same' ({} : Collector).bus ({} : Collector).logging with
      ⟨d', ports, -⟩ | ⟨cause, problems, -, entry⟩
    · cases rejected.symm.trans ports
    · exact ⟨problems, entry⟩

end SinglePort

end Fieldbus
