import Fieldbus.Proofs.Descriptor.Reports
import Fieldbus.Proofs.Json.Lexing

/-!
# Constraints on entries

What is asked of the fields of an entry is checked on numbers of any size that a field can hold, and
everything that is violated is told together. A field holds signed numbers of 64 bits. A greater
number is not checked at all: its entry cannot be decoded, and nothing else is told of it.

* `Number.Whole`: a value is what a whole number of any size is read as.
* `Entry.Written`: the entry that is written, with numbers of any size.
* `Entry.Constraint`: what is asked of an entry, and the fault that tells of it.
* `Entry.faults_eq`: the faults of an entry are those of the constraints that it violates.
* `Entry.Written.decode_cases`: an entry is decoded as it is written if its numbers fit.
* **`Document.tells_every_constraint`**: every violated constraint is told, unless a number is too
  large.
-/

namespace Fieldbus

open Json

namespace Json.Number

/-- The value is what a whole number is read as, written with digits alone or with a minus sign in
front of them. -/
def Whole (n : Int) (w : Json) : Prop :=
  ∃ cs negative digits, parts? cs = some ⟨negative, digits, none, none⟩ ∧ read? cs = some w ∧
    n = if negative then -(spelled digits : Int) else spelled digits

variable {n : Int} {w : Json}

theorem whole_int (low : -2 ^ 63 ≤ n) (high : n < 2 ^ 64) : Whole n (.int n) := by
  have read := read?_toString low high
  cases n with
  | ofNat n =>
    rw [toList_toString_ofNat] at read
    refine ⟨_, false, _, parts?_toDigits n, read, ?_⟩
    rw [spelled_toDigits]
    rfl
  | negSucc n =>
    rw [toList_toString_negSucc] at read
    refine ⟨_, true, _, parts?_neg_toDigits (n + 1), read, ?_⟩
    rw [spelled_toDigits]
    rfl

/-- A whole number is read as itself if it has 64 bits, and as a floating point number otherwise. So
is a zero with a minus sign. -/
theorem Whole.cases (h : Whole n w) :
    w = .int n ∧ -2 ^ 63 ≤ n ∧ n < 2 ^ 64 ∨
      (∃ f, w = .float f) ∧ (n < -2 ^ 63 ∨ 2 ^ 64 ≤ n ∨ n = 0) := by
  obtain ⟨cs, negative, digits, hp, hr, rfl⟩ := h
  rw [read?, hp, Option.bind_some, value?] at hr
  have narrow : Nat.pow 2 63 = 2 ^ 63 := rfl
  have wide : Nat.pow 2 64 = 2 ^ 64 := rfl
  cases negative with
  | false =>
    simp only [Option.isNone_none, true_and, Bool.false_eq_true, if_false, wide] at hr ⊢
    split at hr
    · next fits => exact .inl ⟨(Option.some.inj hr).symm, by omega, by omega⟩
    · next large =>
      obtain ⟨f, -, hf⟩ := Option.map_eq_some_iff.mp hr
      exact .inr ⟨⟨f, hf.symm⟩, by omega⟩
  | true =>
    simp only [Option.isNone_none, true_and, if_true, narrow] at hr ⊢
    split at hr
    · next fits => exact .inl ⟨(Option.some.inj hr).symm, by omega, by omega⟩
    · next large =>
      obtain ⟨f, -, hf⟩ := Option.map_eq_some_iff.mp hr
      exact .inr ⟨⟨f, hf.symm⟩, by omega⟩

/-- A whole number fits into a field if it is a signed number of 64 bits, unless it is a zero with a
minus sign. -/
theorem Whole.fits_iff (h : Whole n w) :
    (∃ m, integer i64 w = .ok m) ↔ -2 ^ 63 ≤ n ∧ n < 2 ^ 63 ∧ (n = 0 → w = .int 0) := by
  have low : i64.low = -2 ^ 63 := rfl
  have high : i64.high = 2 ^ 63 - 1 := rfl
  constructor
  · rintro ⟨m, hm⟩
    obtain ⟨rfl, ge, le⟩ := integer_eq_ok hm
    rw [low] at ge
    rw [high] at le
    rcases h.cases with ⟨same, -⟩ | ⟨⟨f, hf⟩, -⟩
    · obtain rfl := Json.int.inj same
      exact ⟨ge, by omega, fun zero => by rw [zero]⟩
    · cases hf
  · rintro ⟨ge, lt, zero⟩
    rcases h.cases with ⟨rfl, -⟩ | ⟨⟨f, rfl⟩, large⟩
    · refine ⟨n, if_pos ⟨?_, ?_⟩⟩
      · rw [low]; exact ge
      · rw [high]; omega
    · have none : n = 0 := by omega
      cases zero none

end Json.Number

namespace Entry

/-! ## What is written -/

/-- A field of an entry that takes a number. -/
inductive Figure where
  | baud
  | dataBits
  | stopBits
  | minDelay
  | maxLen
  | timeout
  deriving DecidableEq, Repr

namespace Figure

/-- The name under which the number is written. -/
def name : Figure → String
  | baud => "baud"
  | dataBits => "databits"
  | stopBits => "stopbits"
  | minDelay => "mindelay"
  | maxLen => "maxlen"
  | timeout => "timeout"

/-- The number in an entry. -/
def of (e : Entry) : Figure → Int
  | baud => e.baud
  | dataBits => e.dataBits
  | stopBits => e.stopBits
  | minDelay => e.minDelay
  | maxLen => e.maxLen
  | timeout => e.timeout

end Figure

/-- The entry is the one that is written: it names a device, its uid and its parity are texts or
absent, and its numbers are whole numbers of any size or absent. -/
structure Written (v : Json) (e : Entry) : Prop where
  formed : record.Formed v
  device : ∃ d, given? "device" v = some (.str d) ∧ e.device = some d ∧
    Text.isBlankText d = false
  uid : e.uid = none ∧ (given? "uid" v).getD .null = .null ∨
    ∃ u, e.uid = some u ∧ given? "uid" v = some (.str u)
  parity : (given? "parity" v).getD (.str "n") = .str e.parity
  figures : ∀ k : Figure, given? k.name v = none ∧ k.of e = k.of {} ∨
    ∃ w, given? k.name v = some w ∧ Number.Whole (k.of e) w

/-- The numbers that are written are signed numbers of 64 bits, and no zero has a minus sign. -/
def Narrow (v : Json) (e : Entry) : Prop :=
  ∀ (k : Figure) w, given? k.name v = some w →
    -2 ^ 63 ≤ k.of e ∧ k.of e < 2 ^ 63 ∧ (k.of e = 0 → w = .int 0)

variable {v : Json} {e e' : Entry}

theorem eq_of_figures (uid : e.uid = e'.uid) (device : e.device = e'.device)
    (parity : e.parity = e'.parity) (figures : ∀ k : Figure, k.of e = k.of e') : e = e' := by
  have baud := figures .baud
  have dataBits := figures .dataBits
  have stopBits := figures .stopBits
  have minDelay := figures .minDelay
  have maxLen := figures .maxLen
  have timeout := figures .timeout
  cases e
  cases e'
  simp only [Figure.of] at *
  simp only [*]

theorem Holds.figure (h : Holds v e) (k : Figure) :
    integer i64 ((given? k.name v).getD (.int (k.of {}))) = .ok (k.of e) := by
  cases k with
  | baud => exact h.baud
  | dataBits => exact h.dataBits
  | stopBits => exact h.stopBits
  | minDelay => exact h.minDelay
  | maxLen => exact h.maxLen
  | timeout => exact h.timeout

theorem Written.eq_of_holds (h : Written v e) (holds : Holds v e') : e' = e := by
  refine eq_of_figures ?_ ?_ ?_ fun k => ?_
  · have decoded := holds.uid
    rcases h.uid with ⟨none, given⟩ | ⟨u, some, given⟩
    · rw [given] at decoded
      rw [none, ← Except.ok.inj decoded]
    · rw [given] at decoded
      rw [some, ← Except.ok.inj decoded]
  · obtain ⟨d, given, some, -⟩ := h.device
    have decoded := holds.device
    rw [given] at decoded
    rw [some, ← Except.ok.inj decoded]
  · have decoded := text_eq_ok holds.parity
    rw [h.parity] at decoded
    exact (Json.str.inj decoded).symm
  · obtain ⟨decoded, -⟩ := integer_eq_ok (holds.figure k)
    rcases h.figures k with ⟨none, default⟩ | ⟨w, given, whole⟩
    · rw [none] at decoded
      rw [default, ← Json.int.inj decoded]
    · rw [given, Option.getD_some] at decoded
      rcases whole.cases with ⟨same, -⟩ | ⟨⟨f, float⟩, -⟩
      · exact Json.int.inj (decoded.symm.trans same)
      · cases decoded.symm.trans float

theorem field_cases {f : Json.Field Entry} (hf : f ∈ record.fields) :
    (∃ put, f = .of "uid" (optional (text aString)) put) ∨
      (∃ put, f = .of "device" (optional (text aString)) put) ∨
      (∃ put, f = .of "parity" (text aString) put) ∨
      ∃ (k : Figure) (put : Int → Entry → Entry), f = .of k.name (integer i64) put := by
  simp only [record, List.mem_cons, List.not_mem_nil, or_false] at hf
  rcases hf with rfl | rfl | rfl | rfl | rfl | rfl | rfl | rfl | rfl
  · exact .inl ⟨_, rfl⟩
  · exact .inr (.inl ⟨_, rfl⟩)
  · exact .inr (.inr (.inr ⟨.baud, _, rfl⟩))
  · exact .inr (.inr (.inr ⟨.dataBits, _, rfl⟩))
  · exact .inr (.inr (.inr ⟨.stopBits, _, rfl⟩))
  · exact .inr (.inr (.inl ⟨_, rfl⟩))
  · exact .inr (.inr (.inr ⟨.minDelay, _, rfl⟩))
  · exact .inr (.inr (.inr ⟨.maxLen, _, rfl⟩))
  · exact .inr (.inr (.inr ⟨.timeout, _, rfl⟩))

theorem Written.figure_of_fails (h : Written v e) {f : Json.Field Entry} (hf : f ∈ record.fields)
    {w : Json} {r : Entry} {err : DecodeError} (given : given? f.name v = some w)
    (fails : f.read w r = .error err) :
    ∃ k : Figure, given? k.name v = some w ∧ integer i64 w = .error err := by
  rcases field_cases hf with ⟨put, rfl⟩ | ⟨put, rfl⟩ | ⟨put, rfl⟩ | ⟨k, put, rfl⟩
  · have fails := Field.read_of_error fails
    have given : given? "uid" v = some w := given
    rcases h.uid with ⟨-, null⟩ | ⟨u, -, given'⟩
    · rw [given, Option.getD_some] at null
      subst null
      cases fails
    · obtain rfl := Option.some.inj (given.symm.trans given')
      cases fails
  · have fails := Field.read_of_error fails
    have given : given? "device" v = some w := given
    obtain ⟨d, given', -⟩ := h.device
    obtain rfl := Option.some.inj (given.symm.trans given')
    cases fails
  · have fails := Field.read_of_error fails
    have given : given? "parity" v = some w := given
    have parity := h.parity
    rw [given, Option.getD_some] at parity
    subst parity
    cases fails
  · exact ⟨k, given, Field.read_of_error fails⟩

/-- **An entry is decoded as it is written if its numbers fit.** Otherwise it is undecodable,
because of one of them. -/
theorem Written.decode_cases (h : Written v e) :
    Narrow v e ∧ record.decode v = .ok e ∨
      ¬ Narrow v e ∧ ∃ (k : Figure) (w : Json) (err : DecodeError), given? k.name v = some w ∧
        integer i64 w = .error err ∧ record.decode v = .error err := by
  rcases Record.decode_cases (fun _ => rfl) distinct_names h.formed with
    ⟨e', decoded⟩ | ⟨f, hf, w, r, err, given, fails, error⟩
  · have holds := holds_of_decode decoded
    have same : e' = e := h.eq_of_holds holds
    subst same
    refine .inl ⟨fun k w given => ?_, decoded⟩
    have read := holds.figure k
    rw [given, Option.getD_some] at read
    rcases h.figures k with ⟨none, -⟩ | ⟨w', given', whole⟩
    · rw [given] at none
      cases none
    · obtain rfl := Option.some.inj (given'.symm.trans given)
      exact whole.fits_iff.mp ⟨_, read⟩
  · obtain ⟨k, given, fails⟩ := h.figure_of_fails hf given fails
    refine .inr ⟨fun narrow => ?_, k, w, err, given, fails, error⟩
    rcases h.figures k with ⟨none, -⟩ | ⟨w', given', whole⟩
    · rw [given] at none
      cases none
    · obtain rfl := Option.some.inj (given'.symm.trans given)
      obtain ⟨m, read⟩ := whole.fits_iff.mpr (narrow k _ given)
      rw [read] at fails
      cases fails

/-! ## What is asked -/

/-- What is asked of an entry, in the order in which it is checked. -/
inductive Constraint where
  | minDelay
  | maxLen
  | timeout
  | baud
  | dataBits
  | stopBits
  | parity
  deriving DecidableEq, Repr

namespace Constraint

def all : List Constraint := [minDelay, maxLen, timeout, baud, dataBits, stopBits, parity]

/-- The time between writes is not negative, the read buffer holds from one byte to a mebibyte,
reads wait, the line is one that devices run at, and the parity starts with one of three letters. -/
def Holds (e : Entry) : Constraint → Prop
  | minDelay => 0 ≤ e.minDelay
  | maxLen => 1 ≤ e.maxLen ∧ e.maxLen ≤ 1048576
  | timeout => 0 < e.timeout
  | baud => e.baud ∈ supportedRates.map Int.ofNat
  | dataBits => 5 ≤ e.dataBits ∧ e.dataBits ≤ 8
  | stopBits => 1 ≤ e.stopBits ∧ e.stopBits ≤ 2
  | parity =>
    (Text.trimChars e.parity.toList).head?.any (fun c => c.toLower ∈ ['n', 'e', 'o']) = true

instance (e : Entry) : (c : Constraint) → Decidable (c.Holds e)
  | minDelay => inferInstanceAs (Decidable (0 ≤ e.minDelay))
  | maxLen => inferInstanceAs (Decidable (1 ≤ e.maxLen ∧ e.maxLen ≤ 1048576))
  | timeout => inferInstanceAs (Decidable (0 < e.timeout))
  | baud => inferInstanceAs (Decidable (e.baud ∈ supportedRates.map Int.ofNat))
  | dataBits => inferInstanceAs (Decidable (5 ≤ e.dataBits ∧ e.dataBits ≤ 8))
  | stopBits => inferInstanceAs (Decidable (1 ≤ e.stopBits ∧ e.stopBits ≤ 2))
  | parity => inferInstanceAs (Decidable (_ = true))

/-- The fault that tells that a constraint is violated. -/
def fault (e : Entry) : Constraint → Fault
  | minDelay => .minDelay e.minDelay
  | maxLen => .maxLen e.maxLen
  | timeout => .timeout e.timeout
  | baud => .line (.baud e.baud)
  | dataBits => .line (.dataBits e.dataBits)
  | stopBits => .line (.stopBits e.stopBits)
  | parity => .line (.parity e.parity)

/-- What is told of a constraint. -/
def told (e : Entry) (c : Constraint) : List Fault := if c.Holds e then [] else [c.fault e]

theorem told_baud (e : Entry) : lineFault (Baud.ofInt e.baud) = baud.told e := by
  have supported : baud.Holds e ↔ 0 ≤ e.baud ∧ e.baud.toNat ∈ supportedRates := by
    constructor
    · intro member
      obtain ⟨rate, hr, same⟩ := List.mem_map.mp member
      rw [← same]
      exact ⟨Int.natCast_nonneg rate, hr⟩
    · rintro ⟨pos, member⟩
      exact List.mem_map.mpr ⟨_, member, Int.toNat_of_nonneg pos⟩
  unfold told Baud.ofInt
  by_cases ok : 0 ≤ e.baud ∧ e.baud.toNat ∈ supportedRates
  · rw [dif_pos ok, if_pos (supported.mpr ok)]
    rfl
  · rw [dif_neg ok, if_neg (fun holds => ok (supported.mp holds))]
    rfl

theorem told_dataBits (e : Entry) : lineFault (DataBits.ofInt e.dataBits) = dataBits.told e := by
  unfold told DataBits.ofInt
  by_cases ok : dataBits.Holds e
  · rw [if_pos ok]
    obtain ⟨low, high⟩ := ok
    have counts : e.dataBits = 5 ∨ e.dataBits = 6 ∨ e.dataBits = 7 ∨ e.dataBits = 8 := by omega
    rcases counts with h | h | h | h <;> rw [h] <;> rfl
  · rw [if_neg ok]
    have outside : e.dataBits < 5 ∨ 8 < e.dataBits := by
      by_contra inside
      exact ok ⟨by omega, by omega⟩
    rw [if_neg (by omega), if_neg (by omega), if_neg (by omega), if_neg (by omega)]
    rfl

theorem told_stopBits (e : Entry) : lineFault (StopBits.ofInt e.stopBits) = stopBits.told e := by
  unfold told StopBits.ofInt
  by_cases ok : stopBits.Holds e
  · rw [if_pos ok]
    obtain ⟨low, high⟩ := ok
    have counts : e.stopBits = 1 ∨ e.stopBits = 2 := by omega
    rcases counts with h | h <;> rw [h] <;> rfl
  · rw [if_neg ok]
    have outside : e.stopBits < 1 ∨ 2 < e.stopBits := by
      by_contra inside
      exact ok ⟨by omega, by omega⟩
    rw [if_neg (by omega), if_neg (by omega)]
    rfl

theorem told_parity (e : Entry) : lineFault (Parity.ofText e.parity) = parity.told e := by
  unfold told Parity.ofText
  have holds : parity.Holds e ↔
      ((Text.trimChars e.parity.toList).head?.map Char.toLower).any
        (fun c => c ∈ ['n', 'e', 'o']) = true := by
    rw [Option.any_map]
    rfl
  simp only [holds]
  generalize (Text.trimChars e.parity.toList).head?.map Char.toLower = letter
  split
  · rfl
  · rfl
  · rfl
  · next n e' o =>
    have other : ¬ letter.any (fun c => c ∈ ['n', 'e', 'o']) = true := by
      cases letter with
      | none => exact Bool.false_ne_true
      | some c =>
        intro named
        simp only [Option.any_some, List.mem_cons, List.not_mem_nil, or_false,
          decide_eq_true_eq] at named
        rcases named with rfl | rfl | rfl
        · exact n rfl
        · exact e' rfl
        · exact o rfl
    rw [if_neg other]
    rfl

end Constraint

/-- The constraints that an entry violates, in the order in which they are checked. -/
def violated (e : Entry) : List Constraint := Constraint.all.filter fun c => ¬ c.Holds e

/-- **The faults of an entry are those of the constraints that it violates.** -/
theorem faults_eq (e : Entry) : e.faults = e.violated.map (Constraint.fault e) := by
  have limits : e.limitFaults = Constraint.minDelay.told e ++ Constraint.maxLen.told e ++
      Constraint.timeout.told e := by
    have minDelay : Constraint.minDelay.Holds e ↔ ¬ e.minDelay < 0 := Int.not_lt.symm
    have timeout : Constraint.timeout.Holds e ↔ ¬ e.timeout ≤ 0 := Int.not_le.symm
    have maxLen : Constraint.maxLen.Holds e ↔ ¬ (e.maxLen ≤ 0 ∨ maxMaxLen < e.maxLen) := by
      have bound : (maxMaxLen : Int) = 1048576 := rfl
      rw [bound]
      show 1 ≤ e.maxLen ∧ e.maxLen ≤ 1048576 ↔ _
      omega
    simp only [limitFaults, Constraint.told, minDelay, maxLen, timeout, ite_not, Constraint.fault]
  have collect (cs : List Constraint) :
      (cs.filter fun c => ¬ c.Holds e).map (Constraint.fault e) =
        cs.flatMap (Constraint.told e) := by
    induction cs with
    | nil => rfl
    | cons c cs ih =>
      rw [List.flatMap_cons, ← ih]
      unfold Constraint.told
      by_cases ok : c.Holds e <;> simp [ok]
  rw [faults, limits, lineFaults, Constraint.told_baud, Constraint.told_dataBits,
    Constraint.told_stopBits, Constraint.told_parity, violated, collect]
  simp only [Constraint.all, List.flatMap_cons, List.flatMap_nil, List.append_assoc,
    List.append_nil]

theorem violated_eq_nil_iff {e : Entry} : e.violated = [] ↔ ∀ c : Constraint, c.Holds e := by
  have every (c : Constraint) : c ∈ Constraint.all := by cases c <;> decide
  unfold violated
  rw [List.filter_eq_nil_iff]
  constructor
  · intro none c
    simpa using none c (every c)
  · intro all c _
    simpa using all c

theorem outcome_cases {device : String} (named : e.device? = some device) :
    e.violated = [] ∧ (∃ d, e.outcome = .port d) ∨
      e.violated ≠ [] ∧
        e.outcome = .faulty (e.uidFor device) (e.violated.map (Constraint.fault e)) := by
  by_cases none : e.violated = []
  · have faultless : e.faults = [] := by rw [faults_eq, none]; rfl
    obtain ⟨l, line⟩ := exists_line? (List.append_eq_nil_iff.mp faultless).2
    refine .inl ⟨none, ?_⟩
    simp only [outcome, named, faultless, line]
    exact ⟨_, rfl⟩
  · have faulty : e.faults ≠ [] := by
      rw [faults_eq]
      exact fun empty => none (List.map_eq_nil_iff.mp empty)
    refine .inr ⟨none, ?_⟩
    rw [← faults_eq]
    simp only [outcome, named]
    split
    · next faultless _ => exact absurd faultless faulty
    · rfl

theorem Written.device? {device : String} (h : Written v e) (named : e.device = some device) :
    e.device? = some device := by
  obtain ⟨d, -, hd, visible⟩ := h.device
  obtain rfl := Option.some.inj (hd.symm.trans named)
  rw [Entry.device?, named, Option.filter_some, visible]
  rfl

end Entry

/-! ## What is told -/

namespace Document

open Entry (Outcome Written Narrow Figure Constraint)

variable {v x : Json} {vs : List Json} {i : Nat} {e : Entry}

/-- The document is rejected, and these lines are the part about the entry at a place. -/
def Tells (v : Json) (vs : List Json) (i : Nat) (lines : List Problem) : Prop :=
  ∃ parts : List (List Problem),
    List.Forall₂ (fun x part => Part x.2 x.1 part) vs.zipIdx parts ∧ parts[i]? = some lines ∧
      ofJson v = .error (.problems parts.flatten)

theorem tells_of_problems (h : entries? v = some vs) (hx : vs[i]? = some x)
    (unnamed : (Entry.read x).port? = none) (wrong : (Entry.read x).problems i ≠ []) :
    Tells v vs i ((Entry.read x).problems i) := by
  have length : (vs.take i).length = i := by
    obtain ⟨hi, -⟩ := List.getElem?_eq_some_iff.mp hx
    rw [List.length_take]
    omega
  have place : (blocks [] vs)[i]? = some ((Entry.read x).problems i) := by
    rw [getElem?_blocks, hx, Option.map_some, List.nil_append, block, length, Outcome.duplicates,
      unnamed]
    exact congrArg some (List.append_nil _)
  have told : report vs ≠ [] := by
    intro none
    exact wrong (List.flatten_eq_nil_iff.mp none _ (List.mem_of_getElem? place))
  refine ⟨blocks [] vs, parts_blocks vs [], place, ?_⟩
  rw [ofJson_of_entries? h]
  exact ofEntries_of_report told

/-- **Every violated constraint is told.** Of an entry whose numbers are signed numbers of 64 bits,
a document tells one line for each constraint that it violates, and nothing else; and the entry is
accepted by itself exactly if it violates none. Of an entry with another number, a document tells
that it cannot be decoded because of this number, and nothing else. -/
theorem tells_every_constraint (h : entries? v = some vs) (hx : vs[i]? = some x)
    (written : Written x e) {device : String} (named : e.device = some device) :
    (Narrow x e →
      (e.violated ≠ [] →
        Tells v vs i (e.violated.map fun c => .field (e.uidFor device) (c.fault e))) ∧
      ((∃ d, ofJson (.arr [x]) = .ok ⟨[d], 0⟩) ↔ ∀ c : Constraint, c.Holds e)) ∧
    (¬ Narrow x e → ∃ (k : Figure) (w : Json) (err : DecodeError),
      Entry.given? k.name x = some w ∧ integer i64 w = .error err ∧
        Tells v vs i [.undecodable i err]) := by
  have outcomes := Entry.outcome_cases (written.device? named)
  refine ⟨fun narrow => ?_, fun wide => ?_⟩
  · have decoded : Entry.record.decode x = .ok e := by
      rcases written.decode_cases with ⟨-, decoded⟩ | ⟨wide, -⟩
      · exact decoded
      · exact absurd narrow wide
    have read : Entry.read x = e.outcome := by rw [Entry.read, decoded]
    rcases outcomes with ⟨none, d, port⟩ | ⟨some, faulty⟩
    · refine ⟨fun some => absurd none some, fun _ => Entry.violated_eq_nil_iff.mp none, fun _ => ?_⟩
      rw [← read] at port
      exact ⟨d, ofEntries_port port⟩
    · have told : (Entry.read x).problems i =
          e.violated.map fun c => .field (e.uidFor device) (c.fault e) := by
        rw [read, faulty]
        exact List.map_map
      have unnamed : (Entry.read x).port? = none := by rw [read, faulty]; rfl
      refine ⟨fun _ => ?_, ?_, fun holds => absurd (Entry.violated_eq_nil_iff.mpr holds) some⟩
      · rw [← told]
        refine tells_of_problems h hx unnamed ?_
        rw [told]
        exact fun empty => some (List.map_eq_nil_iff.mp empty)
      · rintro ⟨d, accepted⟩
        have fine := (ofEntries_eq_ok_iff.mp accepted).1 x List.mem_cons_self
        rw [read, faulty] at fine
        exact fine.elim
  · rcases written.decode_cases with ⟨narrow, -⟩ | ⟨-, k, w, err, given, fails, error⟩
    · exact absurd narrow wide
    · have read : Entry.read x = .undecodable err := by rw [Entry.read, error]
      have told := tells_of_problems h hx (by rw [read]; rfl)
        (by rw [read]; exact List.cons_ne_nil _ _)
      rw [read] at told
      exact ⟨k, w, err, given, fails, told⟩

/-- Numbers at both ends of the range violate two constraints, and both are told. -/
theorem tells_every_constraint_of_two :
    let x : Json := .obj [("device", .str "/dev/a"), ("mindelay", .int (-2 ^ 63)),
      ("maxlen", .int (2 ^ 63 - 1))]
    let e : Entry := { device := some "/dev/a", minDelay := -2 ^ 63, maxLen := 2 ^ 63 - 1 }
    Written x e ∧ Narrow x e ∧ e.violated = [.minDelay, .maxLen] ∧
      Tells (.arr [.null, x]) [.null, x] 1
        [.field "a" (.minDelay (-2 ^ 63)), .field "a" (.maxLen (2 ^ 63 - 1))] := by
  intro x e
  have written : Written x e := by
    refine ⟨.inl ⟨_, rfl⟩, ⟨_, rfl, rfl, by decide⟩, .inl ⟨rfl, rfl⟩, rfl, fun k => ?_⟩
    cases k with
    | baud | dataBits | stopBits | timeout => exact .inl ⟨rfl, rfl⟩
    | minDelay | maxLen => exact .inr ⟨_, rfl, Number.whole_int (by decide) (by decide)⟩
  have narrow : Narrow x e := by
    intro k w given
    cases k with
    | baud | dataBits | stopBits | timeout => cases given
    | minDelay | maxLen => exact ⟨by decide, by decide, fun zero => absurd zero (by decide)⟩
  have two : e.violated = [.minDelay, .maxLen] := by decide
  obtain ⟨tells, -⟩ := tells_every_constraint (v := .arr [.null, x]) (i := 1) rfl rfl written rfl
  obtain ⟨told, -⟩ := tells narrow
  have lines := told (by rw [two]; exact List.cons_ne_nil _ _)
  rw [two] at lines
  exact ⟨written, narrow, two, lines⟩

/-- A rate that no field can hold hides that the timeout is not positive, and nothing is wrong with
a time between writes that no field can hold, except that its entry is rejected. -/
theorem large_number_hides :
    let x : Json := .obj [("device", .str "/dev/a"), ("baud", .int (2 ^ 63)), ("timeout", .int 0)]
    let e : Entry := { device := some "/dev/a", baud := 2 ^ 63, timeout := 0 }
    let y : Json := .obj [("device", .str "/dev/b"), ("mindelay", .int (2 ^ 63))]
    let f : Entry := { device := some "/dev/b", minDelay := 2 ^ 63 }
    (Written x e ∧ e.violated = [.timeout, .baud] ∧
      ofJson (.arr [x]) = .error (.problems [.undecodable 0 (.outOfRange (2 ^ 63) "i64")])) ∧
    Written y f ∧ f.violated = [] ∧
      ofJson (.arr [y]) = .error (.problems [.undecodable 0 (.outOfRange (2 ^ 63) "i64")]) := by
  intro x e y f
  have writtenX : Written x e := by
    refine ⟨.inl ⟨_, rfl⟩, ⟨_, rfl, rfl, by decide⟩, .inl ⟨rfl, rfl⟩, rfl, fun k => ?_⟩
    cases k with
    | minDelay | dataBits | stopBits | maxLen => exact .inl ⟨rfl, rfl⟩
    | baud | timeout => exact .inr ⟨_, rfl, Number.whole_int (by decide) (by decide)⟩
  have writtenY : Written y f := by
    refine ⟨.inl ⟨_, rfl⟩, ⟨_, rfl, rfl, by decide⟩, .inl ⟨rfl, rfl⟩, rfl, fun k => ?_⟩
    cases k with
    | baud | dataBits | stopBits | maxLen | timeout => exact .inl ⟨rfl, rfl⟩
    | minDelay => exact .inr ⟨_, rfl, Number.whole_int (by decide) (by decide)⟩
  exact ⟨⟨writtenX, by decide, by rfl⟩, writtenY, by decide, by rfl⟩

end Document

end Fieldbus
