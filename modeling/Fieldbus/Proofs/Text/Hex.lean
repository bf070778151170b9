import Fieldbus.Proofs.Text.Utf8
import Fieldbus.Text.Hex

/-!
# Bytes in base sixteen

A reader takes the bytes of a text in pairs. Digits are characters of one byte, and no byte of a
longer character is a digit, so it makes no difference whether digits are looked for among the
characters of a text or among its bytes.

* `Hex.Digit`: the digits, in either case.
* `Hex.Reads`: what is relied on of a reader, pair by pair.
* `Hex.Spells`: the characters that spell a byte string.
* `Hex.FirstStray`: the first byte that is no digit.
* `Hex.digitByte_iff`: a byte of a character is a digit if the character is one.
* **`Hex.Reads.eq_ok_iff`**: what is read is what the characters spell.
* **`Hex.Reads.eq_oddLength_iff`**, **`Hex.Reads.eq_notADigit_iff`**: when a text is refused, and
  why.
* **`Hex.reads_decode`**: `Hex.decode` is such a reader.
-/

namespace Fieldbus.Hex

/-! ## Digits -/

/-- The digit of a number below sixteen, in either case. -/
def Digit (c : Char) (n : Nat) : Prop := n < 16 ∧ (c = lowerDigit n ∨ c = upperDigit n)

/-- Some digit. -/
def IsDigit (c : Char) : Prop := ∃ n, Digit c n

/-- A byte that is the digit of a number. -/
def Stands (b : UInt8) (n : Nat) : Prop := ∃ c, Digit c n ∧ c.toNat = b.toNat

/-- A byte that is a digit. -/
def DigitByte (b : UInt8) : Prop := ∃ c, IsDigit c ∧ c.toNat = b.toNat

/-- The same fault in a text that has `k` more bytes before it. -/
def Fault.shift (k : Nat) : Fault → Fault
  | oddLength => oddLength
  | notADigit b i => notADigit b (k + i)

/-- What is relied on of a reader of digits: it refuses an odd number of them without a look at
them. Otherwise it takes two at a time, each in either case, and stops at a byte that is none. -/
structure Reads (decode : Bytes → Except Fault Bytes) : Prop where
  odd : ∀ {ds}, ds.length % 2 = 1 → decode ds = .error .oddLength
  nothing : decode [] = .ok []
  pair : ∀ {a b ds high low}, ds.length % 2 = 0 → Stands a high → Stands b low →
    decode (a :: b :: ds) =
      ((decode ds).map (UInt8.ofNat (16 * high + low) :: ·)).mapError (Fault.shift 2)
  first : ∀ {a b ds}, ds.length % 2 = 0 → ¬ DigitByte a →
    decode (a :: b :: ds) = .error (.notADigit a 0)
  second : ∀ {a b ds}, ds.length % 2 = 0 → DigitByte a → ¬ DigitByte b →
    decode (a :: b :: ds) = .error (.notADigit b 1)

variable {c : Char} {b : UInt8} {n : Nat}

theorem toNat_lowerDigit : ∀ n < 16, (lowerDigit n).toNat = if n < 10 then 48 + n else 87 + n := by
  decide

theorem toNat_upperDigit : ∀ n < 16, (upperDigit n).toNat = if n < 10 then 48 + n else 55 + n := by
  decide

theorem value?_eq_some_iff : value? b = some n ↔ Stands b n := by
  simp only [value?, Stands]
  constructor
  · intro h
    split at h
    · obtain rfl := Option.some.inj h
      refine ⟨lowerDigit (b.toNat - 48), ⟨by omega, .inl rfl⟩, ?_⟩
      rw [toNat_lowerDigit _ (by omega), if_pos (by omega)]
      omega
    · split at h
      · obtain rfl := Option.some.inj h
        refine ⟨lowerDigit (b.toNat - 87), ⟨by omega, .inl rfl⟩, ?_⟩
        rw [toNat_lowerDigit _ (by omega), if_neg (by omega)]
        omega
      · split at h
        · obtain rfl := Option.some.inj h
          refine ⟨upperDigit (b.toNat - 55), ⟨by omega, .inr rfl⟩, ?_⟩
          rw [toNat_upperDigit _ (by omega), if_neg (by omega)]
          omega
        · cases h
  · rintro ⟨c, ⟨small, rfl | rfl⟩, code⟩
    · rw [toNat_lowerDigit n small] at code
      grind
    · rw [toNat_upperDigit n small] at code
      grind

theorem exists_stands_iff : (∃ n, Stands b n) ↔ DigitByte b :=
  ⟨fun ⟨n, c, digit, code⟩ => ⟨c, ⟨n, digit⟩, code⟩,
    fun ⟨c, ⟨n, digit⟩, code⟩ => ⟨n, c, digit, code⟩⟩

theorem value?_eq_none_iff : value? b = none ↔ ¬ DigitByte b := by
  rw [← exists_stands_iff, Option.eq_none_iff_forall_ne_some]
  simp only [ne_eq, value?_eq_some_iff, not_exists]

theorem IsDigit.lt (h : IsDigit c) : c.toNat < 128 := by
  obtain ⟨n, small, rfl | rfl⟩ := h
  · rw [toNat_lowerDigit n small]
    split <;> omega
  · rw [toNat_upperDigit n small]
    split <;> omega

theorem Digit.encoded (h : Digit c n) : ∃ b, String.utf8EncodeChar c = [b] ∧ Stands b n := by
  have ascii := IsDigit.lt ⟨n, h⟩
  refine ⟨UInt8.ofNat c.toNat, Utf8.utf8EncodeChar_ascii ascii, c, h, ?_⟩
  rw [UInt8.toNat_ofNat']
  omega

/-- A byte of a character is a digit exactly if the character is one. -/
theorem digitByte_iff (h : b ∈ String.utf8EncodeChar c) : DigitByte b ↔ IsDigit c := by
  constructor
  · rintro ⟨d, digit, code⟩
    have whole := Utf8.toNat_of_mem_utf8EncodeChar h (code ▸ digit.lt)
    rwa [← Char.toNat_inj.mp (code.trans whole.symm)]
  · rintro ⟨n, digit⟩
    obtain ⟨b', encoded, stands⟩ := digit.encoded
    rw [encoded, List.mem_singleton] at h
    exact h ▸ exists_stands_iff.mp ⟨n, stands⟩

theorem digits_utf8 {s : String} : (∀ b ∈ utf8 s, DigitByte b) ↔ ∀ c ∈ s.toList, IsDigit c := by
  rw [Utf8.utf8_eq_flatMap]
  constructor
  · intro digits c hc
    obtain ⟨b, hb⟩ := List.exists_mem_of_ne_nil _ (Utf8.utf8EncodeChar_ne_nil c)
    exact (digitByte_iff hb).mp (digits b (List.mem_flatMap.mpr ⟨c, hc, hb⟩))
  · intro digits b hb
    obtain ⟨c, hc, hb⟩ := List.mem_flatMap.mp hb
    exact (digitByte_iff hb).mpr (digits c hc)

theorem length_encoded {cs : List Char} (digits : ∀ c ∈ cs, IsDigit c) :
    (cs.flatMap String.utf8EncodeChar).length = cs.length := by
  induction cs with
  | nil => rfl
  | cons c cs ih =>
    obtain ⟨digit, digits⟩ := List.forall_mem_cons.mp digits
    rw [List.flatMap_cons, Utf8.utf8EncodeChar_ascii digit.lt, List.length_append, ih digits]
    exact Nat.add_comm 1 cs.length

/-! ## Spelling -/

/-- The characters that spell a byte string: two digits for each byte, the high half first, each
in either case. -/
inductive Spells : List Char → Bytes → Prop where
  | nil : Spells [] []
  | cons {high low : Char} {cs : List Char} {b : UInt8} {bs : Bytes}
    (first : Digit high (b.toNat / 16)) (second : Digit low (b.toNat % 16)) (rest : Spells cs bs) :
    Spells (high :: low :: cs) (b :: bs)

variable {cs : List Char} {bs : Bytes}

theorem Spells.digits (h : Spells cs bs) : ∀ c ∈ cs, IsDigit c := by
  induction h with
  | nil => exact List.forall_mem_nil _
  | cons first second _ ih =>
    exact List.forall_mem_cons.mpr ⟨⟨_, first⟩, List.forall_mem_cons.mpr ⟨⟨_, second⟩, ih⟩⟩

theorem Spells.length (h : Spells cs bs) : cs.length = 2 * bs.length := by
  induction h with
  | nil => rfl
  | cons _ _ _ ih =>
    simp only [List.length_cons, ih]
    omega

theorem Spells.eq_nil_iff (h : Spells cs bs) : bs = [] ↔ cs = [] := by
  have length := h.length
  rw [← List.length_eq_zero_iff, ← List.length_eq_zero_iff]
  omega

theorem even_of_pair {α : Type} {a b : α} {xs : List α} (even : (a :: b :: xs).length % 2 = 0) :
    xs.length % 2 = 0 :=
  (Nat.add_mod_right xs.length 2).symm.trans even

theorem exists_spells : ∀ {cs : List Char}, cs.length % 2 = 0 → (∀ c ∈ cs, IsDigit c) →
    ∃ bs, Spells cs bs
  | [], _, _ => ⟨[], .nil⟩
  | [_], odd, _ => absurd odd (by simp)
  | _ :: _ :: cs, even, digits => by
    simp only [List.forall_mem_cons] at digits
    obtain ⟨⟨high, first⟩, ⟨low, second⟩, digits⟩ := digits
    obtain ⟨bs, rest⟩ := exists_spells (even_of_pair even) digits
    have bounds := And.intro first.1 second.1
    have value : (UInt8.ofNat (high * 16 + low)).toNat = high * 16 + low := by
      rw [UInt8.toNat_ofNat']
      omega
    refine ⟨UInt8.ofNat (high * 16 + low) :: bs, .cons ?_ ?_ rest⟩
    · rwa [value, show (high * 16 + low) / 16 = high by omega]
    · rwa [value, show (high * 16 + low) % 16 = low by omega]

/-! ## Reading -/

variable {decode : Bytes → Except Fault Bytes} {i : Nat} {ds : Bytes} {s : String}

theorem Reads.spelled (reads : Reads decode) (h : Spells cs bs) :
    decode (cs.flatMap String.utf8EncodeChar) = .ok bs := by
  induction h with
  | nil => exact reads.nothing
  | @cons high low cs b bs first second rest ih =>
    obtain ⟨a, encoded, stands⟩ := first.encoded
    obtain ⟨a', encoded', stands'⟩ := second.encoded
    have even : (cs.flatMap String.utf8EncodeChar).length % 2 = 0 := by
      rw [length_encoded rest.digits, rest.length, Nat.mul_mod_right]
    have halves : UInt8.ofNat (16 * (b.toNat / 16) + b.toNat % 16) = b := by
      rw [Nat.div_add_mod, UInt8.ofNat_toNat]
    rw [List.flatMap_cons, List.flatMap_cons, encoded, encoded', List.singleton_append,
      List.singleton_append, reads.pair even stands stands', halves, ih]
    rfl

/-- The first byte that is no digit, and its offset. -/
structure FirstStray (ds : Bytes) (b : UInt8) (i : Nat) : Prop where
  found : ds[i]? = some b
  stray : ¬ DigitByte b
  before : ∀ j < i, ∀ a, ds[j]? = some a → DigitByte a

theorem FirstStray.tail {a : UInt8} (h : FirstStray (a :: ds) b (i + 1)) :
    DigitByte a ∧ FirstStray ds b i :=
  ⟨h.before 0 (Nat.zero_lt_succ i) a rfl, h.found, h.stray, fun j hj => h.before (j + 1) (by omega)⟩

theorem exists_firstStray (h : ¬ ∀ b ∈ ds, DigitByte b) : ∃ b i, FirstStray ds b i := by
  induction ds with
  | nil => exact absurd (List.forall_mem_nil _) h
  | cons a ds ih =>
    by_cases digit : DigitByte a
    · obtain ⟨b, i, found, stray, before⟩ := ih fun digits =>
        h (List.forall_mem_cons.mpr ⟨digit, digits⟩)
      refine ⟨b, i + 1, found, stray, fun j hj => ?_⟩
      cases j with
      | zero =>
        rintro _ ⟨⟩
        exact digit
      | succ j => exact before j (by omega)
    · exact ⟨a, 0, rfl, digit, fun j hj => absurd hj (Nat.not_lt_zero j)⟩

theorem FirstStray.head {a : UInt8} (h : FirstStray (a :: ds) b 0) : a = b ∧ ¬ DigitByte a := by
  obtain rfl := Option.some.inj h.found
  exact ⟨rfl, h.stray⟩

/-- A reader stops at the first byte that is no digit: it is the first of a pair, or the second, or
comes in a later pair. -/
theorem Reads.stray (reads : Reads decode) : ∀ {ds : Bytes} {i : Nat}, FirstStray ds b i →
    ds.length % 2 = 0 → decode ds = .error (.notADigit b i)
  | [], _, h, _ => by cases h.found
  | [_], _, _, even => absurd even (by simp)
  | a :: a' :: ds, 0, h, even => by
    obtain ⟨rfl, stray⟩ := h.head
    exact reads.first (even_of_pair even) stray
  | a :: a' :: ds, 1, h, even => by
    obtain ⟨digit, h⟩ := h.tail
    obtain ⟨rfl, stray⟩ := h.head
    exact reads.second (even_of_pair even) digit stray
  | a :: a' :: ds, i + 2, h, even => by
    obtain ⟨digit, h⟩ := h.tail
    obtain ⟨digit', h⟩ := h.tail
    obtain ⟨high, stands⟩ := exists_stands_iff.mpr digit
    obtain ⟨low, stands'⟩ := exists_stands_iff.mpr digit'
    rw [reads.pair (even_of_pair even) stands stands', reads.stray h (even_of_pair even)]
    exact congrArg (fun j => Except.error (Fault.notADigit b j)) (Nat.add_comm 2 i)

/-- Bytes are odd in number, or they spell something, or one of them is the first that is no digit.
-/
theorem Reads.cases (reads : Reads decode) (s : String) :
    ((utf8 s).length % 2 = 1 ∧ decode (utf8 s) = .error .oddLength) ∨
    (∃ bs, Spells s.toList bs ∧ decode (utf8 s) = .ok bs) ∨
    ((utf8 s).length % 2 = 0 ∧
      ∃ b i, FirstStray (utf8 s) b i ∧ decode (utf8 s) = .error (.notADigit b i)) := by
  rcases (Nat.mod_two_eq_zero_or_one (utf8 s).length).symm with odd | even
  · exact .inl ⟨odd, reads.odd odd⟩
  · by_cases digits : ∀ b ∈ utf8 s, DigitByte b
    · have digits := digits_utf8.mp digits
      rw [Utf8.utf8_eq_flatMap, length_encoded digits] at even
      obtain ⟨bs, spells⟩ := exists_spells even digits
      rw [Utf8.utf8_eq_flatMap]
      exact .inr (.inl ⟨bs, spells, reads.spelled spells⟩)
    · obtain ⟨b, i, stray⟩ := exists_firstStray digits
      exact .inr (.inr ⟨even, b, i, stray, reads.stray stray even⟩)

/-- **What is read is what the characters spell.** -/
theorem Reads.eq_ok_iff (reads : Reads decode) : decode (utf8 s) = .ok bs ↔ Spells s.toList bs := by
  refine ⟨fun read => ?_, fun spells => ?_⟩
  · rcases reads.cases s with ⟨-, same⟩ | ⟨bs', spells, same⟩ | ⟨-, b, i, -, same⟩
    all_goals rw [same] at read
    · cases read
    · rwa [← Except.ok.inj read]
    · cases read
  · rw [Utf8.utf8_eq_flatMap]
    exact reads.spelled spells

/-- **An odd number of bytes is refused as such**, whatever they are. -/
theorem Reads.eq_oddLength_iff (reads : Reads decode) :
    decode (utf8 s) = .error .oddLength ↔ (utf8 s).length % 2 = 1 := by
  refine ⟨fun refused => ?_, fun odd => reads.odd odd⟩
  rcases reads.cases s with ⟨odd, -⟩ | ⟨bs, -, same⟩ | ⟨-, b, i, -, same⟩
  · exact odd
  all_goals
    rw [same] at refused
    cases refused

/-- **Of an even number of bytes the first that is no digit is reported.** -/
theorem Reads.eq_notADigit_iff (reads : Reads decode) :
    decode (utf8 s) = .error (.notADigit b i) ↔
      (utf8 s).length % 2 = 0 ∧ FirstStray (utf8 s) b i := by
  refine ⟨fun refused => ?_, fun ⟨even, stray⟩ => reads.stray stray even⟩
  rcases reads.cases s with ⟨-, same⟩ | ⟨bs, -, same⟩ | ⟨even, b', i', stray, same⟩
  all_goals rw [same] at refused
  · cases refused
  · cases refused
  · obtain ⟨rfl, rfl⟩ := Fault.notADigit.inj (Except.error.inj refused)
    exact ⟨even, stray⟩

/-! ## A reader -/

/-- The bytes before a pair and those that were read do not matter for the rest. -/
theorem decodePairs_eq : ∀ (ds : Bytes) (offset : Nat) (done : Bytes),
    decodePairs offset done ds =
      ((decodePairs 0 [] ds).map (done.reverse ++ ·)).mapError (Fault.shift offset)
  | [], _, done => congrArg Except.ok (List.append_nil done.reverse).symm
  | [_], _, _ => rfl
  | a :: b :: ds, offset, done => by
    rw [decodePairs, decodePairs.eq_3 0]
    cases value? a with
    | none => rfl
    | some high =>
      cases value? b with
      | none => rfl
      | some low =>
        dsimp only
        rw [decodePairs_eq ds (offset + 2), decodePairs_eq ds (0 + 2)]
        cases decodePairs 0 [] ds with
        | ok bs => exact congrArg Except.ok (by simp)
        | error cause =>
          cases cause with
          | oddLength => rfl
          | notADigit b i =>
            exact congrArg (fun n => Except.error (Fault.notADigit b n)) (by omega)

theorem decode_of_even (even : ds.length % 2 = 0) : Hex.decode ds = decodePairs 0 [] ds :=
  if_neg (by omega)

theorem decode_of_pair (even : ds.length % 2 = 0) (a b : UInt8) :
    Hex.decode (a :: b :: ds) = decodePairs 0 [] (a :: b :: ds) :=
  decode_of_even ((Nat.add_mod_right ds.length 2).trans even)

/-- **`Hex.decode` reads pair by pair.** -/
theorem reads_decode : Reads Hex.decode where
  odd odd := if_pos odd
  nothing := rfl
  pair {a b ds high low} even stands stands' := by
    rw [decode_of_even even, decode_of_pair even, decodePairs, value?_eq_some_iff.mpr stands,
      value?_eq_some_iff.mpr stands', Nat.mul_comm 16]
    exact decodePairs_eq ds 2 _
  first {a b ds} even stray := by
    rw [decode_of_pair even, decodePairs, value?_eq_none_iff.mpr stray]
  second {a b ds} even digit stray := by
    obtain ⟨n, stands⟩ := exists_stands_iff.mpr digit
    rw [decode_of_pair even, decodePairs, value?_eq_some_iff.mpr stands,
      value?_eq_none_iff.mpr stray]

end Fieldbus.Hex
