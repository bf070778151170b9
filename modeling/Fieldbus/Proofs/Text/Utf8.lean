import Fieldbus.Text.Utf8

/-!
# Texts and their bytes

The reader takes the bytes of a character one at a time and ends up with the character. So a text is
read back from its bytes.

* `Utf8.Begins`: what the first byte of a longer character leaves to be done.
* `Utf8.step_continuation`: a continuation byte adds six bits.
* `Utf8.foldl_step_encodeChar`: the bytes of a character are read as this character.
* `Utf8.toNat_of_mem_utf8EncodeChar`: no byte of a longer character is a character by itself.
* **`Utf8.decode?_utf8`**: a text is read back from its bytes.
* `Utf8.scan_ne_nil`: some bytes are at least one character, well formed or not.
-/

namespace Fieldbus

namespace Utf8

/-! ## One character -/

/-- The continuation byte that holds the last six bits of a number. -/
def continuation (n : Nat) : UInt8 := UInt8.ofNat (n % 64 + 128)

/-- A reader that owes continuation bytes, the next of them within bounds. -/
def owing (owed low high bits : Nat) (done : List (Option Char)) : Reader :=
  ⟨some ⟨owed, UInt8.ofNat low, UInt8.ofNat high, bits⟩, done⟩

variable {owed low high bits n : Nat} {done : List (Option Char)}

/-- A continuation byte within bounds adds its six bits. -/
theorem step_continuation (hl : low ≤ n % 64 + 128) (hh : n % 64 + 128 ≤ high) (h : high < 256) :
    (owing owed low high bits done).step (continuation n) =
      if owed ≤ 1 then ⟨none, some (Char.ofNat (bits * 64 + n % 64)) :: done⟩
      else owing (owed - 1) 0x80 0xBF (bits * 64 + n % 64) done := by
  have value : (continuation n).toNat = n % 64 + 128 := by
    rw [continuation, UInt8.toNat_ofNat']
    omega
  have within : UInt8.ofNat low ≤ continuation n ∧ continuation n ≤ UInt8.ofNat high := by
    rw [UInt8.le_iff_toNat_le, UInt8.le_iff_toNat_le, value, UInt8.toNat_ofNat',
      UInt8.toNat_ofNat']
    omega
  have pushed : Pending.push ⟨owed, UInt8.ofNat low, UInt8.ofNat high, bits⟩ (continuation n) =
      bits * 64 + n % 64 := by
    show bits * 64 + ((continuation n).toNat - 128) = _
    omega
  show (if _ ∧ _ then _ else _) = _
  rw [if_pos within, pushed]
  rfl

/-- After the first continuation byte the bounds are those of any. -/
theorem step_continuation_free :
    (owing owed 0x80 0xBF bits done).step (continuation n) =
      if owed ≤ 1 then ⟨none, some (Char.ofNat (bits * 64 + n % 64)) :: done⟩
      else owing (owed - 1) 0x80 0xBF (bits * 64 + n % 64) done :=
  step_continuation (by omega) (by omega) (by omega)

theorem first_ofNat (h : n < 256) :
    first (UInt8.ofNat n) =
      if n < 0x80 then some (.inl (Char.ofNat n))
      else if n < 0xC2 then none
      else if n < 0xE0 then some (.inr ⟨1, 0x80, 0xBF, n - 0xC0⟩)
      else if n = 0xE0 then some (.inr ⟨2, 0xA0, 0xBF, 0⟩)
      else if n = 0xED then some (.inr ⟨2, 0x80, 0x9F, 0xD⟩)
      else if n < 0xF0 then some (.inr ⟨2, 0x80, 0xBF, n - 0xE0⟩)
      else if n = 0xF0 then some (.inr ⟨3, 0x90, 0xBF, 0⟩)
      else if n < 0xF4 then some (.inr ⟨3, 0x80, 0xBF, n - 0xF0⟩)
      else if n = 0xF4 then some (.inr ⟨3, 0x80, 0x8F, 4⟩)
      else none := by
  have value : (UInt8.ofNat n).toNat = n := by
    rw [UInt8.toNat_ofNat']
    omega
  unfold first
  rw [value]

/-- A first byte begins a character of several bytes: some are owed, and the next one is within
bounds. -/
def Begins (b : UInt8) (owed next bits : Nat) : Prop :=
  ∃ low high, first b = some (.inr ⟨owed, UInt8.ofNat low, UInt8.ofNat high, bits⟩) ∧
    low ≤ next ∧ next ≤ high ∧ high < 256

theorem begins_two (hl : 0x80 ≤ n) (hh : n < 0x800) :
    Begins (UInt8.ofNat (n / 64 % 32 + 192)) 1 (n % 64 + 128) (n / 64) := by
  refine ⟨0x80, 0xBF, ?_, by omega, by omega, by omega⟩
  rw [first_ofNat (by omega), if_neg (by omega), if_neg (by omega), if_pos (by omega),
    Nat.add_sub_cancel, Nat.mod_eq_of_lt (by omega)]
  rfl

theorem begins_three (hl : 0x800 ≤ n) (hh : n < 0x10000) (valid : n.isValidChar) :
    Begins (UInt8.ofNat (n / 4096 % 16 + 224)) 2 (n / 64 % 64 + 128) (n / 4096) := by
  have valid : n < 0xD800 ∨ 0xDFFF < n ∧ n < 0x110000 := valid
  unfold Begins
  rw [Nat.mod_eq_of_lt (by omega), first_ofNat (by omega), if_neg (by omega), if_neg (by omega),
    if_neg (by omega)]
  split
  · -- longer than need be, unless the next byte is large
    refine ⟨0xA0, 0xBF, ?_, by omega, by omega, by omega⟩
    rw [show n / 4096 = 0 by omega]
    rfl
  · split
    · -- a surrogate, unless the next byte is small
      refine ⟨0x80, 0x9F, ?_, by omega, by omega, by omega⟩
      rw [show n / 4096 = 0xD by omega]
      rfl
    · rw [if_pos (by omega), Nat.add_sub_cancel]
      exact ⟨0x80, 0xBF, rfl, by omega, by omega, by omega⟩

theorem begins_four (hl : 0x10000 ≤ n) (valid : n.isValidChar) :
    Begins (UInt8.ofNat (n / 262144 % 8 + 240)) 3 (n / 4096 % 64 + 128) (n / 262144) := by
  have valid : n < 0xD800 ∨ 0xDFFF < n ∧ n < 0x110000 := valid
  unfold Begins
  rw [Nat.mod_eq_of_lt (by omega), first_ofNat (by omega)]
  iterate 6 rw [if_neg (by omega)]
  split
  · -- longer than need be, unless the next byte is large
    refine ⟨0x90, 0xBF, ?_, by omega, by omega, by omega⟩
    rw [show n / 262144 = 0 by omega]
    rfl
  · split
    · rw [Nat.add_sub_cancel]
      exact ⟨0x80, 0xBF, rfl, by omega, by omega, by omega⟩
    · -- past the last code point, unless the next byte is small
      rw [if_pos (by omega)]
      refine ⟨0x80, 0x8F, ?_, by omega, by omega, by omega⟩
      rw [show n / 262144 = 4 by omega]
      rfl

theorem Begins.step {b : UInt8} {next : Nat} (h : Begins b owed next bits)
    (done : List (Option Char)) :
    ∃ low high, Reader.step ⟨none, done⟩ b = owing owed low high bits done ∧
      low ≤ next ∧ next ≤ high ∧ high < 256 := by
  obtain ⟨low, high, begins, bounds⟩ := h
  refine ⟨low, high, ?_, bounds⟩
  show Reader.begin done b = _
  rw [Reader.begin, begins]
  rfl

/-- The bytes of a character are read as this character. -/
theorem foldl_step_encodeChar (c : Char) (done : List (Option Char)) :
    (String.utf8EncodeChar c).foldl Reader.step ⟨none, done⟩ = ⟨none, some c :: done⟩ := by
  have valid : c.toNat.isValidChar := c.valid
  have value : Char.ofNat c.toNat = c := Char.ofNat_toNat c
  fun_cases String.utf8EncodeChar c with
  | case1 v h =>
    change c.toNat ≤ 127 at h
    show Reader.begin done (UInt8.ofNat c.toNat) = _
    rw [Reader.begin, first_ofNat (by omega), if_pos (by omega), value]
  | case2 v _ h =>
    change ¬ c.toNat ≤ 127 at *
    change c.toNat ≤ 2047 at h
    obtain ⟨low, high, begun, hl, hh, hb⟩ :=
      (begins_two (n := c.toNat) (by omega) (by omega)).step done
    show (Reader.step _ (UInt8.ofNat (c.toNat / 64 % 32 + 192))).step (continuation c.toNat) = _
    rw [begun, step_continuation hl hh hb, if_pos (by decide), Nat.div_add_mod', value]
  | case3 v _ _ h =>
    change ¬ c.toNat ≤ 2047 at *
    change c.toNat ≤ 65535 at h
    obtain ⟨low, high, begun, hl, hh, hb⟩ :=
      (begins_three (n := c.toNat) (by omega) (by omega) valid).step done
    have bits : (c.toNat / 4096 * 64 + c.toNat / 64 % 64) * 64 + c.toNat % 64 = c.toNat := by
      omega
    show ((Reader.step _ (UInt8.ofNat (c.toNat / 4096 % 16 + 224))).step
      (continuation (c.toNat / 64))).step (continuation c.toNat) = _
    rw [begun, step_continuation hl hh hb, if_neg (by decide), step_continuation_free,
      if_pos (by decide), bits, value]
  | case4 v _ _ h =>
    change ¬ c.toNat ≤ 65535 at h
    obtain ⟨low, high, begun, hl, hh, hb⟩ :=
      (begins_four (n := c.toNat) (by omega) valid).step done
    have bits : ((c.toNat / 262144 * 64 + c.toNat / 4096 % 64) * 64 + c.toNat / 64 % 64) * 64 +
        c.toNat % 64 = c.toNat := by
      omega
    show (((Reader.step _ (UInt8.ofNat (c.toNat / 262144 % 8 + 240))).step
      (continuation (c.toNat / 4096))).step (continuation (c.toNat / 64))).step
        (continuation c.toNat) = _
    rw [begun, step_continuation hl hh hb, if_neg (by decide), step_continuation_free,
      if_neg (by decide), step_continuation_free, if_pos (by decide), bits, value]

/-! ### Characters of one byte -/

theorem utf8EncodeChar_ascii {c : Char} (h : c.toNat < 128) :
    String.utf8EncodeChar c = [UInt8.ofNat c.toNat] :=
  if_pos (Nat.le_of_lt_succ h)

/-- A byte below 128 is a character by itself. -/
theorem toNat_of_mem_utf8EncodeChar {c : Char} {b : UInt8} (h : b ∈ String.utf8EncodeChar c)
    (ascii : b.toNat < 128) : c.toNat = b.toNat := by
  have value (n : Nat) : (UInt8.ofNat n).toNat = n % 256 := UInt8.toNat_ofNat'
  revert h
  fun_cases String.utf8EncodeChar c with
  | case1 v small =>
    change c.toNat ≤ 127 at small
    intro h
    rw [List.mem_singleton.mp h, value]
    exact (Nat.mod_eq_of_lt (by omega)).symm
  | case2 | case3 | case4 =>
    -- no byte of a longer character is below
    simp only [List.mem_cons, List.not_mem_nil, or_false, ← UInt8.toNat_inj, value]
    omega

theorem utf8EncodeChar_ne_nil (c : Char) : String.utf8EncodeChar c ≠ [] := by
  fun_cases String.utf8EncodeChar c <;> simp

/-! ## Texts -/

theorem utf8_eq_flatMap (s : String) : utf8 s = s.toList.flatMap String.utf8EncodeChar := by
  have bytes : s.toByteArray = (s.toList.flatMap String.utf8EncodeChar).toByteArray := by
    rw [← List.utf8Encode, ← String.toByteArray_ofList, String.ofList_toList]
  rw [utf8, bytes]
  simp

theorem foldl_step_text (cs : List Char) (done : List (Option Char)) :
    (cs.flatMap String.utf8EncodeChar).foldl Reader.step ⟨none, done⟩ =
      ⟨none, (cs.map some).reverse ++ done⟩ := by
  induction cs generalizing done with
  | nil => rfl
  | cons c cs ih =>
    rw [List.flatMap_cons, List.foldl_append, foldl_step_encodeChar, ih]
    simp

theorem scan_utf8 (s : String) : scan (utf8 s) = s.toList.map some := by
  rw [scan, utf8_eq_flatMap, foldl_step_text]
  simp [Reader.finish]

/-- **A text is read back from its bytes.** -/
theorem decode?_utf8 (s : String) : decode? (utf8 s) = some s := by
  have each (cs : List Char) : (cs.map some).mapM id = some cs := by
    induction cs with
    | nil => rfl
    | cons c cs ih => simp [ih]
  rw [decode?, scan_utf8, each, Option.map_some, String.ofList_toList]

/-! ## Any bytes -/

/-- Something was read, be it malformed or not finished. -/
def Reader.Begun (s : Reader) : Prop := s.pending.isSome ∨ s.done ≠ []

theorem begun_begin (done : List (Option Char)) (b : UInt8) : (Reader.begin done b).Begun := by
  unfold Reader.begin
  split
  · exact .inr (by simp)
  · exact .inl rfl
  · exact .inr (by simp)

theorem begun_step (s : Reader) (b : UInt8) : (s.step b).Begun := by
  unfold Reader.step
  split
  · exact begun_begin _ b
  · split
    · split
      · exact .inr (by simp)
      · exact .inl rfl
    · exact begun_begin _ b

/-- Some bytes are at least one character. -/
theorem scan_ne_nil {bs : Bytes} (h : bs ≠ []) : scan bs ≠ [] := by
  obtain ⟨front, b, rfl⟩ := (List.eq_nil_or_concat bs).resolve_left h
  rw [scan, List.concat_eq_append, List.foldl_append]
  have begun := begun_step (front.foldl Reader.step ⟨none, []⟩) b
  show Reader.finish (Reader.step _ b) ≠ []
  unfold Reader.finish
  split
  · next hp =>
    have : (Reader.step (front.foldl Reader.step ⟨none, []⟩) b).done ≠ [] :=
      begun.resolve_left (by rw [hp]; simp)
    simpa using this
  · simp

end Utf8

end Fieldbus
