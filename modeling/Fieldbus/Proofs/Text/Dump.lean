import Fieldbus.Proofs.Text.Hex
import Fieldbus.Text.Dump
import Mathlib.Data.List.Forall2

/-!
# Hex dumps lose nothing

A dump is made of lines, and no byte of what it shows can break a line: the field of digits holds
digits and blanks only, and whatever is not printable is shown as a dot. So the lines can be told
apart, the field of digits stands at the same place behind the colon of each, and the bytes can be
read back.

* `Dump.lines`: the lines of a text.
* `Dump.Numbers`, `Dump.Fills`, `Dump.Shows`: what the parts of a line tell.
* `Dump.read`: the bytes that the fields of digits of all lines spell.
* `Dump.rows_eq`: which bytes are in which row.
* `Dump.tells_row`: a row tells its offset and its bytes.
* **`Dump.loses_nothing`**: the lines of a dump, what each of them tells, and that the bytes can be
  read back.
-/

namespace Fieldbus.Dump

/-! ## What a line tells -/

/-- The lines of a text; there are none if there is no character. -/
def lines (s : String) : List (List Char) :=
  if s = "" then [] else s.toList.splitOn '\n'

/-- The upper-case digits of a number in base sixteen: four at least, and of more than four the
first is needed. -/
structure Numbers (ds : List Char) (n : Nat) : Prop where
  spelled : ∃ vs : List Nat, (∀ v ∈ vs, v < 16) ∧ ds = vs.map Hex.upperDigit ∧
    vs.foldl (fun m v => 16 * m + v) 0 = n
  four : 4 ≤ ds.length
  needed : 4 < ds.length → ds.head? ≠ some '0'

/-- A field of digits that spells some bytes, blanks aside; it has room for eight. -/
structure Fills (cs : List Char) (bs : Bytes) : Prop where
  width : cs.length = 24
  spells : Hex.Spells (cs.filter (· ≠ ' ')) bs

/-- What is shown for a byte: a printable one is shown as it is, any other as a dot. -/
def Shows (b : UInt8) (c : Char) : Prop :=
  if 32 ≤ b.toNat ∧ b.toNat ≤ 126 then c.toNat = b.toNat else c = '.'

/-- A line that tells some bytes, of which the first is the `n`th of all. -/
def Tells (line : List Char) (n : Nat) (bs : Bytes) : Prop :=
  ∃ ds field text, line = ds ++ [':', ' '] ++ field ++ ['|', ' '] ++ text ∧
    Numbers ds n ∧ Fills field bs ∧ List.Forall₂ Shows bs text

/-- The field of digits of a line. -/
def fieldOf (line : List Char) : List Char :=
  ((line.dropWhile (· ≠ ':')).drop 2).take 24

/-- The bytes that the fields of digits of all lines spell. -/
def read (s : String) : Except Hex.Fault Bytes :=
  Hex.decode (utf8 (String.ofList (((lines s).flatMap fieldOf).filter (· ≠ ' '))))

variable {cs ds line : List Char} {b : UInt8} {bs : Bytes} {n : Nat}

/-! ## Offsets -/

theorem toUpper_digitChar : ∀ v < 16, (Nat.digitChar v).toUpper = Hex.upperDigit v := by decide

theorem hexDigits_of_lt (h : n < 16) : hexDigits n = [Hex.upperDigit n] := by
  rw [hexDigits, Nat.toDigits_of_lt_base h, List.map_singleton, toUpper_digitChar n h]

theorem hexDigits_of_le (h : 16 ≤ n) :
    hexDigits n = hexDigits (n / 16) ++ [Hex.upperDigit (n % 16)] := by
  have small : n % 16 < 16 := Nat.mod_lt n (by decide)
  rw [hexDigits, Nat.toDigits_of_base_le (by decide) h, List.map_append, ← hexDigits,
    List.map_singleton, toUpper_digitChar _ small]

/-- Digits, most significant first, the number that they spell, and that only zero begins with a
zero. -/
theorem spelled_hexDigits (n : Nat) :
    ∃ vs : List Nat, (∀ v ∈ vs, v < 16) ∧ hexDigits n = vs.map Hex.upperDigit ∧
      vs.foldl (fun m v => 16 * m + v) 0 = n ∧ (0 < n → vs.head? ≠ some 0) ∧ vs ≠ [] := by
  induction n using Nat.strongRecOn with
  | ind n ih =>
    by_cases h : n < 16
    · refine ⟨[n], by simpa using h, hexDigits_of_lt h, by simp, fun pos => ?_, by simp⟩
      simpa using Nat.ne_of_gt pos
    · obtain ⟨vs, small, digits, value, head, nonempty⟩ := ih (n / 16) (by omega)
      refine ⟨vs ++ [n % 16], ?_, ?_, ?_, fun _ => ?_, by simp⟩
      · intro v hv
        rcases List.mem_append.mp hv with hv | hv
        · exact small v hv
        · rw [List.mem_singleton.mp hv]
          exact Nat.mod_lt n (by decide)
      · rw [hexDigits_of_le (by omega), digits, List.map_append, List.map_singleton]
      · rw [List.foldl_append, value]
        exact Nat.div_add_mod n 16
      · rw [List.head?_append_of_ne_nil _ nonempty]
        exact head (by omega)

theorem upperDigit_eq_zero : ∀ v < 16, Hex.upperDigit v = '0' → v = 0 := by decide

theorem foldl_zeros (k : Nat) (vs : List Nat) :
    (List.replicate k 0 ++ vs).foldl (fun m v => 16 * m + v) 0 =
      vs.foldl (fun m v => 16 * m + v) 0 := by
  induction k with
  | zero => rfl
  | succ k ih => exact ih

theorem numbers_offset (n : Nat) : Numbers (offset n) n := by
  obtain ⟨vs, small, digits, value, head, -⟩ := spelled_hexDigits n
  have length : (hexDigits n).length = vs.length := by rw [digits, List.length_map]
  have zeros : offset n = (List.replicate (4 - vs.length) 0 ++ vs).map Hex.upperDigit := by
    rw [offset, length, digits, List.map_append, List.map_replicate]
    rfl
  refine ⟨⟨_, ?_, zeros, ?_⟩, ?_, fun long => ?_⟩
  · intro v hv
    rcases List.mem_append.mp hv with hv | hv
    · rw [List.eq_of_mem_replicate hv]
      decide
    · exact small v hv
  · rw [foldl_zeros, value]
  · rw [zeros, List.length_map, List.length_append, List.length_replicate]
    omega
  · -- no zero is put in front of more than four digits
    rw [zeros, List.length_map, List.length_append, List.length_replicate] at long
    have short : 4 - vs.length = 0 := by omega
    rw [zeros, short, List.replicate_zero, List.nil_append, List.head?_map]
    have pos : 0 < n := by
      by_contra zero
      rw [show n = 0 by omega, hexDigits_of_lt (by decide)] at length
      simp only [List.length_singleton] at length
      omega
    intro first
    obtain ⟨v, hv, isZero⟩ := Option.map_eq_some_iff.mp first
    have := upperDigit_eq_zero v (small v (List.mem_of_head? hv)) isZero
    exact head pos (this ▸ hv)

/-! ## Digits and characters -/

theorem upperDigit_ne : ∀ v < 16, Hex.upperDigit v ≠ ' ' ∧ Hex.upperDigit v ≠ ':' ∧
    Hex.upperDigit v ≠ '\n' := by decide

theorem Numbers.plain (h : Numbers ds n) {c : Char} (hc : c ∈ ds) : c ≠ ':' ∧ c ≠ '\n' := by
  obtain ⟨vs, small, rfl, -⟩ := h.spelled
  obtain ⟨v, hv, rfl⟩ := List.mem_map.mp hc
  exact (upperDigit_ne v (small v hv)).2

theorem length_digits (bs : Bytes) :
    (bs.flatMap fun b => Hex.upper b ++ [' ']).length = 3 * bs.length := by
  induction bs with
  | nil => rfl
  | cons b bs ih =>
    rw [List.flatMap_cons, List.length_append, ih, List.length_cons]
    simp only [Hex.upper, List.length_append, List.length_cons, List.length_nil]
    omega

theorem spells_digits (bs : Bytes) :
    Hex.Spells ((bs.flatMap fun b => Hex.upper b ++ [' ']).filter (· ≠ ' ')) bs := by
  induction bs with
  | nil => exact .nil
  | cons b bs ih =>
    have byte := b.toNat_lt
    have high := (upperDigit_ne (b.toNat / 16) (by omega)).1
    have low := (upperDigit_ne (b.toNat % 16) (by omega)).1
    rw [List.flatMap_cons, List.filter_append]
    simpa [Hex.upper, high, low] using
      Hex.Spells.cons ⟨by omega, .inr rfl⟩ ⟨by omega, .inr rfl⟩ ih

theorem fills_hexField (h : bs.length ≤ width) : Fills (hexField bs) bs := by
  refine ⟨?_, ?_⟩
  · rw [hexField, List.length_append, length_digits, List.length_replicate]
    change bs.length ≤ 8 at h
    show 3 * bs.length + 3 * (8 - bs.length) = 24
    omega
  · rw [hexField, List.filter_append, List.filter_replicate_of_neg (by simp), List.append_nil]
    exact spells_digits bs

theorem Fills.plain (h : Fills cs bs) : '\n' ∉ cs := by
  intro hc
  have digit := h.spells.digits '\n' (List.mem_filter.mpr ⟨hc, by decide⟩)
  obtain ⟨v, small, same | same⟩ := digit
  · revert v
    decide
  · exact (upperDigit_ne v small).2.2 same.symm

theorem toNat_ofNat_of_lt (h : n < 128) : (Char.ofNat n).toNat = n := by
  rw [Char.ofNat, dif_pos (.inl (by omega))]
  rfl

theorem shows_printable (b : UInt8) : Shows b (printable b) := by
  have bounds : 32 ≤ b ∧ b ≤ 126 ↔ 32 ≤ b.toNat ∧ b.toNat ≤ 126 := by
    rw [UInt8.le_iff_toNat_le, UInt8.le_iff_toNat_le]
    rfl
  unfold Shows printable
  by_cases h : 32 ≤ b.toNat ∧ b.toNat ≤ 126
  · rw [if_pos h, if_pos (bounds.mpr h), toNat_ofNat_of_lt (by omega)]
  · rw [if_neg h, if_neg (mt bounds.mp h)]

theorem Shows.plain {c : Char} (h : Shows b c) : c ≠ '\n' := by
  rintro rfl
  unfold Shows at h
  split at h
  · next bounds =>
    change 10 = b.toNat at h
    omega
  · exact absurd h (by decide)

theorem plain_of_shows {text : List Char} (h : List.Forall₂ Shows bs text) : '\n' ∉ text := by
  induction h with
  | nil => exact List.not_mem_nil
  | cons first _ ih =>
    rw [List.mem_cons, not_or]
    exact ⟨first.plain.symm, ih⟩

/-! ## Rows -/

/-- A row tells its offset and its bytes. -/
theorem tells_row (n : Nat) (h : bs.length ≤ width) : Tells (row n bs).toList n bs := by
  refine ⟨offset n, hexField bs, bs.map printable, String.toList_ofList, numbers_offset n,
    fills_hexField h, ?_⟩
  rw [List.forall₂_map_right_iff]
  exact List.forall₂_same.mpr fun b _ => shows_printable b

theorem Tells.plain (h : Tells line n bs) : '\n' ∉ line := by
  obtain ⟨ds, field, text, rfl, numbers, fills, shown⟩ := h
  have digits : '\n' ∉ ds := fun hc => (numbers.plain hc).2 rfl
  simp [digits, fills.plain, plain_of_shows shown]

theorem Tells.fills_fieldOf (h : Tells line n bs) : Fills (fieldOf line) bs := by
  obtain ⟨ds, field, text, rfl, numbers, fills, -⟩ := h
  have found : (ds ++ [':', ' '] ++ field ++ ['|', ' '] ++ text).dropWhile (· ≠ ':') =
      ':' :: ' ' :: (field ++ '|' :: ' ' :: text) := by
    rw [List.append_assoc, List.append_assoc, List.append_assoc,
      List.dropWhile_append_of_pos fun c hc => by simpa using (numbers.plain hc).1]
    simp
  have cut : fieldOf (ds ++ [':', ' '] ++ field ++ ['|', ' '] ++ text) = field := by
    rw [fieldOf, found]
    exact List.take_left' fills.width
  rwa [cut]

/-- The rows after some others, and which bytes are in each. -/
theorem rowsAfter_eq (done : List String) (n : Nat) (bs : Bytes) :
    rowsAfter done n bs = done.reverse ++ (List.range ((bs.length + 7) / 8)).map fun k =>
      row (n + 8 * k) ((bs.drop (8 * k)).take width) := by
  fun_induction rowsAfter done n bs with
  | case1 done n bs empty =>
    rw [List.isEmpty_iff.mp empty]
    exact (List.append_nil _).symm
  | case2 done n bs more ih =>
    have length : 0 < bs.length := List.length_pos_iff.mpr (by simpa using more)
    have count : (bs.length + 7) / 8 = ((bs.drop width).length + 7) / 8 + 1 := by
      rw [List.length_drop, width]
      omega
    have later (k : Nat) : row (n + width + 8 * k) (((bs.drop width).drop (8 * k)).take width) =
        row (n + 8 * (k + 1)) ((bs.drop (8 * (k + 1))).take width) := by
      rw [List.drop_drop, Nat.mul_succ, Nat.add_comm (8 * k), width, Nat.add_assoc]
    rw [ih, count, List.range_succ_eq_map, List.map_cons, List.map_map, List.reverse_cons,
      List.append_assoc, List.map_congr_left fun k _ => later k]
    rfl

/-- Which bytes are in which row. -/
theorem rows_eq (bs : Bytes) :
    rows bs = (List.range ((bs.length + 7) / 8)).map fun k =>
      row (8 * k) ((bs.drop (8 * k)).take width) := by
  rw [rows, rowsAfter_eq]
  simp

theorem tells_of_mem_rows {r : String} (h : r ∈ rows bs) : ∃ n bs', Tells r.toList n bs' := by
  rw [rows_eq] at h
  obtain ⟨k, -, rfl⟩ := List.mem_map.mp h
  exact ⟨_, _, tells_row _ (List.length_take_le _ _)⟩

theorem lines_render (bs : Bytes) : lines (render bs) = (rows bs).map String.toList := by
  by_cases empty : rows bs = []
  · rw [render, empty, String.intercalate_nil]
    rfl
  · have cut : (render bs).toList.splitOn '\n' = (rows bs).map String.toList := by
      rw [render, String.toList_intercalate]
      refine List.splitOn_intercalate '\n' ?_ (by simpa using empty)
      intro l hl
      obtain ⟨r, hr, rfl⟩ := List.mem_map.mp hl
      obtain ⟨n, bs', tells⟩ := tells_of_mem_rows hr
      exact tells.plain
    have nonempty : render bs ≠ "" := by
      intro nothing
      rw [nothing] at cut
      obtain ⟨r, rs, same⟩ := List.exists_cons_of_ne_nil empty
      obtain ⟨n, bs', ds, field, text, parts, -⟩ := tells_of_mem_rows (same ▸ List.mem_cons_self)
      rw [same, List.map_cons, parts] at cut
      simp at cut
    rw [lines, if_neg nonempty, cut]

/-! ## Reading -/

theorem spells_append {cs' : List Char} {bs' : Bytes} (h : Hex.Spells cs bs)
    (h' : Hex.Spells cs' bs') : Hex.Spells (cs ++ cs') (bs ++ bs') := by
  induction h with
  | nil => exact h'
  | cons first second _ ih => exact .cons first second ih

theorem spells_fields (bs : Bytes) (m : Nat) :
    Hex.Spells (((List.range m).flatMap fun k =>
      fieldOf (row (8 * k) ((bs.drop (8 * k)).take width)).toList).filter (· ≠ ' '))
      (bs.take (8 * m)) := by
  induction m with
  | zero => exact .nil
  | succ m ih =>
    have last := (tells_row (8 * m) (List.length_take_le width (bs.drop (8 * m)))).fills_fieldOf
    have more : bs.take (8 * (m + 1)) = bs.take (8 * m) ++ (bs.drop (8 * m)).take width := by
      rw [Nat.mul_succ, List.take_add]
      rfl
    rw [List.range_succ, List.flatMap_append, List.flatMap_singleton, List.filter_append, more]
    exact spells_append ih last.spells

theorem read_render (bs : Bytes) : read (render bs) = .ok bs := by
  rw [read, Hex.reads_decode.eq_ok_iff, String.toList_ofList, lines_render, rows_eq, List.map_map,
    List.flatMap_map]
  have all := spells_fields bs ((bs.length + 7) / 8)
  rwa [List.take_of_length_le (by omega)] at all

/-- **A dump loses nothing.** It has a line for every eight bytes begun, and none if there are no
bytes. Each line tells the offset of its first byte and its bytes, at the same place behind the
colon; the bytes can be read back, so two different byte strings never have the same dump. -/
theorem loses_nothing (bs : Bytes) :
    (lines (render bs)).length = (bs.length + 7) / 8 ∧
    (∀ k line, (lines (render bs))[k]? = some line →
      Tells line (8 * k) ((bs.drop (8 * k)).take 8)) ∧
    read (render bs) = .ok bs ∧
    ∀ bs', render bs' = render bs → bs' = bs := by
  refine ⟨?_, fun k line hk => ?_, read_render bs, fun bs' same => ?_⟩
  · rw [lines_render, rows_eq, List.length_map, List.length_map, List.length_range]
  · rw [lines_render, rows_eq, List.map_map, List.getElem?_map] at hk
    obtain ⟨j, hj, rfl⟩ := Option.map_eq_some_iff.mp hk
    obtain ⟨inside, rfl⟩ := List.getElem?_eq_some_iff.mp hj
    rw [List.getElem_range]
    exact tells_row _ (List.length_take_le _ _)
  · have here := read_render bs'
    rw [same, read_render bs] at here
    exact (Except.ok.inj here).symm

/-- Nine bytes, of which the first is a line break and the second a bar. -/
theorem loses_nothing_two_rows :
    let bs : Bytes := [0x0A, 0x7C, 0x41, 0, 0, 0, 0, 0x3A, 0xFF]
    let line : List Char := "0008: FF                      | .".toList
    (lines (render bs))[1]? = some line ∧ Tells line 8 [0xFF] ∧ read (render bs) = .ok bs := by
  intro bs line
  have second : (lines (render bs))[1]? = some line := by decide +kernel
  obtain ⟨-, tells, back, -⟩ := loses_nothing bs
  exact ⟨second, tells 1 line second, back⟩

end Fieldbus.Dump
