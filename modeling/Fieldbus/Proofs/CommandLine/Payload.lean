import Fieldbus.Bus.Operator
import Fieldbus.Proofs.Text.Hex

/-!
# Payloads in base sixteen

A payload that is typed in base sixteen may hold blank characters anywhere. Without them, it is an
even number of digits.

* `Spaced`: blank characters inserted into a text.
* `spells_compact_iff`: the characters that are left spell what was spelled before.
* **`hex_payload_grammar`**: which payloads are accepted, what they are read as, and why the others
  are refused.
-/

namespace Fieldbus

/-! ## Blank characters -/

/-- The same characters, with blank ones inserted anywhere. -/
inductive Spaced : List Char → List Char → Prop where
  | nil : Spaced [] []
  | keep {c : Char} {cs ts : List Char} (rest : Spaced cs ts) : Spaced (c :: cs) (c :: ts)
  | insert {c : Char} {cs ts : List Char} (blank : Text.isBlank c = true) (rest : Spaced cs ts) :
    Spaced cs (c :: ts)

variable {cs : List Char} {text : String} {bs : Bytes}

theorem toList_compact (text : String) :
    (compact text).toList = text.toList.filter fun c => !Text.isBlank c :=
  String.toList_ofList

theorem spaced_filter (ts : List Char) : Spaced (ts.filter fun c => !Text.isBlank c) ts := by
  induction ts with
  | nil => exact .nil
  | cons c ts ih =>
    rw [List.filter_cons]
    split
    · exact .keep ih
    · next blank => exact .insert (by simpa using blank) ih

theorem Spaced.filter_eq {ts : List Char} (h : Spaced cs ts)
    (visible : ∀ c ∈ cs, Text.isBlank c = false) : (ts.filter fun c => !Text.isBlank c) = cs := by
  induction h with
  | nil => rfl
  | keep _ ih =>
    obtain ⟨here, visible⟩ := List.forall_mem_cons.mp visible
    rw [List.filter_cons_of_pos (by simp [here]), ih visible]
  | insert blank _ ih => rw [List.filter_cons_of_neg (by simp [blank]), ih visible]

theorem Hex.IsDigit.visible {c : Char} (h : IsDigit c) : Text.isBlank c = false := by
  have digits : ∀ n < 16, Text.isBlank (lowerDigit n) = false ∧
      Text.isBlank (upperDigit n) = false := by decide
  obtain ⟨n, small, rfl | rfl⟩ := h
  · exact (digits n small).1
  · exact (digits n small).2

/-- A text spells a byte string if it was spelled before blank characters were inserted. -/
theorem spells_compact_iff :
    Hex.Spells (compact text).toList bs ↔ ∃ cs, Hex.Spells cs bs ∧ Spaced cs text.toList := by
  rw [toList_compact]
  constructor
  · intro spells
    exact ⟨_, spells, spaced_filter text.toList⟩
  · rintro ⟨cs, spells, spaced⟩
    rwa [spaced.filter_eq fun c hc => (spells.digits c hc).visible]

/-! ## Payloads -/

section

variable {decode : Bytes → Except Hex.Fault Bytes} (reads : Hex.Reads decode)

include reads in
theorem payloadWith_eq_ok_iff :
    payloadWith decode text true = .ok bs ↔ bs ≠ [] ∧ Hex.Spells (compact text).toList bs := by
  rw [← reads.eq_ok_iff]
  unfold payloadWith
  rw [if_pos rfl]
  cases decode (utf8 (compact text)) with
  | error cause => simp
  | ok bytes =>
    cases bytes with
    | nil => simp
    | cons b bytes => simpa using fun same => same ▸ List.cons_ne_nil b bytes

theorem payloadWith_eq_notHex_iff {cause : Hex.Fault} :
    payloadWith decode text true = .error (.notHex cause) ↔
      decode (utf8 (compact text)) = .error cause := by
  unfold payloadWith
  rw [if_pos rfl]
  cases decode (utf8 (compact text)) with
  | error cause => simp
  | ok bytes => cases bytes <;> simp

include reads in
theorem payloadWith_eq_empty_iff :
    payloadWith decode text true = .error .empty ↔ compact text = "" := by
  have nothing : decode (utf8 (compact text)) = .ok [] ↔ compact text = "" := by
    rw [reads.eq_ok_iff, ← String.toList_eq_nil_iff]
    constructor
    · intro spells
      exact spells.eq_nil_iff.mp rfl
    · intro blank
      rw [blank]
      exact .nil
  rw [← nothing]
  unfold payloadWith
  rw [if_pos rfl]
  cases decode (utf8 (compact text)) with
  | error cause => simp
  | ok bytes => cases bytes <;> simp

end

/-- **Which payloads are accepted in base sixteen, and what becomes of them,** with any reader that
takes the digits pair by pair. Without its blank characters, the text is not empty and consists of
an even number of digits of either case, and the payload is what they spell; so blank characters may
be inserted anywhere into the digits of any byte string that is not empty. Of all other texts, those
of an odd number of bytes are refused for that; of the others the first byte that is no digit is
reported; and if there is none, there is nothing in the payload. -/
theorem hex_payload_grammar {decode : Bytes → Except Hex.Fault Bytes} (reads : Hex.Reads decode)
    (text : String) :
    (∀ bs, payloadWith decode text true = .ok bs ↔
      bs ≠ [] ∧ Hex.Spells (compact text).toList bs) ∧
    ((∃ bs, payloadWith decode text true = .ok bs) ↔ compact text ≠ "" ∧
      (compact text).toList.length % 2 = 0 ∧ ∀ c ∈ (compact text).toList, Hex.IsDigit c) ∧
    (∀ bs, payloadWith decode text true = .ok bs ↔
      bs ≠ [] ∧ ∃ cs, Hex.Spells cs bs ∧ Spaced cs text.toList) ∧
    (payloadWith decode text true = .error (.notHex .oddLength) ↔
      (utf8 (compact text)).length % 2 = 1) ∧
    (∀ b i, payloadWith decode text true = .error (.notHex (.notADigit b i)) ↔
      (utf8 (compact text)).length % 2 = 0 ∧ Hex.FirstStray (utf8 (compact text)) b i) ∧
    (payloadWith decode text true = .error .empty ↔ compact text = "") := by
  refine ⟨fun bs => payloadWith_eq_ok_iff reads, ?_, fun bs => ?_, ?_, fun b i => ?_,
    payloadWith_eq_empty_iff reads⟩
  · simp only [payloadWith_eq_ok_iff reads]
    constructor
    · rintro ⟨bs, nonempty, spells⟩
      refine ⟨fun blank => nonempty ?_, ?_, spells.digits⟩
      · exact spells.eq_nil_iff.mpr (String.toList_eq_nil_iff.mpr blank)
      · rw [spells.length, Nat.mul_mod_right]
    · rintro ⟨nonempty, even, digits⟩
      obtain ⟨bs, spells⟩ := Hex.exists_spells even digits
      refine ⟨bs, fun nothing => nonempty ?_, spells⟩
      exact String.toList_eq_nil_iff.mp (spells.eq_nil_iff.mp nothing)
  · rw [payloadWith_eq_ok_iff reads, spells_compact_iff]
  · rw [payloadWith_eq_notHex_iff, reads.eq_oddLength_iff]
  · rw [payloadWith_eq_notHex_iff, reads.eq_notADigit_iff]

/-- A blank character of three bytes stands inside a pair of digits. In another text, of the two
bytes of a character that is no digit, the first is reported. -/
theorem hex_payload_grammar_blank :
    readPayload "4a 4\u2003B" true = .ok [0x4A, 0x4B] ∧
      (∃ cs, Hex.Spells cs [0x4A, 0x4B] ∧ Spaced cs "4a 4\u2003B".toList) ∧
      readPayload "a \u00e91" true = .error (.notHex (.notADigit 0xC3 1)) ∧
      Hex.FirstStray (utf8 (compact "a \u00e91")) 0xC3 1 := by
  have read : readPayload "4a 4\u2003B" true = .ok [0x4A, 0x4B] := by rfl
  have told : readPayload "a \u00e91" true = .error (.notHex (.notADigit 0xC3 1)) := by rfl
  obtain ⟨-, -, spelled, -⟩ := hex_payload_grammar Hex.reads_decode "4a 4\u2003B"
  obtain ⟨-, -, -, -, refused, -⟩ := hex_payload_grammar Hex.reads_decode "a \u00e91"
  exact ⟨read, ((spelled _).mp read).2, told, ((refused _ _).mp told).2⟩

end Fieldbus
