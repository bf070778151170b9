import Fieldbus.Bytes

/-!
# Reading UTF-8

A machine that takes one byte at a time. What it owes after a byte is a number of continuation
bytes, and the range of the next one, which excludes overlong forms, surrogates and code points
past the last. A byte outside the range ends the character that was begun and is read afresh.

* `Utf8.scan`: the characters of a byte string, with `none` for every maximal malformed part.
* `Utf8.decode?`: the text, if no part is malformed.
* `Utf8.lossy`: the text with U+FFFD for each malformed part.
-/

namespace Fieldbus.Utf8

/-- What is still owed to the character that was begun. -/
structure Pending where
  /-- Continuation bytes still to come. -/
  owed : Nat
  /-- The least byte that may come next. -/
  low : UInt8
  /-- The greatest byte that may come next. -/
  high : UInt8
  /-- The code point's bits so far. -/
  bits : Nat

/-- What a first byte begins: a whole character, the start of a longer one, or nothing. -/
def first (b : UInt8) : Option (Char ⊕ Pending) :=
  let n := b.toNat
  if n < 0x80 then some (.inl (Char.ofNat n))
  else if n < 0xC2 then none
  else if n < 0xE0 then some (.inr ⟨1, 0x80, 0xBF, n - 0xC0⟩)
  else if n = 0xE0 then some (.inr ⟨2, 0xA0, 0xBF, 0⟩)
  else if n = 0xED then some (.inr ⟨2, 0x80, 0x9F, 0xD⟩)
  else if n < 0xF0 then some (.inr ⟨2, 0x80, 0xBF, n - 0xE0⟩)
  else if n = 0xF0 then some (.inr ⟨3, 0x90, 0xBF, 0⟩)
  else if n < 0xF4 then some (.inr ⟨3, 0x80, 0xBF, n - 0xF0⟩)
  else if n = 0xF4 then some (.inr ⟨3, 0x80, 0x8F, 4⟩)
  else none

/-- The bits of a character after one more continuation byte. -/
def Pending.push (p : Pending) (b : UInt8) : Nat :=
  p.bits * 64 + (b.toNat - 0x80)

/-- A reader between two bytes: the character begun, and what was read so far, latest first. -/
structure Reader where
  /-- The character begun, if any. -/
  pending : Option Pending
  /-- The characters read, with `none` for a malformed part. -/
  done : List (Option Char)

/-- Takes a byte that begins something. -/
def Reader.begin (done : List (Option Char)) (b : UInt8) : Reader :=
  match first b with
  | some (.inl c) => ⟨none, some c :: done⟩
  | some (.inr p) => ⟨some p, done⟩
  | none => ⟨none, none :: done⟩

/-- Takes one byte. -/
def Reader.step (s : Reader) (b : UInt8) : Reader :=
  match s.pending with
  | none => Reader.begin s.done b
  | some p =>
    if p.low ≤ b ∧ b ≤ p.high then
      if p.owed ≤ 1 then ⟨none, some (Char.ofNat (p.push b)) :: s.done⟩
      else ⟨some ⟨p.owed - 1, 0x80, 0xBF, p.push b⟩, s.done⟩
    else Reader.begin (none :: s.done) b

/-- Everything read once the bytes are over; a character begun and not finished is malformed. -/
def Reader.finish (s : Reader) : List (Option Char) :=
  match s.pending with
  | none => s.done.reverse
  | some _ => (none :: s.done).reverse

/-- The characters of a byte string, with `none` for every maximal malformed part. -/
def scan (bs : Bytes) : List (Option Char) :=
  (bs.foldl Reader.step ⟨none, []⟩).finish

/-- The text that the bytes encode, if they are well formed. -/
def decode? (bs : Bytes) : Option String :=
  ((scan bs).mapM id).map String.ofList

/-- The text of the bytes, with a replacement character for each malformed part. -/
def lossy (bs : Bytes) : String :=
  String.ofList ((scan bs).map fun c => c.getD '\uFFFD')

end Fieldbus.Utf8
