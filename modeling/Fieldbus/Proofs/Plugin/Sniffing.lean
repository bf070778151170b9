import Fieldbus.Plugin.Sniff
import Mathlib.Data.List.Basic

/-!
# The kind of a file does not depend on how it is read

A file may be read in pieces of any sizes, and reads may be interrupted. What two reads put into the
buffer, one read of both pieces would have put there, so in the end the buffer is as if the file had
been read in one piece. It holds the first bytes of the file and zeros behind them, and the zeros do
not count.

* `Reads`, `Delivers`: what reads of a file may give.
* `Header.put_put`: two pieces are as good as one.
* `Reads.fill_append`: what the buffer holds after some reads.
* `Delivers.fill_append`: what it holds in the end.
* **`sniff_by_first_bytes`**: the kind is told by the first four bytes.
-/

namespace Fieldbus

/-! ## Reads of a file -/

/-- What reads may give if a number of bytes is asked for and some are left of the file; and what is
asked for and left after that. A read may give fewer bytes than are asked for, but it gives some as
long as there are any. -/
inductive Reads : Nat → Bytes → List ReadResult → Nat → Bytes → Prop where
  | nil (asked : Nat) (left : Bytes) : Reads asked left [] asked left
  | interrupted {asked asked' : Nat} {left left' : Bytes} {rs : List ReadResult}
      (later : Reads asked left rs asked' left') :
      Reads asked left (.interrupted :: rs) asked' left'
  | piece {asked asked' : Nat} {left left' : Bytes} {rs : List ReadResult} (bs : Bytes)
      (nonempty : bs ≠ []) (fits : bs.length ≤ asked)
      (later : Reads (asked - bs.length) left rs asked' left') :
      Reads asked (bs ++ left) (.bytes bs :: rs) asked' left'

/-- What reads of a file with a given content give until its first four bytes are there: these
bytes, or all that there are and then the end of the file. -/
inductive Delivers (content : Bytes) : List ReadResult → Prop where
  | full {rs : List ReadResult} {left : Bytes} (reads : Reads headerLength content rs 0 left) :
      Delivers content rs
  | ended {rs : List ReadResult} {asked : Nat} (reads : Reads headerLength content rs asked []) :
      Delivers content (rs ++ [.bytes []])

theorem Reads.length_le {asked asked' : Nat} {left left' : Bytes} {rs : List ReadResult}
    (reads : Reads asked left rs asked' left') :
    (rs.filter (· ≠ .interrupted)).length + asked' ≤ asked := by
  induction reads with
  | nil => simp
  | interrupted _ ih => simpa using ih
  | @piece asked _ _ _ rs bs nonempty fits _ ih =>
    have pos : 0 < bs.length := List.length_pos_iff.mpr nonempty
    have here : (ReadResult.bytes bs :: rs).filter (· ≠ .interrupted) =
        .bytes bs :: rs.filter (· ≠ .interrupted) := List.filter_cons_of_pos (by simp)
    rw [here, List.length_cons]
    omega

/-! ## The buffer -/

namespace Header

variable {h : Header} {bs cs : Bytes} {rs : List ReadResult}

theorem put_nil (h : Header) : h.put [] = h := by
  ext1 <;> simp [put]

theorem put_of_full (full : headerLength ≤ h.filled) (bs : Bytes) : h.put bs = h := by
  have complete : h.missing = 0 := Nat.sub_eq_zero_of_le full
  ext1 <;> simp [put, complete]

theorem missing_put (h : Header) (bs : Bytes) : (h.put bs).missing = h.missing - bs.length := by
  have := h.filled_le
  simp only [put, missing, List.length_take]
  omega

/-- What is there after a piece: what was there, and as much of the piece as there was room for. -/
theorem take_put (h : Header) (bs : Bytes) : (h.put bs).buffer.take (h.put bs).filled =
    h.buffer.take h.filled ++ bs.take h.missing := by
  have length := h.length_buffer
  have filled := h.filled_le
  refine List.take_left' ?_
  simp only [put, List.length_append, List.length_take]
  omega

theorem drop_put (h : Header) (bs : Bytes) (n : Nat) :
    (h.put bs).buffer.drop ((h.put bs).filled + n) =
      h.buffer.drop (h.filled + (bs.take h.missing).length + n) := by
  have length := h.length_buffer
  have filled := h.filled_le
  rw [← List.drop_drop, ← List.drop_drop]
  congr 1
  refine List.drop_left' ?_
  simp only [put, List.length_append, List.length_take]
  omega

/-- Two pieces are as good as one. -/
theorem put_put (h : Header) (bs cs : Bytes) : (h.put bs).put cs = h.put (bs ++ cs) := by
  -- the second piece has the room that the first one leaves
  have taken : (bs ++ cs).take h.missing =
      bs.take h.missing ++ cs.take (h.put bs).missing := by
    rw [List.take_append, missing_put]
  ext1
  · show (h.put bs).buffer.take (h.put bs).filled ++ cs.take (h.put bs).missing ++
      (h.put bs).buffer.drop ((h.put bs).filled + (cs.take (h.put bs).missing).length) =
      h.buffer.take h.filled ++ (bs ++ cs).take h.missing ++
        h.buffer.drop (h.filled + ((bs ++ cs).take h.missing).length)
    rw [take_put, drop_put, taken, List.length_append]
    simp only [List.append_assoc, Nat.add_assoc]
  · show (h.put bs).filled + (cs.take (h.put bs).missing).length =
      h.filled + ((bs ++ cs).take h.missing).length
    rw [taken, List.length_append, ← Nat.add_assoc]
    rfl

theorem filled_put_empty (bs : Bytes) : (empty.put bs).filled = min headerLength bs.length := by
  simp [put, missing, empty]

/-- After a first piece the buffer holds the first bytes of it, and zeros behind them. -/
theorem buffer_put_empty (bs : Bytes) : (empty.put bs).buffer =
    bs.take headerLength ++ List.replicate (headerLength - bs.length) 0 := by
  have room : headerLength - min headerLength bs.length = headerLength - bs.length := by omega
  simp [put, missing, empty, room]

theorem holds_iff (bs : Bytes) (magic : Bytes) (length : magic.length = headerLength) :
    (empty.put bs).filled = headerLength ∧ (empty.put bs).buffer = magic ↔
      bs.take headerLength = magic := by
  rw [filled_put_empty, buffer_put_empty]
  constructor
  · rintro ⟨full, same⟩
    rw [show headerLength - bs.length = 0 by omega] at same
    simpa using same
  · rintro rfl
    rw [List.length_take] at length
    rw [show headerLength - bs.length = 0 by omega]
    exact ⟨length, by simp⟩

/-! ## Filling the buffer -/

theorem fill_of_full (full : headerLength ≤ h.filled) (rs : List ReadResult) :
    h.fill rs = .ok h := by
  cases rs with
  | nil => rfl
  | cons r rs => exact (fill.eq_def h (r :: rs)).trans (if_pos full)

theorem fill_interrupted (h : Header) (rs : List ReadResult) :
    h.fill (.interrupted :: rs) = h.fill rs := by
  by_cases full : headerLength ≤ h.filled
  · rw [fill_of_full full, fill_of_full full]
  · rw [fill, if_neg full]

theorem fill_piece (nonempty : bs ≠ []) (rs : List ReadResult) :
    h.fill (.bytes bs :: rs) = (h.put bs).fill rs := by
  by_cases full : headerLength ≤ h.filled
  · rw [put_of_full full, fill_of_full full, fill_of_full full]
  · rw [fill, if_neg full]
    exact nonempty

theorem fill_ended (h : Header) (rs : List ReadResult) : h.fill (.bytes [] :: rs) = .ok h := by
  rw [fill, ite_self]

theorem fill_failed (room : h.filled < headerLength) (cause : ReadFault) (rs : List ReadResult) :
    h.fill (.failed cause :: rs) = .error cause := by
  rw [fill, if_neg (Nat.not_le.mpr room)]

theorem fill_whole (h : Header) (bs : Bytes) : h.fill [.bytes bs] = .ok (h.put bs) := by
  by_cases ended : bs = []
  · rw [ended, fill_ended, put_nil]
  · rw [fill_piece ended, fill]

end Header

variable {content : Bytes} {reads : List ReadResult}

/-- After some reads the buffer is as if one read had given all their bytes. -/
theorem Reads.fill_append {asked asked' : Nat} {left left' : Bytes}
    (all : Reads asked left reads asked' left') (h : Header) (later : List ReadResult) :
    ∃ bs, left = bs ++ left' ∧ bs.length + asked' = asked ∧
      h.fill (reads ++ later) = (h.put bs).fill later := by
  induction all generalizing h with
  | nil asked left => exact ⟨[], rfl, Nat.zero_add _, by rw [Header.put_nil, List.nil_append]⟩
  | interrupted _ ih =>
    obtain ⟨bs, parts, count, same⟩ := ih h
    exact ⟨bs, parts, count, by rw [List.cons_append, Header.fill_interrupted, same]⟩
  | piece cs nonempty fits _ ih =>
    obtain ⟨bs, parts, count, same⟩ := ih (h.put cs)
    refine ⟨cs ++ bs, by rw [parts, List.append_assoc], ?_, ?_⟩
    · rw [List.length_append]
      omega
    · rw [List.cons_append, Header.fill_piece nonempty, same, Header.put_put]

/-- In the end the buffer is as if the file had been read in one piece. What the reads after that
would give does not matter. -/
theorem Delivers.fill_append (delivers : Delivers content reads) (later : List ReadResult) :
    Header.empty.fill (reads ++ later) = .ok (Header.empty.put content) := by
  cases delivers with
  | full all =>
    obtain ⟨bs, rfl, count, same⟩ := all.fill_append Header.empty later
    have full : headerLength ≤ (Header.empty.put bs).filled := by
      rw [Header.filled_put_empty]
      omega
    rw [same, Header.fill_of_full full, ← Header.put_put, Header.put_of_full full]
  | ended all =>
    obtain ⟨bs, rfl, -, same⟩ := all.fill_append Header.empty (.bytes [] :: later)
    rw [List.append_assoc, List.singleton_append, same, Header.fill_ended, List.append_nil]

/-! ## The kind -/

theorem kind?_put_empty (content : Bytes) : (Header.empty.put content).kind? =
    if content.take headerLength = objectMagic then some .native
    else if content.take headerLength = bytecodeMagic then none
    else some .script := by
  simp only [Header.kind?, Header.holds_iff content objectMagic rfl,
    Header.holds_iff content bytecodeMagic rfl]

theorem sniff_whole (path : String) (content : Bytes) : sniff path [.bytes content] =
    if content.take headerLength = objectMagic then .ok .native
    else if content.take headerLength = bytecodeMagic then .error (.unsupported path)
    else .ok .script := by
  rw [sniff, Header.fill_whole]
  dsimp only
  rw [kind?_put_empty]
  split_ifs <;> rfl

theorem sniff_whole_iff (path : String) (content : Bytes) :
    (sniff path [.bytes content] = .ok .native ↔ content.take headerLength = objectMagic) ∧
    (sniff path [.bytes content] = .error (.unsupported path) ↔
      content.take headerLength = bytecodeMagic) ∧
    (sniff path [.bytes content] = .ok .script ↔
      content.take headerLength ≠ objectMagic ∧ content.take headerLength ≠ bytecodeMagic) := by
  have differ : objectMagic ≠ bytecodeMagic := by decide
  rw [sniff_whole]
  by_cases object : content.take headerLength = objectMagic
  · simp [object, differ]
  · by_cases bytecode : content.take headerLength = bytecodeMagic
    · simp [bytecode, differ.symm]
    · simp [object, bytecode]

theorem Delivers.sniff_eq (delivers : Delivers content reads) (path : String)
    (later : List ReadResult) : sniff path (reads ++ later) = sniff path [.bytes content] := by
  rw [sniff, sniff, delivers.fill_append, Header.fill_whole]

theorem Reads.sniff_failed {asked : Nat} {left : Bytes}
    (begun : Reads headerLength content reads asked left) (more : 0 < asked) (path : String)
    (cause : ReadFault) (later : List ReadResult) :
    sniff path (reads ++ .failed cause :: later) = .error (.io path cause) := by
  obtain ⟨bs, -, count, same⟩ := begun.fill_append Header.empty (.failed cause :: later)
  have room : (Header.empty.put bs).filled < headerLength := by
    rw [Header.filled_put_empty]
    omega
  rw [sniff, same, Header.fill_failed room]

/-- **The first four bytes of a file tell its kind, however it is read.** If the reads deliver them,
or all bytes of a shorter file, these are then in the buffer and no further read is looked at. The
file is a shared object if the four bytes are those that shared objects begin with, refused if they
are those of compiled scripts, and a script otherwise, in particular if it is shorter. As long as
some bytes are missing fewer than four reads were not interrupted, and a read that fails is
reported. -/
theorem sniff_by_first_bytes (path : String) (content : Bytes) :
    (∀ reads, Delivers content reads → ∀ later,
      (∃ h, Header.empty.fill (reads ++ later) = .ok h ∧ h.filled = min 4 content.length ∧
        h.buffer = content.take 4 ++ List.replicate (4 - content.length) 0) ∧
      sniff path (reads ++ later) = sniff path [.bytes content] ∧
      (sniff path (reads ++ later) = .ok .native ↔
        content.take 4 = [0x7F, 0x45, 0x4C, 0x46]) ∧
      (sniff path (reads ++ later) = .error (.unsupported path) ↔
        content.take 4 = [0x1B, 0x4C, 0x75, 0x61]) ∧
      (sniff path (reads ++ later) = .ok .script ↔
        content.take 4 ≠ [0x7F, 0x45, 0x4C, 0x46] ∧ content.take 4 ≠ [0x1B, 0x4C, 0x75, 0x61]) ∧
      (content.length < 4 → sniff path (reads ++ later) = .ok .script)) ∧
    ∀ reads asked left, Reads 4 content reads asked left → 0 < asked →
      (reads.filter (· ≠ .interrupted)).length < 4 ∧
      ∀ cause later, sniff path (reads ++ .failed cause :: later) = .error (.io path cause) := by
  obtain ⟨native, unsupported, script⟩ := sniff_whole_iff path content
  refine ⟨fun reads delivers later => ?_, fun reads asked left begun more =>
    ⟨?_, begun.sniff_failed more path⟩⟩
  · rw [delivers.sniff_eq path later]
    refine ⟨⟨_, delivers.fill_append later, Header.filled_put_empty content,
      Header.buffer_put_empty content⟩, rfl, native, unsupported, script, fun short => ?_⟩
    have incomplete (magic : Bytes) (four : magic.length = headerLength) :
        content.take headerLength ≠ magic := by
      rintro rfl
      rw [List.length_take, headerLength] at four
      omega
    exact script.mpr ⟨incomplete objectMagic rfl, incomplete bytecodeMagic rfl⟩
  · have := begun.length_le
    omega

/-- A shared object that is read in three pieces, with interruptions; and a failure after the first
of them. -/
theorem sniff_by_first_bytes_in_pieces :
    let content : Bytes := [0x7F, 0x45, 0x4C, 0x46, 2]
    let first : List ReadResult := [.interrupted, .bytes [0x7F], .interrupted]
    let reads := first ++ [.bytes [0x45, 0x4C], .bytes [0x46]]
    Delivers content reads ∧ sniff "a.so" (reads ++ [.failed .device]) = .ok .native ∧
    Reads 4 content first 3 [0x45, 0x4C, 0x46, 2] ∧
    sniff "a.so" (first ++ [.failed .device]) = .error (.io "a.so" .device) := by
  intro content first reads
  have begun : Reads 4 content first 3 [0x45, 0x4C, 0x46, 2] :=
    .interrupted (.piece [0x7F] (by decide) (by decide) (.interrupted (.nil 3 _)))
  have delivers : Delivers content reads :=
    .full (.interrupted (.piece [0x7F] (by decide) (by decide) (.interrupted
      (.piece [0x45, 0x4C] (by decide) (by decide)
        (.piece [0x46] (by decide) (by decide) (.nil 0 [2]))))))
  obtain ⟨all, part⟩ := sniff_by_first_bytes "a.so" content
  exact ⟨delivers, (all reads delivers [.failed .device]).2.2.1.mpr rfl, begun,
    (part first 3 _ begun (by decide)).2 .device []⟩

end Fieldbus
