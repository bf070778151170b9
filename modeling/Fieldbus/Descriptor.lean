import Fieldbus.Line.Decode

/-!
# Port descriptors

What there is to know about a port before it is opened.

* `Descriptor`: uid, device, line, and the limits on reading and writing.
* `Descriptor.check`: what is wrong with a descriptor, if anything.
* `Descriptor.toJson`: the descriptor as a document.
-/

namespace Fieldbus

/-- The size of a read buffer where none is given, in bytes. -/
def standardMaxLen : Nat := 1024

/-- The read timeout where none is given, in milliseconds. -/
def standardTimeout : Nat := 100

/-- A port descriptor. -/
structure Descriptor where
  /-- The name of the port, and of its endpoint on the bus. -/
  uid : String
  /-- The path of the device. -/
  device : String
  line : Line := .standard
  /-- The least time between two writes, in milliseconds. -/
  minDelay : Nat := 0
  /-- The size of the read buffer, in bytes. -/
  maxLen : Nat := standardMaxLen
  /-- The read timeout, in milliseconds. -/
  timeout : Nat := standardTimeout
  deriving DecidableEq, Repr, Inhabited

namespace Descriptor

/-- The first thing that is wrong with a descriptor. -/
def fault? (d : Descriptor) : Option Invalid :=
  if Text.isBlankText d.uid then some .blankUid
  else if d.device = "" then some (.emptyDevice d.uid)
  else if d.maxLen = 0 ∨ maxMaxLen < d.maxLen then some (.maxLen d.uid d.maxLen)
  else if d.timeout = 0 then some (.zeroTimeout d.uid)
  else none

/-- Whether nothing is wrong with a descriptor. -/
def Valid (d : Descriptor) : Prop := d.fault? = none

instance (d : Descriptor) : Decidable d.Valid := by unfold Valid; infer_instance

theorem Valid.maxLen_pos {d : Descriptor} (h : d.Valid) : 0 < d.maxLen := by
  by_cases h0 : d.maxLen = 0
  · unfold Valid fault? at h
    simp only [h0, true_or, if_true] at h
    split at h
    · exact absurd h (by simp)
    · split at h <;> exact absurd h (by simp)
  · exact Nat.pos_of_ne_zero h0

/-- Accepts a descriptor with which nothing is wrong. -/
def check (d : Descriptor) : Except Invalid Unit :=
  match d.fault? with
  | some e => .error e
  | none => .ok ()

/-- The descriptor as a document. -/
def toJson (d : Descriptor) : Json :=
  .obj ([("uid", .str d.uid), ("device", .str d.device)] ++ d.line.members ++
    [("mindelay", .int d.minDelay), ("maxlen", .int d.maxLen), ("timeout", .int d.timeout)])

end Descriptor

end Fieldbus
