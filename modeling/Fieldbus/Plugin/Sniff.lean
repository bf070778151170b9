import Fieldbus.Plugin.Fault

/-!
# Kinds of plugin files

The first four bytes of a file tell what kind of plugin it is. They are read piece by piece into a
buffer: a read may give fewer bytes than asked for, and may be interrupted.

* `Header`: the buffer, and how much of it is filled.
* `Header.put`, `Header.fill`: what one read and what many reads put into it.
* `Header.kind?`: the kind that the first bytes tell.
* `sniff`: the kind of a file, from the results of the reads.
-/

namespace Fieldbus

/-- The kinds of plugin files. -/
inductive PluginKind where
  | native
  | script
  deriving DecidableEq, Repr

/-- The number of bytes that tell the kind. -/
def headerLength : Nat := 4

/-- What shared objects begin with. -/
def objectMagic : Bytes := [0x7F, 0x45, 0x4C, 0x46]

/-- What compiled scripts begin with. -/
def bytecodeMagic : Bytes := [0x1B, 0x4C, 0x75, 0x61]

/-- What a read may give. -/
inductive ReadResult where
  /-- Some bytes; none at the end of the file. -/
  | bytes (bs : Bytes)
  /-- The read was interrupted and can be tried again. -/
  | interrupted
  | failed (cause : ReadFault)
  deriving DecidableEq, Repr

/-- A buffer for the first bytes of a file, of which some are there. -/
@[ext]
structure Header where
  buffer : Bytes
  /-- The number of bytes that are there. -/
  filled : Nat
  length_buffer : buffer.length = headerLength
  filled_le : filled ≤ headerLength
  deriving DecidableEq, Repr

namespace Header

/-- The buffer before the first read holds zeros, none of which counts. -/
def empty : Header := ⟨List.replicate headerLength 0, 0, List.length_replicate, Nat.zero_le _⟩

variable (h : Header)

/-- The number of bytes that are missing. -/
def missing : Nat := headerLength - h.filled

/-- The bytes of a read go behind those that are there. A read gives no more than what is
missing. -/
def put (bs : Bytes) : Header where
  buffer := h.buffer.take h.filled ++ bs.take h.missing ++
    h.buffer.drop (h.filled + (bs.take h.missing).length)
  filled := h.filled + (bs.take h.missing).length
  length_buffer := by
    have := h.length_buffer
    have := h.filled_le
    simp only [missing, List.length_append, List.length_take, List.length_drop]
    omega
  filled_le := by
    have := h.filled_le
    simp only [missing, List.length_take]
    omega

/-- Reads until the buffer is full or the file ends; it has ended when there are no more results. An
interrupted read is tried again. -/
def fill (h : Header) : List ReadResult → Except ReadFault Header
  | [] => .ok h
  | r :: rs =>
    if headerLength ≤ h.filled then .ok h
    else
      match r with
      | .bytes [] => .ok h
      | .bytes bs => (h.put bs).fill rs
      | .interrupted => h.fill rs
      | .failed cause => .error cause

/-- The kind that the first bytes tell, if they are all there; there is none for compiled
scripts. -/
def kind? : Option PluginKind :=
  if h.filled = headerLength ∧ h.buffer = objectMagic then some .native
  else if h.filled = headerLength ∧ h.buffer = bytecodeMagic then none
  else some .script

end Header

/-- The kind of the plugin file at `path`, from the results of the reads. A file that cannot be
opened is like one of which the first read fails. -/
def sniff (path : String) (reads : List ReadResult) : Except PluginError PluginKind :=
  match Header.empty.fill reads with
  | .error cause => .error (.io path cause)
  | .ok h =>
    match h.kind? with
    | some kind => .ok kind
    | none => .error (.unsupported path)

end Fieldbus
