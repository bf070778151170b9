import Fieldbus.Descriptor
import Fieldbus.Device.Uid

/-!
# Entries of a descriptor document

An entry is decoded loosely first, so that everything that is wrong with it can be told at once.

* `Entry`: the fields as they were written.
* `Entry.faults`: everything that is wrong with an entry, in a fixed order.
* `Entry.Outcome`: an entry is undecodable, passed over, faulty, or describes a port.
* `Entry.read`: the outcome of a JSON value.
-/

namespace Fieldbus

/-- The fields of an entry as they were written. Numbers have a sign, so that those out of range
can be told. -/
structure Entry where
  uid : Option String := none
  device : Option String := none
  baud : Int := 115200
  dataBits : Int := 8
  stopBits : Int := 1
  parity : String := "n"
  minDelay : Int := 0
  maxLen : Int := 1024
  timeout : Int := 100
  deriving DecidableEq, Repr, Inhabited

namespace Entry

open Json

/-- The fields of an entry; each has a default. -/
def record : Record Entry where
  name := "RawPortEntry"
  fields := [
    .of "uid" (optional (text aString)) fun u e => { e with uid := u },
    .of "device" (optional (text aString)) fun d e => { e with device := d },
    .of "baud" (integer i64) fun n e => { e with baud := n },
    .of "databits" (integer i64) fun n e => { e with dataBits := n },
    .of "stopbits" (integer i64) fun n e => { e with stopBits := n },
    .of "parity" (text aString) fun s e => { e with parity := s },
    .of "mindelay" (integer i64) fun n e => { e with minDelay := n },
    .of "maxlen" (integer i64) fun n e => { e with maxLen := n },
    .of "timeout" (integer i64) fun n e => { e with timeout := n }]
  start := {}
  missing _ := none

/-- Something that is wrong with one field of an entry. -/
inductive Fault where
  /-- The time between two writes is negative. -/
  | minDelay (n : Int)
  /-- The read buffer is too small or too large. -/
  | maxLen (n : Int)
  /-- The read timeout is not positive. -/
  | timeout (n : Int)
  /-- A line parameter is not accepted. -/
  | line (cause : Invalid)
  deriving DecidableEq, Repr

/-- The wording of a fault. -/
def Fault.message : Fault → String
  | .minDelay n => "mindelay must be >= 0, got " ++ toString n
  | .maxLen n => "maxlen must be 1-" ++ toString maxMaxLen ++ ", got " ++ toString n
  | .timeout n => "timeout must be > 0, got " ++ toString n
  | .line cause => cause.message

/-- The fault of a line parameter that was not accepted. -/
def lineFault {α : Type} : Except Invalid α → List Fault
  | .ok _ => []
  | .error cause => [.line cause]

/-- The device of an entry, unless it is blank. -/
def device? (e : Entry) : Option String :=
  e.device.filter fun d => !Text.isBlankText d

/-- The uid of an entry: the one given, unless it is blank, or that of the device. -/
def uidFor (e : Entry) (device : String) : String :=
  (e.uid.filter fun u => !Text.isBlankText u).getD (deviceUid (utf8 device))

/-- Everything that is wrong with the limits of an entry. -/
def limitFaults (e : Entry) : List Fault :=
  (if e.minDelay < 0 then [.minDelay e.minDelay] else []) ++
  (if e.maxLen ≤ 0 ∨ maxMaxLen < e.maxLen then [.maxLen e.maxLen] else []) ++
  (if e.timeout ≤ 0 then [.timeout e.timeout] else [])

/-- Everything that is wrong with the line parameters of an entry. -/
def lineFaults (e : Entry) : List Fault :=
  lineFault (Baud.ofInt e.baud) ++ lineFault (DataBits.ofInt e.dataBits) ++
    lineFault (StopBits.ofInt e.stopBits) ++ lineFault (Parity.ofText e.parity)

/-- Everything that is wrong with an entry. -/
def faults (e : Entry) : List Fault :=
  e.limitFaults ++ e.lineFaults

/-- The line of an entry, if all of its parameters are accepted. -/
def line? (e : Entry) : Except Invalid Line := do
  let baud ← Baud.ofInt e.baud
  let dataBits ← DataBits.ofInt e.dataBits
  let stopBits ← StopBits.ofInt e.stopBits
  let parity ← Parity.ofText e.parity
  return ⟨baud, dataBits, stopBits, parity⟩

/-- What becomes of an entry. -/
inductive Outcome where
  | undecodable (e : DecodeError)
  /-- It has no device, and is passed over. -/
  | skipped
  /-- It names a port, but something is wrong with it. -/
  | faulty (uid : String) (faults : List Fault)
  | port (d : Descriptor)

/-- What becomes of a decoded entry. -/
def outcome (e : Entry) : Outcome :=
  match e.device? with
  | none => .skipped
  | some device =>
    let uid := e.uidFor device
    match e.faults, e.line? with
    | [], .ok line =>
      .port ⟨uid, device, line, e.minDelay.toNat, e.maxLen.toNat, e.timeout.toNat⟩
    | fs, _ => .faulty uid fs

/-- What becomes of a JSON value in the place of an entry. -/
def read (v : Json) : Outcome :=
  match record.decode v with
  | .error e => .undecodable e
  | .ok e => e.outcome

end Entry

end Fieldbus
