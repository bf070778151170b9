import Fieldbus.Bus.Address
import Fieldbus.CommandLine.Arguments
import Fieldbus.Descriptor.Document
import Fieldbus.Logging.Settings

/-!
# The command line of the collector

The collector takes its ports from a descriptor file, or a single port from switches.

* `Collector`: what was given on the command line.
* `Collector.parse`: reads the arguments.
* `Collector.ports`: the descriptors of the ports, or the reasons why there are none.
-/

namespace Fieldbus

/-- What was given to the collector. -/
structure Collector where
  config : Option String := none
  uid : Option String := none
  device : Option String := none
  baud : Nat := 115200
  dataBits : Nat := 8
  stopBits : Nat := 1
  parity : String := "none"
  minDelay : Nat := 0
  maxLen : Nat := standardMaxLen
  timeout : Nat := standardTimeout
  bus : Addresses := .standard
  logging : LogSettings := {}
  deriving DecidableEq, Repr, Inhabited

namespace Collector

/-- The format of the log, by its label. -/
def logFormat (s : String) : Except Refusal LogFormat :=
  match LogFormat.ofLabel? s with
  | some f => .ok f
  | none => .error .badValue

/-- The switches of the collector. -/
def command : Command Collector where
  switches := [
    ⟨"config", some 'C', .of Value.path fun s c => { c with config := some s }, none⟩,
    ⟨"uid", some 'u', .of Value.text fun s c => { c with uid := some s }, none⟩,
    ⟨"device", some 'D', .of Value.path fun s c => { c with device := some s }, none⟩,
    ⟨"baud", some 'b', .of Value.word32 fun n c => { c with baud := n }, none⟩,
    ⟨"databits", some 'd', .of Value.word8 fun n c => { c with dataBits := n }, none⟩,
    ⟨"stopbits", some 's', .of Value.word8 fun n c => { c with stopBits := n }, none⟩,
    ⟨"parity", some 'p', .of Value.text fun s c => { c with parity := s }, none⟩,
    ⟨"mindelay", some 'm', .of Value.word64 fun n c => { c with minDelay := n }, none⟩,
    ⟨"maxlen", some 'l', .of Value.word64 fun n c => { c with maxLen := n }, none⟩,
    ⟨"timeout", some 't', .of Value.word64 fun n c => { c with timeout := n }, none⟩,
    ⟨"north-url", none, .of Value.text fun s c => { c with bus := { c.bus with north := s } },
      some "EZMB_NORTH_URL"⟩,
    ⟨"south-url", none, .of Value.text fun s c => { c with bus := { c.bus with south := s } },
      some "EZMB_SOUTH_URL"⟩,
    ⟨"log-dir", none,
      .of Value.path fun s c => { c with logging := { c.logging with directory := some s } },
      some "EZMB_LOG_DIR"⟩,
    ⟨"log-format", none,
      .of logFormat fun f c => { c with logging := { c.logging with format := f } }, none⟩,
    .help, .version]
  exclusive := [("config", "device")]
  start := {}

/-- Reads the arguments of the collector. -/
def parse (env : List (String × String)) (args : List String) : Except Refusal Collector :=
  command.parse env args

/-- Why there are no ports. -/
inductive PortsError where
  /-- The file is not accepted. -/
  | file (path : String) (cause : LoadError)
  /-- The file describes no port. -/
  | noneUsable (path : String)
  /-- Neither a file nor a device was given. -/
  | neither
  /-- The single port is not accepted. -/
  | invalid (cause : Invalid)

/-- The reasons, outermost first. -/
def PortsError.chain : PortsError → List String
  | .file path cause => ["failed to load port descriptors from " ++ path, cause.message]
  | .noneUsable path => [path ++ " declares no usable ports"]
  | .neither => ["either --config or --device is required"]
  | .invalid cause => [cause.message]

/-- The line of the single port; the rate is looked at first, then the data bits, the stop bits and
the parity. -/
def line (c : Collector) : Except Invalid Line := do
  let baud ← Baud.ofInt c.baud
  let dataBits ← DataBits.ofInt c.dataBits
  let stopBits ← StopBits.ofInt c.stopBits
  let parity ← Parity.ofText c.parity
  return ⟨baud, dataBits, stopBits, parity⟩

/-- The descriptor of the single port at a device. -/
def singlePort (c : Collector) (device : String) : Except Invalid Descriptor := do
  let line ← c.line
  let d : Descriptor :=
    ⟨c.uid.getD (deviceUid (utf8 device)), device, line, c.minDelay, c.maxLen, c.timeout⟩
  d.check
  return d

/-- The descriptors of the ports; `read` gives the content of a file, if there is such a file. -/
def ports (c : Collector) (read : String → Option Bytes) :
    Except PortsError (List Descriptor) :=
  match c.config with
  | some path =>
    match Document.ofFile path (read path) with
    | .error cause => .error (.file path cause)
    | .ok d => if d.ports.isEmpty then .error (.noneUsable path) else .ok d.ports
  | none =>
    match c.device with
    | none => .error .neither
    | some device =>
      match c.singlePort device with
      | .error cause => .error (.invalid cause)
      | .ok d => .ok [d]

end Collector

end Fieldbus
