import Fieldbus.Bus.Address
import Fieldbus.CommandLine.Arguments

/-!
# The command lines of the operator's utility

* `PublishArgs`, `SubscribeArgs`, `EchoArgs`, `ValidateArgs`: what was given to each command.
* `PublishArgs.parse` and the like: read the arguments.
-/

namespace Fieldbus

/-- The switches for the addresses of the bus. -/
def busSwitches {α : Type} (change : (Addresses → Addresses) → α → α) : List (Switch α) :=
  [⟨"north-url", none, .of Value.text fun s => change fun a => { a with north := s },
      some "EZMB_NORTH_URL"⟩,
    ⟨"south-url", none, .of Value.text fun s => change fun a => { a with south := s },
      some "EZMB_SOUTH_URL"⟩]

/-- What was given for publishing. -/
structure PublishArgs where
  topic : String := ""
  /-- The payload as it was typed. -/
  payload : String := ""
  /-- Whether the payload is in base sixteen. -/
  hex : Bool := false
  /-- How often it is published. -/
  count : Nat := 1
  /-- The time between two of them, in milliseconds. -/
  interval : Nat := 1000
  /-- The addresses of the bus. -/
  bus : Addresses := .standard
  deriving DecidableEq, Repr, Inhabited

namespace PublishArgs

/-- The switches and the operand for publishing. -/
def command : Command PublishArgs where
  switches := [
    ⟨"topic", some 't', .of Value.text fun s a => { a with topic := s }, none⟩,
    ⟨"hex", none, .flag fun a => { a with hex := true }, none⟩,
    ⟨"count", some 'n', .of Value.word32 fun n a => { a with count := n }, none⟩,
    ⟨"interval-ms", none, .of Value.word64 fun n a => { a with interval := n }, none⟩] ++
    busSwitches (fun f a => { a with bus := f a.bus }) ++ [.help]
  operands := [("payload", fun s a => .ok { a with payload := s })]
  required := ["topic", "payload"]
  start := {}

/-- Reads the arguments for publishing. -/
def parse (env : List (String × String)) (args : List String) : Except Refusal PublishArgs :=
  command.parse env args

end PublishArgs

/-- What was given for subscribing. -/
structure SubscribeArgs where
  /-- The prefixes of the topics to follow, latest first. -/
  latestTopics : List String := []
  /-- The number of frames after which to end. -/
  count : Option Nat := none
  /-- The addresses of the bus. -/
  bus : Addresses := .standard
  deriving DecidableEq, Repr, Inhabited

namespace SubscribeArgs

/-- The switches for subscribing. -/
def command : Command SubscribeArgs where
  switches := [
    ⟨"topic", some 't', .values fun s a => .ok { a with latestTopics := s :: a.latestTopics },
      none⟩,
    ⟨"count", some 'n', .of Value.word64 fun n a => { a with count := some n }, none⟩] ++
    busSwitches (fun f a => { a with bus := f a.bus }) ++ [.help]
  start := {}

/-- Reads the arguments for subscribing. -/
def parse (env : List (String × String)) (args : List String) : Except Refusal SubscribeArgs :=
  command.parse env args

/-- The prefixes to follow: everything, if none is given. -/
def topics (a : SubscribeArgs) : List String :=
  if a.latestTopics.isEmpty then [""] else a.latestTopics.reverse

end SubscribeArgs

/-- What was given for echoing. -/
structure EchoArgs where
  uid : String := "mon1"
  bus : Addresses := .standard
  deriving DecidableEq, Repr, Inhabited

namespace EchoArgs

/-- The switches for echoing. -/
def command : Command EchoArgs where
  switches := [⟨"uid", some 'u', .of Value.text fun s a => { a with uid := s }, none⟩] ++
    busSwitches (fun f a => { a with bus := f a.bus }) ++ [.help]
  start := {}

/-- Reads the arguments for echoing. -/
def parse (env : List (String × String)) (args : List String) : Except Refusal EchoArgs :=
  command.parse env args

end EchoArgs

/-- What was given for checking a descriptor file. -/
structure ValidateArgs where
  file : String := ""
  /-- Whether the document is to be printed in normal form. -/
  json : Bool := false
  deriving DecidableEq, Repr, Inhabited

namespace ValidateArgs

/-- The switch and the operand for checking a descriptor file. -/
def command : Command ValidateArgs where
  switches := [⟨"json", none, .flag fun a => { a with json := true }, none⟩, .help]
  operands := [("file", fun s a => (Value.path s).map fun f => { a with file := f })]
  required := ["file"]
  start := {}

/-- Reads the arguments for checking a descriptor file. -/
def parse (env : List (String × String)) (args : List String) : Except Refusal ValidateArgs :=
  command.parse env args

end ValidateArgs

end Fieldbus
