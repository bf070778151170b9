import Fieldbus.Descriptor.Listing
import Fieldbus.Plant.Operator

/-!
# The operator's utility as a program

* `Utility.run`: what becomes of a list of arguments.
* `Utility.outputText`, `Utility.errorText`, `Utility.exitCode`: how this is told to the outside.
-/

namespace Fieldbus

/-- How a refusal is told. -/
def Refusal.message : Refusal → String
  | unknown => "unknown argument"
  | badValue => "a value is missing or not one of those allowed"
  | badNumber => "a number cannot be read"
  | extraValue => "a value for a switch that takes none"
  | conflict => "arguments that exclude each other"
  | missing => "a required argument is missing"
  | help => "commands: validate, publish, subscribe, echo"
  | version => "fieldbus"

namespace Utility

/-- The addresses of the bus that the environment gives. -/
def bus (env : List (String × String)) : Addresses :=
  let setting (name fallback : String) : String :=
    ((env.find? fun e => e.1 = name).map Prod.snd).getD fallback
  ⟨setting "EZMB_NORTH_URL" Addresses.standard.north,
    setting "EZMB_SOUTH_URL" Addresses.standard.south⟩

/-- Checks a descriptor file, where `read` gives the content of a file if there is one. -/
def validate (env : List (String × String)) (read : String → Option Bytes) (args : List String) :
    CommandResult :=
  match ValidateArgs.parse env args with
  | .error e => .refused e
  | .ok a =>
    match Document.validate a.file (read a.file) a.json with
    | .error chain => .failed chain
    | .ok output => .printed output

/-- The file that arguments name, if the command is one that reads a file. -/
def fileOf? (env : List (String × String)) : List String → Option String
  | "validate" :: args =>
    match ValidateArgs.parse env args with
    | .ok a => some a.file
    | .error _ => none
  | _ => none

/-- What becomes of a list of arguments. The commands for the bus run on a bus without other peers.
-/
def run (env : List (String × String)) (read : String → Option Bytes) : List String → CommandResult
  | "validate" :: args => validate env read args
  | "publish" :: args => ((Plant.bare (bus env)).operatorPublish args).1
  | "subscribe" :: args => ((Plant.bare (bus env)).operatorSubscribe args []).1
  | "echo" :: args => ((Plant.bare (bus env)).operatorEcho args []).1
  | "-h" :: _ | "--help" :: _ | "help" :: _ => .refused .help
  | "-V" :: _ | "--version" :: _ => .refused .version
  | [] => .refused .help
  | _ :: _ => .refused .unknown

/-- What goes to the output. -/
def outputText : CommandResult → String
  | .printed output => output
  | .refused .help => Refusal.message .help ++ "\n"
  | .refused .version => Refusal.message .version ++ "\n"
  | .refused _ | .failed _ => ""

/-- The reasons of a failure, one to a line. -/
def reasons : List String → String
  | [] => ""
  | [cause] => "\n\nCaused by:\n    " ++ cause
  | causes =>
    "\n\nCaused by:" ++ String.join (causes.zipIdx.map fun (cause, i) =>
      "\n    " ++ toString i ++ ": " ++ cause)

/-- What goes to the error output. -/
def errorText : CommandResult → String
  | .printed _ | .refused .help | .refused .version => ""
  | .refused e => "error: " ++ e.message ++ "\n"
  | .failed [] => "Error\n"
  | .failed (first :: causes) => "Error: " ++ first ++ reasons causes ++ "\n"

/-- The exit code: one for a failure, two for arguments that are not accepted. -/
def exitCode : CommandResult → UInt32
  | .printed _ | .refused .help | .refused .version => 0
  | .failed _ => 1
  | .refused _ => 2

end Utility

end Fieldbus
