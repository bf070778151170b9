import Fieldbus.Json.Decode

/-!
# Logging settings

* `LogFormat`: how events are printed.
* `LogSettings`: the format, and where log files go.
* `LogSettings.ofJson`: decodes settings.
-/

namespace Fieldbus

open Json

/-- How log events are printed. -/
inductive LogFormat where
  | structured
  | pretty
  deriving DecidableEq, Repr, Inhabited

namespace LogFormat

/-- The name in documents and on the command line. -/
def label : LogFormat → String
  | structured => "structured-json"
  | pretty => "pretty"

/-- The name as a word of its own. -/
def name : LogFormat → String
  | structured => "StructuredJson"
  | pretty => "Pretty"

/-- Both formats, in the order in which messages list them. -/
def all : List LogFormat := [structured, pretty]

/-- The format with a given label. -/
def ofLabel? (s : String) : Option LogFormat :=
  all.find? fun f => f.label = s

/-- The format with a given label; messages list all labels. -/
def ofLabel (s : String) : Except DecodeError LogFormat :=
  match ofLabel? s with
  | some f => .ok f
  | none => .error (.unknownName s (all.map label))

/-- Decodes a format: its label, or an object whose only member is a null of that name. -/
def ofJson : Json → Except DecodeError LogFormat
  | .str s => ofLabel s
  | .obj members =>
    match canonical members with
    | [(s, v)] =>
      match ofLabel s, v with
      | .ok f, .null => .ok f
      | .ok _, v => .error (.wrongKind v "unit")
      | .error e, _ => .error e
    | _ => .error .notOneMember
  | v => .error (.wrongKind v "string or map")

end LogFormat

/-- Logging settings. -/
structure LogSettings where
  /-- The directory of log files; without it there are none. -/
  directory : Option String := none
  format : LogFormat := .pretty
  /-- What the names of log files begin with, if not the name of the service. -/
  filePrefix : Option String := none
  deriving DecidableEq, Repr, Inhabited

namespace LogSettings

/-- The three fields, each with a default. -/
def record : Record LogSettings where
  name := "LoggingConfig"
  fields := [
    .of "directory" (optional (Json.text "path string")) fun d s => { s with directory := d },
    .of "format" LogFormat.ofJson fun f s => { s with format := f },
    .of "file_prefix" (optional (Json.text aString)) fun p s => { s with filePrefix := p }]
  start := {}
  missing _ := none

/-- Decodes settings. -/
def ofJson (v : Json) : Except DecodeError LogSettings :=
  record.decode v

/-- The settings as a document. -/
def toJson (s : LogSettings) : Json :=
  let orNull (x : Option String) : Json := (x.map Json.str).getD .null
  .obj [("directory", orNull s.directory), ("format", .str s.format.label),
    ("file_prefix", orNull s.filePrefix)]

end LogSettings

end Fieldbus
