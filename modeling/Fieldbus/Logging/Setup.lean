import Fieldbus.FileTree
import Fieldbus.Logging.Event
import Fieldbus.Text.Utf8

/-!
# Setting up the log

A service opens its log once. If a directory is given, it is made, and a file is begun in it for the
day.

* `LogSetup`: the files in the directory and the event that reports it.
* `LogSetup.open?`: sets up the log in a tree of files.
-/

namespace Fieldbus

/-- A log that was set up. -/
structure LogSetup where
  /-- The names in the directory of log files, without their dates. -/
  files : List String
  /-- The events that were logged. -/
  events : List LogEvent

namespace LogSetup

/-- A directory, as the log shows it. -/
def showDirectory : Option String → String
  | none => "None"
  | some d => "Some(" ++ Text.quoted d ++ ")"

/-- The event that reports the settings. -/
def report (service : String) (settings : LogSettings) : LogEvent :=
  ⟨.info, [("service", service), ("log_dir", showDirectory settings.directory),
    ("format", settings.format.name), ("message", "tracing initialised")]⟩

/-- The name of the log file of a service, without a date. -/
def fileName (service : String) (settings : LogSettings) : String :=
  settings.filePrefix.getD service ++ ".log"

/-- The length of a date with the dot in front. -/
def dateLength : Nat := 11

/-- Whether some characters are a dot and a date: a year, a month and a day. -/
def isDate : List Char → Bool
  | ['.', a, b, c, d, '-', e, f, '-', g, h] => [a, b, c, d, e, f, g, h].all Char.isDigit
  | _ => false

/-- A name without its date. -/
def undated (name : String) : String :=
  let cs := name.toList
  let n := cs.length - dateLength
  if isDate (cs.drop n) then String.ofList (cs.take n) else name

/-- The names in a directory without their dates, in order. -/
def listing (tree : FileTree) (directory : Way) : List String :=
  ((tree.names directory).map fun name => undated (Utf8.lossy name)).mergeSort

/-- Begins the log file of a day. There is none if its name cannot be used. -/
def begin (tree : FileTree) (directory name day : String) : FileTree :=
  match Way.ofPath (utf8 (Path.join directory (name ++ "." ++ day))) with
  | .error _ => tree
  | .ok way => (tree.appendAll way).toOption.getD tree

/-- Sets up the log of a service in a tree of files; `day` is the date. -/
def open? (tree : FileTree) (day service : String) (settings : LogSettings) :
    Except FileFault LogSetup := do
  match settings.directory with
  | none => return ⟨[], [report service settings]⟩
  | some directory =>
    let way ← Way.ofPath (utf8 directory)
    let tree ← tree.makeAll way
    let tree := begin tree directory (fileName service settings) day
    return ⟨listing tree way, [report service settings]⟩

end LogSetup

end Fieldbus
