import Fieldbus.Descriptor.Entry
import Fieldbus.Json.Printer
import Fieldbus.Json.Reader

/-!
# Descriptor documents

A list of entries, either bare or as the member `ports` of an object.

* `Problem`: one line of a report on a document.
* `Document`: the ports of a document, and the number of entries passed over.
* `Document.ofEntries`: reads the entries in order and collects every problem.
* `Document.ofJson`, `Document.ofText`, `Document.ofFile`: from a value, a text, or a file.
* `Document.toJson`: the ports as a document.
-/

namespace Fieldbus

open Json

/-- Something that is wrong with a document. -/
inductive Problem where
  /-- An entry cannot be decoded. -/
  | undecodable (index : Nat) (e : DecodeError)
  /-- A field of a port's entry is not accepted. -/
  | field (uid : String) (fault : Entry.Fault)
  /-- A uid was taken already. -/
  | duplicate (uid : String)

/-- The line that reports a problem. -/
def Problem.message : Problem → String
  | undecodable i e => "entry " ++ toString i ++ ": " ++ e.message
  | field uid f => "port '" ++ uid ++ "': " ++ f.message
  | duplicate uid => "duplicate port uid '" ++ uid ++ "'"

/-- Why a document is not accepted. -/
inductive LoadError where
  /-- The file cannot be read as text. -/
  | unreadable (path : String)
  /-- The text is no JSON document. -/
  | malformed (path : String)
  /-- The document as a whole is not of the right form. -/
  | invalid (cause : Invalid)
  /-- Something is wrong with the entries. -/
  | problems (ps : List Problem)

/-- The wording of a load error. -/
def LoadError.message : LoadError → String
  | unreadable path => "failed to read configuration from " ++ Text.quoted path
  | malformed path => "failed to parse configuration at " ++ Text.quoted path
  | invalid cause => cause.message
  | problems ps =>
    "configuration validation failed:\n" ++ "\n".intercalate (ps.map Problem.message)

/-- The ports that a document describes. -/
structure Document where
  /-- The ports, in the order of the document. -/
  ports : List Descriptor
  /-- The number of entries without a device. -/
  skipped : Nat
  deriving DecidableEq, Repr

namespace Document

/-- A document while its entries are read; lists are held latest first. -/
structure Progress where
  index : Nat := 0
  ports : List Descriptor := []
  skipped : Nat := 0
  problems : List Problem := []

/-- Takes what became of the next entry. A port whose uid is taken is a problem. -/
def Progress.take (s : Progress) : Entry.Outcome → Progress
  | .undecodable e =>
    { s with index := s.index + 1, problems := .undecodable s.index e :: s.problems }
  | .skipped => { s with index := s.index + 1, skipped := s.skipped + 1 }
  | .faulty uid fs =>
    { s with
      index := s.index + 1, problems := (fs.map (Problem.field uid)).reverse ++ s.problems }
  | .port d =>
    if s.ports.any fun p => p.uid = d.uid then
      { s with index := s.index + 1, problems := .duplicate d.uid :: s.problems }
    else { s with index := s.index + 1, ports := d :: s.ports }

/-- Accepts a document that has no problem. -/
def Progress.finish (s : Progress) : Except LoadError Document :=
  if s.problems.isEmpty then .ok ⟨s.ports.reverse, s.skipped⟩
  else .error (.problems s.problems.reverse)

/-- Reads the entries of a document. -/
def ofEntries (vs : List Json) : Except LoadError Document :=
  (vs.foldl (fun (s : Progress) v => s.take (Entry.read v)) {}).finish

/-- Reads a document. -/
def ofJson : Json → Except LoadError Document
  | .arr entries => ofEntries entries
  | .obj members =>
    match member? "ports" members with
    | some (.arr entries) => ofEntries entries
    | _ => .error (.invalid .noPorts)
  | _ => .error (.invalid .notADocument)

/-- Reads the text of a document, which came from `path`. -/
def ofText (path text : String) : Except LoadError Document :=
  match parse? text with
  | none => .error (.malformed path)
  | some v => ofJson v

/-- The path that stands for a text that came from no file. -/
def inlinePath : String := "<inline>"

/-- Reads the file at `path`, given its content, if there is such a file. -/
def ofFile (path : String) (content : Option Bytes) : Except LoadError Document :=
  match content.bind Utf8.decode? with
  | none => .error (.unreadable path)
  | some text => ofText path text

/-- The ports as a document. -/
def toJson (d : Document) : Json :=
  .obj [("ports", .arr (d.ports.map Descriptor.toJson))]

end Document

end Fieldbus
