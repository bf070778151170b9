import Fieldbus.Invalid
import Fieldbus.Json

/-!
# Decoding values

Reading settings from JSON values, field by field.

* `DecodeError`: why a value cannot be decoded.
* `integer`, `text`, `optional`: decoders of single values.
* `Record`: a list of named fields.
* `Record.decode`: an object gives its fields by name, an array gives them by position.
-/

namespace Fieldbus.Json

/-- Why a value cannot be decoded. -/
inductive DecodeError where
  /-- The value is of another kind. -/
  | wrongKind (found : Json) (expected : String)
  /-- A number does not fit. -/
  | outOfRange (n : Int) (expected : String)
  /-- A field that has no default is not given. -/
  | missing (name : String)
  /-- An array has more items than there are fields. -/
  | tooMany (count : Nat)
  /-- An array has fewer items than fields that have no default. -/
  | tooFew (count : Nat) (expected : String)
  /-- A name is none of those known. -/
  | unknownName (name : String) (known : List String)
  /-- An object that should have one member has another number of them. -/
  | notOneMember
  /-- The value is of the right kind, but not accepted. -/
  | invalid (cause : Invalid)

/-- A list of names, as messages show it. -/
def alternatives (names : List String) : String :=
  " or ".intercalate (names.map fun n => "\x60" ++ n ++ "\x60")

/-- The wording of a decoding error. -/
def DecodeError.message : DecodeError → String
  | .wrongKind v expected => "invalid type: " ++ v.describe ++ ", expected " ++ expected
  | .outOfRange n expected => "invalid value: " ++ (int n).describe ++ ", expected " ++ expected
  | .missing name => "missing field \x60" ++ name ++ "\x60"
  | .tooMany n => "invalid length " ++ toString n ++ ", expected fewer elements in array"
  | .tooFew n expected => "invalid length " ++ toString n ++ ", expected " ++ expected
  | .unknownName name known =>
    "unknown variant \x60" ++ name ++ "\x60, expected " ++ alternatives known
  | .notOneMember => "invalid value: map, expected map with a single key"
  | .invalid cause => cause.message

/-! ## Single values -/

/-- A range of whole numbers with a name. -/
structure IntRange where
  name : String
  low : Int
  high : Int

/-- Bytes. -/
def u8 : IntRange := ⟨"u8", 0, Nat.pow 2 8 - 1⟩

/-- Unsigned numbers of 32 bits. -/
def u32 : IntRange := ⟨"u32", 0, Nat.pow 2 32 - 1⟩

/-- Signed numbers of 64 bits. -/
def i64 : IntRange := ⟨"i64", -Nat.pow 2 63, Nat.pow 2 63 - 1⟩

/-- A whole number within a range. -/
def integer (range : IntRange) : Json → Except DecodeError Int
  | int n => if range.low ≤ n ∧ n ≤ range.high then .ok n else .error (.outOfRange n range.name)
  | v => .error (.wrongKind v range.name)

/-- A text. -/
def text (expected : String) : Json → Except DecodeError String
  | str s => .ok s
  | v => .error (.wrongKind v expected)

/-- A text of any content, as messages call it. -/
def aString : String := "a string"

/-- A value that may be null. -/
def optional {α : Type} (read : Json → Except DecodeError α) : Json → Except DecodeError (Option α)
  | null => .ok none
  | v => (read v).map some

/-- A value that is decoded and then checked. -/
def checked {α β : Type} (read : Json → Except DecodeError α) (check : α → Except Invalid β)
    (v : Json) : Except DecodeError β :=
  match read v with
  | .error e => .error e
  | .ok a =>
    match check a with
    | .error cause => .error (.invalid cause)
    | .ok b => .ok b

/-! ## Records -/

/-- A named field of a record, with the reader that fills it in. -/
structure Field (α : Type) where
  name : String
  /-- Decodes a value and puts it into the record. -/
  read : Json → α → Except DecodeError α

/-- A field from a decoder and the change that it makes. -/
def Field.of {α β : Type} (name : String) (read : Json → Except DecodeError β) (put : β → α → α) :
    Field α :=
  ⟨name, fun v r => (read v).map fun b => put b r⟩

/-- A list of named fields. -/
structure Record (α : Type) where
  name : String
  /-- The fields in their order. -/
  fields : List (Field α)
  /-- The record of the defaults. -/
  start : α
  /-- The first field that has no default and was not given. -/
  missing : α → Option String

namespace Record

variable {α : Type} (R : Record α)

/-- What messages call a value of the record. -/
def expected : String := "struct " ++ R.name

/-- Takes one member of an object; members of other names are passed over. -/
def takeMember (r : α) (m : String × Json) : Except DecodeError α :=
  match R.fields.find? fun f => f.name = m.1 with
  | some f => f.read m.2 r
  | none => .ok r

/-- Takes the items of an array, one for each field; gives the items that are left over. -/
def takeItems : List (Field α) → List Json → α → Except DecodeError (α × List Json)
  | f :: fs, v :: vs, r =>
    match f.read v r with
    | .error e => .error e
    | .ok r => takeItems fs vs r
  | [], vs, r => .ok (r, vs)
  | _ :: _, [], r => .ok (r, [])

/-- Decodes a record. The members of an object are taken in the order of their names, the items of
an array in the order of the fields. -/
def decode : Json → Except DecodeError α
  | obj members =>
    match (canonical members).foldlM R.takeMember R.start with
    | .error e => .error e
    | .ok r =>
      match R.missing r with
      | some name => .error (.missing name)
      | none => .ok r
  | arr items =>
    match takeItems R.fields items R.start with
    | .error e => .error e
    | .ok (r, rest) =>
      if (R.missing r).isSome then
        .error (.tooFew items.length
          (R.expected ++ " with " ++ toString R.fields.length ++ " elements"))
      else if rest.isEmpty then .ok r
      else .error (.tooMany items.length)
  | v => .error (.wrongKind v R.expected)

end Record

end Fieldbus.Json
