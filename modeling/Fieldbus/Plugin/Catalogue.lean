import Fieldbus.Plugin.Library
import Fieldbus.Plugin.Script
import Fieldbus.Text.Hex

/-!
# A catalogue of plugins

Ready-made functions for scripts and libraries, each under a name, and scripts put together from
them. The functions of a script share a counter.

* `Catalogue.scriptFunction?`, `Catalogue.libraryFunction?`: the functions by name.
* `Catalogue.registered`: what a script puts in the place of a function.
* `Catalogue.Recipe`: how a script is put together.
-/

namespace Fieldbus.Catalogue

/-! ## Changes of payloads -/

/-- A letter in upper case; other bytes stay. -/
def upperByte (b : UInt8) : UInt8 :=
  if 97 ≤ b ∧ b ≤ 122 then b - 32 else b

/-- A letter in lower case; other bytes stay. -/
def lowerByte (b : UInt8) : UInt8 :=
  if 65 ≤ b ∧ b ≤ 90 then b + 32 else b

/-- A byte with some of its bits turned over. -/
def maskByte (b : UInt8) : UInt8 := b ^^^ 0x5A

/-- The sum of some bytes, modulo 256. -/
def sum (bs : Bytes) : UInt8 := bs.foldl (· + ·) 0

/-- The number of bytes, in decimal. -/
def lengthText (bs : Bytes) : Bytes := utf8 (toString bs.length)

/-! ## Functions of scripts -/

/-- A function that only looks at the payload. -/
def plain (f : Bytes → Scalar) : ScriptFunction Nat := fun input s => (.ok (f input), s)

/-- A function that gives a byte string. -/
def bytewise (f : Bytes → Bytes) : ScriptFunction Nat := plain fun input => .string (f input)

/-- A function that always raises an error. -/
def failing : ScriptFunction Nat := fun _ s => (.error {}, s)

/-- A function that counts its calls and appends the count. -/
def counting : ScriptFunction Nat := fun input s =>
  (.ok (.string (input ++ utf8 (toString (s + 1)))), s + 1)

/-- A function that raises an error at payloads that start with an exclamation mark, gives nothing
for those that start with a question mark, and leaves the others as they are. -/
def guarded : ScriptFunction Nat := fun input s =>
  match input with
  | 0x21 :: _ => (.error {}, s)
  | 0x3F :: _ => (.ok .nil, s)
  | _ => (.ok (.string input), s)

/-- The functions of scripts. -/
def scriptFunctions : List (String × ScriptFunction Nat) :=
  [("upper", bytewise (List.map upperByte)),
    ("lower", bytewise (List.map lowerByte)),
    ("reverse", bytewise List.reverse),
    ("identity", bytewise id),
    ("double", bytewise fun bs => bs ++ bs),
    ("append_len", bytewise fun bs => bs ++ lengthText bs),
    ("len", plain fun bs => .integer bs.length),
    ("first", bytewise (List.take 1)),
    ("drop_first", bytewise (List.drop 1)),
    ("checksum", bytewise fun bs => bs ++ [sum bs]),
    ("xor5a", bytewise (List.map maskByte)),
    ("hex", bytewise fun bs => utf8 (String.ofList (bs.flatMap Hex.upper))),
    ("counter", counting),
    ("two_values", bytewise id),
    ("nul", bytewise fun _ => [0]),
    ("int", plain fun _ => .integer 42),
    ("neg_int", plain fun _ => .integer (-7)),
    ("float", plain fun _ => .number "1.5"),
    ("whole_float", plain fun _ => .number "3.0"),
    ("huge_float", plain fun _ => .number "1e+100"),
    ("inf", plain fun _ => .number "inf"),
    ("guarded", guarded),
    ("nil", plain fun _ => .nil),
    ("none", plain fun _ => .nil),
    ("empty", bytewise fun _ => []),
    ("true", plain fun _ => .boolean true),
    ("false", plain fun _ => .boolean false),
    ("table", plain fun _ => .table),
    ("function", plain fun _ => .function),
    ("error_string", failing),
    ("error_table", failing),
    ("error_nil", failing),
    ("bad_call", failing)]

/-- The function of scripts with a given name. -/
def scriptFunction? (name : String) : Option (ScriptFunction Nat) :=
  (scriptFunctions.find? fun f => f.1 = name).map Prod.snd

/-- Values that are no functions. -/
def oddValues : List (String × Scalar) :=
  [("@int", .integer 1), ("@float", .number "1.5"), ("@string", .string []),
    ("@true", .boolean true), ("@false", .boolean false), ("@table", .table),
    ("@thread", .thread)]

/-- What a script puts in the place of a function, by name: a function of the catalogue, one that
is built into the interpreter, a value that is no function, or else nothing. -/
def registered (name : Option String) : Registered Nat :=
  match name with
  | none => .value .nil
  | some name =>
    match scriptFunction? name with
    | some f => .function f
    | none =>
      if name = "@builtin" then .function (bytewise (List.map upperByte))
      else .value (((oddValues.find? fun v => v.1 = name).map Prod.snd).getD .nil)

/-! ## Scripts -/

/-- What a script does with its entry function. -/
inductive Shape where
  | defined
  /-- It defines it where the host cannot see it, or as something that is no function. -/
  | hidden
  /-- It defines it twice; the second registers a reversal for payloads that go south. -/
  | redefined
  /-- It cannot be read, or raises an error. -/
  | broken
  deriving DecidableEq, Repr

/-- The shapes by name. -/
def shapes : List (String × Shape) :=
  [("ok", .defined), ("local", .hidden), ("not_function", .hidden), ("callable_table", .hidden),
    ("empty", .hidden), ("syntax_error", .broken), ("runtime_error", .broken),
    ("redefined", .redefined)]

/-- What an entry function gives, apart from the table that it was handed. -/
inductive Gift where
  /-- The table that it was handed, or one through which that can be seen. -/
  | handed
  /-- Another table, which is empty. -/
  | emptyTable
  | value (v : Scalar)
  | error
  deriving DecidableEq, Repr

/-- The gifts by name. -/
def gifts : List (String × Gift) :=
  [("table", .handed), ("proxy", .handed), ("empty_table", .emptyTable), ("error", .error),
    ("nil", .value .nil), ("none", .value .nil), ("int", .value (.integer 5)),
    ("float", .value (.number "1.5")), ("string", .value (.string [])),
    ("true", .value (.boolean true)), ("function", .value .function)]

/-- How a script is put together. -/
structure Recipe where
  /-- What it does with its entry function. -/
  shape : Shape := .defined
  /-- What the entry function gives. -/
  gift : Gift := .handed
  /-- What it registers for payloads that go north. -/
  north : Option String := none
  /-- What it registers for payloads that go south. -/
  south : Option String := none

/-- What the entry function of a recipe gives. -/
def Recipe.returned (r : Recipe) : Except ScriptError (Returned Nat) :=
  match r.gift with
  | .handed => .ok (.table (registered r.north) (registered r.south))
  | .emptyTable => .ok (.table (.value .nil) (.value .nil))
  | .value v => .ok (.value v)
  | .error => .error {}

/-- The script of a recipe. -/
def Recipe.script (r : Recipe) : Script Nat :=
  match r.shape with
  | .defined => .ok (some r.returned)
  | .hidden => .ok none
  | .redefined => .ok (some (.ok (.table (.value .nil) (registered (some "reverse")))))
  | .broken => .error {}

/-! ## Libraries -/

/-- A callback that leaves a buffer behind. -/
def buffered (f : Bytes → Bytes) : LibraryFunction Nat := fun input s => (.data (f input), s)

/-- A callback that leaves no buffer behind. -/
def unbuffered (size : Nat) : LibraryFunction Nat := fun _ s => (.null size, s)

/-- The functions of libraries. -/
def libraryFunctions : List (String × LibraryFunction Nat) :=
  [("upper", buffered (List.map upperByte)),
    ("reverse", buffered List.reverse),
    ("identity", buffered id),
    ("double", buffered fun bs => bs ++ bs),
    ("xor5a", buffered (List.map maskByte)),
    ("null", unbuffered 0),
    ("null_sized", unbuffered 16),
    ("zero_len", buffered fun _ => []),
    ("untouched", unbuffered 0)]

/-- The function of libraries with a given name. -/
def libraryFunction? (name : String) : Option (LibraryFunction Nat) :=
  (libraryFunctions.find? fun f => f.1 = name).map Prod.snd

/-- The library that reports a status and registers functions of the catalogue. -/
def library (status : Int) (north south : Option String) : Library Nat :=
  .entry ⟨status, north.bind libraryFunction?, south.bind libraryFunction?⟩

end Fieldbus.Catalogue
