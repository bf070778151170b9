import Fieldbus.Bytes

/-!
# Arguments of a command

A command has switches, which are named, and operands, which are not. The arguments are taken from
left to right. The value of a switch may be attached to it or be the next argument; in the latter
case it is looked at only when the next switch or operand comes, or at the end.

* `Refusal`: why arguments are not accepted.
* `Switch`, `Command`: what a command accepts, and the record that its arguments fill in.
* `Command.parse`: the record that a list of arguments spells.
-/

namespace Fieldbus

/-- Why arguments are not accepted. -/
inductive Refusal where
  /-- A switch or operand that the command does not have. -/
  | unknown
  /-- A value is missing, empty, or none of those listed. -/
  | badValue
  /-- A number cannot be read. -/
  | badNumber
  /-- A value for a switch that takes none. -/
  | extraValue
  /-- A switch that is given twice, or one that excludes another. -/
  | conflict
  /-- Something that has to be given is not. -/
  | missing
  /-- The help text is asked for. -/
  | help
  /-- The version is asked for. -/
  | version
  deriving DecidableEq, Repr

/-! ## Values -/

namespace Value

/-- Any text. -/
def text (s : String) : Except Refusal String := .ok s

/-- A path, which is not empty. -/
def path (s : String) : Except Refusal String :=
  if s = "" then .error .badValue else .ok s

/-- The number that decimal digits spell, if there are only digits and at least one. -/
def digits? (cs : List Char) : Option Nat :=
  if cs.isEmpty || !cs.all Char.isDigit then none
  else some (cs.foldl (fun n c => n * 10 + (c.toNat - 48)) 0)

/-- A number below a bound, with or without a plus sign. -/
def below (bound : Nat) (cs : List Char) : Except Refusal Nat :=
  match digits? (match cs with | '+' :: r => r | cs => cs) with
  | some n => if n < bound then .ok n else .error .badNumber
  | none => .error .badNumber

/-- A number of at most 64 bits. -/
def word64 (s : String) : Except Refusal Nat := below (Nat.pow 2 64) s.toList

/-- A shorter number, which is read as a signed one first, so that a zero may have a minus sign. -/
def shorter (bound : Nat) (s : String) : Except Refusal Nat :=
  match s.toList with
  | '-' :: r => if digits? r = some 0 then .ok 0 else .error .badNumber
  | cs => below bound cs

/-- A number of at most 32 bits. -/
def word32 (s : String) : Except Refusal Nat := shorter (Nat.pow 2 32) s

/-- A number of at most 8 bits. -/
def word8 (s : String) : Except Refusal Nat := shorter (Nat.pow 2 8) s

end Value

/-! ## Commands -/

/-- What a switch does to the record that is filled in. -/
inductive Action (α : Type) where
  | flag (set : α → α)
  | value (take : String → α → Except Refusal α)
  /-- It takes a value, and may be given more than once. -/
  | values (take : String → α → Except Refusal α)
  /-- It asks for the help text. -/
  | help
  /-- It asks for the version. -/
  | version

/-- A value that is read and then put into the record. -/
def Action.of {α β : Type} (read : String → Except Refusal β) (put : β → α → α) : Action α :=
  .value fun s r => (read s).map fun b => put b r

/-- A switch. -/
structure Switch (α : Type) where
  /-- The name after two dashes. -/
  long : String
  /-- The letter after one dash. -/
  short : Option Char := none
  action : Action α
  /-- The environment variable that stands in for it. -/
  environment : Option String := none

/-- The switch for the help text, which every command has. -/
def Switch.help {α : Type} : Switch α := ⟨"help", some 'h', .help, none⟩

/-- The switch for the version. -/
def Switch.version {α : Type} : Switch α := ⟨"version", some 'V', .version, none⟩

/-- What a command accepts. Operands are values that are given in a fixed order. -/
structure Command (α : Type) where
  switches : List (Switch α)
  /-- The operands, each with the name under which it counts as given. -/
  operands : List (String × (String → α → Except Refusal α)) := []
  /-- Pairs of which only one may be given. -/
  exclusive : List (String × String) := []
  /-- What has to be given. -/
  required : List String := []
  /-- The record before anything is given. -/
  start : α

namespace Command

variable {α : Type}

/-- Something that takes a value which is still to be looked at. -/
structure Pending (α : Type) where
  name : String
  /-- Whether it may be given more than once. -/
  repeatable : Bool
  /-- What is to be done with the value. -/
  take : String → α → Except Refusal α
  /-- The value, once it came. -/
  value : Option String

/-- How far the arguments have been taken. -/
structure Progress (α : Type) where
  record : α
  /-- The names of what was given. -/
  given : List String := []
  /-- What has a value still to be looked at, or still to come. -/
  pending : Option (Pending α) := none
  /-- Whether the next argument may be the value that is still to come. -/
  waiting : Bool := false
  operandsOnly : Bool := false
  /-- The number of operands so far. -/
  operandCount : Nat := 0

/-- Looks at the value of something that was given; all but the repeatable are given once only. -/
def Progress.accept (p : Progress α) (q : Pending α) : Except Refusal (Progress α) :=
  match q.value with
  | none => .error .badValue
  | some v =>
    if !q.repeatable && p.given.contains q.name then .error .conflict
    else (q.take v p.record).map fun r => { p with record := r, given := q.name :: p.given }

/-- Looks at what is pending. -/
def Progress.settle (p : Progress α) : Except Refusal (Progress α) :=
  match p.pending with
  | none => .ok { p with waiting := false }
  | some q => { p with pending := none, waiting := false }.accept q

/-- Takes a switch without a value attached. -/
def Progress.takeBare (p : Progress α) (s : Switch α) : Except Refusal (Progress α) := do
  let p ← p.settle
  match s.action with
  | .flag set =>
    if p.given.contains s.long then throw .conflict
    return { p with record := set p.record, given := s.long :: p.given }
  | .value take => return { p with pending := some ⟨s.long, false, take, none⟩, waiting := true }
  | .values take => return { p with pending := some ⟨s.long, true, take, none⟩, waiting := true }
  | .help => throw .help
  | .version => throw .version

/-- Takes a switch with a value attached. -/
def Progress.takeAttached (p : Progress α) (s : Switch α) (v : String) :
    Except Refusal (Progress α) :=
  match s.action with
  | .value take => do (← p.settle).accept ⟨s.long, false, take, some v⟩
  | .values take => do (← p.settle).accept ⟨s.long, true, take, some v⟩
  | .flag _ | .help | .version => .error .extraValue

/-- Whether a switch takes a value. -/
def takesValue (s : Switch α) : Bool :=
  match s.action with
  | .value _ | .values _ => true
  | .flag _ | .help | .version => false

variable (c : Command α)

/-- Takes the name of a switch, with a value after an equals sign if there is one. -/
def takeLong (p : Progress α) (cs : List Char) : Except Refusal (Progress α) :=
  let name := String.ofList (cs.takeWhile (· ≠ '='))
  match c.switches.find? fun s => s.long = name with
  | none => .error .unknown
  | some s =>
    match cs.dropWhile (· ≠ '=') with
    | [] => p.takeBare s
    | _ :: v => p.takeAttached s (String.ofList v)

/-- Takes the letters of switches. The first that takes a value has the rest for it, with or
without an equals sign. -/
def takeLetters (p : Progress α) : List Char → Except Refusal (Progress α)
  | [] => .ok p
  | l :: r =>
    match c.switches.find? fun s => s.short = some l with
    | none => .error .unknown
    | some s =>
      if takesValue s then
        match r with
        | [] => p.takeBare s
        | '=' :: v => p.takeAttached s (String.ofList v)
        | v => p.takeAttached s (String.ofList v)
      else
        match p.takeBare s with
        | .error e => .error e
        | .ok p => takeLetters p r

/-- Takes an operand. -/
def takeOperand (p : Progress α) (a : String) : Except Refusal (Progress α) :=
  match c.operands[p.operandCount]? with
  | none => .error .unknown
  | some (name, take) => do
    let p ← p.settle
    return { p with
      pending := some ⟨name, false, take, some a⟩, operandCount := p.operandCount + 1 }

/-- Takes something that names no switch: the value that is still to come, or an operand. -/
def takePlain (p : Progress α) (a : String) : Except Refusal (Progress α) :=
  if p.waiting then
    .ok { p with pending := p.pending.map fun q => { q with value := some a }, waiting := false }
  else c.takeOperand p a

/-- Takes one argument. -/
def step (p : Progress α) (a : String) : Except Refusal (Progress α) :=
  if p.operandsOnly then c.takeOperand p a
  else
    match a.toList with
    | ['-', '-'] => .ok { p with operandsOnly := true }
    | '-' :: '-' :: cs => c.takeLong p cs
    | '-' :: l :: cs => c.takeLetters p (l :: cs)
    | _ => c.takePlain p a

/-- Takes the value of a switch from the environment, unless the switch was given. -/
def fromEnvironment (env : List (String × String)) (p : Progress α) (s : Switch α) :
    Except Refusal (Progress α) :=
  match s.environment.bind fun v => (env.find? fun e => e.1 = v).map Prod.snd, s.action with
  | some v, .value take | some v, .values take =>
    if p.given.contains s.long then .ok p
    else p.accept ⟨s.long, false, take, some v⟩
  | _, _ => .ok p

/-- The record that the arguments spell. What was given is checked at the end: first for pairs that
exclude each other, then for what is missing. -/
def parse (env : List (String × String)) (args : List String) : Except Refusal α := do
  let p ← args.foldlM c.step { record := c.start }
  let p ← p.settle
  let p ← c.switches.foldlM (fromEnvironment env) p
  if c.exclusive.any fun (a, b) => p.given.contains a && p.given.contains b then throw .conflict
  if c.required.any fun a => !p.given.contains a then throw .missing
  return p.record

end Command

end Fieldbus
