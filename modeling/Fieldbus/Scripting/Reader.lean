import Fieldbus.Scripting.Token
import Fieldbus.Scripting.Tree

/-!
# Reading scripts

The reader goes down the grammar. What a name may be used for depends on where it stands: the scope
holds the local variables that are visible, and whether there is a loop to leave.

* `Scope`: what is known about a place in a script.
* `Reader`: a reader takes lexical elements off the front, or fails.
* `readScript?`: the body of a script.
-/

namespace Fieldbus.Scripting

/-! ## Scopes -/

/-- What is known about a place in a script. -/
structure Scope where
  /-- The local variables that are visible, the latest first. -/
  locals : List (String × Attribute) := []
  /-- How many of them belong to the innermost function. -/
  count : Nat := 0
  /-- Whether the innermost function takes further arguments. -/
  further : Bool := true
  /-- Whether there is a loop to leave. -/
  inLoop : Bool := false
  /-- How deep expressions and statements lie in each other. -/
  depth : Nat := 0

namespace Scope

/-- The number of local variables that a function can have at a time. -/
def maxLocals : Nat := 200

/-- The depth to which expressions and statements may lie in each other. -/
def maxDepth : Nat := 199

/-- Declares variables; `hidden` more are there that have no name. -/
def declare (sc : Scope) (names : List (String × Attribute)) (hidden : Nat) : Option Scope :=
  let count := sc.count + hidden + names.length
  if maxLocals < count then none
  else some { sc with locals := names.reverse ++ sc.locals, count := count }

/-- The scope of the body of a function. -/
def enter (sc : Scope) (params : List String) (further : Bool) : Option Scope :=
  { sc with count := 0, further := further, inLoop := false }.declare
    (params.map fun p => (p, .plain)) 0

/-- One level deeper. -/
def deeper (sc : Scope) : Option Scope :=
  if sc.depth < maxDepth then some { sc with depth := sc.depth + 1 } else none

/-- Whether a variable can be assigned to. -/
def assignable (sc : Scope) (name : String) : Bool :=
  match sc.locals.find? fun v => v.1 = name with
  | some (_, a) => a == .plain
  | none => true

end Scope

/-! ## Readers -/

/-- A reader takes lexical elements off the front, or fails. -/
abbrev Reader (α : Type) := StateT (List Lexeme) Option α

namespace Reader

/-- The next element, which stays. -/
def peek : Reader (Option Token) := fun ls => some (ls.head?.map Lexeme.token, ls)

/-- The mark that comes next, or an empty text. -/
def peekMark : Reader String := fun ls =>
  match ls with
  | ⟨.mark m, _⟩ :: _ => some (m, ls)
  | _ => some ("", ls)

/-- Takes the next element off. -/
def skip : Reader Unit := fun ls => some ((), ls.tail)

/-- The line that was reached. -/
def line : Reader Nat := fun ls => some ((ls.head?.map Lexeme.line).getD 0, ls)

/-- Takes a mark off, if it comes next. -/
def accept (m : String) : Reader Bool := do
  if (← peekMark) = m then
    skip
    return true
  return false

/-- Takes off a mark that has to come next. -/
def expect (m : String) : Reader Unit := do
  if ← accept m then return else failure

/-- Takes off a name that has to come next. -/
def name : Reader String := fun ls =>
  match ls with
  | ⟨.name s, _⟩ :: r => some (s, r)
  | _ => none

/-- Takes off a name that is followed by an equality sign, with the sign. -/
def namedField? : Reader (Option String) := fun ls =>
  match ls with
  | ⟨.name s, _⟩ :: ⟨.mark m, _⟩ :: r => if m = "=" then some (some s, r) else some (none, ls)
  | _ => some (none, ls)

/-- Whether a block ends here. -/
def blockEnds : Reader Bool := fun ls =>
  match ls with
  | [] => some (true, ls)
  | ⟨.mark m, _⟩ :: _ => some (["else", "elseif", "end", "until"].contains m, ls)
  | _ => some (false, ls)

/-- Names with commas between them, of which the first was read. The first argument bounds their
number. -/
def moreNames : Nat → Reader (List String)
  | 0 => failure
  | n + 1 => do
    if ← accept "," then
      let s ← name
      return s :: (← moreNames n)
    return []

/-- Parameters up to the closing parenthesis, and whether further arguments are taken. -/
def parameters : Nat → Reader (List String × Bool)
  | 0 => failure
  | n + 1 => do
    if ← accept "..." then
      expect ")"
      return ([], true)
    let s ← name
    if ← accept "," then
      let (ss, further) ← parameters n
      return (s :: ss, further)
    expect ")"
    return ([s], false)

/-- The attribute of a variable that is being declared. -/
def special : Reader Attribute := do
  if ← accept "<" then
    let s ← name
    expect ">"
    if s = "const" then return .constant
    if s = "close" then return .closed
    failure
  return .plain

/-- Variables that are being declared, with commas between them. -/
def declared : Nat → Reader (List (String × Attribute))
  | 0 => failure
  | n + 1 => do
    let s ← name
    let a ← special
    if ← accept "," then return (s, a) :: (← declared n)
    return [(s, a)]

/-- The key of the part that a name stands for. -/
def key (s : String) : Expr := .text (utf8 s)

/-- The variable that a function is assigned to, with its parts; whether it is to be a method. -/
def functionName (n : Nat) (e : Expr) : Reader (Expr × Bool) :=
  match n with
  | 0 => failure
  | n + 1 => do
    if ← accept "." then
      let s ← name
      functionName n (.index e (key s))
    else if ← accept ":" then
      let s ← name
      return (.index e (key s), true)
    else return (e, false)

/-- Whether an expression can be assigned to. -/
def isTarget (sc : Scope) : Expr → Bool
  | .name s => sc.assignable s
  | .index .. => true
  | _ => false

mutual

/-- An expression, up to an operator that does not bind more tightly than `limit`. -/
def expr : Nat → Scope → Nat → Reader Expr
  | 0, _, _ => failure
  | n + 1, sc, limit => do
    let sc ← sc.deeper
    let m ← peekMark
    match UnaryOp.ofMark? m with
    | some op =>
      skip
      let e ← expr n sc UnaryOp.tightness
      operators n sc limit (.unary op e)
    | none =>
      let e ← simple n sc
      operators n sc limit e

/-- The operators that follow an operand, as far as they bind more tightly than `limit`. -/
def operators : Nat → Scope → Nat → Expr → Reader Expr
  | 0, _, _, _ => failure
  | n + 1, sc, limit, l => do
    let m ← peekMark
    match BinaryOp.ofMark? m with
    | some (op, left, right) =>
      if limit < left then
        skip
        let r ← expr n sc right
        operators n sc limit (.binary op l r)
      else return l
    | none => return l

/-- An operand. -/
def simple : Nat → Scope → Reader Expr
  | 0, _ => failure
  | n + 1, sc => do
    match ← peek with
    | some (.number x) => do
      skip
      return .number x
    | some (.text s) => do
      skip
      return .text s
    | some (.mark m) =>
      if m = "nil" then do
        skip
        return .nil
      else if m = "true" ∨ m = "false" then do
        skip
        return .truth (m == "true")
      else if m = "..." then do
        skip
        if sc.further then return .further else failure
      else if m = "\x7b" then do
        skip
        let fields ← fields n sc
        return .table fields
      else if m = "function" then do
        skip
        function n sc []
      else suffixed n sc
    | _ => suffixed n sc

/-- A variable or an expression in parentheses, with its parts and calls. -/
def suffixed : Nat → Scope → Reader Expr
  | 0, _ => failure
  | n + 1, sc => do
    if ← accept "(" then
      let e ← expr n sc 0
      expect ")"
      suffixes n sc (.group e)
    else
      let s ← name
      suffixes n sc (.name s)

/-- The parts and calls that follow an expression. -/
def suffixes : Nat → Scope → Expr → Reader Expr
  | 0, _, _ => failure
  | n + 1, sc, e => do
    match ← peek with
    | some (.text s) => do
      skip
      suffixes n sc (.call e [.text s])
    | some (.mark m) =>
      if m = "." then do
        skip
        let s ← name
        suffixes n sc (.index e (key s))
      else if m = "[" then do
        skip
        let k ← expr n sc 0
        expect "]"
        suffixes n sc (.index e k)
      else if m = ":" then do
        skip
        let s ← name
        let args ← arguments n sc
        suffixes n sc (.method e s args)
      else if m = "(" ∨ m = "\x7b" then do
        let args ← arguments n sc
        suffixes n sc (.call e args)
      else return e
    | _ => return e

/-- The arguments of a call. -/
def arguments : Nat → Scope → Reader (List Expr)
  | 0, _ => failure
  | n + 1, sc => do
    match ← peek with
    | some (.text s) => do
      skip
      return [.text s]
    | some (.mark m) =>
      if m = "\x7b" then do
        skip
        let fields ← fields n sc
        return [.table fields]
      else if m = "(" then do
        skip
        if ← accept ")" then return []
        let args ← exprs n sc
        expect ")"
        return args
      else failure
    | _ => failure

/-- Expressions with commas between them. -/
def exprs : Nat → Scope → Reader (List Expr)
  | 0, _ => failure
  | n + 1, sc => do
    let e ← expr n sc 0
    if ← accept "," then
      let es ← exprs n sc
      return e :: es
    return [e]

/-- The fields of a table up to the closing brace. -/
def fields : Nat → Scope → Reader (List Field)
  | 0, _ => failure
  | n + 1, sc => do
    if ← accept "\x7d" then return []
    let f ← field n sc
    if (← accept ",") || (← accept ";") then
      let fs ← fields n sc
      return f :: fs
    expect "\x7d"
    return [f]

/-- A field of a table. -/
def field : Nat → Scope → Reader Field
  | 0, _ => failure
  | n + 1, sc => do
    if ← accept "[" then
      let k ← expr n sc 0
      expect "]"
      expect "="
      let e ← expr n sc 0
      return .keyed k e
    match ← namedField? with
    | some s => do
      let e ← expr n sc 0
      return .keyed (key s) e
    | none => do
      let e ← expr n sc 0
      return .item e

/-- The parameters and the body of a function; `first` are parameters that are not written. -/
def function : Nat → Scope → List String → Reader Expr
  | 0, _, _ => failure
  | n + 1, sc, first => do
    expect "("
    let (params, further) ← if ← accept ")" then pure ([], false) else parameters n
    let params := first ++ params
    let inner ← sc.enter params further
    let (body, _) ← block n inner
    expect "end"
    if jumpsOk body then return .function params further body else failure

/-- A block, and the scope at its end. -/
def block : Nat → Scope → Reader (List Stmt × Scope)
  | 0, _ => failure
  | n + 1, sc => do
    if ← blockEnds then return ([], sc)
    let here ← line
    if ← accept "return" then
      let es ← if (← blockEnds) || (← peekMark) = ";" then pure [] else exprs n sc
      let _ ← accept ";"
      if ← blockEnds then return ([.line here, .give es], sc) else failure
    let (ss, sc) ← statement n sc
    let (rest, sc) ← block n sc
    return (.line here :: ss ++ rest, sc)

/-- A statement, which may be empty, and the scope after it. -/
def statement : Nat → Scope → Reader (List Stmt × Scope)
  | 0, _ => failure
  | n + 1, sc => do
    let inner ← sc.deeper
    let m ← peekMark
    if m = "local" then do
      skip
      declaration n sc inner
    else do
      let ss ←
        if m = ";" then do
          skip
          pure []
        else if m = "if" then do
          skip
          choice n inner
        else if m = "while" then do
          skip
          let c ← expr n inner 0
          expect "do"
          let (body, _) ← block n { inner with inLoop := true }
          expect "end"
          pure [.loop c body]
        else if m = "do" then do
          skip
          let (body, _) ← block n inner
          expect "end"
          pure [.block body]
        else if m = "for" then do
          skip
          iteration n inner
        else if m = "repeat" then do
          skip
          let (body, last) ← block n { inner with inLoop := true }
          expect "until"
          let here ← line
          let c ← expr n last 0
          pure [.loop (.truth true) (body ++ [.line here, .choose c [.leave] []])]
        else if m = "function" then do
          skip
          let s ← name
          let (target, isMethod) ← functionName n (.name s)
          let f ← function n inner (if isMethod then ["self"] else [])
          if isTarget sc target then pure [.assign [target] [f]] else failure
        else if m = "::" then do
          skip
          let s ← name
          expect "::"
          pure [.label s]
        else if m = "break" then do
          skip
          if sc.inLoop then pure [.leave] else failure
        else if m = "goto" then do
          skip
          let s ← name
          pure [.jump s]
        else action n inner
      return (ss, sc)

/-- What follows the word `local`. -/
def declaration : Nat → Scope → Scope → Reader (List Stmt × Scope)
  | 0, _, _ => failure
  | n + 1, sc, inner => do
    if ← accept "function" then
      let s ← name
      let sc ← sc.declare [(s, .plain)] 0
      let f ← function n { inner with locals := sc.locals, count := sc.count } []
      return ([.define s f], sc)
    let vars ← declared n
    if 1 < (vars.filter fun v => v.2 = .closed).length then failure
    let es ← if ← accept "=" then exprs n inner else pure []
    let sc ← sc.declare vars 0
    return ([.declare vars es], sc)

/-- What follows the word `if` or `elseif`. -/
def choice : Nat → Scope → Reader (List Stmt)
  | 0, _ => failure
  | n + 1, sc => do
    let here ← line
    let c ← expr n sc 0
    expect "then"
    let (yes, _) ← block n sc
    if ← accept "elseif" then
      let no ← choice n sc
      return [.line here, .choose c yes no]
    if ← accept "else" then
      let (no, _) ← block n sc
      expect "end"
      return [.line here, .choose c yes no]
    expect "end"
    return [.line here, .choose c yes []]

/-- What follows the word `for`. -/
def iteration : Nat → Scope → Reader (List Stmt)
  | 0, _ => failure
  | n + 1, sc => do
    let s ← name
    if ← accept "=" then
      let range ← exprs n sc
      if range.length = 2 ∨ range.length = 3 then
        expect "do"
        let inner ← { sc with inLoop := true }.declare [(s, .plain)] 3
        let (body, _) ← block n inner
        expect "end"
        return [.count s range body]
      failure
    let more ← moreNames n
    expect "in"
    let es ← exprs n sc
    expect "do"
    let inner ← { sc with inLoop := true }.declare ((s :: more).map fun v => (v, .plain)) 4
    let (body, _) ← block n inner
    expect "end"
    return [.each (s :: more) es body]

/-- A call or an assignment. -/
def action : Nat → Scope → Reader (List Stmt)
  | 0, _ => failure
  | n + 1, sc => do
    let e ← suffixed n sc
    let m ← peekMark
    if m = "=" ∨ m = "," then
      let targets ← targets n sc
      expect "="
      let es ← exprs n sc
      if (e :: targets).all (isTarget sc) then return [.assign (e :: targets) es] else failure
    match e with
    | .call .. | .method .. => return [.run e]
    | _ => failure

/-- What is assigned to, after the first one. -/
def targets : Nat → Scope → Reader (List Expr)
  | 0, _ => failure
  | n + 1, sc => do
    if ← accept "," then
      let e ← suffixed n sc
      let es ← targets n sc
      return e :: es
    return []

end

end Reader

/-- The body of a script; nothing if the source is no script. Every step of the reader but a few
takes an element off, so that their number bounds the steps. -/
def readScript? (source : Bytes) : Option (List Stmt) := do
  let ls ← Lexeme.ofChars? (source.map fun b => Char.ofNat b.toNat)
  let ((body, _), rest) ← (Reader.block (16 * ls.length + 16) {}).run ls
  if rest.isEmpty && jumpsOk body then some body else none

end Fieldbus.Scripting
