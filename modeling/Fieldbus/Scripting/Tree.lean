import Fieldbus.Scripting.Number

/-!
# Trees of scripts

What a source says, as expressions and statements.

* `UnaryOp`, `BinaryOp`: the operators, with how tightly they bind.
* `Expr`, `Stmt`: expressions and statements.
* `jumpsOk`: whether every jump of a function finds its label.
-/

namespace Fieldbus.Scripting

/-! ## Operators -/

/-- The operators with one operand. -/
inductive UnaryOp where
  | neg
  | not
  | length
  | bitNot
  deriving DecidableEq, Repr

/-- The operators with two operands. -/
inductive BinaryOp where
  | add
  | sub
  | mul
  | mod
  | pow
  | div
  | floorDiv
  | bitAnd
  | bitOr
  | bitXor
  | shiftLeft
  | shiftRight
  | concat
  | eq
  | less
  | atMost
  | notEq
  | greater
  | atLeast
  | and
  | or
  deriving DecidableEq, Repr

/-- The operator that a mark stands for in front of an operand. -/
def UnaryOp.ofMark? (s : String) : Option UnaryOp :=
  (([("not", .not), ("-", .neg), ("~", .bitNot), ("#", .length)] :
    List (String × UnaryOp)).find? fun o => o.1 = s).map Prod.snd

/-- How tightly operators with one operand bind. -/
def UnaryOp.tightness : Nat := 12

/-- The operators with two operands: the mark, and how tightly it binds to the left and to the
right. -/
def BinaryOp.table : List (String × BinaryOp × Nat × Nat) :=
  [("+", .add, 10, 10), ("-", .sub, 10, 10), ("*", .mul, 11, 11), ("%", .mod, 11, 11),
    ("^", .pow, 14, 13), ("/", .div, 11, 11), ("//", .floorDiv, 11, 11), ("&", .bitAnd, 6, 6),
    ("|", .bitOr, 4, 4), ("~", .bitXor, 5, 5), ("<<", .shiftLeft, 7, 7), (">>", .shiftRight, 7, 7),
    ("..", .concat, 9, 8), ("==", .eq, 3, 3), ("<", .less, 3, 3), ("<=", .atMost, 3, 3),
    ("~=", .notEq, 3, 3), (">", .greater, 3, 3), (">=", .atLeast, 3, 3), ("and", .and, 2, 2),
    ("or", .or, 1, 1)]

/-- The operator that a mark stands for between operands, and how tightly it binds to the left and
to the right. -/
def BinaryOp.ofMark? (s : String) : Option (BinaryOp × Nat × Nat) :=
  (table.find? fun o => o.1 = s).map Prod.snd

/-! ## Expressions and statements -/

/-- What is special about a local variable. -/
inductive Attribute where
  | plain
  /-- It cannot be assigned to. -/
  | constant
  /-- It cannot be assigned to, and its value is closed at the end of the block. -/
  | closed
  deriving DecidableEq, Repr

mutual

/-- An expression. -/
inductive Expr where
  | nil
  | truth (b : Bool)
  | number (n : Number)
  | text (s : Bytes)
  /-- The further arguments of the function. -/
  | further
  | name (s : String)
  /-- A function: its parameters, whether it takes further arguments, and its body. -/
  | function (params : List String) (further : Bool) (body : List Stmt)
  /-- A part of a value. -/
  | index (e key : Expr)
  | call (f : Expr) (args : List Expr)
  /-- A call of a part of a value, which is handed the value. -/
  | method (e : Expr) (name : String) (args : List Expr)
  /-- An operator with one operand. -/
  | unary (op : UnaryOp) (e : Expr)
  /-- An operator with two operands. -/
  | binary (op : BinaryOp) (l r : Expr)
  /-- An expression in parentheses, which has one value. -/
  | group (e : Expr)
  /-- A table: its items in order, and keys with their values. -/
  | table (fields : List Field)

/-- A field of a table. -/
inductive Field where
  | item (e : Expr)
  | keyed (key e : Expr)

/-- A statement. -/
inductive Stmt where
  /-- The statements that follow stand on a line. -/
  | line (n : Nat)
  | declare (names : List (String × Attribute)) (values : List Expr)
  /-- A local function is declared; it can call itself. -/
  | define (name : String) (f : Expr)
  | assign (targets values : List Expr)
  | run (e : Expr)
  | block (body : List Stmt)
  /-- A block is repeated while a condition holds. -/
  | loop (condition : Expr) (body : List Stmt)
  /-- One of two blocks, by a condition. -/
  | choose (condition : Expr) (yes no : List Stmt)
  /-- A block is repeated for the numbers of a range. -/
  | count (name : String) (range : List Expr) (body : List Stmt)
  /-- A block is repeated for what an iterator gives. -/
  | each (names : List String) (values : List Expr) (body : List Stmt)
  | give (values : List Expr)
  | leave
  | jump (label : String)
  | label (name : String)

end

/-- An expression that has one value wherever it stands. -/
def Expr.single : Expr → Expr
  | .call f args => .group (.call f args)
  | .method e m args => .group (.method e m args)
  | .further => .group .further
  | e => e

/-! ## Jumps -/

/-- Whether nothing is left to do in a block. -/
def Stmt.isVoid : Stmt → Bool
  | .line _ | .label _ => true
  | _ => false

/-- The labels of a block. -/
def labelsOf (body : List Stmt) : List String :=
  body.filterMap fun s => match s with
    | .label name => some name
    | _ => none

/-- Whether a statement declares a local variable. -/
def Stmt.declares : Stmt → Bool
  | .declare .. | .define .. => true
  | _ => false

/-- Whether a statement is a certain label. -/
def Stmt.isLabel (label : String) : Stmt → Bool
  | .label s => s == label
  | _ => false

/-- Whether a jump from in front of some statements to a label among them is allowed: it does not
enter the scope of a local variable, unless nothing is left to do there. -/
def reaches (label : String) (body : List Stmt) : Bool :=
  !((body.takeWhile fun s => !s.isLabel label).any Stmt.declares) ||
    (body.dropWhile fun s => !s.isLabel label).all Stmt.isVoid

mutual

/-- The labels that a statement jumps to and that are not its own; nothing if a jump is not
allowed. `around` are the labels that stand in front of it in the blocks around it. -/
def Stmt.jumps? (around : List String) : Stmt → Option (List String)
  | .block body => blockJumps? around [] body
  | .loop _ body => blockJumps? around [] body
  | .count _ _ body => blockJumps? around [] body
  | .each _ _ body => blockJumps? around [] body
  | .choose _ yes no => do
    return (← blockJumps? around [] yes) ++ (← blockJumps? around [] no)
  | .jump l => some [l]
  | .line _ | .declare .. | .define .. | .assign .. | .run _ | .give _ | .leave | .label _ =>
    some []

/-- The labels that a block jumps to and that are not its own; `passed` are those of its labels that
stand in front of the statements. -/
def blockJumps? (around passed : List String) : List Stmt → Option (List String)
  | [] => some []
  | .label name :: r =>
    if (passed ++ around).contains name then none else blockJumps? around (name :: passed) r
  | s :: r => do
    let out ← s.jumps? (passed ++ around)
    let out := out.filter fun l => !passed.contains l
    if out.any fun l => (labelsOf r).contains l && !reaches l r then none
    else
      let rest ← blockJumps? around passed r
      return out.filter (fun l => !(labelsOf r).contains l) ++ rest

end

/-- Whether every jump of a function finds its label. Those of the functions in it are their own
business. -/
def jumpsOk (body : List Stmt) : Bool := (blockJumps? [] [] body) matches some []

end Fieldbus.Scripting
