import Fieldbus.Scripting.Value

/-!
# Frames

A script runs on a stack of frames. The topmost one says what becomes of the values that are being
computed, or what follows the statement that is being run; below it lies what waits for that.

* `Env`: what a place in a script can see.
* `Control`: what is being done.
* `Goal`: what is to be done with values.
* `Frame`: what waits on the stack.
-/

namespace Fieldbus.Scripting

/-- What a place in a script can see. -/
structure Env where
  /-- The variables, by the places of their values, the latest first. -/
  vars : List (String × Nat) := []
  /-- The further arguments of the function. -/
  further : List Value := []
  /-- The name of the script. -/
  source : String := ""
  line : Nat := 0

namespace Env

/-- The place of a variable. -/
def place? (env : Env) (name : String) : Option Nat :=
  (env.vars.find? fun v => v.1 = name).map Prod.snd

/-- Where errors say that they arose. -/
def position (env : Env) : String := env.source ++ ":" ++ toString env.line ++ ": "

end Env

/-- What is being done. -/
inductive Control where
  /-- Expressions are computed one after the other; the values so far, the latest first. -/
  | compute (done : List Value) (es : List Expr) (env : Env)
  | values (vs : List Value)
  | next
  | raise (v : Value)
  /-- The innermost loop is left. -/
  | leave
  /-- A label is looked for. -/
  | jump (label : String)
  | give (vs : List Value)

/-- Where a value is to be put. -/
inductive Target where
  | cell (place : Nat)
  | part (v key : Value)

/-- What is to be done with values. -/
inductive Goal where
  /-- The first one is called with the others. -/
  | call
  /-- The first one is looked into with the second as a key. -/
  | index
  /-- An operator with one operand. -/
  | unary (op : UnaryOp)
  /-- An operator with two operands. -/
  | binary (op : BinaryOp)
  /-- Only the first one counts. -/
  | first
  /-- The other operand counts if the first one has a given truth value. -/
  | other (truth : Bool) (r : Expr)
  /-- A part of the first one is called, with the first one in front of the arguments. -/
  | method (name : String) (args : List Expr)
  /-- The first one is called, with a value in front of the arguments. -/
  | callOn (self : Value) (args : List Expr)
  /-- They are arguments of a function, with a value in front of them. -/
  | hand (f self : Value)
  /-- They are the contents of a table; of a keyed field there are a key and a value. -/
  | construct (keyed : List Bool)
  /-- They are the values of new variables. -/
  | declare (names : List (String × Attribute))
  /-- They are what targets are made of, and then what is put there. -/
  | assign (targets : List Expr)
  /-- The first one decides between two blocks. -/
  | choose (yes no : List Stmt)
  /-- The first one decides whether a loop goes on. -/
  | loop (condition : Expr) (body : List Stmt)
  /-- They are the range of a loop. -/
  | count (name : String) (body : List Stmt)
  /-- They are an iterator, what it works on, where it starts, and what is closed at the end. -/
  | each (names : List String) (body : List Stmt)
  /-- They are what an iterator gave. -/
  | iterate (names : List String) (f v : Value) (body : List Stmt)
  | give
  | discard
  /-- The truth value of the first one, or its opposite. -/
  | truth (opposite : Bool)
  /-- They do not count; more values are to be put somewhere. -/
  | store (rest : List (Target × Value))

/-- What waits on the stack. -/
inductive Frame where
  /-- Something is to be done with the values. -/
  | goal (g : Goal) (env : Env)
  /-- More expressions are to be computed. -/
  | operands (done : List Value) (rest : List Expr) (env : Env)
  /-- More statements are to be run. The labels that were passed, with what stands behind them. -/
  | block (passed : List (String × List Stmt × Env)) (rest : List Stmt) (env : Env)
  /-- A loop with a condition. -/
  | loop (condition : Expr) (body : List Stmt) (env : Env)
  /-- A loop over a range: the value, the number of turns that are left, and the step. -/
  | count (name : String) (value : Number) (left : Nat) (step : Number) (body : List Stmt)
    (env : Env)
  /-- A loop over a range of floating point numbers: the value, the limit, and the step. -/
  | countReal (name : String) (value limit step : Float) (body : List Stmt) (env : Env)
  /-- A loop with an iterator: what it works on, and what it gave last. -/
  | each (names : List String) (f v last : Value) (body : List Stmt) (env : Env)
  /-- A function was called; how deep calls lay in each other, and where it was called. -/
  | activation (depth : Nat) (caller : String)
  /-- Errors end here; a function may be called with them. -/
  | guard (handler : Option Value) (depth : Nat)
  /-- A function was called with an error. -/
  | handling
  /-- A value is closed at the end of the block. -/
  | closing (v : Value)
  /-- Something goes on after a value was closed. -/
  | resume (c : Control)
  | coroutine (place depth : Nat)

end Fieldbus.Scripting
