import Fieldbus.Scripting.Library
import Fieldbus.Scripting.Operator
import Fieldbus.Scripting.Reader

/-!
# Running scripts

A machine that makes one step at a time. What is being done, the stack and the heap are all of its
state, so that loops, errors, jumps and coroutines are matters of the stack alone.

* `Machine`: the state.
* `Machine.invoke`: a value is called.
* `Machine.step`: a step.
* `Machine.run`: steps until nothing is left to do.
-/

namespace Fieldbus.Scripting

/-- A script that is being run. -/
structure Machine where
  heap : Heap
  control : Control
  stack : List Frame
  /-- How deep calls lie in each other. -/
  depth : Nat

namespace Machine

/-- The depth to which calls may lie in each other. -/
def maxDepth : Nat := 199990

/-- Raises an error with a text; `position` says where. -/
def fail (h : Heap) (k : List Frame) (d : Nat) (position message : String) : Machine :=
  ⟨h, .raise (.ofString (position ++ message)), k, d⟩

/-- Goes on with values. -/
def answer (h : Heap) (k : List Frame) (d : Nat) (vs : List Value) : Machine :=
  ⟨h, .values vs, k, d⟩

/-! ## Functions that are built in and reach for the stack -/

/-- Where the function that is running was called. -/
def callerOf (k : List Frame) : String :=
  (k.findSome? fun f => match f with
    | .activation _ caller => some caller
    | _ => none).getD ""

/-- The coroutines that are running, the innermost first. -/
def runningIn (k : List Frame) : List Nat :=
  k.filterMap fun f => match f with
    | .coroutine place _ => some place
    | _ => none

/-- Raises an error; a text is preceded by where it arose, which `level` tells. -/
def raise (h : Heap) (k : List Frame) (d : Nat) (caller : String) (args : List Value) : Machine :=
  let v := firstOf args
  let level : Int := ((args[1]?.bind Value.whole?).map Int64.toInt).getD 1
  let position := if level = 1 then caller else if level = 2 then callerOf k else ""
  match v with
  | .text s => ⟨h, .raise (.text (utf8 position ++ s)), k, d⟩
  | v => ⟨h, .raise v, k, d⟩

/-- The function that runs a script with some global variables. -/
def scriptFunction (h : Heap) (name : String) (globals : Value) (body : List Stmt) : Value × Heap :=
  let (place, h) := h.addCell globals
  h.addClosure ⟨[], true, body, [("_ENV", place)], name⟩

/-- The function that runs a script. -/
def program (h : Heap) (name : String) (body : List Stmt) : Value × Heap :=
  scriptFunction h name (.table h.globals) body

/-- Reads a script and gives a function that runs it. -/
def load (h : Heap) (k : List Frame) (d : Nat) (args : List Value) : Machine :=
  match args with
  | .text source :: rest =>
    match readScript? source with
    | none => answer h k d [.nil, .ofString "syntax error"]
    | some body =>
      let globals := (rest[2]?).getD (.table h.globals)
      let (f, h) := scriptFunction h "[string]" globals body
      answer h k d [f]
  | _ => answer h k d [.nil, .ofString "bad argument #1 to 'load'"]

/-- The state of a coroutine, in a word. -/
def statusOf (h : Heap) (k : List Frame) (place : Nat) : String :=
  match h.coroutines[place]? with
  | some (.fresh _) | some (.paused _) => "suspended"
  | some .active => if (runningIn k).head? = some place then "running" else "normal"
  | some .dead | none => "dead"

/-- Halts the innermost coroutine, which gives values to who resumed it. -/
def yield (h : Heap) (k : List Frame) (d : Nat) (caller : String) (args : List Value) : Machine :=
  let frames := k.takeWhile fun f => !(f matches .coroutine ..)
  match k.dropWhile fun f => !(f matches .coroutine ..) with
  | .coroutine place d :: k =>
    answer (h.setCoroutine place (.paused frames)) k d (.truth true :: args)
  | _ => fail h k d caller "attempt to yield from outside a coroutine"

/-- The functions on coroutines that do not run any. -/
def inspect (h : Heap) (k : List Frame) (d : Nat) (caller name : String) (args : List Value) :
    Machine :=
  match name, args with
  | "coroutine.create", f :: _ =>
    if Heap.isFunction f then
      let (co, h) := h.addCoroutine f
      answer h k d [co]
    else fail h k d caller "bad argument #1 to 'create' (function expected)"
  | "coroutine.status", .thread place :: _ => answer h k d [.ofString (statusOf h k place)]
  | "coroutine.running", _ =>
    match runningIn k with
    | place :: _ => answer h k d [.thread place, .truth false]
    | [] => answer h k d [.thread h.coroutines.size, .truth true]
  | "coroutine.isyieldable", _ => answer h k d [.truth !(runningIn k).isEmpty]
  | "coroutine.close", .thread place :: _ =>
    if statusOf h k place = "suspended" ∨ statusOf h k place = "dead" then
      answer (h.setCoroutine place .dead) k d [.truth true]
    else fail h k d caller "cannot close a running coroutine"
  | _, _ => fail h k d caller "bad argument #1 (coroutine expected)"

/-! ## Calls -/

/-- Calls a value. The last argument but two bounds the number of values that are called for another
one; `caller` says where the call stands. -/
def invoke (h : Heap) (k : List Frame) (d : Nat) (caller : String) :
    Nat → Value → List Value → Machine
  | 0, _, _ => fail h k d caller "C stack overflow"
  | _ + 1, .function place, args =>
    match h.closures[place]? with
    | none => fail h k d caller "attempt to call a function value"
    | some c =>
      if maxDepth ≤ d then fail h k d caller "stack overflow"
      else
        let (vars, h) := h.addCells c.vars c.params args
        let further := if c.takesFurther then args.drop c.params.length else []
        ⟨h, .next, .block [] c.body ⟨vars, further, c.source, 0⟩ :: .activation d caller :: k,
          d + 1⟩
  | n + 1, .builtin name, args =>
    match name, args with
    | "error", args => raise h k d caller args
    | "load", args => load h k d args
    | "pcall", f :: args => invoke h (.guard none d :: k) d "" n f args
    | "xpcall", f :: handler :: args => invoke h (.guard (some handler) d :: k) d "" n f args
    | "coroutine.yield", args => yield h k d caller args
    | "coroutine.resume", .thread place :: args =>
      match h.coroutines[place]? with
      | some (.fresh f) =>
        invoke (h.setCoroutine place .active) (.coroutine place d :: k) d "" n f args
      | some (.paused frames) =>
        answer (h.setCoroutine place .active) (frames ++ .coroutine place d :: k) d args
      | _ => answer h k d [.truth false, .ofString "cannot resume dead coroutine"]
    | name, args =>
      if name.startsWith "coroutine." then inspect h k d caller name args
      else
        match (Library.call name args).run h with
        | (.ok vs, h) => answer h k d vs
        | (.error message, h) => fail h k d caller message
  | n + 1, v, args =>
    match h.handler v "__call" with
    | .nil => fail h k d caller ("attempt to call a " ++ v.typeName ++ " value")
    | f => invoke h k d caller n f (v :: args)

/-- The number of values that are called for another one. -/
def callLimit : Nat := 200

/-- Calls a value from a place in a script. -/
def call (h : Heap) (k : List Frame) (d : Nat) (env : Env) (f : Value) (args : List Value) :
    Machine :=
  invoke h k d env.position callLimit f args

/-! ## Values -/

/-- Looks into a value. -/
def look (h : Heap) (k : List Frame) (d : Nat) (env : Env) (v key : Value) : Machine :=
  match h.lookup Heap.metaLimit v key with
  | .found v => answer h k d [v]
  | .call f v => call h (.goal .first env :: k) d env f [v, key]
  | .fault message => fail h k d env.position message

/-- Puts values where they belong, one after the other. -/
def store (h : Heap) (k : List Frame) (d : Nat) (env : Env) : List (Target × Value) → Machine
  | [] => ⟨h, .next, k, d⟩
  | (.cell place, v) :: rest => store (h.setCell place v) k d env rest
  | (.part t key, v) :: rest =>
    match h.store Heap.metaLimit t key with
    | .found place => store (h.set place key v) k d env rest
    | .call f t => call h (.goal (.store rest) env :: k) d env f [t, key, v]
    | .fault message => fail h k d env.position message

/-- The handler of an operator, looked for at both operands. -/
def handlerOf (h : Heap) (event : String) (a b : Value) : Value :=
  match h.handler a event with
  | .nil => h.handler b event
  | f => f

/-- Applies an operator with two operands. -/
def binary (h : Heap) (k : List Frame) (d : Nat) (env : Env) (op : BinaryOp) (a b : Value) :
    Machine :=
  match op.apply? a b with
  | some (.ok v) => answer h k d [v]
  | some (.error message) => fail h k d env.position message
  | none =>
    let (a, b) := if op = .greater ∨ op = .atLeast then (b, a) else (a, b)
    let equality := op = .eq ∨ op = .notEq
    match handlerOf h op.event a b with
    | .nil =>
      if equality then answer h k d [.truth (op == .notEq)]
      else
        let (a, b) := if op = .greater ∨ op = .atLeast then (b, a) else (a, b)
        fail h k d env.position (op.complaint a b)
    | f =>
      let goal := if equality ∨ op.compares then Goal.truth (op == .notEq) else .first
      call h (.goal goal env :: k) d env f [a, b]

/-- Applies an operator with one operand. -/
def unary (h : Heap) (k : List Frame) (d : Nat) (env : Env) (op : UnaryOp) (a : Value) : Machine :=
  match op.apply? h a with
  | some (.ok v) => answer h k d [v]
  | some (.error message) => fail h k d env.position message
  | none =>
    match h.handler a op.event with
    | .nil => fail h k d env.position (op.complaint a)
    | f => call h (.goal .first env :: k) d env f [a, a]

/-- Makes a table. What is under keys comes first, then the items. -/
def construct (t : Table) (items : List Value) : List Bool → List Value → Except String Table
  | true :: ks, key :: v :: vs =>
    match Heap.keyFault? key with
    | some message => .error message
    | none => construct (t.set key v) items ks vs
  | [false], vs => .ok (t.withItems (items.reverse ++ vs))
  | false :: ks, v :: vs => construct t (v :: items) ks vs
  | _, _ => .ok (t.withItems items.reverse)

/-! ## Loops -/

/-- The bound of a loop over whole numbers that goes up or down; nothing if it is not run at all. -/
def wholeLimit? (up : Bool) : Number → Option Int
  | .whole n => some n.toInt
  | .real x =>
    if x.isNaN then none
    else
      match (Number.floorOf? x) with
      | some n => some (if up ∨ Float.floor x == x then n else n + 1)
      | none => some (if x > 0 then Number.maxWhole else Number.minWhole)

/-- Begins a loop over a range. -/
def beginCount (h : Heap) (k : List Frame) (d : Nat) (env : Env) (name : String)
    (body : List Stmt) (first limit step : Value) : Machine :=
  let complain (what : String) : Machine :=
    fail h k d env.position ("'for' " ++ what ++ " must be a number")
  match first.number?, limit.number?, step.number? with
  | _, none, _ => complain "limit"
  | _, _, none => complain "step"
  | none, _, _ => complain "initial value"
  | some start, some limit, some stride =>
    match first, step with
    | .number (.whole i), .number (.whole s) =>
      let i := i.toInt
      let s := s.toInt
      if s = 0 then fail h k d env.position "'for' step is zero"
      else
        match wholeLimit? (0 < s) limit with
        | none => ⟨h, .next, k, d⟩
        | some l =>
          let l := max Number.minWhole (min Number.maxWhole l)
          if (0 < s ∧ l < i) ∨ (s < 0 ∧ i < l) then ⟨h, .next, k, d⟩
          else
            let turns := (l - i).natAbs / s.natAbs + 1
            ⟨h, .next, .count name start turns stride body env :: k, d⟩
    | _, _ =>
      let s := stride.toFloat
      if s == 0 then fail h k d env.position "'for' step is zero"
      else ⟨h, .next, .countReal name start.toFloat limit.toFloat s body env :: k, d⟩

/-- Runs the body of a loop with new variables. -/
def turn (h : Heap) (k : List Frame) (d : Nat) (env : Env) (names : List String) (vs : List Value)
    (body : List Stmt) : Machine :=
  let (vars, h) := h.addCells env.vars names vs
  ⟨h, .next, .block [] body { env with vars := vars } :: k, d⟩

/-- Begins a loop with an iterator. -/
def beginEach (h : Heap) (k : List Frame) (d : Nat) (env : Env) (names : List String)
    (body : List Stmt) (vs : List Value) : Machine :=
  let v (i : Nat) : Value := (vs[i]?).getD .nil
  let k := if (v 3).isTrue then .closing (v 3) :: k else k
  ⟨h, .next, .each names (v 0) (v 1) (v 2) body env :: k, d⟩

/-! ## Statements -/

/-- Declares variables in the block that is being run. A value that is to be closed waits below the
rest of the block. -/
def declare (h : Heap) (k : List Frame) (d : Nat) (env : Env) (names : List (String × Attribute))
    (vs : List Value) : Machine :=
  let (vars, h) := h.addCells env.vars (names.map Prod.fst) vs
  let env := { env with vars := vars }
  match k with
  | .block passed rest _ :: k =>
    match names.findIdx? fun n => n.2 = .closed with
    | none => ⟨h, .next, .block passed rest env :: k, d⟩
    | some i =>
      let v := (vs[i]?).getD .nil
      if !v.isTrue then ⟨h, .next, .block passed rest env :: k, d⟩
      else if (h.handler v "__close").isNil then
        fail h (.block passed rest env :: k) d env.position "variable got a non-closable value"
      else ⟨h, .next, .block [] rest env :: .closing v :: .block passed [] env :: k, d⟩
  | k => ⟨h, .next, k, d⟩

/-- What targets are made of. -/
def targetParts (env : Env) : List Expr → List Expr
  | .index e key :: r => e.single :: key.single :: targetParts env r
  | .name s :: r =>
    if (env.place? s).isSome then targetParts env r else .name "_ENV" :: targetParts env r
  | _ :: r => targetParts env r
  | [] => []

/-- The targets, and the values that are left for them. -/
def takeTargets (env : Env) : List Expr → List Value → List Target × List Value
  | .index _ _ :: r, v :: key :: vs =>
    let (ts, vs) := takeTargets env r vs
    (.part v key :: ts, vs)
  | .name s :: r, vs =>
    match env.place? s, vs with
    | some place, vs =>
      let (ts, vs) := takeTargets env r vs
      (.cell place :: ts, vs)
    | none, v :: vs =>
      let (ts, vs) := takeTargets env r vs
      (.part v (.ofString s) :: ts, vs)
    | none, [] => ([], [])
  | _, vs => ([], vs)

/-- Targets with their values. -/
def withValues : List Target → List Value → List (Target × Value)
  | [], _ => []
  | t :: ts, vs => (t, firstOf vs) :: withValues ts vs.tail

/-- Whether the calls that are running wait for values to be closed. -/
def closesValues : List Frame → Bool
  | .closing _ :: _ => true
  | .activation .. :: _ | [] => false
  | _ :: k => closesValues k

/-- What waits for the function that is running, and how deep that lies. -/
def below (d : Nat) : List Frame → List Frame × Nat
  | .activation d _ :: k => (k, d)
  | _ :: k => below d k
  | [] => ([], d)

/-- Gives values back. A call in the last place needs nothing of the function that it stands in. -/
def giveBack (h : Heap) (k : List Frame) (d : Nat) (env : Env) (es : List Expr) : Machine :=
  let plain : Machine := ⟨h, .compute [] es env, .goal .give env :: k, d⟩
  match es with
  | [.call _ _] | [.method _ _ _] =>
    if closesValues k then plain
    else
      let (k, d) := below d k
      ⟨h, .compute [] es env, k, d⟩
  | _ => plain

/-- Runs a statement. -/
def execute (h : Heap) (k : List Frame) (d : Nat) (env : Env) : Stmt → Machine
  | .line _ | .label _ => ⟨h, .next, k, d⟩
  | .declare names es => ⟨h, .compute [] es env, .goal (.declare names) env :: k, d⟩
  | .define name f =>
    match f with
    | .function params further body =>
      let (place, h) := h.addCell .nil
      let env := { env with vars := (name, place) :: env.vars }
      let (f, h) := h.addClosure ⟨params, further, body, env.vars, env.source⟩
      let h := h.setCell place f
      match k with
      | .block passed rest _ :: k => ⟨h, .next, .block passed rest env :: k, d⟩
      | k => ⟨h, .next, k, d⟩
    | _ => ⟨h, .next, k, d⟩
  | .assign targets es =>
    ⟨h, .compute [] (targetParts env targets ++ es) env, .goal (.assign targets) env :: k, d⟩
  | .run e => ⟨h, .compute [] [e] env, .goal .discard env :: k, d⟩
  | .block body => ⟨h, .next, .block [] body env :: k, d⟩
  | .loop c body => ⟨h, .next, .loop c body env :: k, d⟩
  | .choose c yes no => ⟨h, .compute [] [c] env, .goal (.choose yes no) env :: k, d⟩
  | .count name range body =>
    ⟨h, .compute [] (range.map Expr.single) env, .goal (.count name body) env :: k, d⟩
  | .each names es body => ⟨h, .compute [] es env, .goal (.each names body) env :: k, d⟩
  | .give es => giveBack h k d env es
  | .leave => ⟨h, .leave, k, d⟩
  | .jump label => ⟨h, .jump label, k, d⟩

/-! ## Expressions -/

/-- The expressions in the fields of a table. -/
def fieldParts : List Field → List Expr
  | [] => []
  | .item e :: r => e :: fieldParts r
  | .keyed key e :: r => key.single :: e.single :: fieldParts r

/-- Whether fields have keys. -/
def areKeyed (fields : List Field) : List Bool :=
  fields.map fun f => f matches .keyed ..

/-- Begins to compute an expression. -/
def evaluate (h : Heap) (k : List Frame) (d : Nat) (env : Env) : Expr → Machine
  | .nil => answer h k d [.nil]
  | .truth b => answer h k d [.truth b]
  | .number n => answer h k d [.number n]
  | .text s => answer h k d [.text s]
  | .further => answer h k d env.further
  | .name s =>
    match env.place? s with
    | some place => answer h k d [h.cell place]
    | none =>
      let globals := match env.place? "_ENV" with
        | some place => h.cell place
        | none => .nil
      look h k d env globals (.ofString s)
  | .function params further body =>
    let (f, h) := h.addClosure ⟨params, further, body, env.vars, env.source⟩
    answer h k d [f]
  | .index e key => ⟨h, .compute [] [e, key] env, .goal .index env :: k, d⟩
  | .call f args => ⟨h, .compute [] (f.single :: args) env, .goal .call env :: k, d⟩
  | .method e name args => ⟨h, .compute [] [e] env, .goal (.method name args) env :: k, d⟩
  | .unary op e => ⟨h, .compute [] [e] env, .goal (.unary op) env :: k, d⟩
  | .binary .and l r => ⟨h, .compute [] [l] env, .goal (.other true r) env :: k, d⟩
  | .binary .or l r => ⟨h, .compute [] [l] env, .goal (.other false r) env :: k, d⟩
  | .binary op l r => ⟨h, .compute [] [l, r] env, .goal (.binary op) env :: k, d⟩
  | .group e => ⟨h, .compute [] [e] env, .goal .first env :: k, d⟩
  | .table fields =>
    ⟨h, .compute [] (fieldParts fields) env, .goal (.construct (areKeyed fields)) env :: k, d⟩

/-- The value of an expression that is computed at once. -/
def immediate? (h : Heap) (env : Env) : Expr → Option Value
  | .nil => some .nil
  | .truth b => some (.truth b)
  | .number n => some (.number n)
  | .text s => some (.text s)
  | .name s => (env.place? s).map h.cell
  | _ => none

/-- Computes the next one of some expressions. -/
def compute (h : Heap) (k : List Frame) (d : Nat) (env : Env) (done : List Value) :
    List Expr → Machine
  | [] => answer h k d done.reverse
  | e :: es =>
    match immediate? h env e with
    | some v => ⟨h, .compute (v :: done) es env, k, d⟩
    | none =>
      if done.isEmpty && es.isEmpty then evaluate h k d env e
      else evaluate h (.operands done es env :: k) d env e

/-! ## Steps -/

/-- Does with values what is to be done. -/
def perform (h : Heap) (k : List Frame) (d : Nat) (env : Env) (vs : List Value) : Goal → Machine
  | .call => call h k d env (firstOf vs) vs.tail
  | .index => look h k d env (firstOf vs) (firstOf vs.tail)
  | .unary op => unary h k d env op (firstOf vs)
  | .binary op => binary h k d env op (firstOf vs) (firstOf vs.tail)
  | .first => answer h k d [firstOf vs]
  | .other truth r =>
    if (firstOf vs).isTrue = truth then ⟨h, .compute [] [r.single] env, k, d⟩
    else answer h k d [firstOf vs]
  | .method name args =>
    look h (.goal (.callOn (firstOf vs) args) env :: k) d env (firstOf vs) (.ofString name)
  | .callOn self args =>
    ⟨h, .compute [] args env, .goal (.hand (firstOf vs) self) env :: k, d⟩
  | .hand f self => call h k d env f (self :: vs)
  | .construct keyed =>
    match construct {} [] keyed vs with
    | .ok t =>
      let (v, h) := h.addTable t
      answer h k d [v]
    | .error message => fail h k d env.position message
  | .declare names => declare h k d env names vs
  | .assign targets =>
    let (ts, vs) := takeTargets env targets vs
    store h k d env (withValues ts vs).reverse
  | .choose yes no => ⟨h, .next, .block [] (if (firstOf vs).isTrue then yes else no) env :: k, d⟩
  | .loop c body =>
    if (firstOf vs).isTrue then
      ⟨h, .next, .block [] body env :: .loop c body env :: k, d⟩
    else ⟨h, .next, k, d⟩
  | .count name body =>
    beginCount h k d env name body (firstOf vs) (firstOf vs.tail) ((vs[2]?).getD (.ofInt 1))
  | .each names body => beginEach h k d env names body vs
  | .iterate names f v body =>
    let first := firstOf vs
    if first.isNil then ⟨h, .next, k, d⟩
    else turn h (.each names f v first body env :: k) d env names vs body
  | .give => ⟨h, .give vs, k, d⟩
  | .discard => ⟨h, .next, k, d⟩
  | .truth opposite => answer h k d [.truth ((firstOf vs).isTrue != opposite)]
  | .store rest => store h k d env rest

/-- Values were computed. -/
def deliver (h : Heap) (d : Nat) (vs : List Value) : Frame → List Frame → Machine
  | .goal g env, k => perform h k d env vs g
  | .operands done rest env, k =>
    if rest.isEmpty then answer h k d (done.reverse ++ vs)
    else ⟨h, .compute (firstOf vs :: done) rest env, k, d⟩
  | .guard _ _, k => answer h k d (.truth true :: vs)
  | .handling, k => answer h k d [.truth false, firstOf vs]
  | .resume c, k => ⟨h, c, k, d⟩
  | .coroutine place d, k => answer (h.setCoroutine place .dead) k d (.truth true :: vs)
  | .activation d _, k => answer h k d vs
  | _, k => answer h k d vs

/-- Closes a value; `c` goes on after that. -/
def closeValue (h : Heap) (k : List Frame) (d : Nat) (v error : Value) (c : Control) : Machine :=
  invoke h (.resume c :: k) d "" callLimit (h.handler v "__close") [v, error]

/-- A statement was run. -/
def proceed (h : Heap) (d : Nat) : Frame → List Frame → Machine
  | .block passed rest env, k =>
    match rest with
    | [] => ⟨h, .next, k, d⟩
    | .line n :: rest => ⟨h, .next, .block passed rest { env with line := n } :: k, d⟩
    | .label name :: rest => ⟨h, .next, .block ((name, rest, env) :: passed) rest env :: k, d⟩
    | s :: rest => execute h (.block passed rest env :: k) d env s
  | .loop c body env, k => ⟨h, .compute [] [c] env, .goal (.loop c body) env :: k, d⟩
  | .count name value left step body env, k =>
    match left with
    | 0 => ⟨h, .next, k, d⟩
    | n + 1 =>
      let following := match value, step with
        | .whole v, .whole s => .whole (v + s)
        | v, _ => v
      turn h (.count name following n step body env :: k) d env [name] [.number value] body
  | .countReal name value limit step body env, k =>
    if (step > 0 && value <= limit) || (step < 0 && limit <= value) then
      turn h (.countReal name (value + step) limit step body env :: k) d env [name]
        [.number (.real value)] body
    else ⟨h, .next, k, d⟩
  | .each names f v last body env, k =>
    call h (.goal (.iterate names f v body) env :: k) d env f [v, last]
  | .activation d _, k => answer h k d []
  | .closing v, k => closeValue h k d v .nil .next
  | .resume c, k => ⟨h, c, k, d⟩
  | _, k => ⟨h, .next, k, d⟩

/-- An error goes down the stack. -/
def unwind (h : Heap) (d : Nat) (v : Value) : Frame → List Frame → Machine
  | .guard none d, k => answer h k d [.truth false, v]
  | .guard (some f) d, k => invoke h (.handling :: k) d "" callLimit f [v]
  | .handling, k => answer h k d [.truth false, v]
  | .coroutine place d, k => answer (h.setCoroutine place .dead) k d [.truth false, v]
  | .closing w, k => closeValue h k d w v (.raise v)
  | .activation d _, k => ⟨h, .raise v, k, d⟩
  | _, k => ⟨h, .raise v, k, d⟩

/-- The innermost loop is left. -/
def leaveLoop (h : Heap) (d : Nat) : Frame → List Frame → Machine
  | .loop .., k | .count .., k | .countReal .., k | .each .., k => ⟨h, .next, k, d⟩
  | .closing v, k => closeValue h k d v .nil .leave
  | _, k => ⟨h, .leave, k, d⟩

/-- A label is looked for: behind the statement that is being run, or among those that were
passed. -/
def findLabel (h : Heap) (d : Nat) (label : String) : Frame → List Frame → Machine
  | .block passed rest env, k =>
    match rest.dropWhile fun s => !s.isLabel label with
    | s :: rest => ⟨h, .next, .block passed (s :: rest) env :: k, d⟩
    | [] =>
      match passed.dropWhile fun p => p.1 ≠ label with
      | p :: earlier => ⟨h, .next, .block (p :: earlier) p.2.1 p.2.2 :: k, d⟩
      | [] => ⟨h, .jump label, k, d⟩
  | .closing v, k => closeValue h k d v .nil (.jump label)
  | _, k => ⟨h, .jump label, k, d⟩

/-- The function gives values. -/
def endCall (h : Heap) (d : Nat) (vs : List Value) : Frame → List Frame → Machine
  | .activation d _, k => answer h k d vs
  | .closing v, k => closeValue h k d v .nil (.give vs)
  | _, k => ⟨h, .give vs, k, d⟩

/-- What came of running a script: values or an error. -/
abbrev Result := Except Value (List Value)

/-- A step, or the result if nothing is left to do. -/
def step : Machine → Machine ⊕ (Result × Heap)
  | ⟨h, .compute done es env, k, d⟩ => .inl (compute h k d env done es)
  | ⟨h, .values vs, [], _⟩ => .inr (.ok vs, h)
  | ⟨h, .raise v, [], _⟩ => .inr (.error v, h)
  | ⟨h, .give vs, [], _⟩ => .inr (.ok vs, h)
  | ⟨h, .next, [], _⟩ | ⟨h, .leave, [], _⟩ | ⟨h, .jump _, [], _⟩ => .inr (.ok [], h)
  | ⟨h, .values vs, f :: k, d⟩ => .inl (deliver h d vs f k)
  | ⟨h, .next, f :: k, d⟩ => .inl (proceed h d f k)
  | ⟨h, .raise v, f :: k, d⟩ => .inl (unwind h d v f k)
  | ⟨h, .leave, f :: k, d⟩ => .inl (leaveLoop h d f k)
  | ⟨h, .jump label, f :: k, d⟩ => .inl (findLabel h d label f k)
  | ⟨h, .give vs, f :: k, d⟩ => .inl (endCall h d vs f k)

/-- Steps until nothing is left to do, but no more than a number of them. -/
def run : Nat → Machine → Result × Heap
  | 0, m => (.error .nil, m.heap)
  | n + 1, m =>
    match m.step with
    | .inl m => run n m
    | .inr r => r

/-- The number of steps that a script may make at a time. -/
def patience : Nat := Nat.pow 2 40

/-- Calls a value from outside. -/
def callFromHost (h : Heap) (f : Value) (args : List Value) : Result × Heap :=
  run patience (invoke h [] 0 "" callLimit f args)

end Machine

end Fieldbus.Scripting
