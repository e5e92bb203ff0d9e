import Formula.Builtin.Catalog
import Formula.Config
import Formula.Expr.Basic
import Formula.Expr.Shift
import Formula.Pattern.Engine
import Formula.Symbols

/-!
# Expr/Eval — evaluation

`Expr.eval` gives the value of an expression in an **environment**.  Its **budget** is the number of
levels that the expression may still be nested: every node takes one for itself and passes the rest
on to each of its parts, and a node that finds none left fails.  Built-ins run as plans whose
questions about arguments are answered by evaluating these; a cell or a range that a built-in takes
as a range is not evaluated and needs no budget.
-/

namespace Formula

open Calendar (DateTime)

/-- **What an expression is evaluated in.** -/
structure Environment where
  symbols : Symbols
  sheet : Option Sheet
  config : Config
  /-- The current time. -/
  clock : DateTime
  /-- What the surrounding system stores by name. -/
  stored : String → Option String := fun _ => none
  /-- What knows regular expressions. -/
  patterns : Pattern.Engine := Pattern.engine

/-- **An argument of a call**, not yet evaluated. -/
structure Argument where
  /-- The value, when it is asked for. -/
  value : Unit → Except EvalError Value
  /-- The name, if the argument is a variable. -/
  symbol? : Option String
  /-- The range, if the argument is a cell or a range. -/
  range? : Option Range

/-- The name of an expression that is a variable. -/
def Expr.symbol? : Expr → Option String
  | .variable name => some name
  | _ => none

/-- The range of an expression that is a cell or a range. -/
def Expr.range? : Expr → Option Range
  | .cell a => some (.single a)
  | .range a b => some (.spanning a b)
  | _ => none

namespace Environment

/-- The value of a cell; an empty cell reads as `nan`. -/
def cellValue (env : Environment) (a : Address) : Except EvalError Value :=
  match env.sheet with
  | none => .error .noSheet
  | some s => .ok ((s.value? a).getD (.number Number.nan))

/-- An argument as a reducer sees it. -/
def operand (env : Environment) (a : Argument) : Except EvalError Operand :=
  match a.range? with
  | none => (a.value ()).map .scalar
  | some r =>
    match env.sheet with
    | none => .error .noSheet
    | some s => .ok (.region r ⟨fun _ => s.cellsIn r⟩)

/-- The answers to the questions of a built-in that is called with given arguments.  A number beyond
the last argument, which no built-in asks for, reads as an empty cell. -/
def host (env : Environment) (args : List Argument) : Plan.Host where
  value i :=
    match args[i]? with
    | some a => a.value ()
    | none => .ok (.number Number.nan)
  operand i :=
    match args[i]? with
    | some a => env.operand a
    | none => .ok (.scalar (.number Number.nan))
  variableName i := args[i]?.bind Argument.symbol?
  symbol := env.symbols.get?
  policy := env.config.businessDays
  now := env.clock
  stored := env.stored
  search := env.patterns.search?

/-- **Call a function** by name. -/
def callFunction (env : Environment) (name : String) (args : List Argument) :
    Except EvalError Value :=
  match Builtin.function? name with
  | none => .error (.unknownFunction name)
  | some f =>
    match Builtin.checkArity f.name f.least f.most args.length with
    | .error e => .error e
    | .ok () => (f.plan args.length).run (env.host args)

/-- **Call a procedure** by name. -/
def callProcedure (env : Environment) (name : String) (args : List Argument) :
    Except EvalError Unit :=
  match Builtin.procedure? name with
  | none => .error (.unknownProcedure name)
  | some p =>
    match Builtin.checkArity p.name p.least p.most args.length with
    | .error e => .error e
    | .ok () => (p.plan args.length).run (env.host args)

/-- **The lines that a procedure writes** when it is called by name. -/
def linesOfProcedure (env : Environment) (name : String) (args : List Argument) : List String :=
  match Builtin.procedure? name with
  | none => []
  | some p =>
    match Builtin.checkArity p.name p.least p.most args.length with
    | .error _ => []
    | .ok () => (p.plan args.length).written (env.host args)

end Environment

/-! ## Operations -/

/-- The value of an operation on one value. -/
def UnaryOp.apply : UnaryOp → Value → Value
  | negate, v => .number (-v.toNumber)
  | not, v => .bool !v.toBool

/-- The number of an arithmetic operation. -/
def BinaryOp.compute : BinaryOp → Float → Float → Float
  | add, x, y => x + y
  | sub, x, y => x - y
  | mul, x, y => x * y
  | div, x, y => x / y
  | pow, x, y => x.pow y
  | mod, x, y => Number.remainder x y

/-- The value of an operation on two values.  A sum with a text in it is a text. -/
def BinaryOp.apply (op : BinaryOp) (l r : Value) : Value :=
  if op = add ∧ (l.isText || r.isText) then .text (l.toText ++ r.toText)
  else .number (op.compute l.toNumber r.toNumber)

/-- The result that the left operand alone decides, if it does. -/
def LogicalOp.decided? : LogicalOp → Bool → Option Bool
  | and, false => some false
  | or, true => some true
  | _, _ => none

/-- The date that is to be moved. -/
def startDate (v : Value) : Except EvalError DateTime :=
  match v.toDate? with
  | some t => .ok t
  | none => .error (.typeMismatch "date" v.kindName)

/-! ## Evaluation -/

mutual

/-- **The value of an expression** that may be nested `budget` levels deep. -/
def Expr.eval (env : Environment) (e : Expr) (budget : Nat) : Except EvalError Value :=
  match budget with
  | 0 => .error (.depthExceeded env.config.maxDepth.toNat)
  | budget + 1 =>
    match e with
    | .number x => .ok (.number x)
    | .text s => .ok (.text s)
    | .bool b => .ok (.bool b)
    | .date t => .ok (.date t)
    | .variable name => env.symbols.require name
    | .constant c => .ok (.number c.value)
    | .unary op e =>
      match e.eval env budget with
      | .ok v => .ok (op.apply v)
      | .error err => .error err
    | .binary op l r =>
      match l.eval env budget with
      | .ok a =>
        match r.eval env budget with
        | .ok b => .ok (op.apply a b)
        | .error err => .error err
      | .error err => .error err
    | .compare op l r =>
      match l.eval env budget with
      | .ok a =>
        match r.eval env budget with
        | .ok b => .ok (.bool (op.holds (a.compare? b)))
        | .error err => .error err
      | .error err => .error err
    | .logical op l r =>
      match l.eval env budget with
      | .ok a =>
        match op.decided? a.toBool with
        | some b => .ok (.bool b)
        | none =>
          match r.eval env budget with
          | .ok b => .ok (.bool b.toBool)
          | .error err => .error err
      | .error err => .error err
    | .call name args => env.callFunction name (Expr.arguments env args budget)
    | .cell a => env.cellValue a
    | .range _ _ => .error (.typeMismatch "scalar" "range")
    | .shift start factor amount =>
      match start.eval env budget with
      | .ok v =>
        match startDate v with
        | .ok t =>
          match factor.eval env budget with
          | .ok f => (shiftDate t f.toNumber amount env.config.businessDays).map .date
          | .error err => .error err
        | .error err => .error err
      | .error err => .error err

/-- The arguments of a call, each of which may be nested `budget` levels deep. -/
def Expr.arguments (env : Environment) (args : List Expr) (budget : Nat) : List Argument :=
  match args with
  | [] => []
  | e :: rest =>
    ⟨fun _ => e.eval env budget, e.symbol?, e.range?⟩ :: Expr.arguments env rest budget

end

namespace Environment

/-- The number of levels that expressions may be nested. -/
def depth (env : Environment) : Nat := env.config.maxDepth.toNat

/-- **Evaluate an expression.** -/
def evaluate (env : Environment) (e : Expr) : Except EvalError Value := e.eval env env.depth

/-- Call a function with unevaluated arguments. -/
def call (env : Environment) (name : String) (args : List Expr) : Except EvalError Value :=
  env.callFunction name (Expr.arguments env args env.depth)

/-- **Evaluate an expression once for each symbol table.** -/
def evaluateBatch (env : Environment) (e : Expr) (rows : List Symbols) :
    List (Except EvalError Value) :=
  rows.map fun symbols => { env with symbols := symbols }.evaluate e

end Environment

end Formula
