import Formula.Expr.Program

/-!
# Expr/Evaluator — an evaluator that serves requests

An **evaluator** serves one request after another in one environment.  It counts the nodes that are
**open**, which is to say being evaluated, one inside the other, and it keeps the lines that were
written.  An expression or a statement starts the count again; a call that is asked for directly
goes on from the count that it finds.

The meaning of an expression is `Expr.eval`, which hands its budget down and has nothing to restore.
Here the count is state that all nodes share: it goes up before the work of a node and back down
after it, whatever came of that.
-/

namespace Formula

/-- **What an evaluator keeps**; a fresh one has no node open and has written nothing. -/
structure Evaluator where
  /-- The number of nodes that are open. -/
  depth : Nat := 0
  /-- The lines written so far. -/
  output : List String := []
deriving DecidableEq

namespace Evaluator

/-- **Work of an evaluator.**  What is kept may have changed when the work fails, too. -/
abbrev Work (α : Type) := ExceptT EvalError (StateM Evaluator) α

namespace Work

variable {α β : Type}

/-- What comes of work on a given evaluator, and the evaluator after it. -/
def runOn (w : Work α) (s : Evaluator) : Except EvalError α × Evaluator := (w.run.run s).run

/-- Work that does not fail: what came of other work is its result. -/
def settled (w : Work α) : Work (Except EvalError α) := ExceptT.lift w.run

/-- One piece of work after another: a failure of the first ends both. -/
theorem runOn_bind (w : Work α) (f : α → Work β) (s : Evaluator) :
    (w >>= f).runOn s =
      match w.runOn s with
      | (.ok a, s') => (f a).runOn s'
      | (.error e, s') => (.error e, s') := by
  have hbind : (w >>= f).runOn s
      = (ExceptT.bindCont f (w.runOn s).1 (w.runOn s).2 : Except EvalError β × Evaluator) := rfl
  rw [hbind]
  obtain ⟨r, s'⟩ := w.runOn s
  cases r <;> rfl

theorem runOn_settled (w : Work α) (s : Evaluator) :
    w.settled.runOn s = (.ok (w.runOn s).1, (w.runOn s).2) := rfl

theorem runOn_ofExcept (r : Except EvalError α) (s : Evaluator) :
    (ofExcept r : Work α).runOn s = (r, s) := by
  cases r <;> rfl

end Work

/-- Set the number of open nodes. -/
def setDepth (depth : Nat) : Work Unit := modify fun s => { s with depth := depth }

theorem runOn_setDepth (depth : Nat) (s : Evaluator) :
    (setDepth depth).runOn s = (.ok (), { s with depth := depth }) := rfl

/-! ## Nodes -/

/-- **The work of a node, with the node open.**  A node that would be one too many is not opened. -/
def opened (limit : Nat) (work : Work Value) : Work Value := do
  let depth := (← get).depth + 1
  if limit < depth then throw (.depthExceeded limit)
  else
    setDepth depth
    let result ← work.settled
    setDepth (depth - 1)
    ofExcept result

/-- **A node is closed again**, whatever came of its work and whatever that did to the count. -/
theorem runOn_opened (limit : Nat) (work : Work Value) (s : Evaluator) :
    (opened limit work).runOn s =
      if limit ≤ s.depth then (.error (.depthExceeded limit), s)
      else
        let done := work.runOn { s with depth := s.depth + 1 }
        (done.1, { done.2 with depth := s.depth }) := by
  have hget : (opened limit work).runOn s =
      Work.runOn (if limit < s.depth + 1 then throw (.depthExceeded limit)
        else do
          setDepth (s.depth + 1)
          let result ← work.settled
          setDepth (s.depth + 1 - 1)
          ofExcept result) s := rfl
  rw [hget]
  by_cases h : limit ≤ s.depth
  · rw [if_pos h, if_pos (Nat.lt_succ_of_le h)]
    rfl
  · rw [if_neg h, if_neg fun hlt => h (Nat.le_of_lt_succ hlt)]
    simp only [Work.runOn_bind, runOn_setDepth, Work.runOn_settled, Work.runOn_ofExcept]
    rfl

/-- **An argument of a call**, not yet evaluated. -/
structure Pending where
  /-- The work that gives the value, when it is asked for. -/
  value : Work Value
  /-- The name, if the argument is a variable. -/
  symbol? : Option String
  /-- The range, if the argument is a cell or a range. -/
  range? : Option Range

variable {α : Type} (env : Environment)

/-- The value of an argument; none beyond the last is ever asked for. -/
def valueAt (args : List Pending) (i : Nat) : Work Value :=
  match args[i]? with
  | some a => a.value
  | none => pure (.number Number.nan)

/-- An argument as a reducer sees it: a cell or a range is not evaluated. -/
def operandAt (args : List Pending) (i : Nat) : Work Operand :=
  match args[i]?.bind Pending.range? with
  | none => do return .scalar (← valueAt args i)
  | some r =>
    match env.sheet with
    | none => throw .noSheet
    | some s => return .region r ⟨fun _ => s.cellsIn r⟩

/-- Write a line below those written so far. -/
def write (line : String) : Work Unit := modify fun s => { s with output := s.output ++ [line] }

theorem runOn_write (line : String) (s : Evaluator) :
    (write line).runOn s = (.ok (), { s with output := s.output ++ [line] }) := rfl

/-- **Run a built-in**, answering its questions as it asks them and writing what it writes. -/
def runPlan (args : List Pending) : Plan α → Work α
  | .done a => pure a
  | .fail e => throw e
  | .value i next => do runPlan args (next (← valueAt args i))
  | .operand i next => do runPlan args (next (← operandAt env args i))
  | .variableName i next => runPlan args (next (args[i]?.bind Pending.symbol?))
  | .symbol name next => runPlan args (next (env.symbols.get? name))
  | .policy next => runPlan args (next env.config.businessDays)
  | .now next => runPlan args (next env.clock)
  | .stored name next => runPlan args (next (env.stored name))
  | .search pattern s next => runPlan args (next (env.patterns.search? pattern s))
  | .write line next => do
    write line
    runPlan args next

/-- Call a function by name. -/
def callFunction (name : String) (args : List Pending) : Work Value :=
  match Builtin.function? name with
  | none => throw (.unknownFunction name)
  | some f => do
    ofExcept (Builtin.checkArity f.name f.least f.most args.length)
    runPlan env args (f.plan args.length)

/-- Call a procedure by name. -/
def callProcedure (name : String) (args : List Pending) : Work Unit :=
  match Builtin.procedure? name with
  | none => throw (.unknownProcedure name)
  | some p => do
    ofExcept (Builtin.checkArity p.name p.least p.most args.length)
    runPlan env args (p.plan args.length)

mutual

/-- **The work of a node that is open**; its parts are opened in turn. -/
def node : Expr → Work Value
  | .number x => pure (.number x)
  | .text s => pure (.text s)
  | .bool b => pure (.bool b)
  | .date t => pure (.date t)
  | .variable name => ofExcept (env.symbols.require name)
  | .constant c => pure (.number c.value)
  | .unary op e => do
    let v ← opened env.depth (node e)
    return op.apply v
  | .binary op l r => do
    let a ← opened env.depth (node l)
    let b ← opened env.depth (node r)
    return op.apply a b
  | .compare op l r => do
    let a ← opened env.depth (node l)
    let b ← opened env.depth (node r)
    return .bool (op.holds (a.compare? b))
  | .logical op l r => do
    let a ← opened env.depth (node l)
    match op.decided? a.toBool with
    | some b => return .bool b
    | none =>
      let b ← opened env.depth (node r)
      return .bool b.toBool
  | .call name args => callFunction env name (pending args)
  | .cell a => ofExcept (env.cellValue a)
  | .range _ _ => throw (.typeMismatch "scalar" "range")
  | .shift start factor amount => do
    let v ← opened env.depth (node start)
    let t ← ofExcept (startDate v)
    let f ← opened env.depth (node factor)
    let moved ← ofExcept (shiftDate t f.toNumber amount env.config.businessDays)
    return .date moved

/-- The arguments of a call. -/
def pending : List Expr → List Pending
  | [] => []
  | e :: rest => ⟨opened env.depth (node e), e.symbol?, e.range?⟩ :: pending rest

end

/-- **Evaluate an expression**, going on from the nodes that are open. -/
def eval (e : Expr) : Work Value := opened env.depth (node env e)

/-! ## Requests -/

/-- **What an evaluator can be asked for.** -/
inductive Request where
  /-- The value of an expression. -/
  | evaluate (e : Expr)
  /-- To run a program. -/
  | execute (program : List Statement)
  /-- The value of a function. -/
  | call (name : String) (args : List Expr)
  /-- To run a procedure. -/
  | perform (name : String) (args : List Expr)

/-- Start the count of open nodes again. -/
def restart : Work Unit := setDepth 0

/-- Run statements, given the value of the last expression before them. -/
def runFrom (last : Option Value) : List Statement → Work (Option Value)
  | [] => return last
  | .expr e :: rest => do
    restart
    let v ← eval env e
    runFrom (some v) rest
  | .procedure name args :: rest => do
    restart
    callProcedure env name (pending env args)
    runFrom last rest

/-- **Serve a request.**  What is asked for without a value gives none. -/
def serve : Request → Work (Option Value)
  | .evaluate e => do
    restart
    return some (← eval env e)
  | .execute program => runFrom env none program
  | .call name args => do return some (← callFunction env name (pending env args))
  | .perform name args => do
    callProcedure env name (pending env args)
    return none

/-- **The evaluator after a history** of requests that were served one after the other. -/
def after (history : List Request) : Evaluator :=
  history.foldl (fun s r => ((serve env r).runOn s).2) {}

end Evaluator

end Formula
