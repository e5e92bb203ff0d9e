import Formula.Expr.Eval

/-!
# Expr/Program — running programs

The statements of a program run one after the other until one fails.  A program has an **outcome**:
the lines that its procedures wrote, and the value of its last expression or the failure that ended
it.  Lines that were written before a failure stay written.
-/

namespace Formula

/-- **What came of a program.** -/
structure Outcome where
  output : List String
  result : Except EvalError (Option Value)

namespace Environment

/-- **Call a procedure** with unevaluated arguments; it has no value. -/
def perform (env : Environment) (name : String) (args : List Expr) : Outcome :=
  let arguments := Expr.arguments env args env.depth
  ⟨env.linesOfProcedure name arguments, (env.callProcedure name arguments).map fun _ => none⟩

/-- Run statements, given the value of the last expression before them. -/
def runFrom (env : Environment) (last : Option Value) : List Statement → Outcome
  | [] => ⟨[], .ok last⟩
  | .expr e :: rest =>
    match env.evaluate e with
    | .ok v => env.runFrom (some v) rest
    | .error err => ⟨[], .error err⟩
  | .procedure name args :: rest =>
    let performed := env.perform name args
    match performed.result with
    | .ok _ =>
      let outcome := env.runFrom last rest
      ⟨performed.output ++ outcome.output, outcome.result⟩
    | .error err => ⟨performed.output, .error err⟩

/-- **Run a program.** -/
def execute (env : Environment) (program : List Statement) : Outcome := env.runFrom none program

end Environment

end Formula
