import Formula.Builtin.Plan

/-!
# Builtin/Logic — choices, missing variables, and the environment

These functions evaluate only the arguments that they need.
-/

namespace Formula.Builtin

/-- The plan of a choice: only the branch taken is evaluated. -/
def choose : Plan Value := do
  if (← Plan.argument 0).toBool then Plan.argument 1 else Plan.argument 2

/-- The plan of a default: the value bound to a variable, or else the second argument. -/
def orDefault : Plan Value :=
  .variableName 0 fun
    | none => .fault "ifmissing" .notVariable
    | some name => .symbol name fun
      | some v => .done v
      | none => Plan.argument 1

/-- **The functions that choose among their arguments**, and those that look around. -/
def logicFunctions : List Function :=
  [⟨"if", 3, 3, "if(cond, then, else): evaluates 'then' if 'cond' is true, otherwise 'else'",
    fun _ => choose⟩,
   ⟨"ifelse", 3, 3, "ifelse(cond, then, else): same as if", fun _ => choose⟩,
   ⟨"ifmissing", 2, 2,
    "ifmissing(variable, default): the variable's value, or 'default' if it is not defined",
    fun _ => orDefault⟩,
   ⟨"isnan", 1, 1, "isnan(x): true if 'x' is not a number",
    fun _ => do return .bool (← Plan.number 0).isNaN⟩,
   ⟨"env", 1, 1,
    "env(name): the value of the environment variable 'name', empty if not set",
    fun _ => do
      let name ← Plan.text 0
      .stored name fun s => return .text (s.getD "")⟩]

end Formula.Builtin
