import Formula.Builtin.Cells
import Formula.Builtin.Dates
import Formula.Builtin.Logic
import Formula.Builtin.Math
import Formula.Builtin.Text

/-!
# Builtin/Catalog — all built-in functions and procedures

Built-ins are found by name, ASCII letters in either case.  The catalogs list them in the order of
their names.
-/

namespace Formula.Builtin

/-- **All functions.** -/
def functions : List Function :=
  mathFunctions ++ textFunctions ++ logicFunctions ++ dateFunctions ++ cellFunctions

/-- The plan of `println`: one line with the texts of all arguments. -/
def printLine (arguments : Nat) : Plan Unit := do
  let texts ← Plan.each 0 arguments Plan.text
  .write (",".intercalate texts) (.done ())

/-- **All procedures.** -/
def procedures : List Procedure :=
  [⟨"println", 0, anyArguments,
    "println(a, b, ...): outputs the arguments as one comma-separated line", printLine⟩]

/-- A name with its ASCII letters in lower case. -/
def foldName (name : String) : String := String.ofList (name.toList.map Char.toLower)

/-- The function of a given name. -/
def function? (name : String) : Option Function :=
  functions.find? fun f => f.name == foldName name

/-- The procedure of a given name. -/
def procedure? (name : String) : Option Procedure :=
  procedures.find? fun p => p.name == foldName name

/-- The functions in the order of their names. -/
def functionCatalog : List Function := functions.mergeSort fun f g => f.name ≤ g.name

/-- The procedures in the order of their names. -/
def procedureCatalog : List Procedure := procedures.mergeSort fun f g => f.name ≤ g.name

/-- One line on the use of each built-in. -/
def overview (helps : List String) : String := "\n".intercalate (helps.map ("- " ++ ·))

/-- Refuse a number of arguments that a built-in does not take. -/
def checkArity (name : String) (least most got : Nat) : Except EvalError Unit :=
  if least ≤ got ∧ got ≤ most then .ok ()
  else .error (.invalidArguments name (.arity least most got))

end Formula.Builtin
