import Formula.Expr.Eval

/-!
# Expr/Reader — expressions from text

A **grammar** turns the text of an expression into a tree.  `atom` is the smallest one: a number or
a name of ASCII letters, with blanks around it.
-/

namespace Formula

open Text (isBlank trim)

/-- Why a text is no expression; `offset` counts bytes. -/
structure ReadError where
  message : String
  offset : Nat
deriving DecidableEq

/-- **A grammar of expressions.** -/
abbrev Grammar := String → Except ReadError Expr

/-- The number of bytes of the blanks at the front of a text. -/
def leadingBytes (s : String) : Nat :=
  (s.toList.takeWhile isBlank).foldl (fun n c => n + c.utf8Size) 0

/-- **The grammar of numbers and names.** -/
def atom : Grammar := fun s =>
  let trimmed := trim s
  match Decimal.ofText? trimmed with
  | some x => .ok (.number x)
  | none =>
    if !trimmed.isEmpty && trimmed.toList.all Char.isAlpha then .ok (.variable trimmed)
    else .error ⟨"expected a number or a name", leadingBytes s⟩

/-- Evaluate the expression that a text writes. -/
def Environment.evaluateText (env : Environment) (grammar : Grammar) (s : String) :
    Except EvalError Value :=
  match grammar s with
  | .ok e => env.evaluate e
  | .error err => .error (.parse err.message err.offset)

end Formula
