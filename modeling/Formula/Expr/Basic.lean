import Formula.Calendar.Amount
import Formula.Error
import Formula.Number.Arithmetic
import Formula.Value.Comparison

/-!
# Expr/Basic — expressions and programs

An **expression** is a tree; a **program** is a list of statements, each an expression or the call
of a procedure.
-/

namespace Formula

open Calendar (DateTime Amount)

/-- An operation on one value. -/
inductive UnaryOp where
  | negate
  | not
deriving DecidableEq

/-- An arithmetic operation on two values. -/
inductive BinaryOp where
  | add
  | sub
  | mul
  | div
  | pow
  | mod
deriving DecidableEq

/-- A logical operation, whose right operand may be left alone. -/
inductive LogicalOp where
  | and
  | or
deriving DecidableEq

/-- A number with a name. -/
inductive Constant where
  | pi
  | e
deriving DecidableEq

/-- The number that a constant names. -/
def Constant.value : Constant → Float
  | pi => Number.pi
  | e => Number.e

/-- **An expression.** -/
inductive Expr where
  | number (x : Float)
  | text (s : String)
  | bool (b : Bool)
  | date (t : DateTime)
  | variable (name : String)
  | constant (c : Constant)
  | unary (op : UnaryOp) (e : Expr)
  | binary (op : BinaryOp) (left right : Expr)
  | compare (op : Comparison) (left right : Expr)
  | logical (op : LogicalOp) (left right : Expr)
  | call (name : String) (args : List Expr)
  | cell (a : Address)
  | range (a b : Address)
  /-- A date moved by a factor times an amount of time. -/
  | shift (date factor : Expr) (amount : Amount)

/-- The literal of a value. -/
def Expr.ofValue : Value → Expr
  | .number x => .number x
  | .text s => .text s
  | .bool b => .bool b
  | .date t => .date t

/-- **The reference that a text writes**: a range if there is a colon in it, a cell otherwise. -/
def Expr.reference (a1 : String) : Except EvalError Expr :=
  match Range.ofA1 a1 with
  | .error e => .error (.address e)
  | .ok r => .ok (if a1.toList.contains ':' then .range r.start r.finish else .cell r.start)

/-- **One statement of a program.** -/
inductive Statement where
  | expr (e : Expr)
  | procedure (name : String) (args : List Expr)

end Formula
