import Formula.Error
import Formula.Sheet.Basic

/-!
# Builtin/Plan — what a built-in function asks for, and what it makes of the answers

Arguments reach a built-in unevaluated, so that it may leave some of them alone.  A **plan** is the
built-in as data: it ends, fails, writes a line, or asks one question and goes on with the answer.
A **host** knows the answers for one call, and `Plan.run` asks it.  A plan sees nothing of an
evaluation but the answers to its questions, in the order in which it asks.
-/

namespace Formula

open Calendar (DateTime Policy)

/-- **An argument as a reducer sees it.** -/
inductive Operand where
  /-- The value of an expression. -/
  | scalar (v : Value)
  /-- A range of the sheet with what its cells hold, row by row. -/
  | region (r : Range) (cells : Thunk (List Cell))

/-- **A built-in as a sequence of questions.**  Arguments are numbered from 0. -/
inductive Plan (α : Type) where
  /-- The result. -/
  | done (a : α)
  /-- There is no result. -/
  | fail (e : EvalError)
  /-- What is the value of an argument? -/
  | value (i : Nat) (next : Value → Plan α)
  /-- What is an argument, a range not being evaluated? -/
  | operand (i : Nat) (next : Operand → Plan α)
  /-- Which variable is an argument, if it is one? -/
  | variableName (i : Nat) (next : Option String → Plan α)
  /-- What is bound to a name? -/
  | symbol (name : String) (next : Option Value → Plan α)
  /-- Which days are business days? -/
  | policy (next : Policy → Plan α)
  /-- What time is it? -/
  | now (next : DateTime → Plan α)
  /-- What does the surrounding system store under a name? -/
  | stored (name : String) (next : Option String → Plan α)
  /-- Does a pattern match somewhere in a text, if it is one? -/
  | search (pattern s : String) (next : Option Bool → Plan α)
  /-- A line is to be written. -/
  | write (line : String) (next : Plan α)

namespace Plan

variable {α β : Type}

/-- One plan after another. -/
def bind : Plan α → (α → Plan β) → Plan β
  | done a, f => f a
  | fail e, _ => fail e
  | value i next, f => value i fun v => (next v).bind f
  | operand i next, f => operand i fun o => (next o).bind f
  | variableName i next, f => variableName i fun x => (next x).bind f
  | symbol name next, f => symbol name fun v => (next v).bind f
  | policy next, f => policy fun p => (next p).bind f
  | now next, f => now fun t => (next t).bind f
  | stored name next, f => stored name fun s => (next s).bind f
  | search pattern s next, f => search pattern s fun b => (next b).bind f
  | write line next, f => write line (next.bind f)

instance : Monad Plan where
  pure := done
  bind := bind

/-! ## Running -/

/-- **The answers to the questions of one call.** -/
structure Host where
  value : Nat → Except EvalError Value
  operand : Nat → Except EvalError Operand
  variableName : Nat → Option String
  symbol : String → Option Value
  policy : Policy
  now : DateTime
  stored : String → Option String
  search : String → String → Option Bool

/-- **Run a plan.**  The first question without an answer ends it. -/
def run (host : Host) : Plan α → Except EvalError α
  | done a => .ok a
  | fail e => .error e
  | value i next =>
    match host.value i with
    | .ok v => (next v).run host
    | .error e => .error e
  | operand i next =>
    match host.operand i with
    | .ok o => (next o).run host
    | .error e => .error e
  | variableName i next => (next (host.variableName i)).run host
  | symbol name next => (next (host.symbol name)).run host
  | policy next => (next host.policy).run host
  | now next => (next host.now).run host
  | stored name next => (next (host.stored name)).run host
  | search pattern s next => (next (host.search pattern s)).run host
  | write _ next => next.run host

/-- **The lines that a run writes** before it ends. -/
def written (host : Host) : Plan α → List String
  | done _ => []
  | fail _ => []
  | value i next =>
    match host.value i with
    | .ok v => (next v).written host
    | .error _ => []
  | operand i next =>
    match host.operand i with
    | .ok o => (next o).written host
    | .error _ => []
  | variableName i next => (next (host.variableName i)).written host
  | symbol name next => (next (host.symbol name)).written host
  | policy next => (next host.policy).written host
  | now next => (next host.now).written host
  | stored name next => (next (host.stored name)).written host
  | search pattern s next => (next (host.search pattern s)).written host
  | write line next => line :: next.written host

/-- To run one plan after another is to run the second with the result of the first. -/
theorem run_bind (host : Host) (p : Plan α) (f : α → Plan β) :
    (p.bind f).run host = (p.run host).bind fun a => (f a).run host := by
  induction p with
  | done a => rfl
  | fail e => rfl
  | value i next ih => cases h : host.value i <;> simp [bind, run, h, ih, Except.bind]
  | operand i next ih => cases h : host.operand i <;> simp [bind, run, h, ih, Except.bind]
  | variableName i next ih => exact ih _
  | symbol name next ih => exact ih _
  | policy next ih => exact ih _
  | now next ih => exact ih _
  | stored name next ih => exact ih _
  | search pattern s next ih => exact ih _
  | write line next ih => exact ih

/-- `run_bind` in the notation of plans. -/
theorem run_andThen (host : Host) (p : Plan α) (f : α → Plan β) :
    (p >>= f).run host = (p.run host).bind fun a => (f a).run host :=
  run_bind host p f

/-- **The lines of one plan after another** follow each other. -/
theorem written_bind (host : Host) (p : Plan α) (f : α → Plan β) :
    (p.bind f).written host =
      p.written host ++
        match p.run host with
        | .ok a => (f a).written host
        | .error _ => [] := by
  induction p with
  | done a => rfl
  | fail e => rfl
  | value i next ih => cases h : host.value i <;> simp [bind, run, written, h, ih]
  | operand i next ih => cases h : host.operand i <;> simp [bind, run, written, h, ih]
  | variableName i next ih => exact ih _
  | symbol name next ih => exact ih _
  | policy next ih => exact ih _
  | now next ih => exact ih _
  | stored name next ih => exact ih _
  | search pattern s next ih => exact ih _
  | write line next ih => exact congrArg (line :: ·) ih

theorem run_value (host : Host) (i : Nat) (next : Value → Plan α) :
    (value i next).run host = (host.value i).bind fun v => (next v).run host := by
  rw [run]
  cases host.value i <;> rfl

theorem run_operand (host : Host) (i : Nat) (next : Operand → Plan α) :
    (operand i next).run host = (host.operand i).bind fun o => (next o).run host := by
  rw [run]
  cases host.operand i <;> rfl

/-! ## Questions -/

/-- The arguments of what is called `name` are at fault. -/
def fault (name : String) (f : Fault) : Plan α := fail (.invalidArguments name f)

/-- The value of an argument. -/
def argument (i : Nat) : Plan Value := value i done

/-- The number of an argument. -/
def number (i : Nat) : Plan Float := value i fun v => done v.toNumber

/-- The text of an argument. -/
def text (i : Nat) : Plan String := value i fun v => done v.toText

/-- The integer of an argument, which must have one. -/
def integer (name : String) (i : Nat) : Plan Int64 :=
  value i fun v =>
    if v.toInteger = Value.notAnInteger then fault name (.notInteger v.kindName)
    else done v.toInteger

/-- The count that an argument gives, which must not be negative. -/
def count (name : String) (i : Nat) : Plan Nat := do
  let n ← integer name i
  if n.toInt < 0 then fault name (.negativeCount n.toInt) else done n.toInt.toNat

/-- The position, from 0, that an argument gives counted from 1. -/
def position (name : String) (i : Nat) : Plan Nat := do
  let n ← integer name i
  if n.toInt < 1 then fault name (.positionBelowOne n.toInt) else done (n.toInt - 1).toNat

/-- The range that an argument is, with what its cells hold. -/
def region (name : String) (i : Nat) : Plan (Range × Thunk (List Cell)) :=
  operand i fun
    | .region r cells => done (r, cells)
    | .scalar v => fault name (.notRange v.kindName)

/-- The results of a plan for each argument from `first` on, `count` of them. -/
def each (first count : Nat) (ask : Nat → Plan α) : Plan (List α) :=
  match count with
  | 0 => done []
  | count + 1 => do
    let a ← ask first
    let rest ← each (first + 1) count ask
    return a :: rest

theorem run_each_succ (host : Host) (ask : Nat → Plan α) (first count : Nat) :
    (each first (count + 1) ask).run host =
      ((ask first).run host).bind fun a =>
        ((each (first + 1) count ask).run host).bind fun rest => .ok (a :: rest) := by
  rw [each, run_andThen]
  congr 1
  funext a
  exact run_andThen host _ _

end Plan

/-! ## Functions and procedures -/

/-- **A built-in function.**  Its plan is given the number of arguments. -/
structure Function where
  name : String
  least : Nat
  most : Nat
  /-- One line on its use. -/
  help : String
  plan : Nat → Plan Value

/-- **A built-in procedure**, whose plan writes lines and has no value. -/
structure Procedure where
  name : String
  least : Nat
  most : Nat
  /-- One line on its use. -/
  help : String
  plan : Nat → Plan Unit

end Formula
