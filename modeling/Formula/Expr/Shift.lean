import Formula.Calendar.Amount
import Formula.Error

/-!
# Expr/Shift — a date moved by a factor times an amount

The factor and the magnitude of the amount are multiplied as numbers and rounded to whole steps, a
half away from zero.  Steps of calendar units and of business days are then taken exactly.
-/

namespace Formula

open Calendar (DateTime Amount Policy TimeUnit)

/-- The bound below which the number of steps stays, the first number beyond the 64-bit integers. -/
def stepBound : Nat := 9223372036854775808

/-- The whole steps that a factor times a magnitude makes: finite, and within 64 bits. -/
def scaledSteps (factor : Float) (magnitude : Int64) : Except EvalError Int64 :=
  let scaled := (factor * Float.ofInt magnitude.toInt).round
  match Decimal.truncate? scaled with
  | none => .error (.invalidArguments "date arithmetic" (.notFinite factor magnitude.toInt))
  | some n =>
    if stepBound ≤ n.natAbs then .error .dateOutOfRange else .ok (Decimal.saturate scaled)

/-- **Move a date by whole steps of a unit**, within the calendar. -/
def moveByUnits (start : DateTime) (u : TimeUnit) (steps : Int64) : Except EvalError DateTime :=
  match start.addUnits? u steps with
  | some t => .ok t
  | none => .error .dateOutOfRange

/-- The failure of an evaluation that a halted walk over business days is. -/
def walkError : Policy.Halt → EvalError
  | .outOfRange | .overflow => .dateOutOfRange

/-- **Move a date** by a factor times an amount. -/
def shiftDate (start : DateTime) (factor : Float) (amount : Amount) (policy : Policy) :
    Except EvalError DateTime := do
  let steps ← scaledSteps factor amount.magnitude
  match amount.counting with
  | .plain => moveByUnits start amount.unit steps
  | .businessDays => (policy.advance start steps).mapError walkError

end Formula
