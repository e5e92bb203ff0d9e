/-!
# Decimal/Exact — the exact value of a floating-point number

A finite number is `± mantissa · 2^exponent`.  The functions here read that form and compare,
truncate and scale it in exact integer arithmetic.
-/

namespace Formula.Decimal

/-- **The size of a finite number**: `mantissa · 2^exponent`. -/
structure Magnitude where
  mantissa : Nat
  exponent : Int
deriving DecidableEq

/-- The size of a number as a quotient of natural numbers. -/
def Magnitude.ratio (d : Magnitude) : Nat × Nat :=
  if 0 ≤ d.exponent then (d.mantissa <<< d.exponent.toNat, 1)
  else (d.mantissa, 1 <<< (-d.exponent).toNat)

/-- The whole part of the size. -/
def Magnitude.floor (d : Magnitude) : Nat := d.ratio.1 / d.ratio.2

/-- The kinds of floating-point number. -/
inductive Shape where
  /-- Not a number. -/
  | nan
  /-- An infinity. -/
  | infinite (negative : Bool)
  /-- A finite number and its size; zero has a sign, too. -/
  | finite (negative : Bool) (size : Magnitude)
deriving DecidableEq

/-- **The kind and exact value of a floating-point number.** -/
def Shape.of (x : Float) : Shape :=
  match x.toModel.unpack with
  | .notANumber => .nan
  | .infinity sign => .infinite (sign matches .negative)
  | .zero sign => .finite (sign matches .negative) ⟨0, 0⟩
  | .finite sign mantissa exponent _ => .finite (sign matches .negative) ⟨mantissa, exponent⟩

/-- **The whole part of a number**, toward zero; none for infinities and for what is no number. -/
def truncate? (x : Float) : Option Int :=
  match Shape.of x with
  | .finite negative size => some (if negative then -(size.floor : Int) else size.floor)
  | _ => none

/-- **A number as a 64-bit integer**: its whole part, toward zero, or the nearest of these integers
if it lies beyond them; 0 for what is no number. -/
def saturate (x : Float) : Int64 :=
  match Shape.of x with
  | .nan => 0
  | .infinite negative => if negative then Int64.minValue else Int64.maxValue
  | .finite negative size => .ofIntClamp (if negative then -(size.floor : Int) else size.floor)

end Formula.Decimal
