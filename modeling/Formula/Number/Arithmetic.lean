import Formula.Decimal.Exact

/-!
# Number/Arithmetic — operations on numbers beyond the four of the core library

Remainders and lengths are computed in exact integer arithmetic and rounded once, by `nearest`.
-/

namespace Formula.Number

open Formula.Decimal (Shape Magnitude)

/-- What is no number. -/
def nan : Float := 0 / 0

/-- **The number nearest to `n · 2^exponent`**; a power of two below one is written with as many
decimal places. -/
def nearest (n : Nat) (exponent : Int) : Float :=
  if 0 ≤ exponent then Float.ofScientific (n <<< exponent.toNat) false 0
  else
    let places := (-exponent).toNat
    Float.ofScientific (n * Nat.pow 5 places) true places

/-- The mantissas of two sizes at the smaller of their exponents, and that exponent. -/
def align (a b : Magnitude) : Nat × Nat × Int :=
  let exponent := min a.exponent b.exponent
  (a.mantissa <<< (a.exponent - exponent).toNat,
    b.mantissa <<< (b.exponent - exponent).toNat, exponent)

/-- **The remainder of a division toward zero.**  It has the sign of `x`, and there is none by zero
or of an infinity. -/
def remainder (x y : Float) : Float :=
  match Shape.of x, Shape.of y with
  | .finite _ _, .infinite _ => x
  | .finite negative a, .finite _ b =>
    if b.mantissa = 0 then nan
    else
      let (m, n, exponent) := align a b
      let r := nearest (m % n) exponent
      if negative then -r else r
  | _, _ => nan

/-- **The length of the vector `(x, y)`**, infinite as soon as one of them is.  The square root is
taken of a whole number of 128 binary digits or more, and a last digit says whether it is exact. -/
def hypotenuse (x y : Float) : Float :=
  match Shape.of x, Shape.of y with
  | .infinite _, _ | _, .infinite _ => 1 / 0
  | .nan, _ | _, .nan => nan
  | .finite _ a, .finite _ b =>
    let (m, n, exponent) := align a b
    let square := (m * m + n * n) <<< 128
    let root := Nat.sqrt square
    nearest (2 * root + if root * root = square then 0 else 1) (exponent - 65)

/-- A number without its fraction. -/
def wholePart (x : Float) : Float := if x < 0 then x.ceil else x.floor

/-- **The nearest whole number**, a half going to the even neighbour. -/
def roundHalfEven (x : Float) : Float :=
  if (x - wholePart x).abs == 0.5 then 2 * (x / 2).round else x.round

/-- **The sign of a number**, `-1` or `1`; zeros and what is no number stay as they are. -/
def sign (x : Float) : Float :=
  if x == 0 || x.isNaN then x else if x < 0 then -1 else 1

/-- The base of the natural logarithm. -/
def e : Float := 2.718281828459045

/-- The circumference of a circle of diameter one. -/
def pi : Float := 3.141592653589793

end Formula.Number
