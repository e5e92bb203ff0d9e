import Formula.Builtin.Plan

/-!
# Builtin/Math — functions of numbers

An argument that is no number counts as `nan`.
-/

namespace Formula.Builtin

/-- A function of one number. -/
def unary (name help : String) (f : Float → Float) : Function :=
  ⟨name, 1, 1, help, fun _ => do return .number (f (← Plan.number 0))⟩

/-- A function of two numbers. -/
def binary (name help : String) (f : Float → Float → Float) : Function :=
  ⟨name, 2, 2, help, fun _ => do
    let x ← Plan.number 0
    let y ← Plan.number 1
    return .number (f x y)⟩

/-- **The functions of numbers.** -/
def mathFunctions : List Function :=
  [unary "abs" "abs(x): absolute value of 'x'" Float.abs,
   unary "sqrt" "sqrt(x): square root of 'x'" Float.sqrt,
   unary "cbrt" "cbrt(x): cube root of 'x'" Float.cbrt,
   unary "log" "log(x): natural logarithm of 'x'" Float.log,
   unary "log10" "log10(x): base-10 logarithm of 'x'" Float.log10,
   unary "exp" "exp(x): e raised to the power of 'x'" Float.exp,
   unary "sin" "sin(x): sine of 'x' (radians)" Float.sin,
   unary "sinh" "sinh(x): hyperbolic sine of 'x'" Float.sinh,
   unary "cos" "cos(x): cosine of 'x' (radians)" Float.cos,
   unary "cosh" "cosh(x): hyperbolic cosine of 'x'" Float.cosh,
   unary "tan" "tan(x): tangent of 'x' (radians)" Float.tan,
   unary "tanh" "tanh(x): hyperbolic tangent of 'x'" Float.tanh,
   unary "atan" "atan(x): arc tangent of 'x'" Float.atan,
   unary "signum" "signum(x): -1, 0 or 1 depending on the sign of 'x'" Number.sign,
   unary "rint" "rint(x): 'x' rounded to the nearest integer, ties to even" Number.roundHalfEven,
   unary "floor" "floor(x): largest integer not greater than 'x'" Float.floor,
   unary "ceil" "ceil(x): smallest integer not less than 'x'" Float.ceil,
   binary "atan2" "atan2(y, x): angle of the point (x, y) in radians" Float.atan2,
   binary "hypot" "hypot(x, y): sqrt(x^2 + y^2) without intermediate overflow" Number.hypotenuse,
   binary "pow" "pow(base, exp): 'base' raised to the power of 'exp'" Float.pow,
   binary "power" "power(base, exp): same as pow" Float.pow]

end Formula.Builtin
