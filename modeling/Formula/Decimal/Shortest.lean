import Formula.Decimal.Exact

/-!
# Decimal/Shortest — the fewest decimal digits that read back

A binary floating-point number owns the **interval** of reals that round to it: half-way to its
neighbours on either side, ends included when its mantissa is even.  For one digit, two digits, and
so on, `shortest` looks at the two points of that decimal grid next to the number; the first grid
with a point in the interval gives the digits, and of two such points the nearer one, the upper one
on a tie.  `rounded` gives a fixed number of digits, a tie going to the even digit.
-/

namespace Formula.Decimal

/-- **A decimal number** `coefficient · 10^exponent`. -/
structure Scaled where
  coefficient : Nat
  exponent : Int
deriving DecidableEq

/-- Compare `c · 10^p` with the quotient `num / den`. -/
def compareScaled (c : Nat) (p : Int) (num den : Nat) : Ordering :=
  if 0 ≤ p then compare (c * Nat.pow 10 p.toNat * den) num
  else compare (c * den) (num * Nat.pow 10 (-p).toNat)

/-- The whole part of `(num / den) / 10^p`, the remainder and the divisor it is taken by. -/
def scaleDown (p : Int) (num den : Nat) : Nat × Nat × Nat :=
  let top := if 0 ≤ p then num else num * Nat.pow 10 (-p).toNat
  let bottom := if 0 ≤ p then den * Nat.pow 10 p.toNat else den
  (top / bottom, top % bottom, bottom)

/-- The exponent of the leading decimal digit of `num / den`, given a guess that is off by one at
most. -/
def settleExponent (guess : Int) (num den : Nat) : Int :=
  if compareScaled 1 guess num den == .gt then guess - 1
  else if compareScaled 1 (guess + 1) num den == .gt then guess
  else guess + 1

/-- The exponent of the leading decimal digit of a positive number.  A binary digit is worth
0.30103 decimal ones. -/
def Magnitude.leadingExponent (d : Magnitude) : Int :=
  let bits : Int := (Nat.log2 d.mantissa : Int) + d.exponent
  settleExponent (bits * 30103 / 100000) d.ratio.1 d.ratio.2

/-! ## The interval of a number -/

/-- The smallest exponent of a number and the mantissa at which the exponent steps. -/
def minExponent : Int := -1074

/-- The smallest mantissa of a normal number. -/
def minNormalMantissa : Nat := 1 <<< 52

/-- Whether the neighbour below is only half as far away as the one above. -/
def Magnitude.atStep (d : Magnitude) : Bool :=
  d.mantissa == minNormalMantissa && minExponent < d.exponent

/-- Whether `c · 10^p` rounds to the number: it lies between the two half-way points, which are
`4·mantissa + 2` and `4·mantissa - 2` (or `- 1` at a step) quarters of the last binary place. -/
def Magnitude.owns (d : Magnitude) (c : Nat) (p : Int) : Bool :=
  let low : Magnitude := ⟨4 * d.mantissa - (if d.atStep then 1 else 2), d.exponent - 2⟩
  let high : Magnitude := ⟨4 * d.mantissa + 2, d.exponent - 2⟩
  let above := compareScaled c p low.ratio.1 low.ratio.2
  let below := compareScaled c p high.ratio.1 high.ratio.2
  let closed := d.mantissa % 2 == 0
  (above == .gt || (closed && above == .eq)) && (below == .lt || (closed && below == .eq))

/-- The point nearest to the number on the grid of `10^p` among those of its two neighbours there
that round to it. -/
def Magnitude.gridPoint? (d : Magnitude) (p : Int) : Option Scaled :=
  let (c, rest, whole) := scaleDown p d.ratio.1 d.ratio.2
  match d.owns c p, d.owns (c + 1) p with
  | true, true => some (if 2 * rest < whole then ⟨c, p⟩ else ⟨c + 1, p⟩)
  | true, false => some ⟨c, p⟩
  | false, true => some ⟨c + 1, p⟩
  | false, false => none

/-- A decimal without zeros at the end of its coefficient; `fuel` bounds their number. -/
def Scaled.stripZeros : Nat → Scaled → Scaled
  | 0, d => d
  | fuel + 1, d =>
    if d.coefficient % 10 == 0 then Scaled.stripZeros fuel ⟨d.coefficient / 10, d.exponent + 1⟩
    else d

/-- **The shortest decimal that rounds to a positive number.**  Seventeen digits always do. -/
def Magnitude.shortest (d : Magnitude) : Scaled :=
  let lead := d.leadingExponent
  let found := (List.range 17).findSome? fun (more : Nat) => d.gridPoint? (lead - (more : Int))
  (found.getD ⟨(scaleDown (lead - 16) d.ratio.1 d.ratio.2).1, lead - 16⟩).stripZeros 17

/-- **A positive number rounded to `digits` decimal digits**, a tie going to the even digit. -/
def Magnitude.rounded (d : Magnitude) (digits : Nat) : Scaled :=
  let p := d.leadingExponent - (digits - 1 : Nat)
  let (c, rest, whole) := scaleDown p d.ratio.1 d.ratio.2
  let up := compare (2 * rest) whole == .gt || (compare (2 * rest) whole == .eq && c % 2 == 1)
  let c := if up then c + 1 else c
  if c == Nat.pow 10 digits then ⟨c / 10, p + 1⟩ else ⟨c, p⟩

end Formula.Decimal
