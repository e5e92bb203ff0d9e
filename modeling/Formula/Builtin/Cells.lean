import Formula.Builtin.Plan
import Formula.Number.Statistics
import Formula.Value.Criterion

/-!
# Builtin/Cells — functions of ranges

**Reducers** take numbers: those of the cells of a range, cells without a number being passed over,
and that of any other argument.  The other functions take ranges only.
-/

namespace Formula.Builtin

/-! ## Reducers -/

/-- The numbers that an argument of a reducer gives. -/
def numbersAt (i : Nat) : Plan (List Float) :=
  .operand i fun
    | .scalar v => return [v.toNumber]
    | .region _ cells => return Sheet.numbersIn cells.get

/-- A reducer. -/
def reducer (name help : String) (f : List Float → Float) : Function :=
  ⟨name, 1, anyArguments, help, fun arguments => do
    return .number (f (← Plan.each 0 arguments numbersAt).flatten)⟩

/-! ## Criteria -/

/-- The plan of `countif`. -/
def countIf : Plan Value := do
  let (_, cells) ← Plan.region "countif" 0
  let criterion := Criterion.ofValue (← Plan.argument 1)
  return .number (Float.ofNat (cells.get.countP criterion.accepts))

/-- The numbers to be added: those of the second cells whose first cells meet the criterion. -/
def selected (criterion : Criterion) (pairs : List (Cell × Cell)) : List Float :=
  (pairs.filter fun (c, _) => criterion.accepts c).filterMap fun (_, c) => Cell.number? c

/-- The plan of `sumif`: the numbers come from the first range unless there is another of its
size.  Of ranges with sorted corners, only the rectangle of all addresses has none. -/
def sumIf (arguments : Nat) : Plan Value := do
  let (range, cells) ← Plan.region "sumif" 0
  let criterion := Criterion.ofValue (← Plan.argument 1)
  let sums ←
    if 2 < arguments then do
      let (sumRange, sums) ← Plan.region "sumif" 2
      if sumRange.size? = range.size? then pure sums
      else .fault "sumif" (.sizesDiffer range sumRange)
    else pure cells
  return .number (Number.sum (selected criterion (cells.get.zip sums.get)))

/-- The plan of `countblank`. -/
def countBlank : Plan Value := do
  let (_, cells) ← Plan.region "countblank" 0
  return .number (Float.ofNat (cells.get.countP Cell.isBlank))

/-! ## Regression -/

/-- The line of least squares through the numbers of two ranges, which must be equally many. -/
def regression (name : String) : Plan (Float × Float) := do
  let (_, ys) ← Plan.region name 0
  let (_, xs) ← Plan.region name 1
  let ys := Sheet.numbersIn ys.get
  let xs := Sheet.numbersIn xs.get
  if ys.length ≠ xs.length then .fault name (.unpaired ys.length xs.length)
  else return Number.leastSquares ys xs

/-- **The functions of ranges.** -/
def cellFunctions : List Function :=
  [reducer "sum" "sum(a, b, ...): sum of the numeric arguments and range cells" Number.sum,
   reducer "min" "min(a, b, ...): smallest of the numeric arguments and range cells"
    Number.minimum,
   reducer "max" "max(a, b, ...): largest of the numeric arguments and range cells" Number.maximum,
   reducer "average" "average(a, b, ...): mean of the numeric arguments and range cells"
    Number.mean,
   reducer "stdev" "stdev(a, b, ...): sample standard deviation" Number.deviation,
   reducer "stdevp" "stdevp(a, b, ...): population standard deviation" Number.populationDeviation,
   ⟨"countif", 2, 2,
    "countif(range, criterion): number of cells matching 'criterion', e.g. 5, \">3\" or \"<>x\"",
    fun _ => countIf⟩,
   ⟨"sumif", 2, 3,
    "sumif(range, criterion[, sum_range]): sum of the numeric cells whose criterion cell matches",
    sumIf⟩,
   ⟨"countblank", 1, 1,
    "countblank(range): number of empty cells, cells holding empty text included",
    fun _ => countBlank⟩,
   ⟨"slope", 2, 2, "slope(y_range, x_range): slope of the least-squares regression line",
    fun _ => do return .number (← regression "slope").1⟩,
   ⟨"intercept", 2, 2,
    "intercept(y_range, x_range): intercept of the least-squares regression line",
    fun _ => do return .number (← regression "intercept").2⟩]

end Formula.Builtin
