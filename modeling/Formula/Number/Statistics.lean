import Formula.Number.Arithmetic

/-!
# Number/Statistics — sums, extremes, means and spreads

Each statistic is one pass over its sample in order.  **Mean**, **variance** and **covariance** are
updated value by value, so that the result does not suffer from large intermediate sums.  A sample
that is too small has no statistic, which is `nan`.
-/

namespace Formula.Number

/-- **The sum**, taken from the left and starting from negative zero. -/
def sum (xs : List Float) : Float := xs.foldl (· + ·) (-0.0)

/-- The first value in the order `before`; what is no number wins over any number. -/
def extreme (before : Float → Float → Bool) : List Float → Float
  | [] => nan
  | x :: xs => xs.foldl (fun best y => if before y best || y.isNaN then y else best) x

/-- **The smallest value.** -/
def minimum (xs : List Float) : Float := extreme (fun a b => a < b) xs

/-- **The largest value.** -/
def maximum (xs : List Float) : Float := extreme (fun a b => b < a) xs

/-- The number of values seen and their mean. -/
structure RunningMean where
  count : Float := 0
  mean : Float := 0

/-- Take in one value. -/
def RunningMean.add (m : RunningMean) (x : Float) : RunningMean :=
  let count := m.count + 1
  ⟨count, m.mean + (x - m.mean) / count⟩

/-- **The mean.** -/
def mean (xs : List Float) : Float :=
  if xs.isEmpty then nan else (xs.foldl RunningMean.add {}).mean

/-- The number of values seen, their sum, and the sum of their squared deviations. -/
structure RunningSpread where
  count : Float
  sum : Float
  squares : Float

/-- Take in one value. -/
def RunningSpread.add (s : RunningSpread) (x : Float) : RunningSpread :=
  let count := s.count + 1
  let sum := s.sum + x
  let deviation := count * x - sum
  ⟨count, sum, s.squares + deviation * deviation / (count * (count - 1))⟩

/-- The spread of a sample that is not empty. -/
def spread (x : Float) (xs : List Float) : RunningSpread := xs.foldl RunningSpread.add ⟨1, x, 0⟩

/-- **The variance of a sample**, from two values on. -/
def variance : List Float → Float
  | [] | [_] => nan
  | x :: xs => let s := spread x xs; s.squares / (s.count - 1)

/-- **The variance of a whole population**, from one value on. -/
def populationVariance : List Float → Float
  | [] => nan
  | x :: xs => let s := spread x xs; s.squares / s.count

/-- The standard deviation of a sample. -/
def deviation (xs : List Float) : Float := (variance xs).sqrt

/-- The standard deviation of a whole population. -/
def populationDeviation (xs : List Float) : Float := (populationVariance xs).sqrt

/-- The number of pairs seen, the means of either side, and the sum of the products of their
deviations. -/
structure RunningProduct where
  count : Float := 0
  left : Float := 0
  right : Float := 0
  products : Float := 0

/-- Take in one pair. -/
def RunningProduct.add (s : RunningProduct) (pair : Float × Float) : RunningProduct :=
  let count := s.count + 1
  let left := s.left + (pair.1 - s.left) / count
  let right := s.right + (pair.2 - s.right) / count
  ⟨count, left, right, s.products + (pair.1 - left) * (pair.2 - s.right)⟩

/-- **The covariance of two samples of one length.** -/
def covariance (xs ys : List Float) : Float :=
  let s := (xs.zip ys).foldl RunningProduct.add {}
  if 1 < s.count then s.products / (s.count - 1) else nan

/-- **The line of least squares** `y = slope · x + intercept`.  There is none through fewer than two
points, nor where all `x` are equal. -/
def leastSquares (ys xs : List Float) : Float × Float :=
  if ys.length < 2 || ys.length != xs.length then (nan, nan)
  else
    let spread := variance xs
    if spread == 0 then (nan, nan)
    else
      let slope := covariance xs ys / spread
      (slope, mean ys - slope * mean xs)

end Formula.Number
