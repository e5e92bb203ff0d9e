import Formula.Pattern.Reader

/-!
# Pattern/Engine — engines of regular expressions

What a pattern is and what it matches is not for the formulas to say: they hand it to an **engine**.
An engine knows which texts are regular expressions, takes only those that are within its limits,
and tells whether a regular expression matches somewhere in a text.

`engine` is one of them.  It has the groups, flags, repetitions, classes and Unicode properties that
patterns of formulas are commonly written with.
-/

namespace Formula.Pattern

/-- **An engine of regular expressions.** -/
structure Engine where
  /-- Whether a text is a regular expression. -/
  wellFormed : String → Bool
  /-- Whether a regular expression is within the limits of nesting and of size. -/
  withinLimits : String → Bool
  /-- Whether a regular expression matches somewhere in a text. -/
  isMatch : String → String → Bool

/-- **Search a text for a pattern**; none if the engine does not take the pattern. -/
def Engine.search? (g : Engine) (pattern s : String) : Option Bool :=
  if g.wellFormed pattern && g.withinLimits pattern then some (g.isMatch pattern s) else none

/-! ## An engine -/

/-- The greatest depth of a pattern. -/
def maxDepth : Nat := 250

/-- The greatest size of a pattern. -/
def maxSize : Nat := 327680

/-- The pattern that a text is. -/
def Node.ofText? (pattern : String) : Option Node := Node.ofChars? pattern.toList

/-- **The engine that reads patterns as they are read here.** -/
def engine : Engine where
  wellFormed pattern := (Node.ofText? pattern).isSome
  withinLimits pattern :=
    (Node.ofText? pattern).any fun m => m.depth ≤ maxDepth && m.regex.size ≤ maxSize
  isMatch pattern s := (Node.ofText? pattern).any fun m => m.regex.isMatch s.toList

end Formula.Pattern
