import Formula.Unicode.Category

/-!
# Pattern/Regex — regular expressions and what they match

A **regular expression** matches stretches of a text.  Positions lie between characters, position 0
before the first; `Regex.Matches cs r i j` says that `r` matches the stretch of `cs` from position
`i` to position `j`.  Whether a repetition prefers more or fewer rounds does not matter here, for
the question is only whether there is a match.
-/

namespace Formula.Pattern

/-- **A condition on a position**, given the characters before and after it. -/
abbrev Look := Option Char → Option Char → Bool

/-- **A set of characters.** -/
structure CharSet where
  mem : Char → Bool

/-- **A regular expression.** -/
inductive Regex where
  /-- The empty stretch. -/
  | empty
  /-- One character of a set. -/
  | chars (s : CharSet)
  /-- The empty stretch at a position that meets a condition. -/
  | look (l : Look)
  /-- One stretch and then another. -/
  | seq (a b : Regex)
  /-- Either of two. -/
  | alt (a b : Regex)
  /-- At least `least` and, if there is a bound, at most `most` rounds. -/
  | rounds (r : Regex) (least : Nat) (most : Option Nat)

/-- The character before a position. -/
def charBefore (cs : List Char) (i : Nat) : Option Char := if i = 0 then none else cs[i - 1]?

/-- **What a regular expression matches.** -/
inductive Regex.Matches (cs : List Char) : Regex → Nat → Nat → Prop
  | empty {i} : i ≤ cs.length → Matches cs .empty i i
  | chars {s i c} : cs[i]? = some c → s.mem c → Matches cs (.chars s) i (i + 1)
  | look {l i} : i ≤ cs.length → l (charBefore cs i) cs[i]? → Matches cs (.look l) i i
  | seq {a b i j k} : Matches cs a i j → Matches cs b j k → Matches cs (.seq a b) i k
  | altLeft {a b i j} : Matches cs a i j → Matches cs (.alt a b) i j
  | altRight {a b i j} : Matches cs b i j → Matches cs (.alt a b) i j
  | stop {r most i} : i ≤ cs.length → Matches cs (.rounds r 0 most) i i
  | round {r least most i j k} : most ≠ some 0 → Matches cs r i j →
      Matches cs (.rounds r (least - 1) (most.map (· - 1))) j k →
      Matches cs (.rounds r least most) i k

/-! ## Conditions on positions -/

namespace Look

/-- The start of the text. -/
def textStart : Look := fun before _ => before.isNone

/-- The end of the text. -/
def textEnd : Look := fun _ after => after.isNone

/-- The start of a line that a line feed ends. -/
def lineStart : Look := fun before _ => before.isNone || before == some '\n'

/-- The end of a line that a line feed ends. -/
def lineEnd : Look := fun _ after => after.isNone || after == some '\n'

/-- The start of a line that a line feed, a carriage return or both end. -/
def anyLineStart : Look := fun before after =>
  before.isNone || before == some '\n' || (before == some '\r' && after != some '\n')

/-- The end of a line that a line feed, a carriage return or both end. -/
def anyLineEnd : Look := fun before after =>
  after.isNone || after == some '\r' || (after == some '\n' && before != some '\r')

/-- A position by whether word characters stand before and after it. -/
def words (isWord : Char → Bool) (holds : Bool → Bool → Bool) : Look := fun before after =>
  holds (before.any isWord) (after.any isWord)

end Look

/-! ## Size -/

/-- **The size of a regular expression**: the number of its parts, with every repetition written out
as often as its bounds say. -/
def Regex.size : Regex → Nat
  | .empty => 1
  | .chars _ => 1
  | .look _ => 1
  | .seq a b => a.size + b.size
  | .alt a b => a.size + b.size + 1
  | .rounds r least none => max 1 least * r.size + 1
  | .rounds r least (some most) => least * r.size + (most - least) * (r.size + 1)

end Formula.Pattern
