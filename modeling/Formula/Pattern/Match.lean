import Formula.Pattern.Regex

/-!
# Pattern/Match — matching by sets of positions

A set of positions is a natural number whose binary digit `i` says whether position `i` is in it.
`Located.ends` takes the set of positions from which a pattern may start to the set of positions at
which it may then end, all at once, so that the time needed does not grow with the number of ways to
match.  `Regex.locate` first replaces the sets of characters and the conditions of a pattern by the
sets of positions in the text at hand where they hold.
-/

namespace Formula.Pattern

/-- **A regular expression for one text**: characters and conditions are sets of positions. -/
inductive Located where
  | empty
  /-- A character that follows a position of the set. -/
  | chars (positions : Nat)
  /-- A position of the set. -/
  | look (positions : Nat)
  | seq (a b : Located)
  | alt (a b : Located)
  | rounds (r : Located) (least : Nat) (most : Option Nat)

/-- The set of the places at which a list has `true`. -/
def positionSet (marks : List Bool) : Nat :=
  marks.foldr (fun mark set => 2 * set + if mark then 1 else 0) 0

/-- The characters before and after each position of a text, given the one before its first. -/
def surroundings (before : Option Char) : List Char → List (Option Char × Option Char)
  | [] => [(before, none)]
  | c :: cs => (before, some c) :: surroundings (some c) cs

/-- **Find where in a text the parts of a pattern hold.** -/
def Regex.locate (cs : List Char) : Regex → Located
  | .empty => .empty
  | .chars s => .chars (positionSet (cs.map s.mem))
  | .look l =>
    .look (positionSet ((surroundings none cs).map fun (before, after) => l before after))
  | .seq a b => .seq (a.locate cs) (b.locate cs)
  | .alt a b => .alt (a.locate cs) (b.locate cs)
  | .rounds r least most => .rounds (r.locate cs) least most

/-- Apply a function `n` times, or until it changes nothing. -/
def iterate (f : Nat → Nat) : Nat → Nat → Nat
  | 0, set => set
  | n + 1, set =>
    let next := f set
    if next = set then set else iterate f n next

/-- The positions at which a pattern may end that starts from one of a set; `bound` is the number of
positions of the text, which unbounded repetition need not exceed. -/
def Located.ends (bound : Nat) : Located → Nat → Nat
  | .empty, set => set
  | .chars positions, set => (set &&& positions) <<< 1
  | .look positions, set => set &&& positions
  | .seq a b, set => b.ends bound (a.ends bound set)
  | .alt a b, set => a.ends bound set ||| b.ends bound set
  | .rounds r least most, set =>
    let start := iterate (r.ends bound) least set
    let more := match most with
      | none => bound
      | some n => n - least
    iterate (fun set => set ||| r.ends bound set) more start

/-- **Whether a pattern matches somewhere in a text.** -/
def Regex.isMatch (r : Regex) (cs : List Char) : Bool :=
  let positions := cs.length + 1
  (r.locate cs).ends positions ((1 <<< positions) - 1) != 0

end Formula.Pattern
