import Formula.Unicode.Category
import Formula.Unicode.CaseTable

/-!
# Unicode/Case — full case mapping of texts, and simple case folding

`toUpper` and `toLower` map a whole text: one character may become several, and the capital sigma
has a lower-case form of its own at the end of a word.  `fold` is simple case folding, one character
for one, by which patterns compare characters without regard to case.
-/

namespace Formula.Unicode

/-! ## Shifts -/

/-- Whether a shift maps the code point. -/
def Shift.covers (s : Shift) (n : Nat) : Bool :=
  s.first ≤ n && n ≤ s.last && (n - s.first) % s.step == 0

/-- The character that shifts map a character to; one that none covers stays. -/
def shiftChar (shifts : List Shift) (c : Char) : Char :=
  match shifts.find? fun s => s.covers c.toNat with
  | some s => Char.ofNat (c.toNat + s.offset).toNat
  | none => c

/-! ## Upper case -/

/-- The upper case of one character. -/
def upperChar (c : Char) : List Char :=
  if c.toNat < 0x80 then [c.toUpper]
  else
    match upperSequences.find? fun (n, _) => n == c.toNat with
    | some (_, codes) => codes.map Char.ofNat
    | none => [shiftChar upperShifts c]

/-- **A text in upper case.** -/
def toUpper (s : String) : String := String.ofList (s.toList.flatMap upperChar)

/-! ## Lower case -/

/-- The capital sigma. -/
def capitalSigma : Char := 'Σ'

/-- The capital I with a dot, which becomes a small i and a dot above it. -/
def capitalDottedI : Char := 'İ'

/-- The lower case of one character out of context. -/
def lowerChar (c : Char) : List Char :=
  if c.toNat < 0x80 then [c.toLower]
  else if c = capitalDottedI then ['i', '\u0307']
  else [shiftChar lowerShifts c]

/-- Whether the first character that does not ignore case is there and has case. -/
def meetsCased (cs : List Char) : Bool :=
  match cs.find? fun c => !ignoresCase c with
  | some c => isCased c
  | none => false

/-- Lower case from left to right; `before` holds the characters already passed, in reverse, and
`acc` their lower case, in reverse.  A sigma is final when a cased character stands before it and
none after it, characters that ignore case not counted. -/
def lowerFrom (before acc : List Char) : List Char → List Char
  | [] => acc.reverse
  | c :: cs =>
    let lower :=
      if c = capitalSigma then [if meetsCased before && !meetsCased cs then 'ς' else 'σ']
      else lowerChar c
    lowerFrom (c :: before) (lower.reverse ++ acc) cs

/-- **A text in lower case.** -/
def toLower (s : String) : String := String.ofList (lowerFrom [] [] s.toList)

/-! ## Folding -/

/-- **Simple case folding.** -/
def fold (c : Char) : Char := shiftChar foldShifts c

/-- Every character that folds as `c` does, `c` among them. -/
def caseVariants (c : Char) : List Char :=
  let target := (fold c).toNat
  let sources := foldShifts.filterMap fun s =>
    let n := ((target : Int) - s.offset).toNat
    if s.covers n && (n : Int) + s.offset == target then some (Char.ofNat n) else none
  fold c :: sources

end Formula.Unicode
