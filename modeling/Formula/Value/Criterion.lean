import Formula.Decimal.Reader
import Formula.Text.Chars
import Formula.Value.Comparison

/-!
# Value/Criterion — the conditions of `countif` and `sumif`

A **criterion** is a comparison with a fixed operand.  It is given as a value: a text may begin with
one of the signs `<> != <= >= < > =`, the rest being a number, a truth value or a text; any other
value asks for equality with itself.
-/

namespace Formula

open Text (trim trimChars)

/-- **A condition on a value.** -/
structure Criterion where
  comparison : Comparison
  operand : Value
deriving DecidableEq

namespace Criterion

/-- The signs that may begin a criterion; where one is the beginning of another, the longer stands
first. -/
def signs : List (List Char × Comparison) :=
  [(['<', '>'], .ne), (['!', '='], .ne), (['<', '='], .le), (['>', '='], .ge),
   (['<'], .lt), (['>'], .gt), (['='], .eq)]

/-- The comparison that a text begins with, and the rest of the text; equality when it begins with
none. -/
def splitSign (cs : List Char) : Comparison × List Char :=
  match signs.find? fun (sign, _) => sign.isPrefixOf cs with
  | some (sign, comparison) => (comparison, cs.drop sign.length)
  | none => (.eq, cs)

/-- Whether a text is an ASCII word up to the case of its letters. -/
def isWord (word s : String) : Bool := s.toList.map Char.toLower == word.toList

/-- The operand that a text names: a number, a truth value, or else the text itself. -/
def operandOfText (s : String) : Value :=
  match Decimal.ofText? s with
  | some x => .number x
  | none =>
    if isWord "true" s then .bool true
    else if isWord "false" s then .bool false
    else .text s

/-- The criterion that a text writes. -/
def ofText (s : String) : Criterion :=
  let (comparison, rest) := splitSign (trimChars s.toList)
  ⟨comparison, operandOfText (String.ofList (trimChars rest))⟩

/-- **The criterion given by a value.** -/
def ofValue : Value → Criterion
  | .text s => ofText s
  | v => ⟨.eq, v⟩

/-- Whether a value meets the criterion; where there is no value, none is met. -/
def holds (c : Criterion) : Option Value → Bool
  | some v => c.comparison.holds (v.compare? c.operand)
  | none => false

/-- **Whether a cell meets the criterion**; an empty cell meets none. -/
def accepts (c : Criterion) (cell : Cell) : Bool := c.holds (Value.ofCell? cell)

end Criterion

end Formula
