import Formula.Calendar.Amount
import Formula.Sheet.Range
import Formula.Text.Chars

/-!
# Config — settings of an evaluation

The settings are the policy on business days and the bound on the nesting of expressions.
-/

namespace Formula

open Calendar (Policy)

/-- **The settings of an evaluation.** -/
structure Config where
  businessDays : Policy := .mondayToFriday
  maxDepth : UInt64 := 256
deriving DecidableEq, Inhabited

/-- The policy that a name spells, in any case of its letters, with hyphens for underscores and with
blanks around it. -/
def Calendar.Policy.ofText? (s : String) : Option Policy :=
  let plain := (Text.trimChars s.toList).map fun c => if c = '-' then '_' else c.toLower
  Policy.all.find? fun p => p.name.toList == plain

end Formula
