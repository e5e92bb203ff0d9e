import Formula.Calendar.Printer
import Formula.Decimal.Printer

/-!
# Sheet/Cell — what a cell of a sheet holds

A cell is **empty** or holds a number, a text, a truth value or a date.  A sheet keeps cells of its
own kind; an expression reads them as values (`Value.ofCell?`), of which an empty cell has none.
-/

namespace Formula

open Calendar (DateTime)

/-- **The content of a cell.** -/
inductive Cell where
  | empty
  | number (x : Float)
  | text (s : String)
  | bool (b : Bool)
  | date (t : DateTime)
deriving DecidableEq, Inhabited

namespace Cell

/-- Whether a cell is empty. -/
def isEmpty : Cell → Bool
  | empty => true
  | _ => false

/-- Whether a cell is **blank**: empty, or holding the empty text. -/
def isBlank : Cell → Bool
  | empty => true
  | text s => s.isEmpty
  | number _ | bool _ | date _ => false

/-- The number that a cell holds, if it holds one. -/
def number? : Cell → Option Float
  | number x => some x
  | _ => none

/-- The text shown for a cell; an empty cell shows none. -/
def toText : Cell → String
  | empty => ""
  | number x => Decimal.toText x
  | text s => s
  | bool b => if b then "true" else "false"
  | date t => t.text

/-- Whether two cells are equal: of one kind, and numbers by size, so that what is no number is
equal to nothing. -/
def equals : Cell → Cell → Bool
  | empty, empty => true
  | number x, number y => x == y
  | text s, text t => s == t
  | bool a, bool b => a == b
  | date s, date t => s == t
  | _, _ => false

@[simp] theorem isEmpty_iff {c : Cell} : c.isEmpty ↔ c = empty := by
  cases c <;> simp [isEmpty]

end Cell

end Formula
