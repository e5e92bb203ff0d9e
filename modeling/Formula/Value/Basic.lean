import Formula.Calendar.Component
import Formula.Calendar.Reader
import Formula.Calendar.Business
import Formula.Number.Arithmetic
import Formula.Sheet.Cell

/-!
# Value/Basic — the values of the language

A **value** is a number, a text, a truth value or a date.  Values are read as one another without
ever failing: a reading that does not apply gives `nan`, `false` or nothing, and the expression that
asked decides what that means.
-/

namespace Formula

open Calendar (DateTime Policy Component)

/-- **The result of an expression.** -/
inductive Value where
  | number (x : Float)
  | text (s : String)
  | bool (b : Bool)
  | date (t : DateTime)
deriving DecidableEq

namespace Value

/-- The name of the kind of a value, as messages give it. -/
def kindName : Value → String
  | number _ => "number"
  | text _ => "text"
  | bool _ => "boolean"
  | date _ => "date"

/-- Whether the value is a text. -/
def isText : Value → Bool
  | text _ => true
  | _ => false

/-- **The value of a cell**; an empty cell has none. -/
def ofCell? : Cell → Option Value
  | .empty => none
  | .number x => some (number x)
  | .text s => some (text s)
  | .bool b => some (bool b)
  | .date t => some (date t)

theorem ofCell?_eq_none_iff {c : Cell} : ofCell? c = none ↔ c = .empty := by
  cases c <;> simp [ofCell?]

/-- **The text of a value.** -/
def toText : Value → String
  | number x => Decimal.toText x
  | text s => s
  | bool b => if b then "true" else "false"
  | date t => t.text

/-- A number as it is; what else there is, is no number. -/
def toNumber : Value → Float
  | number x => x
  | _ => Number.nan

/-- A truth value as it is; all else is false. -/
def toBool : Value → Bool
  | bool b => b
  | _ => false

/-- The integer that stands for no integer. -/
def notAnInteger : Int64 := Int64.maxValue

/-- **The integer of a number**: its whole part, in 64 bits; for any other value, and what is no
number, `notAnInteger`. -/
def toInteger : Value → Int64
  | number x => if x.isNaN then notAnInteger else Decimal.saturate x
  | _ => notAnInteger

/-- **The date of a value**: a date as it is, a text if it reads as one. -/
def toDate? : Value → Option DateTime
  | date t => some t
  | text s => DateTime.ofText? s
  | _ => none

/-- A component of the date of a value, or `nan` when the value has no date. -/
def component (v : Value) (c : Component) : Float :=
  match v.toDate? with
  | some t => Float.ofInt (t.component c)
  | none => Number.nan

/-- Whether the value has a date and that is a business day. -/
def isBusinessDay (v : Value) (p : Policy) : Bool :=
  match v.toDate? with
  | some t => p.isBusinessDay t.date
  | none => false

/-! ## Order -/

/-- The order of two numbers; what is no number has no place in it. -/
def compareNumbers (x y : Float) : Option Ordering :=
  if x < y then some .lt else if x == y then some .eq else if y < x then some .gt else none

/-- **The order of two values**: numbers by size, texts by code point, false before true, dates by
time.  Values of two kinds, and what is no number, are incomparable. -/
def compare? : Value → Value → Option Ordering
  | number x, number y => compareNumbers x y
  | text s, text t => some (compare s t)
  | bool a, bool b => some (compare a b)
  | date a, date b => some (compare a b)
  | _, _ => none

/-- An order as a number: -1, 0 or 1; where there is no order, there is no number. -/
def orderNumber : Option Ordering → Float
  | some .lt => -1
  | some .eq => 0
  | some .gt => 1
  | none => Number.nan

/-- **The order of two values as a number.** -/
def order (a b : Value) : Float := orderNumber (a.compare? b)

end Value

end Formula
