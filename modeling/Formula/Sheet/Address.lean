import Formula.Text.Chars

/-!
# Sheet/Address — cells by row and column

An **address** is a row and a column, both from 0.  In text the column is written in letters, as a
bijective numeral in base 26 (`A` to `Z`, then `AA`), and the row as a number from 1.  Reading a
text is bounded by the grid of `maxRows` by `maxColumns` cells; writing an address is not.  Numbers
are kept in 32 bits on the way: writing counts from 1 and wraps around, reading gives up on a number
that does not fit.
-/

namespace Formula

open Text (trim)

/-- The number of rows of the grid. -/
def maxRows : Nat := 1048576

/-- The number of columns of the grid. -/
def maxColumns : Nat := 16384

/-- **The address of a cell.** -/
structure Address where
  row : UInt32
  column : UInt32
deriving DecidableEq

/-- What is wrong with the text of an address. -/
inductive AddressError where
  | empty
  | missingColumn (text : String)
  | missingRow (text : String)
  | columnOutOfRange (text : String)
  | rowOutOfRange (text : String)
  | trailingCharacters (text : String)
deriving DecidableEq

/-- The message for an address that cannot be read. -/
def AddressError.message : AddressError → String
  | empty => "cell reference is empty"
  | missingColumn text => "cell reference '" ++ text ++ "' has no column letters"
  | missingRow text => "cell reference '" ++ text ++ "' has no row number"
  | columnOutOfRange text => "cell reference '" ++ text ++ "' names a column past XFD"
  | rowOutOfRange text => "cell reference '" ++ text ++ "' names a row outside 1..=1048576"
  | trailingCharacters text => "unexpected characters after cell reference '" ++ text ++ "'"

namespace Address

/-- **The order of addresses**: row by row, and from left to right in a row. -/
protected def compare (a b : Address) : Ordering :=
  (compare a.row b.row).then (compare a.column b.column)

instance : Ord Address := ⟨Address.compare⟩

theorem compare_def (a b : Address) :
    compare a b = compareLex (compareOn Address.row) (compareOn Address.column) a b := rfl

instance : Std.TransOrd Address :=
  inferInstanceAs (Std.TransCmp (compareLex (compareOn Address.row) (compareOn Address.column)))

instance : Std.LawfulEqOrd Address where
  eq_of_compare {a b} h := by
    rw [compare_def, compareLex, Ordering.then_eq_eq] at h
    cases a
    cases b
    simp_all [compareOn]

/-- Whether the address lies in the grid. -/
def inGrid (a : Address) : Bool := a.row.toNat < maxRows && a.column.toNat < maxColumns

/-! ## Writing -/

/-- The letters of the column number `n`, columns counted from 1. -/
def columnLetters (n : Nat) : List Char :=
  if n = 0 then []
  else columnLetters ((n - 1) / 26) ++ [Char.ofNat ('A'.toNat + (n - 1) % 26)]
termination_by n
decreasing_by omega

/-- **The text of an address.** -/
def toA1 (a : Address) : String :=
  String.ofList (columnLetters (a.column + 1).toNat ++ Nat.toDigits 10 (a.row + 1).toNat)

/-! ## Reading numerals -/

/-- A number with one more digit in a given base, if it still fits into 32 bits. -/
def appendDigit? (base : Nat) (n : UInt32) (digit : Nat) : Option UInt32 :=
  let value := base * n.toNat + digit
  if value < UInt32.size then some (.ofNat value) else none

/-- **The number that digits write**, the most significant first.  No step may leave 32 bits. -/
def numeral? (base : Nat) (digits : List Nat) : Option UInt32 :=
  digits.foldlM (appendDigit? base) 0

/-- The digit that a letter of either case stands for, 1 for `A` to 26 for `Z`. -/
def letterDigit (c : Char) : Nat := c.toUpper.toNat - 'A'.toNat + 1

/-- The digit that a decimal digit stands for. -/
def decimalDigit (c : Char) : Nat := c.toNat - '0'.toNat

/-- The column number, from 1, that letters of either case write, if the grid has it. -/
def columnNumber? (letters : List Char) : Option UInt32 :=
  (numeral? 26 (letters.map letterDigit)).filter fun n => n.toNat ≤ maxColumns

/-- The row number, from 1, that digits write, if the grid has it. -/
def rowNumber? (digits : List Char) : Option UInt32 :=
  (numeral? 10 (digits.map decimalDigit)).filter fun n => 1 ≤ n.toNat ∧ n.toNat ≤ maxRows

/-! ## Reading -/

/-- A text without a dollar sign at its front. -/
def dropDollar : List Char → List Char
  | '$' :: cs => cs
  | cs => cs

/-- **What the text of an address falls into**: letters, digits, and what is left after them. -/
structure Parts where
  letters : List Char
  digits : List Char
  rest : List Char

/-- The parts of a text, without a dollar sign before its letters and before its digits. -/
def Parts.ofText (text : List Char) : Parts :=
  let body := dropDollar text
  let tail := dropDollar (body.dropWhile Char.isAlpha)
  ⟨body.takeWhile Char.isAlpha, tail.takeWhile Char.isDigit, tail.dropWhile Char.isDigit⟩

/-- The address that the parts of `text` write. -/
def Parts.address (text : String) (parts : Parts) : Except AddressError Address :=
  if parts.letters.isEmpty then .error (.missingColumn text)
  else if parts.digits.isEmpty then .error (.missingRow text)
  else if !parts.rest.isEmpty then .error (.trailingCharacters text)
  else
    match columnNumber? parts.letters with
    | none => .error (.columnOutOfRange text)
    | some column =>
      match rowNumber? parts.digits with
      | none => .error (.rowOutOfRange text)
      | some row => .ok ⟨row - 1, column - 1⟩

/-- **Read an address**: letters and then digits, with a dollar sign before either, and blanks
around the whole. -/
def ofA1 (s : String) : Except AddressError Address :=
  let text := trim s
  if text.isEmpty then .error .empty else (Parts.ofText text.toList).address text

end Address

end Formula
