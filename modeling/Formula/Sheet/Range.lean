import Formula.Sheet.Address

/-!
# Sheet/Range — rectangles of cells

A **range** has a start and an end corner.  `Range.spanning` puts the top left corner first,
whatever two opposite corners it is given; `Range.addresses` walks the rectangle row by row.
-/

namespace Formula

/-- **A rectangle of cells**, both corners included. -/
structure Range where
  start : Address
  finish : Address
deriving DecidableEq

namespace Range

/-- **The rectangle spanned by two opposite corners.** -/
def spanning (a b : Address) : Range :=
  ⟨⟨min a.row b.row, min a.column b.column⟩, ⟨max a.row b.row, max a.column b.column⟩⟩

/-- The rectangle of one cell. -/
def single (a : Address) : Range := spanning a a

/-- The number of rows. -/
def height (r : Range) : Nat := r.finish.row.toNat + 1 - r.start.row.toNat

/-- The number of columns. -/
def width (r : Range) : Nat := r.finish.column.toNat + 1 - r.start.column.toNat

/-- The number of cells. -/
def size (r : Range) : Nat := r.height * r.width

/-- The length of a side, if its ends stand in order. -/
def side? (low high : UInt32) : Option UInt64 :=
  if low ≤ high then some ((high - low).toUInt64 + 1) else none

/-- **The size of a range** as it is computed, if its sides have a length and 64 bits hold their
product. -/
def size? (r : Range) : Option UInt64 := do
  let rows ← side? r.start.row r.finish.row
  let columns ← side? r.start.column r.finish.column
  if rows.toNat * columns.toNat < UInt64.size then some (rows * columns) else none

/-- The address in a given row and column of the rectangle, both from 0. -/
def addressAt (r : Range) (row column : Nat) : Address :=
  ⟨.ofNat (r.start.row.toNat + row), .ofNat (r.start.column.toNat + column)⟩

/-- **Every address of the rectangle**, row by row and from left to right in a row. -/
def addresses (r : Range) : List Address :=
  (List.range r.height).flatMap fun row => (List.range r.width).map (r.addressAt row)

/-- The text of a range; one cell is written as its address. -/
def text (r : Range) : String :=
  if r.start = r.finish then r.start.toA1 else r.start.toA1 ++ ":" ++ r.finish.toA1

/-- **Read a range**: two addresses with a colon between them, or one address. -/
def ofA1 (s : String) : Except AddressError Range :=
  let cs := s.toList
  match cs.dropWhile (· != ':') with
  | _ :: after => do
    let a ← Address.ofA1 (String.ofList (cs.takeWhile (· != ':')))
    let b ← Address.ofA1 (String.ofList after)
    return spanning a b
  | [] => do
    let a ← Address.ofA1 s
    return single a

end Range

end Formula
