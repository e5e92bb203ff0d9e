import Std.Data.ExtTreeMap
import Formula.Sheet.Range
import Formula.Value.Basic

/-!
# Sheet/Basic — sheets

A **sheet** keeps cells at the addresses of the grid; an address at which it keeps nothing is an
empty cell.  To store an empty cell is to keep nothing there, so that sheets that were only stored
to are equal as soon as their cells are.
-/

namespace Formula

/-- **The cells of a sheet by address.** -/
structure Sheet where
  cells : Std.ExtTreeMap Address Cell

/-- Why a sheet could not be changed or built. -/
inductive SheetError where
  /-- The address lies outside the grid. -/
  | outOfBounds (row column : Nat)
  /-- The stored form is no list of rows. -/
  | notRows
  /-- The stored form of a cell is of a kind that cells do not have. -/
  | unsupportedCell (row column : Nat) (kind : String)
deriving DecidableEq

/-- The message for a sheet that could not be changed or built. -/
def SheetError.message : SheetError → String
  | outOfBounds row column =>
    "cell coordinate out of range: row " ++ Decimal.digitsText row ++ ", col " ++
      Decimal.digitsText column
  | notRows => "expected a JSON array of rows"
  | unsupportedCell row column kind =>
    "unsupported JSON cell at row " ++ Decimal.digitsText row ++ ", col " ++
      Decimal.digitsText column ++ ": " ++ kind

namespace Sheet

/-- The sheet that keeps nothing. -/
def empty : Sheet := ⟨∅⟩

instance : Inhabited Sheet := ⟨empty⟩

/-- What is kept at an address, if anything is. -/
def cell? (s : Sheet) (a : Address) : Option Cell := s.cells[a]?

/-- **The cell at an address**: an empty one where nothing is kept. -/
def cell (s : Sheet) (a : Address) : Cell := (s.cell? a).getD .empty

/-- **The value at an address**, if there is one. -/
def value? (s : Sheet) (a : Address) : Option Value := (s.cell? a).bind Value.ofCell?

/-- **Store a cell** at an address of the grid; an empty one clears the address. -/
def set (s : Sheet) (a : Address) (c : Cell) : Except SheetError Sheet :=
  if a.inGrid then
    .ok ⟨if c.isEmpty then s.cells.erase a else s.cells.insert a c⟩
  else
    .error (.outOfBounds a.row.toNat a.column.toNat)

@[simp] theorem cell?_empty (a : Address) : empty.cell? a = none := Std.ExtTreeMap.getElem?_empty

@[simp] theorem value?_empty (a : Address) : empty.value? a = none := by
  rw [value?, cell?_empty, Option.bind_none]

/-- The value at an address is that of its cell. -/
theorem value?_eq (s : Sheet) (a : Address) : s.value? a = Value.ofCell? (s.cell a) := by
  rw [value?, cell]
  cases s.cell? a <;> rfl

/-- A sheet that was stored to keeps the new cell at its address, unless it is empty, and elsewhere
what it kept. -/
theorem cell?_of_set {s t : Sheet} {a : Address} {c : Cell} (h : s.set a c = .ok t) (b : Address) :
    t.cell? b = if a = b then (some c).filter (!·.isEmpty) else s.cell? b := by
  unfold set at h
  split at h
  · cases h
    cases hc : c.isEmpty <;>
      simp [hc, cell?, Option.filter, Std.ExtTreeMap.getElem?_insert,
        Std.ExtTreeMap.getElem?_erase]
  · cases h

/-- A sheet that was stored to has the new cell at its address and the old ones elsewhere. -/
theorem cell_of_set {s t : Sheet} {a : Address} {c : Cell} (h : s.set a c = .ok t) (b : Address) :
    t.cell b = if a = b then c else s.cell b := by
  rw [cell, cell?_of_set h]
  by_cases hb : a = b
  · cases c <;> simp [hb, Option.filter, Cell.isEmpty]
  · rw [if_neg hb, if_neg hb, cell]

/-- A sheet is what it keeps. -/
theorem ext_cell? {s t : Sheet} (h : ∀ a, s.cell? a = t.cell? a) : s = t := by
  obtain ⟨s⟩ := s
  obtain ⟨t⟩ := t
  exact congrArg mk (Std.ExtTreeMap.ext_getElem? h)

/-- The addresses of a row of cells, from the first column on. -/
def addressed (row : Nat) (cells : List Cell) : List (Address × Cell) :=
  cells.zipIdx.map fun (c, column) => (⟨.ofNat row, .ofNat column⟩, c)

/-- **The sheet of given rows**, the first of them row 0 and the first of its cells column 0. -/
def ofRows (rows : List (List Cell)) : Except SheetError Sheet :=
  (rows.zipIdx.flatMap fun (cells, row) => addressed row cells).foldlM
    (fun s (a, c) => s.set a c) empty

/-- The cells of a range, row by row. -/
def cellsIn (s : Sheet) (r : Range) : List Cell := r.addresses.map s.cell

/-- The numbers in a list of cells. -/
def numbersIn (cells : List Cell) : List Float := cells.filterMap Cell.number?

end Sheet

end Formula
