import Formula.Proofs.Sheet.Rectangle

/-!
# Proofs/Sheet/Positions — the walk over a rectangle by position

`Range.addresses` lists the cells of a rectangle row by row.  The **position** of a cell is its
place in that list, from 0: `Range.nth` finds the cell at a position by division by the width, so
that two rectangles of one size can be walked together whatever their shapes (`cellsIn_eq_map`).
The numbers of a range are those at its **numeric** positions (`numbersIn_cellsIn`).
-/

namespace Formula

variable {α : Type}

/-- Rows of one length one after the other, as a single walk. -/
theorem flatMap_range_map_range (f : Nat → Nat → α) (m n : Nat) :
    ((List.range m).flatMap fun i => (List.range n).map (f i))
      = (List.range (m * n)).map fun k => f (k / n) (k % n) := by
  induction m with
  | zero => rw [Nat.zero_mul]; rfl
  | succ m ih =>
    rw [List.range_succ, List.flatMap_append, ih, Nat.succ_mul, List.range_add, List.map_append,
      List.flatMap_singleton, List.map_map]
    congr 1
    refine List.map_congr_left fun j hj => ?_
    have hn : j < n := List.mem_range.mp hj
    rw [Function.comp_apply, Nat.mul_comm, Nat.mul_add_div (by omega), Nat.div_eq_of_lt hn,
      Nat.mul_add_mod, Nat.mod_eq_of_lt hn, Nat.add_zero]

namespace Range

/-- **The address at a position** of the walk over a rectangle. -/
def nth (r : Range) (k : Nat) : Address := r.addressAt (k / r.width) (k % r.width)

/-- **The walk over a rectangle goes from position to position.** -/
theorem addresses_eq_map (r : Range) : r.addresses = (List.range r.size).map r.nth :=
  flatMap_range_map_range r.addressAt r.height r.width

/-- **No address has two positions.** -/
theorem nth_inj {r : Range} {k l : Nat} (hk : k < r.size) (hl : l < r.size)
    (h : r.nth k = r.nth l) : k = l := by
  have hwidth : 0 < r.width := by
    rw [size] at hk
    exact Nat.pos_of_ne_zero fun h0 => by simp [h0] at hk
  have offsets {i : Nat} (hi : i < r.size) :
      (r.nth i).row.toNat = r.start.row.toNat + i / r.width ∧
        (r.nth i).column.toNat = r.start.column.toNat + i % r.width :=
    ⟨toNat_offset ((Nat.div_lt_iff_lt_mul hwidth).mpr hi), toNat_offset (Nat.mod_lt i hwidth)⟩
  obtain ⟨hkrow, hkcolumn⟩ := offsets hk
  obtain ⟨hlrow, hlcolumn⟩ := offsets hl
  rw [h] at hkrow hkcolumn
  calc k = r.width * (k / r.width) + k % r.width := (Nat.div_add_mod k r.width).symm
    _ = r.width * (l / r.width) + l % r.width := by
        rw [show k / r.width = l / r.width by omega, show k % r.width = l % r.width by omega]
    _ = l := Nat.div_add_mod l r.width

end Range

namespace Sheet

variable {s : Sheet} {r t : Range}

/-- The number of the cell at a position of a range, if it holds one. -/
def numberAt? (s : Sheet) (r : Range) (k : Nat) : Option Float := Cell.number? (s.cell (r.nth k))

/-- **The numeric positions of a range**: those at which its cell holds a number. -/
def numericPositions (s : Sheet) (r : Range) : List Nat :=
  (List.range r.size).filter fun k => (s.numberAt? r k).isSome

theorem cellsIn_eq_map (s : Sheet) (r : Range) :
    s.cellsIn r = (List.range r.size).map fun k => s.cell (r.nth k) := by
  rw [cellsIn, Range.addresses_eq_map, List.map_map]
  rfl

/-- **The numbers of a range** are those at its positions, in their order. -/
theorem numbersIn_cellsIn (s : Sheet) (r : Range) :
    numbersIn (s.cellsIn r) = (List.range r.size).filterMap (s.numberAt? r) := by
  rw [numbersIn, cellsIn_eq_map, List.filterMap_map]
  rfl

end Sheet

end Formula
