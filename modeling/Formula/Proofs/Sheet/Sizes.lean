import Formula.Proofs.Sheet.Rectangle
import Mathlib.Algebra.Order.Ring.Nat

/-!
# Proofs/Sheet/Sizes — the size of a range in 64 bits

The size of a range is computed from its sides (`Range.size?`), which are differences of 32 bits.
It comes out if the range is upright, the largest rectangle apart, and is then the number of its
cells (`size?_eq_some_iff`, `size?_eq_none_iff`).  So two upright ranges have one computed size
exactly if they have as many cells (`size?_eq_iff`).
-/

namespace Formula.Range

variable {r t : Range} {low high : UInt32} {n : UInt64}

/-- The rectangle of all addresses, whether the grid has them or not. -/
def everywhere : Range := ⟨⟨0, 0⟩, ⟨4294967295, 4294967295⟩⟩

theorem side?_eq_some_iff :
    side? low high = some n ↔ low ≤ high ∧ n.toNat = high.toNat + 1 - low.toNat := by
  rw [side?]
  split
  · next h =>
    have hlow := UInt32.le_iff_toNat_le.mp h
    have hhigh := high.toNat_lt
    have hlength : ((high - low).toUInt64 + 1).toNat = high.toNat + 1 - low.toNat := by
      rw [UInt64.toNat_add, UInt32.toNat_toUInt64, UInt32.toNat_sub_of_le _ _ h]
      change (_ + 1) % 2 ^ 64 = _
      omega
    rw [Option.some_inj, ← UInt64.toNat_inj, hlength, and_iff_right h, eq_comm]
  · next h => exact iff_of_false nofun fun hn => h hn.1

/-- **The size that is computed is that of an upright range**, and no other has one. -/
theorem size?_eq_some_iff : r.size? = some n ↔ r.Upright ∧ n.toNat = r.size := by
  rw [size?]
  simp only [Option.bind_eq_bind, Option.bind_eq_some_iff, side?_eq_some_iff,
    Option.ite_none_right_eq_some, Option.some_inj]
  constructor
  · rintro ⟨rows, ⟨hrow, hrows⟩, columns, ⟨hcolumn, hcolumns⟩, hfits, rfl⟩
    refine ⟨⟨hrow, hcolumn⟩, ?_⟩
    rw [UInt64.toNat_mul, Nat.mod_eq_of_lt hfits, hrows, hcolumns]
    rfl
  · rintro ⟨⟨hrow, hcolumn⟩, hsize⟩
    obtain ⟨rows, hrows⟩ : ∃ rows, side? r.start.row r.finish.row = some rows := ⟨_, if_pos hrow⟩
    obtain ⟨columns, hcolumns⟩ : ∃ columns, side? r.start.column r.finish.column = some columns :=
      ⟨_, if_pos hcolumn⟩
    rw [side?_eq_some_iff] at hrows hcolumns
    have hproduct : rows.toNat * columns.toNat = n.toNat := by
      rw [hrows.2, hcolumns.2, hsize]
      rfl
    have hfits : rows.toNat * columns.toNat < UInt64.size := hproduct ▸ n.toNat_lt_size
    refine ⟨rows, hrows, columns, hcolumns, hfits, ?_⟩
    rw [← UInt64.toNat_inj, UInt64.toNat_mul, Nat.mod_eq_of_lt hfits, hproduct]

theorem height_le (r : Range) : r.height ≤ 2 ^ 32 := by
  have hfinish := r.finish.row.toNat_lt
  rw [height]
  omega

theorem width_le (r : Range) : r.width ≤ 2 ^ 32 := by
  have hfinish := r.finish.column.toNat_lt
  rw [width]
  omega

/-- **64 bits hold every size but one.** -/
theorem size_lt_iff : r.size < UInt64.size ↔ r ≠ everywhere := by
  refine ⟨?_, fun h => ?_⟩
  · rintro h rfl
    exact absurd h (by decide)
  · by_contra hsize
    have hproduct : 2 ^ 32 * 2 ^ 32 ≤ r.height * r.width := Nat.not_lt.mp hsize
    have hheight : r.height = 2 ^ 32 := Nat.le_antisymm r.height_le
      (Nat.le_of_mul_le_mul_right (hproduct.trans (Nat.mul_le_mul_left _ r.width_le)) (by decide))
    have hwidth : r.width = 2 ^ 32 := Nat.le_antisymm r.width_le
      (Nat.le_of_mul_le_mul_left (hproduct.trans (Nat.mul_le_mul_right _ r.height_le)) (by decide))
    refine h ?_
    obtain ⟨⟨row, column⟩, row', column'⟩ := r
    have hrow := row'.toNat_lt
    have hcolumn := column'.toNat_lt
    rw [height] at hheight
    rw [width] at hwidth
    dsimp only at hheight hwidth
    simp only [everywhere, mk.injEq, Address.mk.injEq, ← UInt32.toNat_inj]
    change (row.toNat = 0 ∧ column.toNat = 0) ∧ row'.toNat = 4294967295 ∧ column'.toNat = 4294967295
    omega

/-- **A size cannot be computed** of a range that is not upright, and of the largest. -/
theorem size?_eq_none_iff : r.size? = none ↔ ¬r.Upright ∨ r = everywhere := by
  rw [← not_iff_not, not_or, not_not, ← ne_eq, ← ne_eq, ← size_lt_iff, Option.ne_none_iff_exists']
  simp only [size?_eq_some_iff]
  constructor
  · rintro ⟨n, hupright, hn⟩
    exact ⟨hupright, hn ▸ n.toNat_lt_size⟩
  · rintro ⟨hupright, hsize⟩
    exact ⟨.ofNat r.size, hupright, UInt64.toNat_ofNat_of_lt' hsize⟩

/-- **Upright ranges of one computed size have as many cells.** -/
theorem size?_eq_iff (hr : r.Upright) (ht : t.Upright) : r.size? = t.size? ↔ r.size = t.size := by
  cases hn : t.size? with
  | none =>
    have hall : t = everywhere := (size?_eq_none_iff.mp hn).resolve_left (not_not.mpr ht)
    rw [size?_eq_none_iff, or_iff_right (not_not.mpr hr)]
    refine ⟨fun h => by rw [h, hall], fun h => ?_⟩
    by_contra hne
    rw [← ne_eq, ← size_lt_iff, h, size_lt_iff] at hne
    exact hne hall
  | some n =>
    have hsize := (size?_eq_some_iff.mp hn).2
    rw [size?_eq_some_iff, and_iff_right hr, hsize, eq_comm]

end Formula.Range
