import Formula.Sheet.Basic
import Mathlib.Tactic.Common

/-!
# Proofs/Sheet/Rectangle — the addresses of a range are those between its corners

`Range.addresses` walks a rectangle by offsets from its start.  `mem_addresses_iff` says which
addresses it meets without the walk: those whose row and column lie between the corners.
-/

namespace Formula.Range

/-- **The rectangle contains an address** that lies between its corners, in its row and in its
column. -/
def Contains (r : Range) (a : Address) : Prop :=
  (r.start.row ≤ a.row ∧ a.row ≤ r.finish.row) ∧
    r.start.column ≤ a.column ∧ a.column ≤ r.finish.column

/-- An offset from a corner stays within 32 bits as long as it stays in the rectangle. -/
theorem toNat_offset {low high : UInt32} {i : Nat} (hi : i < high.toNat + 1 - low.toNat) :
    (UInt32.ofNat (low.toNat + i)).toNat = low.toNat + i := by
  have hhigh := high.toNat_lt
  rw [UInt32.toNat_ofNat_of_lt']
  change low.toNat + i < 2 ^ 32
  omega

/-- The numbers between two bounds are the offsets from the lower one. -/
theorem exists_offset_iff {low high x : UInt32} :
    (∃ i < high.toNat + 1 - low.toNat, UInt32.ofNat (low.toNat + i) = x)
      ↔ low ≤ x ∧ x ≤ high := by
  rw [UInt32.le_iff_toNat_le, UInt32.le_iff_toNat_le]
  constructor
  · rintro ⟨i, hi, rfl⟩
    rw [toNat_offset hi]
    omega
  · rintro ⟨hlow, hhigh⟩
    have hi : x.toNat - low.toNat < high.toNat + 1 - low.toNat := by omega
    refine ⟨x.toNat - low.toNat, hi, UInt32.toNat_inj.mp ?_⟩
    rw [toNat_offset hi]
    omega

/-- **The walk over a rectangle meets the addresses that it contains**, and no others. -/
theorem mem_addresses_iff {r : Range} {a : Address} : a ∈ r.addresses ↔ r.Contains a := by
  rw [Contains, ← exists_offset_iff, ← exists_offset_iff]
  simp only [addresses, addressAt, height, width, List.mem_flatMap, List.mem_map, List.mem_range]
  constructor
  · rintro ⟨i, hi, j, hj, rfl⟩
    exact ⟨⟨i, hi, rfl⟩, j, hj, rfl⟩
  · rintro ⟨⟨i, hi, hrow⟩, j, hj, hcolumn⟩
    refine ⟨i, hi, j, hj, ?_⟩
    rw [hrow, hcolumn]

/-- Two sheets that hold the same in a rectangle read the same off it. -/
theorem cellsIn_congr {s s' : Sheet} {r : Range} (h : ∀ a, r.Contains a → s.cell a = s'.cell a) :
    s.cellsIn r = s'.cellsIn r :=
  List.map_congr_left fun a ha => h a (mem_addresses_iff.mp ha)

/-- The rectangle of one cell has that cell for both its corners. -/
theorem single_eq (a : Address) : single a = ⟨a, a⟩ := by
  have hmin : ∀ x : UInt32, min x x = x := fun x => ite_self x
  have hmax : ∀ x : UInt32, max x x = x := fun x => ite_self x
  rw [single, spanning, hmin, hmin, hmax, hmax]

/-- The rectangle of one cell contains that cell only. -/
theorem contains_single_iff {a b : Address} : (single a).Contains b ↔ b = a := by
  rw [single_eq, Contains]
  constructor
  · rintro ⟨hrow, hcolumn⟩
    obtain ⟨row, column⟩ := b
    have hr : row = a.row := UInt32.le_antisymm hrow.2 hrow.1
    have hc : column = a.column := UInt32.le_antisymm hcolumn.2 hcolumn.1
    rw [hr, hc]
  · rintro rfl
    exact ⟨⟨UInt32.le_refl _, UInt32.le_refl _⟩, UInt32.le_refl _, UInt32.le_refl _⟩

/-! ## Spanned rectangles -/

theorem toNat_min (x y : UInt32) : (min x y).toNat = min x.toNat y.toNat := by
  rw [Nat.min_def]
  exact apply_ite UInt32.toNat _ _ _

theorem toNat_max (x y : UInt32) : (max x y).toNat = max x.toNat y.toNat := by
  rw [Nat.max_def]
  exact apply_ite UInt32.toNat _ _ _

/-- **A range is upright** if its first corner is its top left one. -/
def Upright (r : Range) : Prop :=
  r.start.row ≤ r.finish.row ∧ r.start.column ≤ r.finish.column

instance (r : Range) : Decidable r.Upright := inferInstanceAs (Decidable (_ ∧ _))

theorem upright_spanning (a b : Address) : (spanning a b).Upright := by
  rw [Upright, UInt32.le_iff_toNat_le, UInt32.le_iff_toNat_le]
  simp only [spanning, toNat_min, toNat_max]
  omega

end Formula.Range
