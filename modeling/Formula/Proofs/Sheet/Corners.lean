import Formula.Proofs.Sheet.Population
import Formula.Proofs.Sheet.Writing

/-!
# Proofs/Sheet/Corners — a rectangle is given by any two opposite corners

`Range.spanning` takes two corners as they come.  In each coordinate the least and the greatest of
the two numbers are what counts, so that the corners may be exchanged (`spanning_comm`), the other
two taken (`spanning_diagonal`), and the rectangle spanned again by its own (`spanning_corners`).
The walk over it meets the addresses between the corners (`mem_addresses_spanning_iff`) in the order
of addresses (`pairwise_addresses`).
-/

namespace Formula

/-- **A number lies between two others**, whichever of these is the greater. -/
def Between (x y z : UInt32) : Prop := x ≤ y ∧ y ≤ z ∨ z ≤ y ∧ y ≤ x

instance (x y z : UInt32) : Decidable (Between x y z) := by
  unfold Between
  infer_instance

/-- **An address comes before another** in the order of rows and then of columns. -/
def Address.Precedes (a b : Address) : Prop := a.row < b.row ∨ a.row = b.row ∧ a.column < b.column

namespace Range

variable {a b c : Address}

/-! ## Corners -/

/-- **The corners may be exchanged.** -/
theorem spanning_comm (a b : Address) : spanning b a = spanning a b := by
  have hmin : ∀ x y : UInt32, min x y = min y x := fun x y => by
    rw [← UInt32.toNat_inj, toNat_min, toNat_min, Nat.min_comm]
  have hmax : ∀ x y : UInt32, max x y = max y x := fun x y => by
    rw [← UInt32.toNat_inj, toNat_max, toNat_max, Nat.max_comm]
  rw [spanning, spanning, hmin, hmin b.column, hmax, hmax b.column]

/-- **The other two corners span the same rectangle.** -/
theorem spanning_diagonal (a b : Address) :
    spanning ⟨a.row, b.column⟩ ⟨b.row, a.column⟩ = spanning a b := by
  have h := spanning_comm ⟨0, a.column⟩ ⟨0, b.column⟩
  rw [spanning, spanning, mk.injEq, Address.mk.injEq, Address.mk.injEq] at h
  rw [spanning, spanning, h.1.2, h.2.2]

/-- **A rectangle is spanned by its own corners.** -/
theorem spanning_corners (a b : Address) :
    spanning (spanning a b).start (spanning a b).finish = spanning a b := by
  have hmin : ∀ x y : UInt32, min (min x y) (max x y) = min x y := fun x y => by
    rw [← UInt32.toNat_inj, toNat_min, toNat_min, toNat_max]
    omega
  have hmax : ∀ x y : UInt32, max (min x y) (max x y) = max x y := fun x y => by
    rw [← UInt32.toNat_inj, toNat_max, toNat_min, toNat_max]
    omega
  simp only [spanning, hmin, hmax]

/-! ## The walk -/

theorem between_iff_min_max (x y z : UInt32) : Between x y z ↔ min x z ≤ y ∧ y ≤ max x z := by
  simp only [Between, UInt32.le_iff_toNat_le, toNat_min, toNat_max]
  omega

/-- **The walk meets the addresses between the corners**, in their rows and in their columns. -/
theorem mem_addresses_spanning_iff :
    c ∈ (spanning a b).addresses ↔
      Between a.row c.row b.row ∧ Between a.column c.column b.column := by
  rw [mem_addresses_iff, between_iff_min_max, between_iff_min_max]
  exact Iff.rfl

/-- **The walk is in the order of addresses**: it never goes back, and never stays. -/
theorem pairwise_addresses (r : Range) : r.addresses.Pairwise Address.Precedes := by
  have hoffset : ∀ {low high : UInt32} {i j : Nat}, j < high.toNat + 1 - low.toNat → i < j →
      UInt32.ofNat (low.toNat + i) < UInt32.ofNat (low.toNat + j) := by
    intro low high i j hj hij
    rw [UInt32.lt_iff_toNat_lt, toNat_offset hj, toNat_offset (hij.trans hj)]
    omega
  rw [addresses, List.pairwise_flatMap]
  refine ⟨fun row _ => ?_, ?_⟩
  · rw [List.pairwise_map]
    refine List.pairwise_lt_range.imp_of_mem fun _ hj hij => Or.inr ⟨rfl, ?_⟩
    exact hoffset (List.mem_range.mp hj) hij
  · refine List.pairwise_lt_range.imp_of_mem fun _ hj hij c hc d hd => Or.inl ?_
    obtain ⟨_, -, rfl⟩ := List.mem_map.mp hc
    obtain ⟨_, -, rfl⟩ := List.mem_map.mp hd
    exact hoffset (List.mem_range.mp hj) hij

/-- The walk is as long as the rectangle is large. -/
theorem length_addresses (r : Range) : r.addresses.length = r.size := by
  rw [addresses_eq_map, List.length_map, List.length_range]

/-- **64 bits hold the size** of a rectangle whose corners can be written. -/
theorem size_spanning_lt (ha : a.Writable) (hb : b.Writable) :
    (spanning a b).size < UInt64.size := by
  have hside : ∀ x y : UInt32, x.toNat < 2 ^ 32 - 1 → y.toNat < 2 ^ 32 - 1 →
      (max x y).toNat + 1 - (min x y).toNat ≤ 2 ^ 32 - 1 := by
    intro x y hx hy
    rw [toNat_max, toNat_min]
    omega
  exact lt_of_le_of_lt (Nat.mul_le_mul (hside _ _ ha.1 hb.1) (hside _ _ ha.2 hb.2)) (by decide)

end Range

end Formula
