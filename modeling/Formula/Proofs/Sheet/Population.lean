import Formula.Proofs.Sheet.Positions
import Mathlib.Data.Set.Card

/-!
# Proofs/Sheet/Population — how many cells of a range are of a kind

The **population** of a range is the number of its addresses whose cells have a property.  It is a
number of addresses and knows nothing of the walk over the rectangle, which finds it because it
meets every address once (`population_eq_countP`).  The populations of two parts without a common
address add up (`population_add`), whether the parts are two properties
(`population_add_of_disjoint`) or two rectangles (`population_add_of_halves`).
-/

namespace Formula

namespace Range

/-- The walk over a rectangle meets no address twice. -/
theorem nodup_addresses (r : Range) : r.addresses.Nodup := by
  rw [addresses_eq_map]
  refine List.Nodup.map_on (fun k hk l hl h => ?_) List.nodup_range
  exact nth_inj (List.mem_range.mp hk) (List.mem_range.mp hl) h

theorem finite_contains (r : Range) : {a | r.Contains a}.Finite :=
  r.addresses.finite_toSet.subset fun _ ha => mem_addresses_iff.mpr ha

/-- A range in the grid has no more cells than the grid. -/
theorem size_le_of_inGrid {r : Range} (h : r.finish.inGrid) : r.size ≤ maxRows * maxColumns := by
  rw [Address.inGrid, Bool.and_eq_true, decide_eq_true_iff, decide_eq_true_iff] at h
  rw [size, height, width]
  exact Nat.mul_le_mul (by omega) (by omega)

/-! ## Halves -/

/-- **The two parts of a rectangle that is split** behind one of its rows or columns, not the
last. -/
inductive Halves (r : Range) : Range → Range → Prop where
  /-- Split behind a row. -/
  | rows (k : UInt32) (hk : r.start.row ≤ k ∧ k < r.finish.row) :
    Halves r ⟨r.start, ⟨k, r.finish.column⟩⟩ ⟨⟨k + 1, r.start.column⟩, r.finish⟩
  /-- Split behind a column. -/
  | columns (k : UInt32) (hk : r.start.column ≤ k ∧ k < r.finish.column) :
    Halves r ⟨r.start, ⟨r.finish.row, k⟩⟩ ⟨⟨r.start.row, k + 1⟩, r.finish⟩

/-- What does not lie up to a number lies from the next one on. -/
theorem succ_le_iff_not_le {k last x : UInt32} (hk : k < last) : k + 1 ≤ x ↔ ¬x ≤ k := by
  have hsucc : (k + 1).toNat = k.toNat + 1 := by
    have hlast := last.toNat_lt
    have hlt := UInt32.lt_iff_toNat_lt.mp hk
    rw [UInt32.toNat_add]
    exact Nat.mod_eq_of_lt (by change k.toNat + 1 < 2 ^ 32; omega)
  rw [UInt32.le_iff_toNat_le, UInt32.le_iff_toNat_le, hsucc]
  omega

/-- The numbers between two bounds are those up to one of them and those behind it. -/
theorem between_iff {low high k x : UInt32} (hk : low ≤ k ∧ k < high) :
    low ≤ x ∧ x ≤ high ↔ low ≤ x ∧ x ≤ k ∨ k + 1 ≤ x ∧ x ≤ high := by
  rw [succ_le_iff_not_le hk.2]
  simp only [UInt32.le_iff_toNat_le, UInt32.lt_iff_toNat_lt] at hk ⊢
  omega

variable {r first second : Range}

/-- **A rectangle is its two halves.** -/
theorem Halves.contains_iff (h : r.Halves first second) (a : Address) :
    r.Contains a ↔ first.Contains a ∨ second.Contains a := by
  cases h with
  | rows k hk => rw [Contains, between_iff hk, or_and_right]; rfl
  | columns k hk => rw [Contains, between_iff hk, and_or_left]; rfl

/-- **No address is in both halves.** -/
theorem Halves.not_both (h : r.Halves first second) (a : Address) :
    ¬(first.Contains a ∧ second.Contains a) := by
  cases h with
  | rows k hk =>
    rintro ⟨⟨⟨-, hle⟩, -⟩, ⟨hge, -⟩, -⟩
    exact (succ_le_iff_not_le hk.2).mp hge hle
  | columns k hk =>
    rintro ⟨⟨-, -, hle⟩, -, hge, -⟩
    exact (succ_le_iff_not_le hk.2).mp hge hle

/-- The halves of a range in the grid are in the grid. -/
theorem Halves.inGrid (h : r.Halves first second) (hr : r.finish.inGrid) :
    first.finish.inGrid ∧ second.finish.inGrid := by
  simp only [Address.inGrid, Bool.and_eq_true, decide_eq_true_iff] at hr ⊢
  cases h with
  | rows k hk =>
    have hlt := UInt32.lt_iff_toNat_lt.mp hk.2
    exact ⟨⟨hlt.trans hr.1, hr.2⟩, hr⟩
  | columns k hk =>
    have hlt := UInt32.lt_iff_toNat_lt.mp hk.2
    exact ⟨⟨hr.1, hlt.trans hr.2⟩, hr⟩

end Range

namespace Sheet

/-! ## Populations -/

/-- **The number of cells of a range that have a property.** -/
noncomputable def population (s : Sheet) (r : Range) (P : Cell → Prop) : Nat :=
  {a | r.Contains a ∧ P (s.cell a)}.ncard

variable {s : Sheet} {r first second : Range}

/-- **The walk over a range counts its population.** -/
theorem population_eq_countP (s : Sheet) (r : Range) (p : Cell → Bool) :
    s.population r (fun c => p c) = (s.cellsIn r).countP p := by
  have hset : {a | r.Contains a ∧ p (s.cell a)}
      = ((r.addresses.filter (p ∘ s.cell)).toFinset : Set Address) := by
    ext a
    simp [Range.mem_addresses_iff]
  rw [population, hset, Set.ncard_coe_finset,
    List.toFinset_card_of_nodup (r.nodup_addresses.filter _), cellsIn, List.countP_map,
    List.countP_eq_length_filter]

/-- **Populations add up** when they have no address in common. -/
theorem population_add {P Q R : Cell → Prop}
    (hor : ∀ a, r.Contains a ∧ P (s.cell a) ↔
      first.Contains a ∧ Q (s.cell a) ∨ second.Contains a ∧ R (s.cell a))
    (hnot : ∀ a, ¬((first.Contains a ∧ Q (s.cell a)) ∧ second.Contains a ∧ R (s.cell a))) :
    s.population first Q + s.population second R = s.population r P := by
  have hunion : {a | r.Contains a ∧ P (s.cell a)}
      = {a | first.Contains a ∧ Q (s.cell a)} ∪ {a | second.Contains a ∧ R (s.cell a)} :=
    Set.ext hor
  have hdisjoint : Disjoint {a | first.Contains a ∧ Q (s.cell a)}
      {a | second.Contains a ∧ R (s.cell a)} :=
    Set.disjoint_left.mpr fun a hQ hR => hnot a ⟨hQ, hR⟩
  have hfirst : {a | first.Contains a ∧ Q (s.cell a)}.Finite :=
    first.finite_contains.subset fun _ ha => ha.1
  have hsecond : {a | second.Contains a ∧ R (s.cell a)}.Finite :=
    second.finite_contains.subset fun _ ha => ha.1
  rw [population, population, population, hunion, Set.ncard_union_eq hdisjoint hfirst hsecond]

theorem population_add_of_halves (h : r.Halves first second) (P : Cell → Prop) :
    s.population first P + s.population second P = s.population r P :=
  population_add (fun a => by rw [h.contains_iff, or_and_right])
    fun a ha => h.not_both a ⟨ha.1.1, ha.2.1⟩

theorem population_add_of_disjoint {P Q R : Cell → Prop} (hor : ∀ c, P c ↔ Q c ∨ R c)
    (hnot : ∀ c, ¬(Q c ∧ R c)) :
    s.population r Q + s.population r R = s.population r P :=
  population_add (fun a => by rw [hor, and_or_left]) fun a ha => hnot _ ⟨ha.1.2, ha.2.2⟩

end Sheet

end Formula
