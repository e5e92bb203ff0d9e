import Formula.Proofs.Expr.References
import Formula.Proofs.Json.Settings
import Formula.Proofs.Sheet.Sizes

/-!
# Proofs/Sheet/Upright — which ranges have their first corner at the top left

A range is **upright** if its first corner is its top left one.  A walk over a range that is not
upright meets nothing, and its size cannot be computed (`Range.size?`): the sides are differences of
32 bits, of which one would be negative.

Spanning a rectangle sorts its corners, and reading a range from a text spans it.  Reading a stored
range does neither: its corners are those that are stored, and any two can be.  So what a range owes
to its corners is owed to where it comes from (`upright_sources`).
-/

namespace Formula

namespace Address

/-- **An address that was read lies in the grid.** -/
theorem inGrid_of_ofA1 {s : String} {a : Address} (h : ofA1 s = .ok a) : a.inGrid := by
  obtain ⟨-, -, -, ⟨-, hcolumns⟩, -, -, hrows⟩ := ofA1_eq_ok_iff.mp h
  rw [inGrid, Bool.and_eq_true, decide_eq_true_iff, decide_eq_true_iff]
  exact ⟨hrows, hcolumns⟩

end Address

namespace Range

variable {r : Range}

/-- **An upright range is spanned by its corners.** -/
theorem upright_iff_spanning : r.Upright ↔ spanning r.start r.finish = r := by
  refine ⟨fun h => ?_, fun h => h ▸ upright_spanning r.start r.finish⟩
  obtain ⟨⟨row, column⟩, row', column'⟩ := r
  rw [Upright, UInt32.le_iff_toNat_le, UInt32.le_iff_toNat_le] at h
  dsimp only at h
  simp only [spanning, mk.injEq, Address.mk.injEq, ← UInt32.toNat_inj, toNat_min, toNat_max]
  omega

/-- **A walk over a range that is not upright meets nothing.** -/
theorem addresses_eq_nil_iff : r.addresses = [] ↔ ¬r.Upright := by
  rw [← List.length_eq_zero_iff, length_addresses, size, Nat.mul_eq_zero, height, width, Upright,
    UInt32.le_iff_toNat_le, UInt32.le_iff_toNat_le]
  omega

/-- **Where a range comes from decides whether it is upright.**  A range that is spanned is, and so
is one that was read from a text, of which 64 bits hold the size.  One that was read from a stored
form has the corners that are stored there, and every range has a stored form.

An upright range is spanned by its corners; its size can be computed unless it is the largest, and
counts the addresses that a walk meets.  Of any other range no size can be computed, and a walk over
it meets nothing. -/
theorem upright_sources (r : Range) :
    (∀ a b, r = spanning a b → r.Upright) ∧
    (∀ t, ofA1 t = .ok r → r.Upright ∧ ∃ n, r.size? = some n) ∧
    ((∀ j, ofJson? j = some r → ∃ start ∈ j.part? 0 "start", ∃ finish ∈ j.part? 1 "end",
        Address.ofJson? start = some r.start ∧ Address.ofJson? finish = some r.finish) ∧
      ∃ j, ofJson? j = some r) ∧
    (r.Upright ↔ spanning r.start r.finish = r) ∧
    (∀ n, r.size? = some n ↔ r.Upright ∧ n.toNat = r.addresses.length) ∧
    (r.size? = none ↔ ¬r.Upright ∨ r = everywhere) ∧
    (r.addresses = [] ↔ ¬r.Upright) := by
  refine ⟨fun a b h => h ▸ upright_spanning a b, fun t h => ?_,
    ⟨fun j h => ?_, _, ofJson?_toJson r⟩, upright_iff_spanning, fun n => ?_, size?_eq_none_iff,
    addresses_eq_nil_iff⟩
  · obtain ⟨_, _, a, b, ha, hb, rfl⟩ := exists_corners_of_ofA1 h
    have hsize := size_spanning_lt (Address.writable_of_inGrid (Address.inGrid_of_ofA1 ha))
      (Address.writable_of_inGrid (Address.inGrid_of_ofA1 hb))
    refine ⟨upright_spanning a b, .ofNat (spanning a b).size, ?_⟩
    exact size?_eq_some_iff.mpr ⟨upright_spanning a b, UInt64.toNat_ofNat_of_lt' hsize⟩
  · obtain ⟨-, ⟨start, hstart, hread⟩, finish, hfinish, hread'⟩ := ofJson?_eq_some_iff.mp h
    exact ⟨start, hstart, finish, hfinish, hread, hread'⟩
  · rw [length_addresses]
    exact size?_eq_some_iff

/-- Two corners in the wrong order: as a text they are read as a range of four cells, and from a
stored form as a range without any. -/
theorem upright_sources_crossed :
    let sorted : Range := ⟨⟨2, 0⟩, ⟨3, 1⟩⟩
    let crossed : Range := ⟨⟨2, 1⟩, ⟨3, 0⟩⟩
    let stored : Json := .array [.array [.int 2, .int 1], .array [.int 3, .int 0]]
    (ofA1 "B3:A4" = .ok sorted ∧ sorted.Upright ∧ sorted.size? = some 4 ∧
        sorted.addresses.length = 4) ∧
      ofJson? stored = some crossed ∧
      (∃ start ∈ stored.part? 0 "start", Address.ofJson? start = some crossed.start) ∧
      ¬crossed.Upright ∧ crossed.size? = none ∧ crossed.addresses = [] := by
  intro sorted crossed stored
  obtain ⟨-, htext, -, -, hlength, -⟩ := upright_sources sorted
  obtain ⟨-, -, ⟨hstored, -⟩, -, -, hnone, hempty⟩ := upright_sources crossed
  have hread : ofA1 "B3:A4" = .ok sorted := by decide
  have hjson : ofJson? stored = some crossed := by decide
  have hcrossed : ¬crossed.Upright := by decide
  have hsize : sorted.size? = some 4 := by decide
  obtain ⟨start, hstart, -, -, hcorner, -⟩ := hstored stored hjson
  exact ⟨⟨hread, (htext _ hread).1, hsize, ((hlength 4).mp hsize).2.symm⟩, hjson,
    ⟨start, hstart, hcorner⟩, hcrossed, hnone.mpr (.inl hcrossed), hempty.mpr hcrossed⟩

/-- **A stored range may be upside down.** -/
theorem ofJson?_upside_down :
    let corner (row column : Int) : Json := .object [("row", .int row), ("col", .int column)]
    let r : Range := ⟨⟨2, 0⟩, ⟨0, 0⟩⟩
    ofJson? (.object [("start", corner 2 0), ("end", corner 0 0)]) = some r ∧
      ¬r.Upright ∧ r.size? = none ∧ r.addresses = [] ∧ spanning r.start r.finish ≠ r := by
  decide

end Range

end Formula
