import Formula.Sheet.Writes
import Mathlib.Data.List.Forall2
import Mathlib.Data.List.Sort
import Mathlib.Tactic.Common

/-!
# Proofs/Sheet/Writes — a sheet is a map over the grid

Whatever was written to a sheet before, the next write does one of two things: an address of the
grid takes it, any other refuses it.  From this one step come the statements on any number of them:
what was last taken is kept, unless it is empty (`cell?_writeAll`), no empty cell is kept and
nothing outside the grid (`Tidy.writeAll`), and writes to two addresses may change places
(`write_comm`).

A sheet has one form for each content: two sheets are the same as soon as they keep the same, and
they compare as equal exactly when what they keep does (`equals_iff`).  The comparison goes through
two listings side by side, which comes to the same because a listing is in the order of addresses.
-/

namespace Formula

namespace Sheet

variable {s t : Sheet} {w : Write} {ws : List Write} {a : Address}

/-! ## One write -/

theorem inGrid_iff : a.inGrid ↔ a.row.toNat < maxRows ∧ a.column.toNat < maxColumns := by
  rw [Address.inGrid, Bool.and_eq_true, decide_eq_true_iff, decide_eq_true_iff]

/-- An address of the grid takes a write. -/
theorem write_of_inGrid (h : w.address.inGrid) :
    ∃ t, s.set w.address w.content = .ok t ∧ s.write w = (.ok (), t) := by
  have hset : ∃ t, s.set w.address w.content = .ok t := by
    unfold set
    rw [if_pos h]
    exact ⟨_, rfl⟩
  obtain ⟨t, ht⟩ := hset
  refine ⟨t, ht, ?_⟩
  rw [write, ht]

/-- Any other address refuses it, and says which one it is. -/
theorem write_of_not_inGrid (h : ¬w.address.inGrid) :
    s.write w
      = (.error (.outOfBounds w.address.row.toNat w.address.column.toNat), s) := by
  unfold write set
  rw [if_neg h]

/-- **A write is refused exactly outside the grid.** -/
theorem write_eq_error_iff {e : SheetError} :
    (s.write w).1 = .error e ↔
      e = .outOfBounds w.address.row.toNat w.address.column.toNat ∧
        (maxRows ≤ w.address.row.toNat ∨ maxColumns ≤ w.address.column.toNat) := by
  rw [← Nat.not_lt, ← Nat.not_lt, ← not_and_or, ← inGrid_iff]
  by_cases h : w.address.inGrid
  · obtain ⟨t, -, hwrite⟩ := write_of_inGrid (s := s) h
    simp [hwrite, h]
  · simp [write_of_not_inGrid h, h, eq_comm]

/-- **After a write** its address keeps what was written, unless that is empty, if it is an address
of the grid; all others keep what they kept. -/
theorem cell?_write (b : Address) :
    (s.write w).2.cell? b =
      if w.address.inGrid ∧ w.address = b then (some w.content).filter (!·.isEmpty)
      else s.cell? b := by
  by_cases h : w.address.inGrid
  · obtain ⟨t, hset, hwrite⟩ := write_of_inGrid (s := s) h
    rw [hwrite, cell?_of_set hset]
    simp only [h, true_and]
  · rw [write_of_not_inGrid h, if_neg fun hb => h hb.1]

/-- **After a write** its address has the cell that was written, if it is an address of the grid;
all others have the cells that they had. -/
theorem cell_write (b : Address) :
    (s.write w).2.cell b = if w.address.inGrid ∧ w.address = b then w.content else s.cell b := by
  by_cases h : w.address.inGrid
  · obtain ⟨t, hset, hwrite⟩ := write_of_inGrid (s := s) h
    rw [hwrite, cell_of_set hset]
    simp only [h, true_and]
  · rw [write_of_not_inGrid h, if_neg fun hb => h hb.1]

/-- **Writes to two addresses may change places.** -/
theorem write_comm {w' : Write} (h : w.address ≠ w'.address) :
    ((s.write w).2.write w').2 = ((s.write w').2.write w).2 := by
  refine ext_cell? fun b => ?_
  simp only [cell?_write]
  by_cases hb : w.address = b
  · have hb' : w'.address ≠ b := fun hb' => h (hb.trans hb'.symm)
    simp only [hb', and_false, if_false]
  · simp only [hb, and_false, if_false]

/-! ## Any number of writes -/

theorem writeAll_cons : s.writeAll (w :: ws) = (s.write w).2.writeAll ws := rfl

theorem writeAll_append (ws' : List Write) :
    s.writeAll (ws ++ ws') = (s.writeAll ws).writeAll ws' :=
  List.foldl_append

/-- **What was last taken is kept**, unless it is empty; where nothing was taken, what was there. -/
theorem cell?_writeAll (a : Address) :
    (s.writeAll ws).cell? a =
      match ((s.taken ws).filter fun w => w.address = a).getLast? with
      | some w => (some w.content).filter (!·.isEmpty)
      | none => s.cell? a := by
  induction ws generalizing s with
  | nil => rfl
  | cons w ws ih =>
    rw [writeAll_cons, ih, taken]
    by_cases h : w.address.inGrid
    · obtain ⟨t, hset, hwrite⟩ := write_of_inGrid (s := s) h
      rw [hwrite]
      dsimp only
      by_cases ha : w.address = a
      · rw [List.filter_cons_of_pos (by simpa using ha), List.getLast?_cons,
          cell?_of_set hset, if_pos ha]
        cases ((t.taken ws).filter fun w => w.address = a).getLast? <;> rfl
      · rw [List.filter_cons_of_neg (by simpa using ha), cell?_of_set hset, if_neg ha]
    · rw [write_of_not_inGrid h]

/-- **A sheet is tidy** if it keeps no empty cell, and nothing outside the grid. -/
def Tidy (s : Sheet) : Prop := ∀ a c, s.cell? a = some c → c ≠ .empty ∧ a.inGrid

theorem tidy_empty : Tidy empty := by
  intro a c h
  rw [cell?_empty] at h
  cases h

theorem Tidy.write (h : s.Tidy) (w : Write) : (s.write w).2.Tidy := by
  intro a c hc
  rw [cell?_write] at hc
  split at hc
  · next hw =>
    obtain ⟨hcontent, hfilled⟩ := Option.filter_eq_some_iff.mp hc
    rw [Bool.not_eq_true', ← Bool.not_eq_true, Cell.isEmpty_iff] at hfilled
    exact ⟨hfilled, hw.2 ▸ hw.1⟩
  · exact h a c hc

/-- **Writes keep a sheet tidy.** -/
theorem Tidy.writeAll (h : s.Tidy) (ws : List Write) : (s.writeAll ws).Tidy := by
  induction ws generalizing s with
  | nil => exact h
  | cons w ws ih => exact ih (h.write w)

/-- What is listed is what is kept. -/
theorem mem_toList_iff {c : Cell} : (a, c) ∈ s.cells.toList ↔ s.cell? a = some c :=
  Std.ExtTreeMap.mem_toList_iff_getElem?_eq_some

/-! ## Comparison -/

/-- The keys of a listing are in the order of addresses, so that two listings of the same keys begin
with the same one, and so on. -/
theorem keys_eq_of_mem_iff (h : ∀ a, a ∈ s.cells ↔ a ∈ t.cells) : s.cells.keys = t.cells.keys := by
  have hirrefl : Std.Irrefl fun a b : Address => compare a b = .lt :=
    ⟨fun a ha => absurd (Std.ReflCmp.compare_self.symm.trans ha) (by decide)⟩
  have hasymm : Std.Asymm fun a b : Address => compare a b = .lt :=
    ⟨fun a b hab hba => absurd (Std.OrientedCmp.gt_of_lt hab ▸ hba) (by decide)⟩
  refine List.Pairwise.eq_of_mem_iff Std.ExtTreeMap.ordered_keys Std.ExtTreeMap.ordered_keys
    fun a => ?_
  rw [Std.ExtTreeMap.mem_keys, Std.ExtTreeMap.mem_keys, h]

/-- A listing is what is kept at its keys. -/
theorem map_toList (s : Sheet) :
    s.cells.toList.map (fun p => (p.1, some p.2)) = s.cells.keys.map fun a => (a, s.cell? a) := by
  rw [← Std.ExtTreeMap.map_fst_toList_eq_keys, List.map_map]
  refine List.map_congr_left fun p hp => ?_
  rw [Function.comp_apply, mem_toList_iff.mp hp]

/-- **What two sheets keep at one address is alike** if neither keeps anything there, or both keep
cells that compare as equal. -/
def Alike (s t : Sheet) (a : Address) : Prop :=
  Option.Rel (fun c d => Cell.equals c d) (s.cell? a) (t.cell? a)

theorem equals_iff_forall₂ :
    s.equals t ↔
      List.Forall₂ (fun p q => p.1 = q.1 ∧ Option.Rel (fun c d => Cell.equals c d) p.2 q.2)
        (s.cells.keys.map fun a => (a, s.cell? a)) (t.cells.keys.map fun a => (a, t.cell? a)) := by
  rw [← map_toList, ← map_toList, List.forall₂_map_left_iff, List.forall₂_map_right_iff,
    List.forall₂_iff_zip, Std.ExtTreeMap.length_toList, Std.ExtTreeMap.length_toList]
  simp [equals]

theorem mem_cells_iff : a ∈ s.cells ↔ s.cell? a ≠ none := by
  rw [Std.ExtTreeMap.mem_iff_isSome_getElem?, Option.isSome_iff_ne_none, cell?]

/-- **Two sheets compare as equal exactly when what they keep is alike everywhere.** -/
theorem equals_iff : s.equals t ↔ ∀ a, s.Alike t a := by
  rw [equals_iff_forall₂]
  constructor
  · intro h
    have hkeys : s.cells.keys = t.cells.keys := by
      have hfst := h.imp fun p q hpq => hpq.1
      rw [List.forall₂_map_left_iff, List.forall₂_map_right_iff] at hfst
      rwa [← List.forall₂_eq_eq_eq]
    rw [← hkeys, List.forall₂_map_left_iff, List.forall₂_map_right_iff, List.forall₂_same] at h
    intro a
    by_cases ha : a ∈ s.cells.keys
    · exact (h a ha).2
    · have ha' : a ∉ t.cells.keys := hkeys ▸ ha
      rw [Std.ExtTreeMap.mem_keys, mem_cells_iff, not_not] at ha ha'
      rw [Alike, ha, ha']
      exact .none
  · intro h
    have hkeys : s.cells.keys = t.cells.keys := by
      refine keys_eq_of_mem_iff fun a => ?_
      rw [mem_cells_iff, mem_cells_iff]
      obtain ha := h a
      unfold Alike at ha
      generalize s.cell? a = c, t.cell? a = d at ha
      cases ha <;> simp
    rw [← hkeys, List.forall₂_map_left_iff, List.forall₂_map_right_iff, List.forall₂_same]
    exact fun a _ => ⟨rfl, h a⟩

/-! ## The headline -/

/-- **A sheet is a map over the grid, however it was written to.**  Among any writes to the empty
sheet, the next one is refused exactly if its address lies outside the grid, and then leaves the
sheet as it is.  An address keeps what it last took, and nothing if that was empty or there was
none; what is listed is what is kept, none of it is empty, and all of it lies in the grid.  Two
sheets are the same exactly if they keep the same everywhere, and compare as equal exactly if what
they keep is alike everywhere, so that writes to two addresses may change places. -/
theorem writeAll_is_map :
    (∀ (ws : List Write) (w : Write) (e : SheetError),
      (((empty.writeAll ws).write w).1 = .error e ↔
        e = .outOfBounds w.address.row.toNat w.address.column.toNat ∧
          (maxRows ≤ w.address.row.toNat ∨ maxColumns ≤ w.address.column.toNat)) ∧
      (((empty.writeAll ws).write w).1 = .error e →
        empty.writeAll (ws ++ [w]) = empty.writeAll ws)) ∧
    (∀ (ws : List Write) (a : Address), (empty.writeAll ws).cell? a =
      ((((empty.taken ws).filter fun w => w.address = a).getLast?.map Write.content).filter
        (!·.isEmpty))) ∧
    (∀ (ws : List Write) (a : Address) (c : Cell),
      ((a, c) ∈ (empty.writeAll ws).cells.toList ↔ (empty.writeAll ws).cell? a = some c) ∧
      ((a, c) ∈ (empty.writeAll ws).cells.toList →
        c ≠ .empty ∧ a.row.toNat < maxRows ∧ a.column.toNat < maxColumns)) ∧
    (∀ ws ws' : List Write,
      (empty.writeAll ws = empty.writeAll ws' ↔
        ∀ a, (empty.writeAll ws).cell? a = (empty.writeAll ws').cell? a) ∧
      ((empty.writeAll ws).equals (empty.writeAll ws') ↔
        ∀ a, (empty.writeAll ws).Alike (empty.writeAll ws') a)) ∧
    ∀ (ws ws' : List Write) (w w' : Write), w.address ≠ w'.address →
      empty.writeAll (ws ++ w :: w' :: ws') = empty.writeAll (ws ++ w' :: w :: ws') := by
  refine ⟨fun ws w e => ⟨write_eq_error_iff, fun h => ?_⟩, fun ws a => ?_,
    fun ws a c => ⟨mem_toList_iff, fun h => ?_⟩, fun ws ws' => ⟨⟨fun h a => ?_, ext_cell?⟩,
      equals_iff⟩, fun ws ws' w w' h => ?_⟩
  · have hout : ¬w.address.inGrid := by
      rw [inGrid_iff, not_and_or, Nat.not_lt, Nat.not_lt]
      exact (write_eq_error_iff.mp h).2
    rw [writeAll_append, writeAll_cons, write_of_not_inGrid hout]
    rfl
  · rw [cell?_writeAll, cell?_empty]
    cases ((empty.taken ws).filter fun w => w.address = a).getLast? <;> rfl
  · obtain ⟨hfilled, hgrid⟩ := tidy_empty.writeAll ws a c (mem_toList_iff.mp h)
    exact ⟨hfilled, inGrid_iff.mp hgrid⟩
  · rw [h]
  · rw [writeAll_append, writeAll_append, writeAll_cons, writeAll_cons, writeAll_cons,
      writeAll_cons, write_comm h]

/-- A number, the same cell emptied, a text and then a write past the last row: the last is refused
and changes nothing, the text stands alone, and it makes no difference which of the two cells was
written to first. -/
theorem writeAll_is_map_cleared :
    let a : Address := ⟨0, 0⟩
    let b : Address := ⟨0, 1⟩
    let past : Write := ⟨⟨1048576, 0⟩, .empty⟩
    let ws : List Write := [⟨a, .number 1⟩, ⟨a, .empty⟩, ⟨b, .text "x"⟩]
    ((empty.writeAll ws).write past).1 = .error (.outOfBounds 1048576 0) ∧
      empty.writeAll (ws ++ [past]) = empty.writeAll ws ∧
      (empty.writeAll ws).cell? a = none ∧
      (b, Cell.text "x") ∈ (empty.writeAll ws).cells.toList ∧
      empty.writeAll ws = empty.writeAll [⟨a, .number 1⟩, ⟨b, .text "x"⟩, ⟨a, .empty⟩] := by
  intro a b past ws
  obtain ⟨hrefused, hcell, hstored, -, hcomm⟩ := writeAll_is_map
  have hpast : ((empty.writeAll ws).write past).1 = .error (.outOfBounds 1048576 0) :=
    (hrefused ws past _).1.mpr ⟨rfl, Or.inl (by decide)⟩
  refine ⟨hpast, (hrefused ws past _).2 hpast, (hcell ws a).trans ?_,
    (hstored ws b _).1.mpr ((hcell ws b).trans ?_),
    hcomm [⟨a, .number 1⟩] [] ⟨a, .empty⟩ ⟨b, .text "x"⟩ (by decide)⟩
  · rfl
  · rfl

end Sheet

end Formula
