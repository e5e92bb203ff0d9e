import Formula.Proofs.Expr.RangeCalls
import Formula.Proofs.Value.Criterion
import Formula.Sheet.Writes

/-!
# Proofs/Expr/ConditionalSums — a conditional sum is a sum

`sumif` walks two ranges together, which may differ in shape but not in size.  A criterion selects
**positions** of the first (`Sheet.positionsMeeting`), and what is added up are the numbers of the
second at these positions: the sum of the second range on the sheet where nothing else is left of it
(`Expr.sumIf_is_sum`).

The walk pairs the cells before it selects any.  That makes it a walk over the positions
(`selected_zip_cellsIn`), so that a cell without a number, on either side, shifts no later pair.
-/

namespace Formula

variable {s : Sheet} {r t : Range} {k : Nat} {criterion : Criterion}

namespace Sheet

/-! ## Selected positions -/

/-- **The positions of a range whose cells meet a criterion.** -/
def positionsMeeting (s : Sheet) (criterion : Criterion) (r : Range) : List Nat :=
  (List.range r.size).filter fun k => criterion.accepts (s.cell (r.nth k))

/-- The numbers to be added are those of the second range at the selected positions. -/
theorem selected_zip_cellsIn (s : Sheet) (criterion : Criterion) (h : t.size = r.size) :
    Builtin.selected criterion ((s.cellsIn r).zip (s.cellsIn t))
      = (s.positionsMeeting criterion r).filterMap (s.numberAt? t) := by
  rw [cellsIn_eq_map, cellsIn_eq_map, h, List.zip_map', Builtin.selected, List.filter_map,
    List.filterMap_map]
  rfl

/-- A criterion that every number meets leaves no number of its range out. -/
theorem filterMap_positionsMeeting_self (h : ∀ x, criterion.accepts (.number x)) :
    (s.positionsMeeting criterion r).filterMap (s.numberAt? r) = numbersIn (s.cellsIn r) := by
  rw [numbersIn_cellsIn, positionsMeeting, List.filterMap_filter]
  refine List.filterMap_congr fun k _ => ?_
  split
  · rfl
  · next hnot =>
    rw [numberAt?]
    generalize s.cell (r.nth k) = c at hnot
    cases c with
    | number x => exact absurd (h x) hnot
    | empty | text | bool | date => rfl

/-! ## Emptying the other cells -/

/-- **A sheet with every cell emptied** but those at the chosen addresses. -/
def keep (s : Sheet) (chosen : Address → Bool) : Sheet := ⟨s.cells.filter fun a _ => chosen a⟩

theorem cell_keep (s : Sheet) (chosen : Address → Bool) (a : Address) :
    (s.keep chosen).cell a = if chosen a then s.cell a else .empty := by
  rw [cell, cell?, keep, Std.ExtTreeMap.getElem?_filter', cell, cell?]
  cases s.cells[a]? <;> cases chosen a <;> rfl

/-- The sheet that keeps the cells of a range at given positions. -/
def keepAt (s : Sheet) (t : Range) (positions : List Nat) : Sheet :=
  s.keep fun a => decide (∃ k ∈ positions, t.nth k = a)

/-- **The numbers that are left of a range** are those at the positions kept. -/
theorem numbersIn_keepAt (s : Sheet) {p : Nat → Bool} :
    numbersIn ((s.keepAt t ((List.range t.size).filter p)).cellsIn t)
      = ((List.range t.size).filter p).filterMap (s.numberAt? t) := by
  rw [numbersIn_cellsIn, List.filterMap_filter]
  refine List.filterMap_congr fun k hk => ?_
  -- An address has one position in the range, so no other position keeps its cell.
  have hkept : (∃ l ∈ (List.range t.size).filter p, t.nth l = t.nth k) ↔ p k := by
    constructor
    · rintro ⟨l, hl, heq⟩
      obtain ⟨hlt, hp⟩ := List.mem_filter.mp hl
      exact Range.nth_inj (List.mem_range.mp hlt) (List.mem_range.mp hk) heq ▸ hp
    · exact fun hp => ⟨k, List.mem_filter.mpr ⟨hk, hp⟩, rfl⟩
  rw [numberAt?, keepAt, cell_keep]
  simp only [hkept, Bool.decide_eq_true]
  split <;> rfl

end Sheet

namespace Expr

variable {env : Environment} {n : Nat} {x c : Expr} {v : Value}

/-- **A conditional sum is a sum**: of the numbers of the second range at the positions at which the
first meets the criterion, in the order of the second, and so of the second range where no other
cell is left of it.  It is refused for ranges of two sizes and for no other reason.  Without a
second range it adds up the first, and the whole of it if the criterion is to differ from what is no
number. -/
theorem sumIf_is_sum (hsheet : env.sheet = some s) (hx : x.range? = some r)
    (hc : c.eval env n = .ok v) :
    let met := s.positionsMeeting (.ofValue v) r
    (∀ y t, y.range? = some t →
      (t.size = r.size →
        (call "sumif" [x, c, y]).eval env (n + 1)
            = .ok (.number (Number.sum (met.filterMap (s.numberAt? t)))) ∧
          (call "sumif" [x, c, y]).eval env (n + 1)
            = (call "sum" [y]).eval { env with sheet := some (s.keepAt t met) } (n + 1)) ∧
      ∀ e, (call "sumif" [x, c, y]).eval env (n + 1) = .error e ↔
        t.size ≠ r.size ∧ e = .invalidArguments "sumif" (.sizesDiffer r t)) ∧
    (∀ y, y.range? = some r →
      (call "sumif" [x, c]).eval env (n + 1) = (call "sumif" [x, c, y]).eval env (n + 1)) ∧
    ∀ p, v = .text ("<>" ++ p) → Decimal.ofText? (Text.trim p) = none →
      (call "sumif" [x, c]).eval env (n + 1) = (call "sum" [x]).eval env (n + 1) := by
  have hself (y : Expr) (hy : y.range? = some r) :
      (call "sumif" [x, c]).eval env (n + 1) = (call "sumif" [x, c, y]).eval env (n + 1) := by
    rw [eval_sumIf_self hsheet hx hc, eval_sumIf hsheet hx hc hy, if_pos rfl]
  refine ⟨fun y t hy => ⟨fun hsize => ?_, fun e => ?_⟩, hself, fun p hv hp => ?_⟩
  · have hsum := eval_sumIf hsheet hx hc hy
    rw [if_pos hsize, Sheet.selected_zip_cellsIn s _ hsize] at hsum
    refine ⟨hsum, ?_⟩
    rw [hsum, eval_sum rfl hy, Sheet.positionsMeeting, ← hsize, Sheet.numbersIn_keepAt]
  · rw [eval_sumIf hsheet hx hc hy]
    split
    · next hsize => exact ⟨nofun, fun h => absurd hsize h.1⟩
    · next hsize =>
      exact ⟨fun h => ⟨hsize, (Except.error.inj h).symm⟩, fun h => congrArg _ h.2.symm⟩
  · have haccepts (z : Float) : (Criterion.ofValue v).accepts (.number z) := by
      rw [hv]
      exact Criterion.accepts_number_of_ofText?_eq_none hp z
    rw [eval_sumIf_self hsheet hx hc, eval_sum hsheet hx, Sheet.selected_zip_cellsIn s _ rfl,
      Sheet.filterMap_positionsMeeting_self haccepts]

/-- A square and a row of as many cells: of the square the number and the truth value are other than
the text, and an empty cell is not; a shorter row is refused. -/
theorem sumIf_is_sum_shapes :
    let s : Sheet := Sheet.empty.writeAll
      [⟨⟨0, 0⟩, .number 4⟩, ⟨⟨0, 1⟩, .text "x"⟩, ⟨⟨1, 1⟩, .bool true⟩,
        ⟨⟨0, 3⟩, .number 10⟩, ⟨⟨0, 4⟩, .number 20⟩, ⟨⟨0, 5⟩, .number 30⟩,
        ⟨⟨0, 6⟩, .number 40⟩]
    let env : Environment :=
      { symbols := .empty, sheet := some s, config := default, clock := .atMidnight .epoch }
    let square : Expr := .range ⟨0, 0⟩ ⟨1, 1⟩
    let sign : Expr := .text "<>x"
    (call "sumif" [square, sign, .range ⟨0, 3⟩ ⟨0, 6⟩]).eval env 2 = .ok (.number 50) ∧
      (call "sumif" [square, sign, .range ⟨0, 3⟩ ⟨0, 5⟩]).eval env 2
        = .error (.invalidArguments "sumif" (.sizesDiffer ⟨⟨0, 0⟩, ⟨1, 1⟩⟩ ⟨⟨0, 3⟩, ⟨0, 5⟩⟩)) ∧
      (call "sumif" [square, sign]).eval env 2 = (call "sum" [square]).eval env 2 := by
  intro s env square sign
  have hsheet : env.sheet = some s := rfl
  have hsquare : square.range? = some ⟨⟨0, 0⟩, ⟨1, 1⟩⟩ := rfl
  have hsign : sign.eval env 1 = .ok (.text "<>x") := rfl
  obtain ⟨hother, -, hself⟩ := sumIf_is_sum hsheet hsquare hsign
  refine ⟨((hother _ _ rfl).1 (by decide)).1.trans ?_, ((hother _ _ rfl).2 _).mpr ⟨by decide, rfl⟩,
    hself "x" rfl (by decide)⟩
  decide +kernel

end Expr

end Formula
