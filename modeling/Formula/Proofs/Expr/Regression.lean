import Formula.Proofs.Expr.RangeCalls
import Formula.Sheet.Writes
import Mathlib.Data.List.Forall2

/-!
# Proofs/Expr/Regression — which cells a regression pairs

`slope` and `intercept` take the numbers of either range by themselves and pair the first with the
first, the second with the second, and so on.  Only their counts are compared.  A pair therefore
need not be of one position: all pairs are if and only if the two ranges hold their numbers at the
same positions (`Expr.regression_pairs`), and gaps at different positions that balance go unnoticed
(`Expr.slope_gaps`).
-/

namespace Formula

variable {α β : Type} {s : Sheet} {r t : Range} {k : Nat}

/-- The pairs of two lists agree in their first components if the lists of these are equal. -/
theorem forall_zip_fst_eq_iff {l : List (Nat × α)} {m : List (Nat × β)}
    (hlength : l.length = m.length) :
    (∀ p ∈ l.zip m, p.1.1 = p.2.1) ↔ l.map Prod.fst = m.map Prod.fst := by
  rw [← List.forall₂_eq_eq_eq, List.forall₂_map_left_iff, List.forall₂_map_right_iff,
    List.forall₂_iff_zip]
  exact ⟨fun h => ⟨hlength, fun hp => h _ hp⟩, fun h p hp => h.2 hp⟩

namespace Sheet

/-! ## Numbers with their positions -/

/-- **The numbers of a range with their positions**, in the order of the walk. -/
def numericCells (s : Sheet) (r : Range) : List (Nat × Float) :=
  (List.range r.size).filterMap fun k => (s.numberAt? r k).map (k, ·)

/-- They are the numbers that a function takes from the range, -/
theorem map_snd_numericCells : (s.numericCells r).map Prod.snd = numbersIn (s.cellsIn r) := by
  rw [numbersIn_cellsIn, numericCells, List.map_filterMap]
  refine List.filterMap_congr fun k _ => ?_
  cases s.numberAt? r k <;> rfl

/-- at its numeric positions. -/
theorem map_fst_numericCells : (s.numericCells r).map Prod.fst = s.numericPositions r := by
  rw [numericPositions, ← List.filterMap_eq_filter, numericCells, List.map_filterMap]
  refine List.filterMap_congr fun k _ => ?_
  rw [Option.guard]
  cases s.numberAt? r k <;> rfl

theorem mem_numericCells {y : Float} :
    (k, y) ∈ s.numericCells r ↔ k < r.size ∧ s.numberAt? r k = some y := by
  rw [numericCells, List.mem_filterMap]
  constructor
  · rintro ⟨l, hl, heq⟩
    obtain ⟨z, hz, hpair⟩ := Option.map_eq_some_iff.mp heq
    obtain ⟨rfl, rfl⟩ := Prod.mk.inj hpair
    exact ⟨List.mem_range.mp hl, hz⟩
  · rintro ⟨hk, hy⟩
    exact ⟨k, List.mem_range.mpr hk, by rw [hy]; rfl⟩

/-- A number of one list stands in a pair if the other list is as long. -/
theorem exists_mem_zip {l : List α} {m : List β} (hlength : l.length = m.length) {a : α}
    (ha : a ∈ l) : ∃ b, (a, b) ∈ l.zip m := by
  rw [← List.map_fst_zip (Nat.le_of_eq hlength)] at ha
  obtain ⟨⟨_, b⟩, hb, rfl⟩ := List.mem_map.mp ha
  exact ⟨b, hb⟩

/-- Ranges with numbers at the same positions have equally many. -/
theorem length_numericCells_eq (h : s.numericPositions r = s.numericPositions t) :
    (s.numericCells r).length = (s.numericCells t).length := by
  rw [← map_fst_numericCells, ← map_fst_numericCells] at h
  rw [← List.length_map Prod.fst, h, List.length_map]

/-- Ranges with numbers at the same positions pair exactly the numbers of one position. -/
theorem mem_zip_numericCells (h : s.numericPositions r = s.numericPositions t) {y x : Float} :
    ((k, y), (k, x)) ∈ (s.numericCells r).zip (s.numericCells t) ↔
      (k < r.size ∧ s.numberAt? r k = some y) ∧ k < t.size ∧ s.numberAt? t k = some x := by
  have hlength := length_numericCells_eq h
  rw [← map_fst_numericCells, ← map_fst_numericCells] at h
  rw [← mem_numericCells, ← mem_numericCells]
  constructor
  · exact List.of_mem_zip
  · rintro ⟨hy, hx⟩
    obtain ⟨⟨l, z⟩, hpair⟩ := exists_mem_zip hlength hy
    obtain rfl : k = l := (forall_zip_fst_eq_iff hlength).mpr h _ hpair
    have hz := (mem_numericCells.mp (List.of_mem_zip hpair).2).2
    rw [(mem_numericCells.mp hx).2] at hz
    exact Option.some.inj hz ▸ hpair

end Sheet

namespace Expr

variable {env : Environment} {n : Nat} {y x : Expr}

/-! ## The pairs of a regression -/

/-- **A regression is the line through the numbers of two ranges**, the first number of one with the
first of the other and so on; it fails if and only if they are not equally many.  All its pairs are
of one position if and only if the ranges hold their numbers at the same positions, and then the
pairs are those of the positions. -/
theorem regression_pairs (hsheet : env.sheet = some s) (hy : y.range? = some r)
    (hx : x.range? = some t) :
    let ys := s.numericCells r
    let xs := s.numericCells t
    let line := Number.leastSquares (ys.map Prod.snd) (xs.map Prod.snd)
    ((call "slope" [y, x]).eval env (n + 1) =
        if ys.length = xs.length then .ok (.number line.1)
        else .error (.invalidArguments "slope" (.unpaired ys.length xs.length))) ∧
      ((call "intercept" [y, x]).eval env (n + 1) =
        if ys.length = xs.length then .ok (.number line.2)
        else .error (.invalidArguments "intercept" (.unpaired ys.length xs.length))) ∧
      (ys.length = xs.length →
        ((∀ p ∈ ys.zip xs, p.1.1 = p.2.1) ↔ s.numericPositions r = s.numericPositions t)) ∧
      (s.numericPositions r = s.numericPositions t →
        ys.length = xs.length ∧
          ∀ k a b, ((k, a), (k, b)) ∈ ys.zip xs ↔
            (k < r.size ∧ s.numberAt? r k = some a) ∧ k < t.size ∧ s.numberAt? t k = some b) := by
  intro ys xs line
  have hnumbers (q : Range) : Sheet.numbersIn (s.cellsIn q) = (s.numericCells q).map Prod.snd :=
    Sheet.map_snd_numericCells.symm
  refine ⟨?_, ?_, fun hlength => ?_, fun h =>
    ⟨Sheet.length_numericCells_eq h, fun k a b => Sheet.mem_zip_numericCells h⟩⟩
  · rw [eval_slope hsheet hy hx, hnumbers, hnumbers]
    dsimp only
    rw [List.length_map, List.length_map]
  · rw [eval_intercept hsheet hy hx, hnumbers, hnumbers]
    dsimp only
    rw [List.length_map, List.length_map]
  · rw [forall_zip_fst_eq_iff hlength, Sheet.map_fst_numericCells, Sheet.map_fst_numericCells]

/-- Ranges with a gap at one position: the pairs are those of the other two. -/
theorem regression_pairs_gap :
    let s : Sheet := Sheet.empty.writeAll
      [⟨⟨0, 0⟩, .number 3⟩, ⟨⟨1, 0⟩, .text "x"⟩, ⟨⟨2, 0⟩, .number 7⟩,
        ⟨⟨0, 1⟩, .number 1⟩, ⟨⟨2, 1⟩, .number 3⟩]
    let env : Environment :=
      { symbols := .empty, sheet := some s, config := default, clock := .atMidnight .epoch }
    let r : Range := ⟨⟨0, 0⟩, ⟨2, 0⟩⟩
    let t : Range := ⟨⟨0, 1⟩, ⟨2, 1⟩⟩
    (call "slope" [.range ⟨0, 0⟩ ⟨2, 0⟩, .range ⟨0, 1⟩ ⟨2, 1⟩]).eval env 2 = .ok (.number 2) ∧
      s.numericPositions r = s.numericPositions t ∧
      ∀ p ∈ (s.numericCells r).zip (s.numericCells t), p.1.1 = p.2.1 := by
  intro s env r t
  have hsheet : env.sheet = some s := rfl
  have hy : (Expr.range ⟨0, 0⟩ ⟨2, 0⟩).range? = some r := rfl
  have hx : (Expr.range ⟨0, 1⟩ ⟨2, 1⟩).range? = some t := rfl
  obtain ⟨hslope, -, haligned, hequal⟩ := regression_pairs (n := 1) hsheet hy hx
  have h : s.numericPositions r = s.numericPositions t := by decide +kernel
  refine ⟨hslope.trans ?_, h, (haligned (hequal h).1).mpr h⟩
  rw [if_pos (hequal h).1]
  decide +kernel

/-- **Gaps that balance.**  The first range has its gap above the second number of the other, and
the other above the first number of the first: of the three pairs the first joins two positions, and
the slope is another than that of the two aligned pairs, which is 1. -/
theorem slope_gaps :
    let s : Sheet := Sheet.empty.writeAll
      [⟨⟨0, 0⟩, .number 1⟩, ⟨⟨1, 0⟩, .text "x"⟩, ⟨⟨2, 0⟩, .number 3⟩,
        ⟨⟨3, 0⟩, .number 5⟩, ⟨⟨0, 1⟩, .text "x"⟩, ⟨⟨1, 1⟩, .number 2⟩,
        ⟨⟨2, 1⟩, .number 3⟩, ⟨⟨3, 1⟩, .number 5⟩]
    let env : Environment :=
      { symbols := .empty, sheet := some s, config := default, clock := .atMidnight .epoch }
    let r : Range := ⟨⟨0, 0⟩, ⟨3, 0⟩⟩
    let t : Range := ⟨⟨0, 1⟩, ⟨3, 1⟩⟩
    (s.numericCells r).zip (s.numericCells t)
        = [((0, 1), (1, 2)), ((2, 3), (2, 3)), ((3, 5), (3, 5))] ∧
      (call "slope" [.range ⟨0, 0⟩ ⟨3, 0⟩, .range ⟨0, 1⟩ ⟨3, 1⟩]).eval env 2
        = .ok (.number (Number.leastSquares [1, 3, 5] [2, 3, 5]).1) ∧
      (Number.leastSquares [1, 3, 5] [2, 3, 5]).1 ≠ 1 ∧
      (Number.leastSquares [3, 5] [3, 5]).1 = 1 := by
  intro s env r t
  have hsheet : env.sheet = some s := rfl
  have hy : (Expr.range ⟨0, 0⟩ ⟨3, 0⟩).range? = some r := rfl
  have hx : (Expr.range ⟨0, 1⟩ ⟨3, 1⟩).range? = some t := rfl
  refine ⟨by decide +kernel, (eval_slope hsheet hy hx).trans ?_, by decide +kernel,
    by decide +kernel⟩
  have hys : Sheet.numbersIn (s.cellsIn r) = [1, 3, 5] := by decide +kernel
  have hxs : Sheet.numbersIn (s.cellsIn t) = [2, 3, 5] := by decide +kernel
  rw [hys, hxs]
  rfl

end Expr

end Formula
