import Formula.Proofs.Decimal.Naturals
import Formula.Proofs.Expr.RangeCalls
import Formula.Proofs.Sheet.Population
import Formula.Proofs.Value.Criterion
import Formula.Sheet.Writes

/-!
# Proofs/Expr/Counting — counts are exact

`countif` and `countblank` give the number of cells of a range that meet a criterion or are blank:
as an integer, for a range in the grid has fewer cells than there are integers that floating-point
numbers keep apart (`counts_of_countP`).  So counts do what populations do.  The cells that equal an
operand and those that differ from it make up the cells that are not empty, and the counts of the
halves of a range those of the range (`Expr.count_is_population`).
-/

namespace Formula

open Criterion (Meets)

/-- **An evaluation gives a natural number**, exactly. -/
def Counts (result : Except EvalError Value) (k : Nat) : Prop :=
  ∃ x, result = .ok (.number x) ∧ Decimal.value? x = some (k : ℚ)

variable {s : Sheet} {r : Range}

/-- Counts of cells are small enough to be exact. -/
theorem counts_of_countP (hr : r.finish.inGrid) (p : Cell → Bool) :
    Counts (.ok (.number (Float.ofNat ((s.cellsIn r).countP p))))
      (s.population r fun cell => p cell) := by
  have hlength : (s.cellsIn r).length = r.size := by
    rw [Sheet.cellsIn_eq_map, List.length_map, List.length_range]
  have hgrid : maxRows * maxColumns < 2 ^ 53 := by decide
  have hcount : (s.cellsIn r).countP p ≤ r.size := hlength ▸ List.countP_le_length
  refine ⟨_, rfl, ?_⟩
  rw [Sheet.population_eq_countP]
  exact Decimal.value?_ofNat ((hcount.trans (Range.size_le_of_inGrid hr)).trans_lt hgrid)

namespace Expr

variable {env : Environment} {n : Nat} {x : Expr}

theorem counts_countIf (hsheet : env.sheet = some s) (hx : x.range? = some r)
    (hr : r.finish.inGrid) {c : Expr} {v : Value} (hc : c.eval env n = .ok v) :
    Counts ((call "countif" [x, c]).eval env (n + 1))
      (s.population r (Criterion.ofValue v).MetBy) := by
  rw [eval_countIf hsheet hx hc]
  rw [← Criterion.accepts_eq_metBy]
  exact counts_of_countP hr _

theorem counts_countBlank (hsheet : env.sheet = some s) (hx : x.range? = some r)
    (hr : r.finish.inGrid) :
    Counts ((call "countblank" [x]).eval env (n + 1))
      (s.population r fun cell => cell.isBlank) := by
  rw [eval_countBlank hsheet hx]
  exact counts_of_countP hr _

/-- **The values that equal an operand and those that differ from it** are all values of a range. -/
theorem population_eq_add_population_ne (s : Sheet) (r : Range) (p : String) :
    s.population r (Criterion.ofText ("=" ++ p)).MetBy
        + s.population r (Criterion.ofText ("<>" ++ p)).MetBy
      = s.population r (fun cell => cell ≠ .empty) := by
  simp only [Criterion.ofText_eq, Criterion.ofText_ne]
  refine Sheet.population_add_of_disjoint (fun cell => ?_) fun cell => ?_
  · simp only [Criterion.MetBy, Criterion.Meets, Criterion.holds_ne_iff]
    rw [← exists_or, ne_eq, ← Value.ofCell?_eq_none_iff, ← ne_eq, Option.ne_none_iff_exists']
    simp only [← and_or_left, Classical.em, and_true]
  · rintro ⟨⟨v, hv, heq⟩, w, hw, hne⟩
    rw [Criterion.Meets, Criterion.holds_ne_iff] at hne
    obtain rfl : v = w := Option.some.inj (hv.symm.trans hw)
    exact hne heq

/-- **Counts are populations**: exact, complementary and additive.  A criterion counts the cells
that hold a value which meets it.  The criteria "equal" and "different" with one operand, blanks and
further signs in it or not, share out the cells that are not empty, and "different" has two signs.
The counts of the halves of a range make up those of the range. -/
theorem count_is_population (hsheet : env.sheet = some s) (hx : x.range? = some r)
    (hr : r.finish.inGrid) :
    (∀ c v, c.eval env n = .ok v →
      Counts ((call "countif" [x, c]).eval env (n + 1))
        (s.population r (Criterion.ofValue v).MetBy)) ∧
    Counts ((call "countblank" [x]).eval env (n + 1)) (s.population r fun cell => cell.isBlank) ∧
    (∀ p e d b, e.eval env n = .ok (.text ("=" ++ p)) → d.eval env n = .ok (.text ("<>" ++ p)) →
      b.eval env n = .ok (.text ("!=" ++ p)) →
      (∃ k l, Counts ((call "countif" [x, e]).eval env (n + 1)) k ∧
        Counts ((call "countif" [x, d]).eval env (n + 1)) l ∧
        k + l = s.population r fun cell => cell ≠ .empty) ∧
      (call "countif" [x, d]).eval env (n + 1) = (call "countif" [x, b]).eval env (n + 1)) ∧
    ∀ y z first second, y.range? = some first → z.range? = some second → r.Halves first second →
      (∀ c v, c.eval env n = .ok v → ∃ k l,
        Counts ((call "countif" [y, c]).eval env (n + 1)) k ∧
        Counts ((call "countif" [z, c]).eval env (n + 1)) l ∧
        Counts ((call "countif" [x, c]).eval env (n + 1)) (k + l)) ∧
      ∃ k l, Counts ((call "countblank" [y]).eval env (n + 1)) k ∧
        Counts ((call "countblank" [z]).eval env (n + 1)) l ∧
        Counts ((call "countblank" [x]).eval env (n + 1)) (k + l) := by
  refine ⟨fun c v hc => counts_countIf hsheet hx hr hc, counts_countBlank hsheet hx hr,
    fun p e d b he hd hb => ⟨?_, ?_⟩, fun y z first second hy hz hhalves => ⟨?_, ?_⟩⟩
  · exact ⟨_, _, counts_countIf hsheet hx hr he, counts_countIf hsheet hx hr hd,
      population_eq_add_population_ne s r p⟩
  · have hsigns : Criterion.ofValue (.text ("<>" ++ p)) = Criterion.ofValue (.text ("!=" ++ p)) :=
      (Criterion.ofText_ne p).trans (Criterion.ofText_bang p).symm
    rw [eval_countIf hsheet hx hd, eval_countIf hsheet hx hb, hsigns]
  · obtain ⟨hfirst, hsecond⟩ := hhalves.inGrid hr
    intro c v hc
    refine ⟨_, _, counts_countIf hsheet hy hfirst hc, counts_countIf hsheet hz hsecond hc, ?_⟩
    rw [Sheet.population_add_of_halves hhalves]
    exact counts_countIf hsheet hx hr hc
  · obtain ⟨hfirst, hsecond⟩ := hhalves.inGrid hr
    refine ⟨_, _, counts_countBlank hsheet hy hfirst, counts_countBlank hsheet hz hsecond, ?_⟩
    rw [Sheet.population_add_of_halves hhalves]
    exact counts_countBlank hsheet hx hr

/-- A square with a number, a text and a truth value: three cells equal the text or differ from it,
two of them differ, one cell is blank, and the rows of the square are counted apart. -/
theorem count_is_population_square :
    let s : Sheet := Sheet.empty.writeAll
      [⟨⟨0, 0⟩, .number 4⟩, ⟨⟨0, 1⟩, .text "x"⟩, ⟨⟨1, 1⟩, .bool true⟩]
    let env : Environment :=
      { symbols := .empty, sheet := some s, config := default, clock := .atMidnight .epoch }
    let square : Expr := .range ⟨0, 0⟩ ⟨1, 1⟩
    let top : Expr := .range ⟨0, 0⟩ ⟨0, 1⟩
    let bottom : Expr := .range ⟨1, 0⟩ ⟨1, 1⟩
    let count (x : Expr) (p : String) := (call "countif" [x, .text p]).eval env 2
    ((∃ k l, Counts (count square "=x") k ∧ Counts (count square "<>x") l ∧ k + l = 3) ∧
        count square "<>x" = count square "!=x") ∧
      Counts (count square "<>x") 2 ∧ Counts ((call "countblank" [square]).eval env 2) 1 ∧
      ∃ k l, Counts (count top "<>x") k ∧ Counts (count bottom "<>x") l ∧
        Counts (count square "<>x") (k + l) := by
  intro s env square top bottom count
  have hsheet : env.sheet = some s := rfl
  have hsquare : square.range? = some ⟨⟨0, 0⟩, ⟨1, 1⟩⟩ := rfl
  obtain ⟨hcount, hblank, hsplit, hhalves⟩ :=
    @count_is_population s _ env 1 square hsheet hsquare (by decide)
  obtain ⟨⟨k, l, hk, hl, hsum⟩, hsigns⟩ :=
    hsplit "x" (.text "=x") (.text "<>x") (.text "!=x") rfl rfl rfl
  have hvalues : s.population ⟨⟨0, 0⟩, ⟨1, 1⟩⟩ (fun cell => cell ≠ .empty) = 3 := by
    simp only [ne_eq, ← Cell.isEmpty_iff, Bool.not_eq_true, ← Bool.not_eq_true']
    rw [Sheet.population_eq_countP]
    decide +kernel
  have hother : s.population ⟨⟨0, 0⟩, ⟨1, 1⟩⟩
      (Criterion.ofValue (.text "<>x")).MetBy = 2 := by
    rw [← Criterion.accepts_eq_metBy, Sheet.population_eq_countP]
    decide +kernel
  have hempty : s.population ⟨⟨0, 0⟩, ⟨1, 1⟩⟩ (fun cell => cell.isBlank) = 1 := by
    rw [Sheet.population_eq_countP]
    decide +kernel
  have hdifferent := hcount (.text "<>x") (.text "<>x") rfl
  obtain ⟨hrows, -⟩ := hhalves top bottom _ _ rfl rfl (.rows 0 (by decide))
  rw [hother] at hdifferent
  rw [hempty] at hblank
  exact ⟨⟨⟨k, l, hk, hl, hsum.trans hvalues⟩, hsigns⟩, hdifferent, hblank,
    hrows (.text "<>x") (.text "<>x") rfl⟩

end Expr

end Formula
