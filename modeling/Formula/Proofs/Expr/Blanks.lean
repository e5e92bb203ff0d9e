import Formula.Proofs.Expr.ConditionalSums
import Formula.Proofs.Expr.Counting
import Formula.Proofs.Value.Order

/-!
# Proofs/Expr/Blanks — blank cells meet the criteria that the empty text meets

A cell is **blank** if it is empty or holds the empty text.  An empty cell meets no criterion, but a
cell with the empty text is compared as any other text is: it differs from all that is no text, and
comes before every other text (`Criterion.AdmitsEmptyText`).

So `countif` and `countblank` may count one cell.  How often they do is said by inclusion and
exclusion (`Sheet.population_or_add_and`): together they count the cells that either of them counts,
and once more the cells with the empty text if the criterion admits it
(`Expr.blanks_counted_as_texts`).
-/

namespace Formula

/-! ## The empty text -/

namespace Value

/-- **The empty text comes before every other text.** -/
theorem compare_empty (t : String) : compare "" t = if t = "" then .eq else .lt := by
  rw [compare_eq_codePoints]
  split
  · next h => rw [h]; rfl
  · next h =>
    have hne : t.toList ≠ [] := fun hnil => h (String.toList_eq_nil_iff.mp hnil)
    rw [codePoints, codePoints]
    cases ht : t.toList with
    | nil => exact absurd ht hne
    | cons c cs => rfl

end Value

theorem Cell.isBlank_iff {c : Cell} : c.isBlank ↔ c = .empty ∨ c = .text "" := by
  cases c <;> simp [isBlank]

namespace Criterion

variable {c : Criterion} {v : Value}

/-- **The criteria that the empty text meets.**  It differs from an operand that is no text, equals
the empty text, and comes before any other text. -/
def AdmitsEmptyText (c : Criterion) : Prop :=
  match c.operand with
  | .text t => c.comparison ∈ if t = "" then [.eq, .le, .ge] else [.lt, .le, .ne]
  | _ => c.comparison = .ne

instance (c : Criterion) : Decidable c.AdmitsEmptyText := by
  unfold AdmitsEmptyText
  split <;> infer_instance

theorem accepts_emptyText_iff : c.accepts (.text "") ↔ c.AdmitsEmptyText := by
  obtain ⟨comparison, operand⟩ := c
  rw [accepts, Value.ofCell?, AdmitsEmptyText]
  cases operand with
  | text t =>
    dsimp only [holds, Value.compare?]
    rw [Value.compare_empty]
    split <;> cases comparison <;> decide
  | number x => exact Comparison.holds_none_iff comparison
  | bool b => exact Comparison.holds_none_iff comparison
  | date d => exact Comparison.holds_none_iff comparison

/-- **A blank cell meets a criterion** if it holds the empty text and the criterion admits that. -/
theorem accepts_iff_of_isBlank {cell : Cell} (h : cell.isBlank) :
    c.accepts cell ↔ cell = .text "" ∧ c.AdmitsEmptyText := by
  obtain rfl | rfl := Cell.isBlank_iff.mp h
  · exact ⟨nofun, fun h => nomatch h.1⟩
  · rw [accepts_emptyText_iff, eq_self, true_and]

/-- Only a text writes a criterion that the empty text meets: other values ask for themselves. -/
theorem isText_of_admitsEmptyText (h : (ofValue v).AdmitsEmptyText) : v.isText := by
  cases v with
  | text s => rfl
  | number x => cases h
  | bool b => cases h
  | date d => cases h

end Criterion

namespace Sheet

variable {s : Sheet} {r : Range}

/-- **Inclusion and exclusion** for two properties of cells. -/
theorem population_or_add_and (s : Sheet) (r : Range) (P Q : Cell → Prop) :
    s.population r (fun c => P c ∨ Q c) + s.population r (fun c => P c ∧ Q c)
      = s.population r P + s.population r Q := by
  have hfinite (R : Cell → Prop) : {a | r.Contains a ∧ R (s.cell a)}.Finite :=
    r.finite_contains.subset fun _ ha => ha.1
  have hor : {a | r.Contains a ∧ (P (s.cell a) ∨ Q (s.cell a))}
      = {a | r.Contains a ∧ P (s.cell a)} ∪ {a | r.Contains a ∧ Q (s.cell a)} :=
    Set.ext fun a => and_or_left
  have hand : {a | r.Contains a ∧ (P (s.cell a) ∧ Q (s.cell a))}
      = {a | r.Contains a ∧ P (s.cell a)} ∩ {a | r.Contains a ∧ Q (s.cell a)} :=
    Set.ext fun a => and_and_left
  rw [population, population, hor, hand]
  exact Set.ncard_union_add_ncard_inter _ _ (hfinite P) (hfinite Q)

/-- No population is larger than its range. -/
theorem population_le_size (s : Sheet) (r : Range) (P : Cell → Prop) :
    s.population r P ≤ r.size := by
  classical
  have hcount := population_eq_countP s r fun c => decide (P c)
  simp only [decide_eq_true_eq] at hcount
  rw [hcount, cellsIn_eq_map]
  exact List.countP_le_length.trans_eq (by rw [List.length_map, List.length_range])

end Sheet

namespace Expr

variable {env : Environment} {s : Sheet} {r : Range} {n : Nat} {x c : Expr} {v : Value}

/-- **Blank cells count as the texts that they hold.**  Of the blank cells those meet a criterion
that hold the empty text, if the criterion admits it; only a text writes such a criterion.  So
`countif` and `countblank` together count the cells that meet the criterion or are blank, and once
more those with the empty text; where the criterion does not admit that, they count no cell twice,
and no more cells than there are.  `sumif` selects no position with a blank cell unless the cell
holds the empty text and the criterion admits it. -/
theorem blanks_counted_as_texts (hsheet : env.sheet = some s) (hx : x.range? = some r)
    (hc : c.eval env n = .ok v) :
    let criterion := Criterion.ofValue v
    let met := s.population r fun cell => criterion.accepts cell
    let blank := s.population r fun cell => cell.isBlank
    let either := s.population r fun cell => criterion.accepts cell ∨ cell.isBlank
    (∀ cell : Cell, cell.isBlank →
      (criterion.accepts cell ↔ cell = .text "" ∧ criterion.AdmitsEmptyText)) ∧
    (criterion.AdmitsEmptyText → v.isText) ∧
    ((call "countif" [x, c]).eval env (n + 1) = .ok (.number (Float.ofNat met)) ∧
      (call "countblank" [x]).eval env (n + 1) = .ok (.number (Float.ofNat blank)) ∧
      (r.finish.inGrid → Counts ((call "countif" [x, c]).eval env (n + 1)) met ∧
        Counts ((call "countblank" [x]).eval env (n + 1)) blank)) ∧
    (met + blank = either
        + s.population r (fun cell => cell = .text "" ∧ criterion.AdmitsEmptyText) ∧
      either ≤ r.size ∧ (¬criterion.AdmitsEmptyText → met + blank ≤ r.size)) ∧
    ∀ y t, y.range? = some t → t.size = r.size →
      (call "sumif" [x, c, y]).eval env (n + 1) = .ok (.number (Number.sum
        ((s.positionsMeeting criterion r).filterMap (s.numberAt? t)))) ∧
      ∀ k ∈ s.positionsMeeting criterion r, (s.cell (r.nth k)).isBlank →
        s.cell (r.nth k) = .text "" ∧ criterion.AdmitsEmptyText := by
  intro criterion met blank either
  have hboth : s.population r (fun cell => criterion.accepts cell ∧ cell.isBlank)
      = s.population r fun cell => cell = .text "" ∧ criterion.AdmitsEmptyText := by
    refine congrArg (s.population r) (funext fun cell => propext ⟨fun h => ?_, fun h => ?_⟩)
    · exact (Criterion.accepts_iff_of_isBlank h.2).mp h.1
    · have hblank : cell.isBlank := Cell.isBlank_iff.mpr (.inr h.1)
      exact ⟨(Criterion.accepts_iff_of_isBlank hblank).mpr h, hblank⟩
  have hcount : met + blank = either
      + s.population r (fun cell => cell = .text "" ∧ criterion.AdmitsEmptyText) := by
    rw [← hboth]
    exact (s.population_or_add_and r _ _).symm
  refine ⟨fun cell => Criterion.accepts_iff_of_isBlank, Criterion.isText_of_admitsEmptyText,
    ⟨?_, ?_, fun hr => ⟨?_, counts_countBlank hsheet hx hr⟩⟩,
    ⟨hcount, s.population_le_size r _, fun hnot => ?_⟩,
    fun y t hy hsize => ⟨?_, fun k hk hblank => ?_⟩⟩
  · rw [eval_countIf hsheet hx hc, ← Sheet.population_eq_countP]
  · rw [eval_countBlank hsheet hx, ← Sheet.population_eq_countP]
  · rw [eval_countIf hsheet hx hc]
    exact counts_of_countP hr _
  · have hnone : s.population r (fun cell => cell = .text "" ∧ criterion.AdmitsEmptyText)
        = 0 := by
      simp only [hnot, and_false, Sheet.population, Set.ofPred_false, Set.ncard_empty]
    rw [hcount, hnone, Nat.add_zero]
    exact s.population_le_size r _
  · exact (((sumIf_is_sum hsheet hx hc).1 y t hy).1 hsize).1
  · exact (Criterion.accepts_iff_of_isBlank hblank).mp (List.mem_filter.mp hk).2

/-- A column with an empty text, an empty cell and a number.  What is not 5 are the text and the
number, so that the text is counted twice; what is more than 5 is the number only. -/
theorem blanks_counted_as_texts_column :
    let s : Sheet := Sheet.empty.writeAll
      [⟨⟨0, 0⟩, .text ""⟩, ⟨⟨2, 0⟩, .number 7⟩]
    let env : Environment :=
      { symbols := .empty, sheet := some s, config := default, clock := .atMidnight .epoch }
    let column : Expr := .range ⟨0, 0⟩ ⟨2, 0⟩
    let count (p : String) := (call "countif" [column, .text p]).eval env 2
    Counts (count "<>5") 2 ∧ Counts ((call "countblank" [column]).eval env 2) 2 ∧
      (Criterion.ofText "<>5").AdmitsEmptyText ∧
      Counts (count ">5") 1 ∧ ¬(Criterion.ofText ">5").AdmitsEmptyText := by
  intro s env column count
  have hsheet : env.sheet = some s := rfl
  have hcolumn : column.range? = some ⟨⟨0, 0⟩, ⟨2, 0⟩⟩ := rfl
  have hnot5 : (Expr.text "<>5").eval env 1 = .ok (.text "<>5") := rfl
  have habove5 : (Expr.text ">5").eval env 1 = .ok (.text ">5") := rfl
  obtain ⟨-, -, ⟨-, -, hcounts⟩, -⟩ := blanks_counted_as_texts hsheet hcolumn hnot5
  obtain ⟨-, -, ⟨-, -, hcounts'⟩, -⟩ := blanks_counted_as_texts hsheet hcolumn habove5
  obtain ⟨hdifferent, hblank⟩ := hcounts (by decide)
  obtain ⟨hmore, -⟩ := hcounts' (by decide)
  have htwo : s.population ⟨⟨0, 0⟩, ⟨2, 0⟩⟩
      (fun cell => (Criterion.ofValue (.text "<>5")).accepts cell) = 2 := by
    rw [Sheet.population_eq_countP]
    decide +kernel
  have htwo' : s.population ⟨⟨0, 0⟩, ⟨2, 0⟩⟩ (fun cell => cell.isBlank) = 2 := by
    rw [Sheet.population_eq_countP]
    decide +kernel
  have hone : s.population ⟨⟨0, 0⟩, ⟨2, 0⟩⟩
      (fun cell => (Criterion.ofValue (.text ">5")).accepts cell) = 1 := by
    rw [Sheet.population_eq_countP]
    decide +kernel
  rw [htwo] at hdifferent
  rw [htwo'] at hblank
  rw [hone] at hmore
  exact ⟨hdifferent, hblank, by decide, hmore, by decide⟩

/-- **A cell counts twice** in a range that has no other. -/
theorem countIf_counts_blank :
    let s : Sheet := Sheet.empty.writeAll [⟨⟨0, 0⟩, .text ""⟩]
    let env : Environment :=
      { symbols := .empty, sheet := some s, config := default, clock := .atMidnight .epoch }
    let cell : Expr := .range ⟨0, 0⟩ ⟨0, 0⟩
    (call "countif" [cell, .text "<>5"]).eval env 2 = .ok (.number 1) ∧
      (call "countblank" [cell]).eval env 2 = .ok (.number 1) ∧
      (Range.single ⟨0, 0⟩).size = 1 := by
  decide +kernel

end Expr

end Formula
