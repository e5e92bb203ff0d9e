import Formula.Proofs.Expr.Steps
import Formula.Proofs.Sheet.Positions
import Formula.Proofs.Sheet.Sizes

/-!
# Proofs/Expr/RangeCalls — what the functions of ranges compute

An argument that is a cell or a range gives a function the cells of that range, and any other
argument gives it a value.  Here is what the functions of ranges make of these, one equation for
each, so that no statement about one of them opens its plan.
-/

namespace Formula

open Builtin (function?)

variable {env : Environment} {s : Sheet} {n i : Nat} {args : List Expr}

/-! ## Questions -/

namespace Environment

open Formula.Expr (argument)

theorem run_argument {e : Expr} (he : args[i]? = some e) :
    (Plan.argument i).run (env.host (args.map (argument env n))) = e.eval env n := by
  rw [Plan.argument, Plan.run_value, host_value_of_getElem? he]
  cases e.eval env n <;> rfl

/-- **A cell or a range gives its cells.** -/
theorem host_operand_of_range? {e : Expr} {r : Range} (hsheet : env.sheet = some s)
    (he : args[i]? = some e) (hr : e.range? = some r) :
    (env.host (args.map (argument env n))).operand i
      = .ok (.region r ⟨fun _ => s.cellsIn r⟩) := by
  rw [host_operand_of_getElem? he, operand, argument]
  dsimp only
  rw [hr]
  dsimp only
  rw [hsheet]

theorem run_region {e : Expr} {r : Range} (hsheet : env.sheet = some s)
    (he : args[i]? = some e) (hr : e.range? = some r) (name : String) :
    (Plan.region name i).run (env.host (args.map (argument env n)))
      = .ok (r, ⟨fun _ => s.cellsIn r⟩) := by
  rw [Plan.region, Plan.run_operand, host_operand_of_range? hsheet he hr]
  rfl

end Environment

namespace Expr

variable {x y c : Expr} {r t : Range} {v : Value}

/-- A call with as many arguments as the function takes runs its plan. -/
theorem eval_call_of_function? {name : String} {f : Function} {m : Nat}
    (hf : function? name = some f) (hlen : args.length = m) (harity : f.least ≤ m ∧ m ≤ f.most) :
    (call name args).eval env (n + 1)
      = (f.plan m).run (env.host (args.map (argument env n))) := by
  rw [eval_call, Environment.callFunction_of_some hf, List.length_map, hlen, Builtin.checkArity,
    if_pos harity]
  rfl

/-! ## Reducers -/

/-- **The numbers of an argument**: those that the cells of a cell or a range hold, row by row, and
the number of the value of any other expression. -/
def numbers (env : Environment) (n : Nat) (e : Expr) : Except EvalError (List Float) :=
  match e.range?, env.sheet with
  | some r, some s => .ok (Sheet.numbersIn (s.cellsIn r))
  | some _, none => .error .noSheet
  | none, _ => (e.eval env n).map fun v => [v.toNumber]

/-- What a reducer asks of an argument are its numbers. -/
theorem run_numbersAt {e : Expr} (he : args[i]? = some e) :
    (Builtin.numbersAt i).run (env.host (args.map (argument env n))) = numbers env n e := by
  rw [Builtin.numbersAt, Plan.run_operand, Environment.host_operand_of_getElem? he,
    Environment.operand, argument, numbers]
  dsimp only
  cases e.range? with
  | none => cases e.eval env n <;> rfl
  | some r => cases env.sheet <;> rfl

/-- **A reducer of a range** is one of its numbers. -/
theorem eval_reducer {name help : String} {f : List Float → Float}
    (hf : function? name = some (Builtin.reducer name help f)) (hsheet : env.sheet = some s)
    (hx : x.range? = some r) :
    (call name [x]).eval env (n + 1) = .ok (.number (f (Sheet.numbersIn (s.cellsIn r)))) := by
  have harity : 1 ≤ 1 ∧ 1 ≤ anyArguments := by decide
  refine (eval_call_of_function? (m := 1) hf rfl harity).trans ?_
  rw [Builtin.reducer]
  dsimp only
  rw [Plan.run_andThen, Plan.run_each_succ, run_numbersAt rfl, numbers, hx, hsheet]
  change Except.ok (Value.number (f (Sheet.numbersIn (s.cellsIn r) ++ []))) = _
  rw [List.append_nil]

/-- **The sum of a range.** -/
theorem eval_sum (hsheet : env.sheet = some s) (hx : x.range? = some r) :
    (call "sum" [x]).eval env (n + 1)
      = .ok (.number (Number.sum (Sheet.numbersIn (s.cellsIn r)))) :=
  eval_reducer rfl hsheet hx

/-- The range that an argument is has its corners sorted. -/
theorem upright_of_range? {e : Expr} {r : Range} (h : e.range? = some r) : r.Upright := by
  obtain ⟨a, -, rfl⟩ | ⟨a, b, -, rfl⟩ := eq_cell_or_range_of_range? h
  · exact Range.upright_spanning a a
  · exact Range.upright_spanning a b

/-- **A conditional sum with a range of its own** is refused if the ranges differ in size. -/
theorem eval_sumIf (hsheet : env.sheet = some s) (hx : x.range? = some r)
    (hc : c.eval env n = .ok v) (hy : y.range? = some t) :
    (call "sumif" [x, c, y]).eval env (n + 1) =
      if t.size = r.size then
        .ok (.number (Number.sum
          (Builtin.selected (Criterion.ofValue v) ((s.cellsIn r).zip (s.cellsIn t)))))
      else .error (.invalidArguments "sumif" (.sizesDiffer r t)) := by
  refine (eval_call_of_function? (m := 3) rfl rfl (by decide)).trans ?_
  change (Builtin.sumIf 3).run _ = _
  rw [Builtin.sumIf, Plan.run_andThen, Environment.run_region hsheet rfl hx]
  dsimp only [Except.bind]
  rw [Plan.run_andThen, Environment.run_argument rfl, hc]
  dsimp only [Except.bind]
  rw [if_pos (by decide), Plan.run_andThen, Environment.run_region hsheet rfl hy]
  dsimp only [Except.bind]
  have hagree : t.size? = r.size? ↔ t.size = r.size :=
    Range.size?_eq_iff (upright_of_range? hy) (upright_of_range? hx)
  by_cases hsize : t.size = r.size
  · rw [if_pos (hagree.mpr hsize), if_pos hsize]
    rfl
  · rw [if_neg (mt hagree.mp hsize), if_neg hsize]
    rfl

/-- Without one it adds up the range of the criterion. -/
theorem eval_sumIf_self (hsheet : env.sheet = some s) (hx : x.range? = some r)
    (hc : c.eval env n = .ok v) :
    (call "sumif" [x, c]).eval env (n + 1) =
      .ok (.number (Number.sum
        (Builtin.selected (Criterion.ofValue v) ((s.cellsIn r).zip (s.cellsIn r))))) := by
  refine (eval_call_of_function? (m := 2) rfl rfl (by decide)).trans ?_
  change (Builtin.sumIf 2).run _ = _
  rw [Builtin.sumIf, Plan.run_andThen, Environment.run_region hsheet rfl hx]
  dsimp only [Except.bind]
  rw [Plan.run_andThen, Environment.run_argument rfl, hc]
  rfl

/-! ## Counts -/

/-- **The cells of a range that meet a criterion, counted.** -/
theorem eval_countIf (hsheet : env.sheet = some s) (hx : x.range? = some r)
    (hc : c.eval env n = .ok v) :
    (call "countif" [x, c]).eval env (n + 1) =
      .ok (.number (Float.ofNat ((s.cellsIn r).countP (Criterion.ofValue v).accepts))) := by
  refine (eval_call_of_function? (m := 2) rfl rfl (by decide)).trans ?_
  change Builtin.countIf.run _ = _
  rw [Builtin.countIf, Plan.run_andThen, Environment.run_region hsheet rfl hx]
  dsimp only [Except.bind]
  rw [Plan.run_andThen, Environment.run_argument rfl, hc]
  rfl

/-- **The blank cells of a range, counted.** -/
theorem eval_countBlank (hsheet : env.sheet = some s) (hx : x.range? = some r) :
    (call "countblank" [x]).eval env (n + 1) =
      .ok (.number (Float.ofNat ((s.cellsIn r).countP Cell.isBlank))) := by
  refine (eval_call_of_function? (m := 1) rfl rfl (by decide)).trans ?_
  change Builtin.countBlank.run _ = _
  rw [Builtin.countBlank, Plan.run_andThen, Environment.run_region hsheet rfl hx]
  rfl

/-! ## Regression -/

/-- The numbers of two ranges make a line if they are equally many. -/
theorem run_regression (hsheet : env.sheet = some s) (hy : args[0]? = some y)
    (hry : y.range? = some r) (hx : args[1]? = some x) (hrx : x.range? = some t) (name : String) :
    (Builtin.regression name).run (env.host (args.map (argument env n))) =
      let ys := Sheet.numbersIn (s.cellsIn r)
      let xs := Sheet.numbersIn (s.cellsIn t)
      if ys.length = xs.length then .ok (Number.leastSquares ys xs)
      else .error (.invalidArguments name (.unpaired ys.length xs.length)) := by
  rw [Builtin.regression, Plan.run_andThen, Environment.run_region hsheet hy hry]
  dsimp only [Except.bind]
  rw [Plan.run_andThen, Environment.run_region hsheet hx hrx]
  change Plan.run _ (if (Sheet.numbersIn (s.cellsIn r)).length
    ≠ (Sheet.numbersIn (s.cellsIn t)).length then _ else _) = _
  by_cases hlen : (Sheet.numbersIn (s.cellsIn r)).length = (Sheet.numbersIn (s.cellsIn t)).length
  · rw [if_neg (not_not.mpr hlen)]
    exact (if_pos hlen).symm
  · rw [if_pos hlen]
    exact (if_neg hlen).symm

/-- A function that gives a part of the line through two ranges, the values of the first standing
above those of the second. -/
theorem eval_regression {name help : String} (part : Float × Float → Float)
    (hf : function? name = some ⟨name, 2, 2, help, fun _ => do
      return .number (part (← Builtin.regression name))⟩)
    (hsheet : env.sheet = some s) (hy : y.range? = some r) (hx : x.range? = some t) :
    (call name [y, x]).eval env (n + 1) =
      let ys := Sheet.numbersIn (s.cellsIn r)
      let xs := Sheet.numbersIn (s.cellsIn t)
      if ys.length = xs.length then .ok (.number (part (Number.leastSquares ys xs)))
      else .error (.invalidArguments name (.unpaired ys.length xs.length)) := by
  refine (eval_call_of_function? (m := 2) hf rfl ⟨Nat.le_refl _, Nat.le_refl _⟩).trans ?_
  dsimp only
  rw [Plan.run_andThen, run_regression hsheet rfl hy rfl hx]
  dsimp only
  split <;> rfl

/-- **The slope of two ranges.** -/
theorem eval_slope (hsheet : env.sheet = some s) (hy : y.range? = some r)
    (hx : x.range? = some t) :
    (call "slope" [y, x]).eval env (n + 1) =
      let ys := Sheet.numbersIn (s.cellsIn r)
      let xs := Sheet.numbersIn (s.cellsIn t)
      if ys.length = xs.length then .ok (.number (Number.leastSquares ys xs).1)
      else .error (.invalidArguments "slope" (.unpaired ys.length xs.length)) :=
  eval_regression Prod.fst rfl hsheet hy hx

/-- **Their intercept.** -/
theorem eval_intercept (hsheet : env.sheet = some s) (hy : y.range? = some r)
    (hx : x.range? = some t) :
    (call "intercept" [y, x]).eval env (n + 1) =
      let ys := Sheet.numbersIn (s.cellsIn r)
      let xs := Sheet.numbersIn (s.cellsIn t)
      if ys.length = xs.length then .ok (.number (Number.leastSquares ys xs).2)
      else .error (.invalidArguments "intercept" (.unpaired ys.length xs.length)) :=
  eval_regression Prod.snd rfl hsheet hy hx

end Expr

end Formula
