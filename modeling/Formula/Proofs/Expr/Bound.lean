import Formula.Proofs.Expr.Culprit
import Formula.Proofs.Expr.History

/-!
# Proofs/Expr/Bound — the bound on nesting is exact

No expression that is within the bound on its nesting runs out of levels, whatever its environment.
Beyond the bound an expression may still have a value, since it may leave parts of it alone.
**Arithmetic** leaves none alone: it runs out of levels exactly when it is nested too deeply
(`depthExceeded_iff_lt_height`).

The same is so on an evaluator, where the nodes that are open count as well.  An evaluation leaves
their number as it was, so that it is the same for the left part of a node and for the right part.
-/

namespace Formula

namespace Expr

/-- **Arithmetic**: number literals under operations on one and on two values and comparisons. -/
inductive Arithmetic : Expr → Prop where
  | number (x : Float) : Arithmetic (.number x)
  | unary (op : UnaryOp) {e : Expr} (he : e.Arithmetic) : Arithmetic (.unary op e)
  | binary (op : BinaryOp) {l r : Expr} (hl : l.Arithmetic) (hr : r.Arithmetic) :
      Arithmetic (.binary op l r)
  | compare (op : Comparison) {l r : Expr} (hl : l.Arithmetic) (hr : r.Arithmetic) :
      Arithmetic (.compare op l r)

variable {env : Environment} {e : Expr} {n limit : Nat}

/-- An expression that has a level for each of its nodes does not run out of them. -/
theorem eval_ne_depthExceeded (h : e.height ≤ n) : e.eval env n ≠ .error (.depthExceeded limit) :=
  fun herr => absurd (blames_of_eval herr).2 (Nat.not_lt.mpr h)

/-- Arithmetic that has a level for each of its nodes has a value. -/
theorem Arithmetic.exists_eval (he : e.Arithmetic) (h : e.height ≤ n) :
    ∃ v, e.eval env n = .ok v := by
  induction he generalizing n with
  | number x =>
    obtain ⟨n, rfl⟩ := Nat.exists_eq_add_of_le' h
    exact ⟨.number x, rfl⟩
  | unary op _ ih =>
    obtain ⟨n, rfl⟩ := Nat.exists_eq_add_of_le' ((height_pos _).trans_le h)
    rw [height] at h
    obtain ⟨v, hv⟩ := ih (Nat.le_of_succ_le_succ h)
    rw [eval_unary, hv]
    exact ⟨_, rfl⟩
  | binary op _ _ ihl ihr =>
    obtain ⟨n, rfl⟩ := Nat.exists_eq_add_of_le' ((height_pos _).trans_le h)
    rw [height] at h
    obtain ⟨a, ha⟩ := ihl ((le_max_left _ _).trans (Nat.le_of_succ_le_succ h))
    obtain ⟨b, hb⟩ := ihr ((le_max_right _ _).trans (Nat.le_of_succ_le_succ h))
    rw [eval_binary, ha, hb]
    exact ⟨_, rfl⟩
  | compare op _ _ ihl ihr =>
    obtain ⟨n, rfl⟩ := Nat.exists_eq_add_of_le' ((height_pos _).trans_le h)
    rw [height] at h
    obtain ⟨a, ha⟩ := ihl ((le_max_left _ _).trans (Nat.le_of_succ_le_succ h))
    obtain ⟨b, hb⟩ := ihr ((le_max_right _ _).trans (Nat.le_of_succ_le_succ h))
    rw [eval_compare, ha, hb]
    exact ⟨_, rfl⟩

/-- **Two operands are too deep if one of them is**, whichever it is: the left one is evaluated
first, and with as many levels as the right one. -/
theorem bind_map_eq_error {l r : Expr} {f : Value → Value → Value} {err : EvalError}
    (hl : l.Arithmetic) (h : n < max l.height r.height)
    (ihl : n < l.height → l.eval env n = .error err)
    (ihr : n < r.height → r.eval env n = .error err) :
    ((l.eval env n).bind fun a => (r.eval env n).map (f a)) = .error err := by
  by_cases hlt : n < l.height
  · rw [ihl hlt]
    rfl
  · obtain ⟨a, ha⟩ := hl.exists_eval (Nat.not_lt.mp hlt)
    rw [ha, ihr (by omega)]
    rfl

/-- **Arithmetic that is nested too deeply runs out of levels.** -/
theorem Arithmetic.eval_eq_depthExceeded (he : e.Arithmetic) (h : n < e.height) :
    e.eval env n = .error (.depthExceeded env.depth) := by
  induction he generalizing n with
  | number x =>
    obtain rfl := Nat.lt_one_iff.mp h
    exact eval_zero env _
  | unary op _ ih =>
    cases n with
    | zero => exact eval_zero env _
    | succ n =>
      rw [height] at h
      rw [eval_unary, ih (Nat.lt_of_succ_lt_succ h)]
      rfl
  | binary op hl _ ihl ihr =>
    cases n with
    | zero => exact eval_zero env _
    | succ n =>
      rw [height] at h
      rw [eval_binary]
      exact bind_map_eq_error hl (Nat.lt_of_succ_lt_succ h) ihl ihr
  | compare op hl _ ihl ihr =>
    cases n with
    | zero => exact eval_zero env _
    | succ n =>
      rw [height] at h
      rw [eval_compare]
      exact bind_map_eq_error (f := fun a b => .bool (op.holds (a.compare? b))) hl
        (Nat.lt_of_succ_lt_succ h) ihl ihr

theorem Arithmetic.eval_eq_depthExceeded_iff (he : e.Arithmetic) :
    e.eval env n = .error (.depthExceeded env.depth) ↔ n < e.height :=
  ⟨fun herr => Nat.not_le.mp fun hle => eval_ne_depthExceeded hle herr, he.eval_eq_depthExceeded⟩

end Expr

namespace Evaluator

/-- **The bound on nesting is exact.**  An expression that is within the bound does not run out of
levels, and arithmetic runs out of them exactly when it is nested deeper than the bound; on an
evaluator, deeper than the open nodes have left of it. -/
theorem depthExceeded_iff_lt_height (env : Environment) :
    (∀ e : Expr, e.height ≤ env.depth →
      ∀ limit, env.evaluate e ≠ .error (.depthExceeded limit)) ∧
    (∀ e : Expr, e.Arithmetic →
      (env.evaluate e = .error (.depthExceeded env.depth) ↔ env.depth < e.height)) ∧
    (∀ (e : Expr) (s : Evaluator), s.depth + e.height ≤ env.depth →
      ∀ limit, ((eval env e).runOn s).1 ≠ .error (.depthExceeded limit)) ∧
    ∀ (e : Expr) (s : Evaluator), e.Arithmetic →
      (((eval env e).runOn s).1 = .error (.depthExceeded env.depth) ↔
        env.depth < s.depth + e.height) := by
  refine ⟨fun e h limit => Expr.eval_ne_depthExceeded h, fun e he => he.eval_eq_depthExceeded_iff,
    fun e s h limit => ?_, fun e s he => ?_⟩
  · rw [gives_eval]
    exact Expr.eval_ne_depthExceeded (by omega)
  · rw [gives_eval, he.eval_eq_depthExceeded_iff]
    have hpos := e.height_pos
    omega

/-- With one level, a literal has a value and its negation has none; with no level, not even a
literal has one.  A sum whose right part is too deep runs out of levels after its left part. -/
theorem depthExceeded_iff_lt_height_sum :
    let env (bound : UInt64) : Environment :=
      { symbols := .empty, sheet := none, config := { maxDepth := bound },
        clock := .atMidnight .epoch }
    let one : Expr := .number 1
    let sum : Expr := .binary .add (.unary .negate one) (.unary .negate (.unary .negate one))
    ((env 1).evaluate one ≠ .error (.depthExceeded 1)) ∧
      (env 1).evaluate (.unary .negate one) = .error (.depthExceeded 1) ∧
      (env 0).evaluate one = .error (.depthExceeded 0) ∧
      (env 3).evaluate sum = .error (.depthExceeded 3) ∧
      ((eval (env 4) sum).runOn ⟨1, []⟩).1 = .error (.depthExceeded 4) ∧
      ((eval (env 5) sum).runOn ⟨1, []⟩).1 ≠ .error (.depthExceeded 5) := by
  intro env one sum
  have hone : one.Arithmetic := .number 1
  have hsum : sum.Arithmetic :=
    .binary .add (.unary .negate hone) (.unary .negate (.unary .negate hone))
  refine ⟨(depthExceeded_iff_lt_height (env 1)).1 one (by decide) 1,
    ((depthExceeded_iff_lt_height (env 1)).2.1 _ (.unary .negate hone)).mpr (by decide),
    ((depthExceeded_iff_lt_height (env 0)).2.1 one hone).mpr (by decide),
    ((depthExceeded_iff_lt_height (env 3)).2.1 sum hsum).mpr (by decide),
    ((depthExceeded_iff_lt_height (env 4)).2.2.2 sum ⟨1, []⟩ hsum).mpr (by decide),
    (depthExceeded_iff_lt_height (env 5)).2.2.1 sum ⟨1, []⟩ (by decide) 5⟩

end Evaluator

end Formula
