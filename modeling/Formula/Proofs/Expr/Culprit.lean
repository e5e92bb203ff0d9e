import Formula.Proofs.Expr.Nodes
import Formula.Proofs.Expr.Steps

/-!
# Proofs/Expr/Culprit — every error names a culprit

`Expr.Blames` says, error by error, what must be so of an expression and its environment when the
evaluation fails with it: which node is at fault, and what about it.  `blames_of_evaluate` says that
this is so for every evaluation that fails.

What a child is to blame for, its parent is to blame for: nodes of a child are nodes of the parent,
and a parent is higher by one.  So a node has to account only for the errors that it raises itself,
and the audit of the built-ins accounts for those of a call.
-/

namespace Formula

open Builtin (foldName functions)

namespace Expr

/-- Some node moves a date. -/
def MovesDate (e : Expr) : Prop := ∃ start factor amount, e.Has (.shift start factor amount)

/-- **What an expression is to blame for** when its evaluation with `budget` levels fails. -/
def Blames (env : Environment) (budget : Nat) (e : Expr) : EvalError → Prop
  | .missingSymbol name => e.Has (.variable name) ∧ env.symbols.get? name = none
  | .unknownFunction name =>
    (∃ args, e.Has (.call name args)) ∧ ∀ f ∈ functions, foldName f.name ≠ foldName name
  | .noSheet => env.sheet = none ∧ ((∃ a, e.Has (.cell a)) ∨ ∃ a b, e.Has (.range a b))
  | .typeMismatch expected found =>
    (found = "range" ∧ ∃ a b, e.Has (.range a b)) ∨ (expected = "date" ∧ e.MovesDate)
  | .dateOutOfRange => e.MovesDate
  | .invalidArguments name _ =>
    (∃ spelt args, e.Has (.call spelt args) ∧ name = foldName spelt) ∨
      (name = "date arithmetic" ∧ e.MovesDate)
  | .depthExceeded limit => limit = env.config.maxDepth.toNat ∧ budget < e.height
  | .parse _ _ => False
  | .unknownProcedure _ => False
  | .address _ => False

variable {env : Environment} {n : Nat} {err : EvalError}

theorem MovesDate.of_mem_children {c e : Expr} (hc : c ∈ e.children) (h : c.MovesDate) :
    e.MovesDate := by
  obtain ⟨start, factor, amount, hshift⟩ := h
  exact ⟨start, factor, amount, .part hc hshift⟩

/-- **A node is to blame for what its children are to blame for.** -/
theorem Blames.of_mem_children {c e : Expr} (hc : c ∈ e.children) (h : c.Blames env n err) :
    e.Blames env (n + 1) err := by
  have hmoves : c.MovesDate → e.MovesDate := .of_mem_children hc
  have hrange : (∃ a b, c.Has (.range a b)) → ∃ a b, e.Has (.range a b) := fun ⟨a, b, hab⟩ =>
    ⟨a, b, .part hc hab⟩
  cases err with
  | missingSymbol name => exact ⟨.part hc h.1, h.2⟩
  | unknownFunction name =>
    obtain ⟨⟨args, hcall⟩, hnone⟩ := h
    exact ⟨⟨args, .part hc hcall⟩, hnone⟩
  | noSheet => exact ⟨h.1, h.2.imp (fun ⟨a, ha⟩ => ⟨a, .part hc ha⟩) hrange⟩
  | typeMismatch expected found =>
    exact Or.imp (And.imp_right hrange) (And.imp_right hmoves) h
  | dateOutOfRange => exact hmoves h
  | invalidArguments name f =>
    exact Or.imp (fun ⟨spelt, args, hcall, hname⟩ => ⟨spelt, args, .part hc hcall, hname⟩)
      (And.imp_right hmoves) h
  | depthExceeded limit =>
    have hlt := height_lt_of_mem_children hc
    exact ⟨h.1, by have := h.2; omega⟩
  | parse message offset => exact h
  | unknownProcedure name => exact h
  | address e => exact h

end Expr

/-! ## The errors that a node raises itself -/

/-- A value that is no date stands where a date should. -/
theorem error_of_startDate {v : Value} {err : EvalError} (h : startDate v = .error err) :
    ∃ found, err = .typeMismatch "date" found := by
  rw [startDate] at h
  split at h
  · cases h
  · cases h
    exact ⟨_, rfl⟩

/-- The steps of a move are no finite number, or too many. -/
theorem error_of_scaledSteps {factor : Float} {magnitude : Int64} {err : EvalError}
    (h : scaledSteps factor magnitude = .error err) :
    (∃ f, err = .invalidArguments "date arithmetic" f) ∨ err = .dateOutOfRange := by
  rw [scaledSteps] at h
  split at h
  · cases h
    exact Or.inl ⟨_, rfl⟩
  · split at h
    · cases h
      exact Or.inr rfl
    · cases h

/-- **A move of a date that fails** has no finite number of steps, or leaves the calendar. -/
theorem error_of_shiftDate {t : Calendar.DateTime} {factor : Float} {amount : Calendar.Amount}
    {p : Calendar.Policy} {err : EvalError} (h : shiftDate t factor amount p = .error err) :
    (∃ f, err = .invalidArguments "date arithmetic" f) ∨ err = .dateOutOfRange := by
  rw [shiftDate] at h
  rcases error_of_bind h with h | ⟨steps, -, h⟩
  · exact error_of_scaledSteps h
  right
  cases hcounting : amount.counting with
  | plain =>
    rw [hcounting] at h
    dsimp only at h
    rw [moveByUnits] at h
    split at h
    · cases h
    · cases h
      rfl
  | businessDays =>
    rw [hcounting] at h
    dsimp only at h
    cases hadvance : p.advance t steps with
    | ok day =>
      rw [hadvance] at h
      cases h
    | error halt =>
      rw [hadvance] at h
      cases h
      cases halt <;> rfl

namespace Environment

open Formula.Expr (argument Blames)

variable {env : Environment} {n : Nat} {err : EvalError}

/-- **An argument that is at fault as an operand** has no value, or is a cell or a range where there
is no sheet. -/
theorem blames_of_operand {e : Expr} (he : env.operand (argument env n e) = .error err)
    (hvalue : e.eval env n = .error err → e.Blames env n err) : e.Blames env n err := by
  rw [operand, argument] at he
  dsimp only at he
  cases hr : e.range? with
  | none =>
    rw [hr] at he
    exact hvalue (error_of_map he)
  | some r =>
    rw [hr] at he
    dsimp only at he
    cases hs : env.sheet with
    | some s =>
      rw [hs] at he
      cases he
    | none =>
      rw [hs] at he
      cases he
      refine ⟨hs, ?_⟩
      rcases Expr.eq_cell_or_range_of_range? hr with ⟨a, rfl, -⟩ | ⟨a, b, rfl, -⟩
      · exact Or.inl ⟨a, .here⟩
      · exact Or.inr ⟨a, b, .here⟩

/-- **A call is to blame for its errors** if its arguments are to blame for theirs. -/
theorem blames_of_call {name : String} {args : List Expr}
    (hargs : ∀ c ∈ args, c.eval env n = .error err → c.Blames env n err)
    (h : (Expr.call name args).eval env (n + 1) = .error err) :
    (Expr.call name args).Blames env (n + 1) err := by
  rcases Expr.error_of_eval_call h with ⟨rfl, hnone⟩ | ⟨f, rfl⟩ | ⟨c, hc, hvalue | hoperand⟩
  · exact ⟨⟨args, .here⟩, Builtin.function?_eq_none_iff.mp hnone⟩
  · exact Or.inl ⟨name, args, .here, rfl⟩
  · exact (hargs c hc hvalue).of_mem_children hc
  · exact (blames_of_operand hoperand (hargs c hc)).of_mem_children hc

end Environment

namespace Expr

variable {env : Environment} {n : Nat} {err : EvalError}

/-- A move of a date is to blame for the errors of the move. -/
theorem blames_of_shiftDate {start factor : Expr} {amount : Calendar.Amount}
    {t : Calendar.DateTime} {x : Float} {p : Calendar.Policy}
    (h : shiftDate t x amount p = .error err) : (shift start factor amount).Blames env n err := by
  have hmoves : (shift start factor amount).MovesDate := ⟨start, factor, amount, .here⟩
  rcases error_of_shiftDate h with ⟨f, rfl⟩ | rfl
  · exact Or.inr ⟨rfl, hmoves⟩
  · exact hmoves

/-- **An expression is to blame for every error of its evaluation.** -/
theorem blames_of_eval {e : Expr} (h : e.eval env n = .error err) : e.Blames env n err := by
  induction e using child_induction generalizing n with
  | node e ih =>
    obtain _ | n := n
    · rw [eval_zero] at h
      cases h
      exact ⟨rfl, e.height_pos⟩
    have hargs : ∀ c ∈ e.children, c.eval env n = .error err → c.Blames env n err :=
      fun c hc herr => ih c hc herr
    -- A child's error is the node's, so only the errors that the node raises itself are left.
    replace ih : ∀ c ∈ e.children, c.eval env n = .error err → e.Blames env (n + 1) err :=
      fun c hc herr => (hargs c hc herr).of_mem_children hc
    cases e with
    | number x => cases h
    | text s => cases h
    | bool b => cases h
    | date t => cases h
    | constant c => cases h
    | «variable» name =>
      rw [eval_variable, Symbols.require] at h
      split at h
      · cases h
      · next hnone =>
        cases h
        exact ⟨.here, hnone⟩
    | cell a =>
      rw [eval_cell, Environment.cellValue] at h
      split at h
      · next hnone =>
        cases h
        exact ⟨hnone, Or.inl ⟨a, .here⟩⟩
      · cases h
    | range a b =>
      rw [eval_range] at h
      cases h
      exact Or.inl ⟨rfl, a, b, .here⟩
    | unary op e =>
      rw [eval_unary] at h
      exact ih e (by simp [children]) (error_of_map h)
    | binary op l r =>
      rw [eval_binary] at h
      rcases error_of_bind h with h | ⟨a, -, h⟩
      · exact ih l (by simp [children]) h
      · exact ih r (by simp [children]) (error_of_map h)
    | compare op l r =>
      rw [eval_compare] at h
      rcases error_of_bind h with h | ⟨a, -, h⟩
      · exact ih l (by simp [children]) h
      · exact ih r (by simp [children]) (error_of_map h)
    | logical op l r =>
      rw [eval_logical] at h
      rcases error_of_bind h with h | ⟨a, -, h⟩
      · exact ih l (by simp [children]) h
      · split at h
        · cases h
        · exact ih r (by simp [children]) (error_of_map h)
    | call name args => exact Environment.blames_of_call hargs h
    | shift start factor amount =>
      rw [eval_shift] at h
      rcases error_of_bind h with h | ⟨v, -, h⟩
      · exact ih start (by simp [children]) h
      rcases error_of_bind h with h | ⟨t, -, h⟩
      · obtain ⟨found, rfl⟩ := error_of_startDate h
        exact Or.inr ⟨rfl, start, factor, amount, .here⟩
      rcases error_of_bind h with h | ⟨f, -, h⟩
      · exact ih factor (by simp [children]) h
      · exact blames_of_shiftDate (error_of_map h)

end Expr

namespace Environment

/-- **Every error of an evaluation names a culprit**: what the error says is so. -/
theorem blames_of_evaluate {env : Environment} {e : Expr} {err : EvalError}
    (h : env.evaluate e = .error err) : e.Blames env env.depth err :=
  Expr.blames_of_eval h

/-- A choice is to blame for the function that its branch names, and not for the variable that the
other branch names. -/
theorem blames_of_evaluate_choice :
    let env : Environment :=
      { symbols := .empty, sheet := none, config := default, clock := .atMidnight .epoch }
    let e : Expr := .call "IF" [.bool false, .variable "rate", .call "Rate" []]
    env.evaluate e = .error (.unknownFunction "Rate") ∧
      e.Blames env env.depth (.unknownFunction "Rate") :=
  ⟨rfl, blames_of_evaluate rfl⟩

end Environment

end Formula
