import Formula.Proofs.Builtin.Parallel
import Formula.Proofs.Expr.Nodes
import Formula.Proofs.Expr.Steps

/-!
# Proofs/Expr/Parallel — two evaluations side by side

What `Proofs/Builtin/Parallel` says of the runs of a plan is said here of evaluations: a relation
that computations keep passes from the parts of two nodes of one kind to the nodes, and from the
arguments of two calls to what a plan makes of them.  The two evaluations may have different budgets
and bounds on them; all else they find alike (`Environment.SameAnswers`).
-/

namespace Formula

open Formula.Expr (argument)

/-- **Two environments that answer alike**, however deep they let expressions be nested. -/
structure Environment.SameAnswers (env env' : Environment) : Prop where
  symbols : env.symbols = env'.symbols
  sheet : env.sheet = env'.sheet
  policy : env.config.businessDays = env'.config.businessDays
  clock : env.clock = env'.clock
  stored : env.stored = env'.stored
  patterns : env.patterns = env'.patterns

theorem Environment.SameAnswers.refl (env : Environment) : env.SameAnswers env :=
  ⟨rfl, rfl, rfl, rfl, rfl, rfl⟩

variable {R : ∀ {α : Type}, Except EvalError α → Except EvalError α → Prop}
  {env env' : Environment} {n n' : Nat}

namespace Compositional

/-! ## Nodes -/

section Nodes

variable {e e' l l' r r' : Expr}

theorem unary (hR : Compositional R) (op : UnaryOp) (he : R (e.eval env n) (e'.eval env' n')) :
    R ((Expr.unary op e).eval env (n + 1)) ((Expr.unary op e').eval env' (n' + 1)) := by
  rw [Expr.eval_unary, Expr.eval_unary]
  exact hR.map he _

theorem binary (hR : Compositional R) (op : BinaryOp) (hl : R (l.eval env n) (l'.eval env' n'))
    (hr : R (r.eval env n) (r'.eval env' n')) :
    R ((Expr.binary op l r).eval env (n + 1)) ((Expr.binary op l' r').eval env' (n' + 1)) := by
  rw [Expr.eval_binary, Expr.eval_binary]
  exact hR.bind hl fun a => hR.map hr _

theorem compare (hR : Compositional R) (op : Comparison) (hl : R (l.eval env n) (l'.eval env' n'))
    (hr : R (r.eval env n) (r'.eval env' n')) :
    R ((Expr.compare op l r).eval env (n + 1)) ((Expr.compare op l' r').eval env' (n' + 1)) := by
  rw [Expr.eval_compare, Expr.eval_compare]
  exact hR.bind hl fun a => hR.map hr _

/-- Where the left operand decides one evaluation, it decides the other. -/
theorem logical (hR : Compositional R) (op : LogicalOp) (hl : R (l.eval env n) (l'.eval env' n'))
    (hr : R (r.eval env n) (r'.eval env' n')) :
    R ((Expr.logical op l r).eval env (n + 1)) ((Expr.logical op l' r').eval env' (n' + 1)) := by
  rw [Expr.eval_logical, Expr.eval_logical]
  refine hR.bind hl fun a => ?_
  cases op.decided? a.toBool with
  | some b => exact hR.refl _
  | none => exact hR.map hr _

theorem shift (hR : Compositional R) (henv : env.SameAnswers env') (amount : Calendar.Amount)
    (hl : R (l.eval env n) (l'.eval env' n')) (hr : R (r.eval env n) (r'.eval env' n')) :
    R ((Expr.shift l r amount).eval env (n + 1))
      ((Expr.shift l' r' amount).eval env' (n' + 1)) := by
  rw [Expr.eval_shift, Expr.eval_shift, henv.policy]
  exact hR.bind hl fun v => hR.bind (hR.refl _) fun t => hR.bind hr fun f => hR.refl _

end Nodes

/-! ## Calls -/

/-- An argument is related to another where it is taken as a range, too, if both are one range. -/
theorem operand {e e' : Expr} (hR : Compositional R) (henv : env.SameAnswers env')
    (he : R (e.eval env n) (e'.eval env' n')) (hrange : e.range? = e'.range?) :
    R (env.operand (argument env n e)) (env'.operand (argument env' n' e')) := by
  rw [Environment.operand, Environment.operand, argument, argument]
  dsimp only
  rw [hrange, henv.sheet]
  cases e'.range? with
  | none => exact hR.map he _
  | some r => exact hR.refl _

/-- **Related arguments give related answers.** -/
theorem host {args args' : List Expr} (hR : Compositional R) (henv : env.SameAnswers env')
    (hlen : args.length = args'.length)
    (hargs : ∀ (i : Nat) e e', args[i]? = some e → args'[i]? = some e' →
      R (e.eval env n) (e'.eval env' n') ∧ e.symbol? = e'.symbol? ∧ e.range? = e'.range?) :
    Plan.Host.Parallel R (env.host (args.map (argument env n)))
      (env'.host (args'.map (argument env' n'))) := by
  -- Beyond the last argument of one call there is none of the other.
  have hplaces : ∀ i : Nat, (args[i]? = none ∧ args'[i]? = none) ∨
      ∃ e e', args[i]? = some e ∧ args'[i]? = some e' := by
    intro i
    by_cases hi : i < args.length
    · exact Or.inr ⟨_, _, List.getElem?_eq_getElem hi, List.getElem?_eq_getElem (hlen ▸ hi)⟩
    · have hi' : ¬ i < args'.length := hlen ▸ hi
      exact Or.inl ⟨List.getElem?_eq_none (Nat.le_of_not_lt hi),
        List.getElem?_eq_none (Nat.le_of_not_lt hi')⟩
  refine ⟨fun i => ?_, fun i => ?_, funext fun i => ?_, congrArg Symbols.get? henv.symbols,
    henv.policy, henv.clock, henv.stored, congrArg Pattern.Engine.search? henv.patterns⟩ <;>
    rcases hplaces i with ⟨hnone, hnone'⟩ | ⟨e, e', he, he'⟩
  · simpa only [Environment.host, List.getElem?_map, hnone, hnone', Option.map_none]
      using hR.refl _
  · rw [Environment.host_value_of_getElem? he, Environment.host_value_of_getElem? he']
    exact (hargs i e e' he he').1
  · simpa only [Environment.host, List.getElem?_map, hnone, hnone', Option.map_none]
      using hR.refl _
  · rw [Environment.host_operand_of_getElem? he, Environment.host_operand_of_getElem? he']
    obtain ⟨hvalue, -, hrange⟩ := hargs i e e' he he'
    exact hR.operand henv hvalue hrange
  · simp only [Environment.host, List.getElem?_map, hnone, hnone', Option.map_none,
      Option.bind_none]
  · rw [Environment.host_variableName_of_getElem? he, Environment.host_variableName_of_getElem? he',
      (hargs i e e' he he').2.1]

end Compositional

end Formula
