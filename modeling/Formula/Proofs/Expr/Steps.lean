import Formula.Expr.Eval
import Formula.Proofs.Builtin.Audit

/-!
# Proofs/Expr/Steps — one level of an evaluation

What a node makes of the values of its parts, one equation for each kind of node, so that no proof
about evaluation opens `Expr.eval`.  A node without a level left fails, whatever it is; a node with
a level left passes the rest of them on.

A call is opened here as well.  Two calls of a function have one result as soon as their arguments
are alike to it (`eval_call_congr`), and a call that fails has an unknown name, finds its arguments
at fault, or fails with one of its arguments (`error_of_eval_call`).
-/

namespace Formula

open Builtin (ReadsClock ReadsPolicy TakesRange TakesVariable foldName function?)

/-! ## Errors of a composite -/

/-- A result with its value changed fails where the result does. -/
theorem error_of_map {ε α β : Type} {x : Except ε α} {f : α → β} {e : ε}
    (h : x.map f = .error e) : x = .error e := by
  cases x with
  | ok a => cases h
  | error e' =>
    cases h
    rfl

/-- A composite fails in its first part or in its second. -/
theorem error_of_bind {ε α β : Type} {x : Except ε α} {f : α → Except ε β} {e : ε}
    (h : x.bind f = .error e) : x = .error e ∨ ∃ a, x = .ok a ∧ f a = .error e := by
  cases x with
  | ok a => exact Or.inr ⟨a, rfl, h⟩
  | error e' =>
    cases h
    exact Or.inl rfl

variable (env : Environment)

/-! ## Nodes without parts -/

namespace Expr

-- Only the equations of this section open `eval`; all that follows goes by them.
attribute [local simp] eval

/-- The literal of a value has that value. -/
theorem eval_ofValue (v : Value) (n : Nat) : (ofValue v).eval env (n + 1) = .ok v := by
  cases v <;> rfl

theorem eval_zero (e : Expr) :
    e.eval env 0 = .error (.depthExceeded env.config.maxDepth.toNat) := by
  cases e <;> rfl

theorem eval_variable (name : String) (n : Nat) :
    (Expr.variable name).eval env (n + 1) = env.symbols.require name := by
  simp

theorem eval_cell (a : Address) (n : Nat) : (cell a).eval env (n + 1) = env.cellValue a := by
  simp

theorem eval_range (a b : Address) (n : Nat) :
    (range a b).eval env (n + 1) = .error (.typeMismatch "scalar" "range") := by
  simp

/-! ## Nodes with parts -/

theorem eval_unary (op : UnaryOp) (e : Expr) (n : Nat) :
    (unary op e).eval env (n + 1) = (e.eval env n).map op.apply := by
  rw [eval]
  cases e.eval env n <;> rfl

theorem eval_binary (op : BinaryOp) (l r : Expr) (n : Nat) :
    (binary op l r).eval env (n + 1)
      = (l.eval env n).bind fun a => (r.eval env n).map (op.apply a) := by
  rw [eval]
  cases l.eval env n with
  | ok a =>
    dsimp only [Except.bind]
    cases r.eval env n <;> rfl
  | error err => rfl

theorem eval_compare (op : Comparison) (l r : Expr) (n : Nat) :
    (compare op l r).eval env (n + 1)
      = (l.eval env n).bind fun a =>
          (r.eval env n).map fun b => .bool (op.holds (a.compare? b)) := by
  rw [eval]
  cases l.eval env n with
  | ok a =>
    dsimp only [Except.bind]
    cases r.eval env n <;> rfl
  | error err => rfl

/-- The right operand of a logical operation is left alone where the left one decides. -/
theorem eval_logical (op : LogicalOp) (l r : Expr) (n : Nat) :
    (logical op l r).eval env (n + 1)
      = (l.eval env n).bind fun a =>
          match op.decided? a.toBool with
          | some b => .ok (.bool b)
          | none => (r.eval env n).map fun b => .bool b.toBool := by
  rw [eval]
  cases l.eval env n with
  | ok a =>
    dsimp only [Except.bind]
    cases op.decided? a.toBool with
    | some b => rfl
    | none => cases r.eval env n <;> rfl
  | error err => rfl

theorem eval_shift (start factor : Expr) (amount : Calendar.Amount) (n : Nat) :
    (shift start factor amount).eval env (n + 1)
      = (start.eval env n).bind fun v => (startDate v).bind fun t =>
          (factor.eval env n).bind fun f =>
            (shiftDate t f.toNumber amount env.config.businessDays).map .date := by
  rw [eval]
  cases start.eval env n with
  | ok v =>
    dsimp only [Except.bind]
    cases startDate v with
    | ok t => cases factor.eval env n <;> rfl
    | error err => rfl
  | error err => rfl

/-! ## Calls -/

theorem eq_variable_of_symbol? {e : Expr} {name : String} (hname : e.symbol? = some name) :
    e = .variable name := by
  cases e <;> cases hname
  rfl

theorem eq_cell_or_range_of_range? {e : Expr} {r : Range} (hr : e.range? = some r) :
    (∃ a, e = .cell a ∧ r = .single a) ∨ ∃ a b, e = .range a b ∧ r = .spanning a b := by
  cases e <;> cases hr
  case cell a => exact Or.inl ⟨a, rfl, rfl⟩
  case range a b => exact Or.inr ⟨a, b, rfl, rfl⟩

/-- An argument of a call: what it is, and its value when it is asked for. -/
def argument (n : Nat) (e : Expr) : Argument := ⟨fun _ => e.eval env n, e.symbol?, e.range?⟩

theorem arguments_eq_map (args : List Expr) (n : Nat) :
    arguments env args n = args.map (argument env n) := by
  induction args with
  | nil => rw [arguments, List.map_nil]
  | cons e rest ih => rw [arguments, ih, List.map_cons, argument]

theorem eval_call (name : String) (args : List Expr) (n : Nat) :
    (call name args).eval env (n + 1) = env.callFunction name (args.map (argument env n)) := by
  rw [eval, arguments_eq_map]

end Expr

namespace Environment

open Formula.Expr (argument)

variable {env} {env' : Environment}

section Calls

variable {name : String} {args args' : List Argument}

/-- A call of a function that there is checks the number of its arguments and then runs a plan. -/
theorem callFunction_of_some {f : Function} (hf : function? name = some f) :
    env.callFunction name args
      = (Builtin.checkArity f.name f.least f.most args.length).bind fun _ =>
          (f.plan args.length).run (env.host args) := by
  rw [callFunction, hf]
  dsimp only
  cases Builtin.checkArity f.name f.least f.most args.length <;> rfl

/-- A call of a procedure does so, too. -/
theorem callProcedure_of_some {p : Procedure} (hp : Builtin.procedure? name = some p) :
    env.callProcedure name args
      = (Builtin.checkArity p.name p.least p.most args.length).bind fun _ =>
          (p.plan args.length).run (env.host args) := by
  rw [callProcedure, hp]
  dsimp only
  cases Builtin.checkArity p.name p.least p.most args.length <;> rfl

theorem linesOfProcedure_of_some {p : Procedure} (hp : Builtin.procedure? name = some p) :
    env.linesOfProcedure name args =
      match Builtin.checkArity p.name p.least p.most args.length with
      | .error _ => []
      | .ok () => (p.plan args.length).written (env.host args) := by
  rw [linesOfProcedure]
  generalize Builtin.procedure? name = found at hp
  subst hp
  rfl

/-- **Two calls of a function are alike** if their hosts answer its questions alike. -/
theorem callFunction_congr (hlen : args.length = args'.length)
    (hagree : Plan.Host.Agree (foldName name) args.length (env.host args) (env'.host args')) :
    env.callFunction name args = env'.callFunction name args' := by
  cases hf : function? name with
  | none => rw [callFunction, callFunction, hf]
  | some f =>
    rw [callFunction_of_some hf, callFunction_of_some hf, ← hlen]
    rw [← Builtin.name_of_function? hf] at hagree
    by_cases harity : f.least ≤ args.length ∧ args.length ≤ f.most
    · rw [Builtin.checkArity, if_pos harity]
      have hfits := Builtin.fits_of_mem_functions (Builtin.mem_of_function? hf)
      exact Plan.run_congr hagree (hfits _ harity.1 harity.2)
    · rw [Builtin.checkArity, if_neg harity]
      rfl

/-- **A call that fails** has an unknown name, finds its arguments at fault, or fails as one of the
answers to its questions. -/
theorem error_of_callFunction {err : EvalError} (h : env.callFunction name args = .error err) :
    (err = .unknownFunction name ∧ function? name = none) ∨
      (∃ f, err = .invalidArguments (foldName name) f) ∨
      (∃ i < args.length, (env.host args).value i = .error err) ∨
      ∃ i < args.length, TakesRange (foldName name) i ∧ (env.host args).operand i = .error err := by
  cases hf : function? name with
  | none =>
    rw [callFunction, hf] at h
    cases h
    exact Or.inl ⟨rfl, rfl⟩
  | some f =>
    rw [callFunction_of_some hf] at h
    right
    rw [← Builtin.name_of_function? hf]
    by_cases harity : f.least ≤ args.length ∧ args.length ≤ f.most
    · rw [Builtin.checkArity, if_pos harity] at h
      have hfits := Builtin.fits_of_mem_functions (Builtin.mem_of_function? hf)
      exact Plan.error_of_run (hfits _ harity.1 harity.2) h
    · rw [Builtin.checkArity, if_neg harity] at h
      cases h
      exact Or.inl ⟨_, rfl⟩

end Calls

/-! ## The answers of a host -/

variable {args : List Expr} {n i : Nat}

/-- The value of an argument is the value of its expression. -/
theorem host_value_of_getElem? {e : Expr} (he : args[i]? = some e) :
    (env.host (args.map (argument env n))).value i = e.eval env n := by
  simp only [host, List.getElem?_map, he, Option.map_some, argument]

theorem host_operand_of_getElem? {e : Expr} (he : args[i]? = some e) :
    (env.host (args.map (argument env n))).operand i = env.operand (argument env n e) := by
  simp only [host, List.getElem?_map, he, Option.map_some]

theorem host_variableName_of_getElem? {e : Expr} (he : args[i]? = some e) :
    (env.host (args.map (argument env n))).variableName i = e.symbol? := by
  simp only [host, List.getElem?_map, he, Option.map_some, Option.bind_some, argument]

/-- The text of an argument is that of its value. -/
theorem run_text {e : Expr} (he : args[i]? = some e) :
    (Plan.text i).run (env.host (args.map (argument env n))) = (e.eval env n).map Value.toText := by
  rw [Plan.text, Plan.run_value, host_value_of_getElem? he]
  cases e.eval env n <;> rfl

/-! ## A question to each argument -/

variable {first : Nat} {rest : List Expr}

theorem getElem?_of_drop {e : Expr} (h : args.drop first = e :: rest) :
    args[first]? = some e ∧ args.drop (first + 1) = rest := by
  rw [← List.head?_drop, ← List.tail_drop, h]
  exact ⟨rfl, rfl⟩

/-- **Asking for each argument in turn** gives the answers in turn, or the first that fails. -/
theorem run_each {α : Type} {ask : Nat → Plan α} {answer : Expr → Except EvalError α}
    (hask : ∀ (i : Nat) e, args[i]? = some e →
      (ask i).run (env.host (args.map (argument env n))) = answer e)
    (hrest : args.drop first = rest) :
    (Plan.each first rest.length ask).run (env.host (args.map (argument env n)))
      = rest.mapM answer := by
  induction rest generalizing first with
  | nil => rfl
  | cons e rest ih =>
    obtain ⟨he, hrest⟩ := getElem?_of_drop hrest
    rw [List.length_cons, Plan.run_each_succ, hask first e he, ih hrest, List.mapM_cons]
    rfl

end Environment

/-! ## Calls of expressions -/

namespace Expr

variable {env} {env' : Environment} {n : Nat} {name : String} {args args' : List Expr}

/-- **Two arguments are alike** to a call of `name` that has them at the place `i`: they have one
value, and they are one range or one variable to a call that takes them for that. -/
structure Alike (env env' : Environment) (n : Nat) (name : String) (i : Nat) (e e' : Expr) :
    Prop where
  value : e.eval env n = e'.eval env' n
  operand : TakesRange (foldName name) i →
    env.operand (argument env n e) = env'.operand (argument env' n e')
  variableName : TakesVariable (foldName name) i → e.symbol? = e'.symbol?
  symbol : TakesVariable (foldName name) i →
    ∀ x ∈ e.symbol?, env.symbols.get? x = env'.symbols.get? x

/-- **Two calls of a function have one result** if their arguments are alike and the environments
give one answer to what else the function asks. -/
theorem eval_call_congr (hlen : args.length = args'.length)
    (halike : ∀ (i : Nat) e e', args[i]? = some e → args'[i]? = some e' →
      Alike env env' n name i e e')
    (hpolicy : ReadsPolicy (foldName name) → env.config.businessDays = env'.config.businessDays)
    (hclock : ReadsClock (foldName name) → env.clock = env'.clock)
    (hstored : env.stored = env'.stored) (hpatterns : env.patterns = env'.patterns) :
    (call name args).eval env (n + 1) = (call name args').eval env' (n + 1) := by
  have harg : ∀ i < (args.map (argument env n)).length,
      ∃ e e', args[i]? = some e ∧ args'[i]? = some e' ∧ Alike env env' n name i e e' := by
    intro i hi
    rw [List.length_map] at hi
    have he := List.getElem?_eq_getElem hi
    have he' := List.getElem?_eq_getElem (hlen ▸ hi)
    exact ⟨_, _, he, he', halike i _ _ he he'⟩
  rw [eval_call, eval_call]
  refine Environment.callFunction_congr (by rw [List.length_map, List.length_map, hlen])
    ⟨fun i hi => ?_, fun i hi htakes => ?_, fun i hi htakes => ?_, fun i hi htakes x hx => ?_,
      hpolicy, hclock, hstored, congrArg Pattern.Engine.search? hpatterns⟩
  · obtain ⟨e, e', he, he', h⟩ := harg i hi
    rw [Environment.host_value_of_getElem? he, Environment.host_value_of_getElem? he']
    exact h.value
  · obtain ⟨e, e', he, he', h⟩ := harg i hi
    rw [Environment.host_operand_of_getElem? he, Environment.host_operand_of_getElem? he']
    exact h.operand htakes
  · obtain ⟨e, e', he, he', h⟩ := harg i hi
    rw [Environment.host_variableName_of_getElem? he, Environment.host_variableName_of_getElem? he']
    exact h.variableName htakes
  · obtain ⟨e, e', he, he', h⟩ := harg i hi
    rw [Environment.host_variableName_of_getElem? he] at hx
    exact h.symbol htakes x hx

/-- **A call that fails** has an unknown name, finds its arguments at fault, or fails with one of
them: as it is evaluated, or as it is read as a range. -/
theorem error_of_eval_call {err : EvalError} (h : (call name args).eval env (n + 1) = .error err) :
    (err = .unknownFunction name ∧ function? name = none) ∨
      (∃ f, err = .invalidArguments (foldName name) f) ∨
      ∃ c ∈ args, c.eval env n = .error err ∨ env.operand (argument env n c) = .error err := by
  have harg : ∀ i < (args.map (argument env n)).length, ∃ c ∈ args, args[i]? = some c := by
    intro i hi
    rw [List.length_map] at hi
    exact ⟨args[i], List.getElem_mem hi, List.getElem?_eq_getElem hi⟩
  rw [eval_call] at h
  rcases Environment.error_of_callFunction h with h | h | ⟨i, hi, hvalue⟩ | ⟨i, hi, -, hoperand⟩
  · exact Or.inl h
  · exact Or.inr (Or.inl h)
  · obtain ⟨c, hc, hget⟩ := harg i hi
    rw [Environment.host_value_of_getElem? hget] at hvalue
    exact Or.inr (Or.inr ⟨c, hc, Or.inl hvalue⟩)
  · obtain ⟨c, hc, hget⟩ := harg i hi
    rw [Environment.host_operand_of_getElem? hget] at hoperand
    exact Or.inr (Or.inr ⟨c, hc, Or.inr hoperand⟩)

end Expr

end Formula
