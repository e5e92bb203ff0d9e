import Formula.Expr.Program
import Formula.Proofs.Builtin.Exhaustion
import Formula.Proofs.Expr.Parallel

/-!
# Proofs/Expr/CutOff — the bound on nesting only cuts off

An evaluation that its bound does not cut off has the same result under every greater bound, a
failure for another reason included (`depth_is_cutOff`).  So has a program, which writes the same
lines; one that is cut off has written the first of them.

Two evaluations are compared, of one expression and with two budgets.  Each node passes on one level
less than it has, on either side, so that the induction is over the nodes and the budgets only stay
in order; what a built-in makes of its arguments is a matter of its plan.
-/

namespace Formula

open Formula.Expr (argument)

namespace Environment

/-- **An environment under another bound** on the nesting of expressions. -/
def withDepth (env : Environment) (m : UInt64) : Environment :=
  { env with config := { env.config with maxDepth := m } }

@[simp] theorem depth_withDepth (env : Environment) (m : UInt64) :
    (env.withDepth m).depth = m.toNat := rfl

variable {env env' : Environment} {limit : Nat}

/-! ## Calls -/

section Calls

variable {name : String} {args args' : List Argument}

/-- **A call goes on as its arguments do.** -/
theorem callFunction_deepens (hlen : args.length = args'.length)
    (hhost : Plan.Host.Parallel (Deepens limit) (env.host args) (env'.host args')) :
    Deepens limit (env.callFunction name args) (env'.callFunction name args') := by
  cases hf : Builtin.function? name with
  | none =>
    rw [callFunction, callFunction, hf]
    exact .refl _
  | some f =>
    rw [callFunction_of_some hf, callFunction_of_some hf, ← hlen]
    exact Deepens.compositional.bind (.refl _) fun _ =>
      Plan.run_parallel Deepens.compositional hhost _

theorem callProcedure_deepens (hlen : args.length = args'.length)
    (hhost : Plan.Host.Parallel (Deepens limit) (env.host args) (env'.host args')) :
    Deepens limit (env.callProcedure name args) (env'.callProcedure name args') := by
  cases hp : Builtin.procedure? name with
  | none =>
    rw [callProcedure, callProcedure, hp]
    exact .refl _
  | some p =>
    rw [callProcedure_of_some hp, callProcedure_of_some hp, ← hlen]
    exact Deepens.compositional.bind (.refl _) fun _ =>
      Plan.run_parallel Deepens.compositional hhost _

/-- The lines of a call that has more levels to go are the same, or others come after them. -/
theorem linesOfProcedure_deepens (hlen : args.length = args'.length)
    (hhost : Plan.Host.Parallel (Deepens limit) (env.host args) (env'.host args')) :
    env.linesOfProcedure name args <+: env'.linesOfProcedure name args' ∧
      (env.callProcedure name args ≠ .error (.depthExceeded limit) →
        env'.linesOfProcedure name args' = env.linesOfProcedure name args) := by
  cases hp : Builtin.procedure? name with
  | none =>
    rw [linesOfProcedure, linesOfProcedure, hp]
    exact ⟨List.prefix_rfl, fun _ => rfl⟩
  | some p =>
    rw [linesOfProcedure_of_some hp, linesOfProcedure_of_some hp, callProcedure_of_some hp, ← hlen]
    cases Builtin.checkArity p.name p.least p.most args.length with
    | error e => exact ⟨List.prefix_rfl, fun _ => rfl⟩
    | ok _ => exact Plan.written_deepens hhost _

/-- A call with a wrong number of arguments does not run, and so does not run out of levels. -/
theorem checkArity_bind_eq_depthExceeded_iff {α : Type} {least most n : Nat} {p : Plan α}
    {host : Plan.Host} (hfits : least ≤ n → n ≤ most → p.Fits name n) :
    ((Builtin.checkArity name least most n).bind fun _ => p.run host)
        = .error (.depthExceeded limit) ↔
      (least ≤ n ∧ n ≤ most) ∧ p.Meets host (.depthExceeded limit) := by
  rw [Builtin.checkArity]
  by_cases harity : least ≤ n ∧ n ≤ most
  · rw [if_pos harity]
    exact (hfits harity.1 harity.2).run_eq_depthExceeded_iff.trans
      (iff_and_self.mpr fun _ => harity)
  · rw [if_neg harity]
    exact iff_of_false (fun h => by cases h) fun h => harity h.1

/-- **A call of a function runs out of levels exactly where an answer to its questions does.** -/
theorem callFunction_eq_depthExceeded_iff :
    env.callFunction name args = .error (.depthExceeded limit) ↔
      ∃ f, Builtin.function? name = some f ∧ (f.least ≤ args.length ∧ args.length ≤ f.most) ∧
        (f.plan args.length).Meets (env.host args) (.depthExceeded limit) := by
  cases hf : Builtin.function? name with
  | none => simp [callFunction, hf]
  | some f =>
    have hfits := Builtin.fits_of_mem_functions (Builtin.mem_of_function? hf)
    rw [callFunction_of_some hf, checkArity_bind_eq_depthExceeded_iff (hfits _)]
    simp

theorem callProcedure_eq_depthExceeded_iff :
    env.callProcedure name args = .error (.depthExceeded limit) ↔
      ∃ p, Builtin.procedure? name = some p ∧ (p.least ≤ args.length ∧ args.length ≤ p.most) ∧
        (p.plan args.length).Meets (env.host args) (.depthExceeded limit) := by
  cases hp : Builtin.procedure? name with
  | none => simp [callProcedure, hp]
  | some p =>
    have hfits := Builtin.fits_of_mem_procedures (List.mem_of_find?_eq_some hp) args.length
    rw [callProcedure_of_some hp, checkArity_bind_eq_depthExceeded_iff fun _ _ => hfits]
    simp

end Calls

/-! ## Evaluations -/

variable {m m' : UInt64} {n n' : Nat}

theorem sameAnswers_withDepth : (env.withDepth m).SameAnswers (env.withDepth m') :=
  ⟨rfl, rfl, rfl, rfl, rfl, rfl⟩

/-- **The answers to a call go on as its arguments do.** -/
theorem host_deepens {args : List Expr}
    (hargs : ∀ e ∈ args,
      Deepens m.toNat (e.eval (env.withDepth m) n) (e.eval (env.withDepth m') n')) :
    Plan.Host.Parallel (Deepens m.toNat)
      ((env.withDepth m).host (args.map (argument (env.withDepth m) n)))
      ((env.withDepth m').host (args.map (argument (env.withDepth m') n'))) := by
  refine Deepens.compositional.host sameAnswers_withDepth rfl fun i e e' he he' => ?_
  obtain rfl : e = e' := Option.some.inj (he.symm.trans he')
  exact ⟨hargs e (List.mem_of_getElem? he), rfl, rfl⟩

/-- **An expression goes on as its budget does.** -/
theorem eval_deepens (e : Expr) (hn : n ≤ n') :
    Deepens m.toNat (e.eval (env.withDepth m) n) (e.eval (env.withDepth m') n') := by
  induction e using Expr.child_induction generalizing n n' with
  | node e ih =>
    obtain _ | n := n
    · rw [Expr.eval_zero]
      exact .of_cutOff _
    obtain _ | n' := n'
    · exact absurd hn (Nat.not_succ_le_zero n)
    have hle : n ≤ n' := Nat.le_of_succ_le_succ hn
    have hchild : ∀ c ∈ e.children,
        Deepens m.toNat (c.eval (env.withDepth m) n) (c.eval (env.withDepth m') n') :=
      fun c hc => ih c hc hle
    cases e with
    | number | text | bool | date | constant => exact .refl _
    | «variable» name =>
      rw [Expr.eval_variable, Expr.eval_variable]
      exact .refl _
    | cell a =>
      rw [Expr.eval_cell, Expr.eval_cell]
      exact .refl _
    | range a b =>
      rw [Expr.eval_range, Expr.eval_range]
      exact .refl _
    | unary op e => exact Deepens.compositional.unary op (hchild e (by simp [Expr.children]))
    | binary op l r =>
      exact Deepens.compositional.binary op (hchild l (by simp [Expr.children]))
        (hchild r (by simp [Expr.children]))
    | compare op l r =>
      exact Deepens.compositional.compare op (hchild l (by simp [Expr.children]))
        (hchild r (by simp [Expr.children]))
    | logical op l r =>
      exact Deepens.compositional.logical op (hchild l (by simp [Expr.children]))
        (hchild r (by simp [Expr.children]))
    | shift start factor amount =>
      exact Deepens.compositional.shift sameAnswers_withDepth amount
        (hchild start (by simp [Expr.children])) (hchild factor (by simp [Expr.children]))
    | call name args =>
      rw [Expr.eval_call, Expr.eval_call]
      exact callFunction_deepens (by rw [List.length_map, List.length_map]) (host_deepens hchild)

theorem evaluate_deepens (hm : m ≤ m') (e : Expr) :
    Deepens m.toNat ((env.withDepth m).evaluate e) ((env.withDepth m').evaluate e) :=
  eval_deepens e (UInt64.le_iff_toNat_le.mp hm)

end Environment

/-! ## Programs -/

/-- **An outcome with more levels to go** has the lines that were written and maybe others after
them, and is the same unless the program ran out of its levels, of which there were `limit`. -/
structure Outcome.Deepens (limit : Nat) (o o' : Outcome) : Prop where
  output : o.output <+: o'.output
  eq : o.result ≠ .error (.depthExceeded limit) → o' = o

namespace Environment

variable {env env' : Environment} {limit : Nat} {m m' : UInt64}

/-- **A procedure goes on as the bound on its arguments does.** -/
theorem perform_deepens (hm : m ≤ m') (name : String) (args : List Expr) :
    ((env.withDepth m).perform name args).Deepens m.toNat
      ((env.withDepth m').perform name args) := by
  have hle : m.toNat ≤ m'.toNat := UInt64.le_iff_toNat_le.mp hm
  have hlen : (args.map (argument (env.withDepth m) m.toNat)).length
      = (args.map (argument (env.withDepth m') m'.toNat)).length := by
    rw [List.length_map, List.length_map]
  have hhost := @host_deepens env m m' _ _ args fun e _ => eval_deepens e hle
  obtain ⟨hbegins, hlines⟩ := @linesOfProcedure_deepens _ _ _ name _ _ hlen hhost
  have hcall := @callProcedure_deepens _ _ _ name _ _ hlen hhost
  rw [perform, perform, Expr.arguments_eq_map, Expr.arguments_eq_map, depth_withDepth,
    depth_withDepth]
  refine ⟨hbegins, fun hne => ?_⟩
  have hcut : (env.withDepth m).callProcedure name (args.map (argument (env.withDepth m) m.toNat))
      ≠ .error (.depthExceeded m.toNat) := by
    intro heq
    rw [heq] at hne
    exact hne rfl
  rw [hlines hcut, hcall hcut]

/-- One statement after another: a program goes on as its statements do. -/
theorem runFrom_deepens
    (hevaluate : ∀ e, Deepens limit (env.evaluate e) (env'.evaluate e))
    (hperform : ∀ name args, (env.perform name args).Deepens limit (env'.perform name args))
    (program : List Statement) (last : Option Value) :
    (env.runFrom last program).Deepens limit (env'.runFrom last program) := by
  induction program generalizing last with
  | nil => exact ⟨List.prefix_rfl, fun _ => rfl⟩
  | cons statement rest ih =>
    cases statement with
    | expr e =>
      rw [runFrom, runFrom]
      cases he : env.evaluate e with
      | ok v =>
        rw [(hevaluate e).eq_ok he]
        exact ih (some v)
      | error err =>
        refine ⟨List.nil_prefix, fun hne => ?_⟩
        rw [(hevaluate e).eq_error he fun heq => hne (congrArg Except.error heq)]
    | procedure name args =>
      rw [runFrom, runFrom]
      obtain ⟨hbegins, heq⟩ := hperform name args
      cases hresult : (env.perform name args).result with
      | ok last' =>
        rw [heq (by rw [hresult]; nofun), hresult]
        obtain ⟨houtput, hrest⟩ := ih last
        refine ⟨(List.prefix_append_right_inj _).mpr houtput, fun hne => ?_⟩
        dsimp only
        rw [hrest hne]
      | error err =>
        refine ⟨?_, fun hne => ?_⟩
        · dsimp only
          cases (env'.perform name args).result with
          | ok _ => exact hbegins.trans (List.prefix_append _ _)
          | error _ => exact hbegins
        · dsimp only at hne
          rw [heq (by rwa [hresult]), hresult]

/-- **A program goes on as its bound does.** -/
theorem execute_deepens (hm : m ≤ m') (program : List Statement) :
    ((env.withDepth m).execute program).Deepens m.toNat ((env.withDepth m').execute program) :=
  runFrom_deepens (evaluate_deepens hm) (perform_deepens hm) program none

/-- **The bound on nesting only cuts off.**  What an expression has for a result under the bound
`m`, other than that it ran out of its levels, it has under every greater bound, and so has a
program, with the lines that it writes.  A call runs out of levels wherever an answer to one of its
questions does, and nowhere else. -/
theorem depth_is_cutOff (env : Environment) {m m' : UInt64} (hm : m ≤ m') :
    (∀ e, (env.withDepth m).evaluate e ≠ .error (.depthExceeded m.toNat) →
      (env.withDepth m').evaluate e = (env.withDepth m).evaluate e) ∧
    (∀ program, ((env.withDepth m).execute program).result ≠ .error (.depthExceeded m.toNat) →
      (env.withDepth m').execute program = (env.withDepth m).execute program) ∧
    (∀ name args limit, env.callFunction name args = .error (.depthExceeded limit) ↔
      ∃ f, Builtin.function? name = some f ∧ (f.least ≤ args.length ∧ args.length ≤ f.most) ∧
        (f.plan args.length).Meets (env.host args) (.depthExceeded limit)) ∧
    ∀ name args limit, env.callProcedure name args = .error (.depthExceeded limit) ↔
      ∃ p, Builtin.procedure? name = some p ∧ (p.least ≤ args.length ∧ args.length ≤ p.most) ∧
        (p.plan args.length).Meets (env.host args) (.depthExceeded limit) :=
  ⟨evaluate_deepens hm, fun program => (execute_deepens hm program).eq,
    fun _ _ _ => callFunction_eq_depthExceeded_iff, fun _ _ _ => callProcedure_eq_depthExceeded_iff⟩

/-- A choice leaves a branch alone that is nested too deeply, and runs out of levels if it takes
that branch. -/
theorem depth_is_cutOff_choice :
    let env : Environment :=
      { symbols := .empty, sheet := none, config := default, clock := .atMidnight .epoch }
    let deep : Expr := .unary .not (.bool true)
    let e (test : Bool) : Expr := .call "If" [.bool test, .text "near", deep]
    let program : List Statement := [.procedure "println" [e true], .expr (e true)]
    (env.withDepth 2).evaluate (e true) = .ok (.text "near") ∧
      (env.withDepth 256).evaluate (e true) = .ok (.text "near") ∧
      (env.withDepth 2).execute program = ⟨["near"], .ok (some (.text "near"))⟩ ∧
      (env.withDepth 256).execute program = ⟨["near"], .ok (some (.text "near"))⟩ ∧
      (env.withDepth 2).evaluate (e false) = .error (.depthExceeded 2) := by
  intro env deep e program
  have hnear : (env.withDepth 2).evaluate (e true) = .ok (.text "near") := rfl
  have hlines : (env.withDepth 2).execute program = ⟨["near"], .ok (some (.text "near"))⟩ := rfl
  obtain ⟨hevaluate, hexecute, -, -⟩ := @depth_is_cutOff env 2 256 (by decide)
  obtain ⟨-, -, hcall, -⟩ := @depth_is_cutOff (env.withDepth 2) 2 2 (by decide)
  refine ⟨hnear, (hevaluate _ ?_).trans hnear, hlines, (hexecute _ ?_).trans hlines, ?_⟩
  · rw [hnear]
    nofun
  · rw [hlines]
    nofun
  · rw [evaluate, depth_withDepth]
    change Expr.eval _ _ (1 + 1) = _
    rw [Expr.eval_call, hcall]
    exact ⟨_, rfl, by decide, .afterValue rfl (.value rfl)⟩

end Environment

end Formula
