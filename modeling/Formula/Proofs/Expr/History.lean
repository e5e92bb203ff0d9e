import Formula.Expr.Evaluator
import Formula.Proofs.Builtin.Exhaustion
import Formula.Proofs.Expr.Nodes
import Formula.Proofs.Expr.Steps

/-!
# Proofs/Expr/History — an evaluator keeps no history

An evaluator counts the nodes that are open, and a request to call goes on from the count that it
finds.  `serve_after` says that this never shows: after any history of requests, failed ones
included, a request has the result and writes the lines that it has and writes on a fresh evaluator.

An evaluation **only gives** a result: it leaves the evaluator as it found it, the count as well as
the lines, whether it succeeds or fails.  The result is that of `Expr.eval` with the levels that the
open nodes have left of the bound (`gives_eval`), so what is known of `Expr.eval` is known of
evaluators.
-/

namespace Formula

namespace Evaluator

open Formula.Expr (argument)

variable {α β : Type} {env : Environment} {s : Evaluator}

/-! ## Work that only gives a result -/

/-- **Work that only gives a result**: it leaves the evaluator as it found it. -/
def Gives (w : Work α) (s : Evaluator) (r : Except EvalError α) : Prop := w.runOn s = (r, s)

theorem gives_pure (a : α) : Gives (pure a) s (.ok a) := rfl

theorem gives_throw (e : EvalError) : Gives (throw e : Work α) s (.error e) := rfl

theorem gives_ofExcept (r : Except EvalError α) : Gives (ofExcept r) s r := Work.runOn_ofExcept r s

/-- **One piece of work after another** only gives a result if both do. -/
theorem Gives.bind {w : Work α} {f : α → Work β} {r : Except EvalError α}
    {g : α → Except EvalError β} (hw : Gives w s r) (hf : ∀ a, Gives (f a) s (g a)) :
    Gives (w >>= f) s (r.bind g) := by
  rw [Gives, Work.runOn_bind, hw]
  cases r with
  | ok a => exact hf a
  | error e => rfl

theorem Gives.map {w : Work α} {r : Except EvalError α} (hw : Gives w s r) (f : α → β) :
    Gives (w >>= fun a => pure (f a)) s (r.map f) := by
  have hmap : r.map f = r.bind fun a => .ok (f a) := by cases r <;> rfl
  rw [hmap]
  exact hw.bind fun a => gives_pure (f a)

/-- **A node that is opened only gives a result** if its work does, one level deeper. -/
theorem gives_opened {limit : Nat} {work : Work Value} {r : Except EvalError Value}
    (hlt : s.depth < limit) (hwork : Gives work { s with depth := s.depth + 1 } r) :
    Gives (opened limit work) s r := by
  rw [Gives, runOn_opened, if_neg (Nat.not_le_of_lt hlt), hwork]

theorem gives_opened_of_le {limit : Nat} (work : Work Value) (hle : limit ≤ s.depth) :
    Gives (opened limit work) s (.error (.depthExceeded limit)) := by
  rw [Gives, runOn_opened, if_pos hle]

/-! ## Built-ins -/

/-- An argument, in the hands of an evaluator. -/
def pendingArgument (env : Environment) (e : Expr) : Pending := ⟨eval env e, e.symbol?, e.range?⟩

theorem pending_eq_map (args : List Expr) :
    pending env args = args.map (pendingArgument env) := by
  induction args with
  | nil => rw [pending, List.map_nil]
  | cons e rest ih => rw [pending, ih, List.map_cons, pendingArgument, eval]

/-- **An evaluator answers a call as a host does**, as long as `depth` nodes are open: with work
that only gives the host's answers, whatever has been written. -/
structure Answers (env : Environment) (depth : Nat) (args : List Pending) (host : Plan.Host) :
    Prop where
  value : ∀ lines i, Gives (valueAt args i) ⟨depth, lines⟩ (host.value i)
  operand : ∀ lines i, Gives (operandAt env args i) ⟨depth, lines⟩ (host.operand i)
  variableName : ∀ i, args[i]?.bind Pending.symbol? = host.variableName i
  symbol : env.symbols.get? = host.symbol
  policy : env.config.businessDays = host.policy
  now : env.clock = host.now
  stored : env.stored = host.stored
  search : env.patterns.search? = host.search

/-- **A built-in gives a result and writes its lines**, and nothing else, if its arguments only give
results. -/
theorem runOn_runPlan {args : List Pending} {host : Plan.Host} {depth : Nat}
    (h : Answers env depth args host) (p : Plan α) (lines : List String) :
    (runPlan env args p).runOn ⟨depth, lines⟩ = (p.run host, ⟨depth, lines ++ p.written host⟩) := by
  induction p generalizing lines with
  | done a => rw [Plan.written, List.append_nil]; rfl
  | fail e => rw [Plan.written, List.append_nil]; rfl
  | value i next ih =>
    rw [runPlan, Work.runOn_bind, h.value, Plan.run, Plan.written]
    cases host.value i with
    | ok v => exact ih v lines
    | error e => rw [List.append_nil]
  | operand i next ih =>
    rw [runPlan, Work.runOn_bind, h.operand, Plan.run, Plan.written]
    cases host.operand i with
    | ok o => exact ih o lines
    | error e => rw [List.append_nil]
  | variableName i next ih =>
    rw [runPlan, h.variableName]
    exact ih _ lines
  | symbol name next ih =>
    rw [runPlan, h.symbol]
    exact ih _ lines
  | policy next ih =>
    rw [runPlan, h.policy]
    exact ih _ lines
  | now next ih =>
    rw [runPlan, h.now]
    exact ih _ lines
  | stored name next ih =>
    rw [runPlan, h.stored]
    exact ih _ lines
  | search pattern s next ih =>
    rw [runPlan, h.search]
    exact ih _ lines
  | write line next ih =>
    rw [runPlan, Work.runOn_bind, runOn_write, Plan.run, Plan.written]
    dsimp only
    rw [ih, List.append_assoc, List.singleton_append]

variable {args : List Expr} {depth n : Nat}

/-- The host of a call of expressions is answered for by their evaluations. -/
theorem answers_host
    (hargs : ∀ e ∈ args, ∀ lines, Gives (eval env e) ⟨depth, lines⟩ (e.eval env n)) :
    Answers env depth (pending env args) (env.host (args.map (argument env n))) := by
  have hvalue : ∀ lines i, Gives (valueAt (pending env args) i) ⟨depth, lines⟩
      ((env.host (args.map (argument env n))).value i) := by
    intro lines i
    rw [pending_eq_map, valueAt, List.getElem?_map, Environment.host]
    simp only [List.getElem?_map]
    cases he : args[i]? with
    | none => exact gives_pure _
    | some e => exact hargs e (List.mem_of_getElem? he) lines
  refine ⟨hvalue, fun lines i => ?_, fun i => ?_, rfl, rfl, rfl, rfl, rfl⟩
  · have h := hvalue lines i
    rw [operandAt, pending_eq_map, List.getElem?_map, Environment.host]
    rw [pending_eq_map, Environment.host] at h
    simp only [List.getElem?_map] at h ⊢
    cases he : args[i]? with
    | none =>
      rw [he] at h
      exact h.map Operand.scalar
    | some e =>
      rw [he] at h
      simp only [Option.map_some, Option.bind_some, pendingArgument, Environment.operand, argument]
      cases e.range? with
      | none => exact h.map Operand.scalar
      | some r =>
        cases env.sheet with
        | none => exact gives_throw _
        | some sheet => exact gives_pure _
  · rw [pending_eq_map, Environment.host]
    simp only [List.getElem?_map, Option.bind_map]
    rfl

/-- **A call of a function only gives a result** if its arguments do: no function writes. -/
theorem gives_callFunction {name : String} {lines : List String}
    (hargs : ∀ e ∈ args, ∀ lines, Gives (eval env e) ⟨depth, lines⟩ (e.eval env n)) :
    Gives (callFunction env name (pending env args)) ⟨depth, lines⟩
      (env.callFunction name (args.map (argument env n))) := by
  have hlen : (pending env args).length = (args.map (argument env n)).length := by
    rw [pending_eq_map, List.length_map, List.length_map]
  rw [callFunction]
  cases hf : Builtin.function? name with
  | none =>
    rw [Environment.callFunction, hf]
    exact gives_throw _
  | some f =>
    rw [Environment.callFunction_of_some hf, ← hlen]
    dsimp only
    by_cases harity : f.least ≤ (pending env args).length ∧ (pending env args).length ≤ f.most
    · have hmem := Builtin.mem_of_function? hf
      have hsilent : (f.plan (pending env args).length).written
          (env.host (args.map (argument env n))) = [] :=
        Plan.written_eq_nil _ (Builtin.fits_of_mem_functions hmem _ harity.1 harity.2)
          (Builtin.not_writes_of_mem_functions hmem)
      refine (gives_ofExcept _).bind fun _ => ?_
      rw [Gives, runOn_runPlan (answers_host hargs), hsilent, List.append_nil]
    · rw [Builtin.checkArity, if_neg harity]
      rfl

/-! ## Evaluations -/

/-- **An evaluation only gives a result**: that of the expression with the levels that the open
nodes have left. -/
theorem gives_eval (e : Expr) (s : Evaluator) :
    Gives (eval env e) s (e.eval env (env.depth - s.depth)) := by
  induction e using Expr.child_induction generalizing s with
  | node e ih =>
    by_cases hlt : s.depth < env.depth
    swap
    · rw [Nat.sub_eq_zero_of_le (Nat.not_lt.mp hlt), Expr.eval_zero]
      exact gives_opened_of_le _ (Nat.not_lt.mp hlt)
    obtain ⟨n, hn⟩ : ∃ n, env.depth - s.depth = n + 1 := ⟨env.depth - s.depth - 1, by omega⟩
    have hpart : ∀ c ∈ e.children, ∀ lines,
        Gives (eval env c) ⟨s.depth + 1, lines⟩ (c.eval env n) := by
      intro c hc lines
      have h := ih c hc ⟨s.depth + 1, lines⟩
      rwa [show env.depth - (s.depth + 1) = n by omega] at h
    have hchild : ∀ c ∈ e.children,
        Gives (eval env c) { s with depth := s.depth + 1 } (c.eval env n) :=
      fun c hc => hpart c hc s.output
    rw [hn]
    refine gives_opened hlt ?_
    cases e with
    | number | text | bool | date | constant => exact gives_pure _
    | «variable» name =>
      rw [node, Expr.eval_variable]
      exact gives_ofExcept _
    | cell a =>
      rw [node, Expr.eval_cell]
      exact gives_ofExcept _
    | range a b =>
      rw [node, Expr.eval_range]
      exact gives_throw _
    | unary op e =>
      rw [node, Expr.eval_unary]
      exact (hchild e (by simp [Expr.children])).map _
    | binary op l r =>
      rw [node, Expr.eval_binary]
      exact (hchild l (by simp [Expr.children])).bind fun a =>
        (hchild r (by simp [Expr.children])).map _
    | compare op l r =>
      rw [node, Expr.eval_compare]
      exact (hchild l (by simp [Expr.children])).bind fun a =>
        (hchild r (by simp [Expr.children])).map _
    | logical op l r =>
      rw [node, Expr.eval_logical]
      refine (hchild l (by simp [Expr.children])).bind fun a => ?_
      cases op.decided? a.toBool with
      | some b => exact gives_pure _
      | none => exact (hchild r (by simp [Expr.children])).map _
    | shift start factor amount =>
      rw [node, Expr.eval_shift]
      refine (hchild start (by simp [Expr.children])).bind fun v => ?_
      refine (gives_ofExcept _).bind fun t => ?_
      exact (hchild factor (by simp [Expr.children])).bind fun f => (gives_ofExcept _).map _
    | call name args =>
      rw [node, Expr.eval_call]
      exact gives_callFunction hpart

/-! ## Requests -/

/-- **A call of a procedure gives its result and writes its lines**, and changes nothing else. -/
theorem runOn_callProcedure {name : String} {lines : List String}
    (hargs : ∀ e ∈ args, ∀ lines, Gives (eval env e) ⟨depth, lines⟩ (e.eval env n)) :
    (callProcedure env name (pending env args)).runOn ⟨depth, lines⟩ =
      (env.callProcedure name (args.map (argument env n)),
        ⟨depth, lines ++ env.linesOfProcedure name (args.map (argument env n))⟩) := by
  have hlen : (pending env args).length = (args.map (argument env n)).length := by
    rw [pending_eq_map, List.length_map, List.length_map]
  rw [callProcedure]
  cases hp : Builtin.procedure? name with
  | none =>
    rw [Environment.callProcedure, Environment.linesOfProcedure, hp]
    dsimp only
    rw [List.append_nil]
    rfl
  | some p =>
    rw [Environment.callProcedure_of_some hp, Environment.linesOfProcedure_of_some hp, ← hlen]
    dsimp only
    rw [Work.runOn_bind, gives_ofExcept]
    cases Builtin.checkArity p.name p.least p.most (pending env args).length with
    | error e => rw [List.append_nil]; rfl
    | ok a => exact runOn_runPlan (answers_host hargs) _ lines

end Evaluator

open Evaluator (Request)

namespace Environment

/-- **What comes of a request in an environment**, whoever serves it. -/
def answer (env : Environment) : Request → Outcome
  | .evaluate e => ⟨[], (env.evaluate e).map some⟩
  | .execute program => env.execute program
  | .call name args => ⟨[], (env.call name args).map some⟩
  | .perform name args => env.perform name args

end Environment

namespace Evaluator

variable {env : Environment} {written : List String}

theorem gives_eval_of_depth (e : Expr) (depth : Nat) (lines : List String) :
    Gives (eval env e) ⟨depth, lines⟩ (e.eval env (env.depth - depth)) :=
  gives_eval e ⟨depth, lines⟩

/-- With no node open, an expression has all its levels. -/
theorem gives_eval_of_closed (e : Expr) : Gives (eval env e) ⟨0, written⟩ (env.evaluate e) :=
  gives_eval_of_depth e 0 written

theorem gives_call (name : String) (args : List Expr) :
    Gives (callFunction env name (pending env args)) ⟨0, written⟩ (env.call name args) := by
  rw [Environment.call, Expr.arguments_eq_map]
  exact gives_callFunction fun e _ _ => gives_eval_of_closed e

theorem runOn_perform (name : String) (args : List Expr) :
    (callProcedure env name (pending env args)).runOn ⟨0, written⟩ =
      (env.callProcedure name (Expr.arguments env args env.depth),
        ⟨0, written ++ (env.perform name args).output⟩) := by
  rw [Environment.perform, Expr.arguments_eq_map]
  exact runOn_callProcedure fun e _ _ => gives_eval_of_closed e

/-- **A program runs on an evaluator as it runs in the environment**, and its lines go below those
that were written before. -/
theorem runOn_runFrom (program : List Statement) (last : Option Value) :
    (runFrom env last program).runOn ⟨0, written⟩ =
      ((env.runFrom last program).result, ⟨0, written ++ (env.runFrom last program).output⟩) := by
  induction program generalizing last written with
  | nil => rw [runFrom, Environment.runFrom, List.append_nil]; rfl
  | cons statement rest ih =>
    cases statement with
    | expr e =>
      rw [runFrom, restart, Work.runOn_bind, runOn_setDepth]
      dsimp only
      rw [Work.runOn_bind, gives_eval_of_closed, Environment.runFrom]
      cases env.evaluate e with
      | ok v => exact ih (some v)
      | error err => rw [List.append_nil]
    | procedure name args =>
      rw [runFrom, restart, Work.runOn_bind, runOn_setDepth]
      dsimp only
      rw [Work.runOn_bind, runOn_perform, Environment.runFrom, Environment.perform]
      cases env.callProcedure name (Expr.arguments env args env.depth) with
      | ok _ =>
        dsimp only [Except.map]
        rw [ih last, List.append_assoc]
      | error err => rfl

/-- **A request is served as the environment answers it**, if no node is open, and no node is open
afterwards. -/
theorem runOn_serve (r : Request) :
    (serve env r).runOn ⟨0, written⟩ =
      ((env.answer r).result, ⟨0, written ++ (env.answer r).output⟩) := by
  cases r with
  | evaluate e =>
    rw [serve, restart, Work.runOn_bind, runOn_setDepth]
    dsimp only
    rw [(gives_eval_of_closed e).map some, Environment.answer, List.append_nil]
  | execute program => exact runOn_runFrom program none
  | call name args =>
    rw [serve, (gives_call name args).map some, Environment.answer, List.append_nil]
  | perform name args =>
    rw [serve, Work.runOn_bind, runOn_perform, Environment.answer, Environment.perform]
    cases env.callProcedure name (Expr.arguments env args env.depth) <;> rfl

/-- **After any history no node is open**, and the lines are those of its requests. -/
theorem after_eq (history : List Request) :
    after env history = ⟨0, (history.map fun r => (env.answer r).output).flatten⟩ := by
  have hfoldl : ∀ written : List String,
      history.foldl (fun s r => ((serve env r).runOn s).2) ⟨0, written⟩
        = ⟨0, written ++ (history.map fun r => (env.answer r).output).flatten⟩ := by
    induction history with
    | nil => simp
    | cons r rest ih =>
      intro written
      rw [List.foldl_cons, runOn_serve, ih, List.map_cons, List.flatten_cons, List.append_assoc]
  exact hfoldl []

/-- **An evaluator keeps no history.**  After any history of requests, a request has the result that
it has on a fresh evaluator, and writes the same lines, below those of the history.  For an
evaluation leaves the evaluator as it found it, the count of open nodes included, however many there
are and whether it succeeds or fails; a call of a function leaves it so as well, and a call of a
procedure changes nothing but the lines. -/
theorem serve_after (env : Environment) :
    (∀ (history : List Request) (r : Request),
      let s := after env history
      let fresh := (serve env r).runOn {}
      s.depth = 0 ∧ fresh = ((env.answer r).result, ⟨0, (env.answer r).output⟩) ∧
        (serve env r).runOn s = (fresh.1, ⟨0, s.output ++ fresh.2.output⟩)) ∧
    (∀ e s, ((eval env e).runOn s).2 = s) ∧
    (∀ name args s, ((callFunction env name (pending env args)).runOn s).2 = s) ∧
    ∀ name args s, ((callProcedure env name (pending env args)).runOn s).2.depth = s.depth := by
  refine ⟨fun history r => ?_, fun e s => ?_, fun name args s => ?_, fun name args s => ?_⟩
  · have hfresh : (serve env r).runOn {} = ((env.answer r).result, ⟨0, (env.answer r).output⟩) :=
      runOn_serve r
    dsimp only
    rw [after_eq, hfresh]
    exact ⟨rfl, rfl, runOn_serve r⟩
  · rw [gives_eval]
  · rw [gives_callFunction fun e _ lines => gives_eval_of_depth e s.depth lines]
  · rw [runOn_callProcedure fun e _ lines => gives_eval_of_depth e s.depth lines]

end Evaluator

end Formula
