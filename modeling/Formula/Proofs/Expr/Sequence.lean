import Formula.Proofs.Expr.History

/-!
# Proofs/Expr/Sequence — programs one after the other

Running two programs as one is running the second after the first, if the first does not fail
(`execute_append`): the lines follow each other, and the value is that of the last expression in
either.  Every statement begins with no node open, so all that a program can tell of what ran before
it is the value to return if it has no expression of its own.

The lines of one statement are all written or none are.  `println` writes its one line when it has
the texts of all its arguments, of which there may be no more than `anyArguments`; an expression has
no way to write.
-/

namespace Formula

open Builtin (foldName)

/-! ## Programs -/

/-- **One run after another**: the second is given the value of the first, and does not begin if the
first has failed. -/
def Outcome.andThen (o : Outcome) (next : Option Value → Outcome) : Outcome :=
  match o.result with
  | .ok last => ⟨o.output ++ (next last).output, (next last).result⟩
  | .error _ => o

/-- The last expression of a program. -/
def lastExpression? : List Statement → Option Expr
  | [] => none
  | .expr e :: rest => (lastExpression? rest).or (some e)
  | .procedure _ _ :: rest => lastExpression? rest

namespace Environment

variable {env : Environment} {last : Option Value} {p q : List Statement}

/-- **Statements run in their order**, in one program or in two. -/
theorem runFrom_append :
    env.runFrom last (p ++ q) = (env.runFrom last p).andThen fun last => env.runFrom last q := by
  induction p generalizing last with
  | nil => rfl
  | cons statement rest ih =>
    cases statement with
    | expr e =>
      rw [List.cons_append, runFrom, runFrom]
      cases env.evaluate e with
      | ok v => exact ih
      | error err => rfl
    | procedure name args =>
      rw [List.cons_append, runFrom, runFrom]
      cases (env.perform name args).result with
      | ok _ =>
        dsimp only
        rw [ih, Outcome.andThen, Outcome.andThen]
        cases hresult : (env.runFrom last rest).result with
        | ok last' => simp
        | error err => simp [hresult]
      | error err => rfl

/-- **A program only passes on the value it is given**: it is returned if nothing else is. -/
theorem runFrom_eq_execute :
    env.runFrom last q = ⟨(env.execute q).output, (env.execute q).result.map (·.or last)⟩ := by
  rw [execute]
  induction q generalizing last with
  | nil => rfl
  | cons statement rest ih =>
    cases statement with
    | expr e =>
      rw [runFrom, runFrom]
      cases env.evaluate e with
      | ok v =>
        dsimp only
        rw [ih]
        cases (env.runFrom none rest).result with
        | ok v' => simp [Except.map]
        | error err => rfl
      | error err => rfl
    | procedure name args =>
      rw [runFrom, runFrom]
      cases (env.perform name args).result with
      | ok _ =>
        dsimp only
        rw [ih]
      | error err => rfl

/-- The value that a program is to return: that of its last expression, or else the value it is
given. -/
def lastValue (env : Environment) (last : Option Value) (program : List Statement) :
    Except EvalError (Option Value) :=
  match lastExpression? program with
  | some e => (env.evaluate e).map some
  | none => .ok last

/-- **A program that does not fail returns the value of its last expression.** -/
theorem result_runFrom_of_ok {v : Option Value} (h : (env.runFrom last q).result = .ok v) :
    (env.runFrom last q).result = env.lastValue last q := by
  induction q generalizing last with
  | nil => rfl
  | cons statement rest ih =>
    cases statement with
    | expr e =>
      rw [runFrom] at h ⊢
      cases he : env.evaluate e with
      | ok x =>
        rw [he] at h
        dsimp only at h ⊢
        rw [ih h, lastValue, lastValue, lastExpression?]
        cases lastExpression? rest with
        | some e' => rfl
        | none =>
          dsimp only [Option.none_or]
          rw [he]
          rfl
      | error err =>
        rw [he] at h
        cases h
    | procedure name args =>
      rw [runFrom] at h ⊢
      cases hresult : (env.perform name args).result with
      | ok _ =>
        rw [hresult] at h
        exact ih h
      | error err =>
        rw [hresult] at h
        cases h

end Environment

/-! ## The lines of a procedure -/

/-- The outcome of a procedure that writes one line, if it has one to write. -/
def Outcome.ofLine : Except EvalError String → Outcome
  | .ok line => ⟨[line], .ok none⟩
  | .error err => ⟨[], .error err⟩

namespace Environment

variable {env : Environment} {name : String} {args : List Expr} {values : List Value}

open Formula.Expr (argument)

/-- What comes of a line that may not be had. -/
def Outcome.ofLine (line : Except EvalError String) : Outcome :=
  match line with
  | .ok line => ⟨[line], .ok none⟩
  | .error err => ⟨[], .error err⟩

/-- **The call of `println`**, however it is spelt: one line with the texts of the arguments, which
must not be too many. -/
theorem perform_println (hname : foldName name = "println") :
    env.perform name args =
      .ofLine ((Builtin.checkArity "println" 0 anyArguments args.length).bind fun _ =>
        (args.mapM fun e => (env.evaluate e).map Value.toText).map ",".intercalate) := by
  have hfind : ∃ p, Builtin.procedure? name = some p ∧ p.name = "println" ∧ p.least = 0 ∧
      p.most = anyArguments ∧ p.plan = Builtin.printLine := by
    rw [Builtin.procedure?, hname]
    exact ⟨_, rfl, rfl, rfl, rfl, rfl⟩
  obtain ⟨p, hp, hpname, hleast, hmost, hplan⟩ := hfind
  rw [perform, Expr.arguments_eq_map, callProcedure_of_some hp, linesOfProcedure_of_some hp, hpname,
    hleast, hmost, hplan, List.length_map]
  cases Builtin.checkArity "println" 0 anyArguments args.length with
  | error err => rfl
  | ok _ =>
    dsimp only [Except.bind]
    have htext : ∀ (i : Nat) e, args[i]? = some e →
        (Plan.text i).run (env.host (args.map (argument env env.depth)))
          = (env.evaluate e).map Value.toText := fun _ _ => run_text
    -- The texts are had before the line is written, so that a failure writes nothing.
    have hsilent : (Plan.each 0 args.length Plan.text).written
        (env.host (args.map (argument env env.depth))) = [] :=
      @Plan.written_eq_nil _ "" _ _ _ _
        (Plan.fits_each (fun _ hi => Plan.fits_text hi) (Nat.zero_add _).le)
        (show "" ≠ "println" by decide)
    change Outcome.mk (Plan.written _ (Plan.bind _ _))
      (Except.map _ (Plan.run _ (Plan.bind _ _))) = _
    rw [Plan.written_bind, Plan.run_bind, hsilent, run_each htext List.drop_zero]
    cases args.mapM fun e => (env.evaluate e).map Value.toText <;> rfl

/-- The texts of the arguments are those of their values, if they have values. -/
theorem texts_of_values (hvalues : args.map env.evaluate = values.map .ok) :
    (args.mapM fun e => (env.evaluate e).map Value.toText) = .ok (values.map Value.toText) := by
  induction args generalizing values with
  | nil =>
    obtain rfl := List.map_eq_nil_iff.mp hvalues.symm
    rfl
  | cons e rest ih =>
    obtain ⟨v, values, rfl, hv, hvalues⟩ := List.map_eq_cons_iff.mp hvalues.symm
    rw [List.mapM_cons, ← hv, ih hvalues.symm]
    rfl

/-- They have none if one of them has no value. -/
theorem texts_of_error {e : Expr} (he : e ∈ args) {err : EvalError}
    (herr : env.evaluate e = .error err) :
    ∃ err', (args.mapM fun e => (env.evaluate e).map Value.toText) = .error err' := by
  induction args with
  | nil => exact absurd he List.not_mem_nil
  | cons head rest ih =>
    rw [List.mapM_cons]
    cases hv : env.evaluate head with
    | error err' => exact ⟨err', rfl⟩
    | ok v =>
      have hmem : e ∈ rest := by
        refine (List.mem_cons.mp he).resolve_left fun heq => ?_
        rw [heq, hv] at herr
        cases herr
      obtain ⟨err', hrest⟩ := ih hmem
      rw [hrest]
      exact ⟨err', rfl⟩

/-- **`println` writes one line** if its arguments are not too many and all have values. -/
theorem perform_println_of_values (hname : foldName name = "println")
    (hlen : args.length ≤ anyArguments) (hvalues : args.map env.evaluate = values.map .ok) :
    env.perform name args = ⟨[",".intercalate (values.map Value.toText)], .ok none⟩ := by
  rw [perform_println hname, Builtin.checkArity, if_pos ⟨Nat.zero_le _, hlen⟩,
    texts_of_values hvalues]
  rfl

/-- **`println` fails** if one of its arguments has no value. -/
theorem perform_println_of_error (hname : foldName name = "println") {e : Expr} (he : e ∈ args)
    {err : EvalError} (herr : env.evaluate e = .error err) :
    ∃ err', env.perform name args = ⟨[], .error err'⟩ := by
  rw [perform_println hname, Builtin.checkArity]
  split
  · obtain ⟨err', htexts⟩ := texts_of_error he herr
    rw [htexts]
    exact ⟨err', rfl⟩
  · exact ⟨_, rfl⟩

/-- It fails as well if there are too many of them. -/
theorem perform_println_of_lt (hname : foldName name = "println")
    (hlen : anyArguments < args.length) :
    env.perform name args
      = ⟨[], .error (.invalidArguments "println" (.arity 0 anyArguments args.length))⟩ := by
  rw [perform_println hname, Builtin.checkArity, if_neg fun h => Nat.not_lt.mpr h.2 hlen]
  rfl

/-- A program of one procedure does what the procedure does. -/
theorem execute_procedure (name : String) (args : List Expr) :
    env.execute [.procedure name args] = env.perform name args := by
  rw [execute, runFrom, perform]
  cases env.callProcedure name (Expr.arguments env args env.depth) with
  | ok _ => simp [runFrom, Except.map]
  | error err => rfl

/-! ## Two programs as one -/

/-- **Programs compose, and a statement writes all of its lines or none.**  Two programs run as one
as the second runs after the first.  `println` writes one line if all its arguments have values and
are not more than `anyArguments`, and fails without writing otherwise; an expression writes nothing,
neither as a statement nor as a part of one. -/
theorem execute_append (env : Environment) :
    (∀ p q err, (env.execute p).result = .error err → env.execute (p ++ q) = env.execute p) ∧
    (∀ p q last, (env.execute p).result = .ok last →
      (env.execute (p ++ q)).output = (env.execute p).output ++ (env.execute q).output ∧
      (∀ err, (env.execute (p ++ q)).result = .error err ↔ (env.execute q).result = .error err) ∧
      ∀ v, (env.execute q).result = .ok v →
        (env.execute (p ++ q)).result =
          match lastExpression? q with
          | some e => (env.evaluate e).map some
          | none => .ok last) ∧
    (∀ name args, foldName name = "println" →
      (∀ values : List Value, args.length ≤ anyArguments →
        args.map env.evaluate = values.map .ok →
        env.execute [.procedure name args]
          = ⟨[",".intercalate (values.map Value.toText)], .ok none⟩) ∧
      (∀ e ∈ args, ∀ err, env.evaluate e = .error err →
        ∃ err', env.execute [.procedure name args] = ⟨[], .error err'⟩) ∧
      (anyArguments < args.length →
        ∃ err', env.execute [.procedure name args] = ⟨[], .error err'⟩)) ∧
    (∀ e, (env.execute [.expr e]).output = []) ∧
    ∀ e s, ((Evaluator.eval env e).runOn s).2.output = s.output := by
  refine ⟨fun p q err h => ?_, fun p q last h => ?_, fun name args hname =>
    ⟨fun values hlen hvalues => ?_, fun e he err herr => ?_, fun hlen => ?_⟩, fun e => ?_,
    fun e s => ?_⟩
  · rw [execute, runFrom_append, Outcome.andThen, ← execute, h]
  · have happend : env.execute (p ++ q)
        = ⟨(env.execute p).output ++ (env.runFrom last q).output,
            (env.runFrom last q).result⟩ := by
      rw [execute, runFrom_append, Outcome.andThen, ← execute, h]
    rw [happend]
    refine ⟨by rw [runFrom_eq_execute], fun err => ?_, fun v hv => ?_⟩
    · rw [runFrom_eq_execute]
      cases (env.execute q).result <;> simp [Except.map]
    · have hok : (env.runFrom last q).result = .ok (v.or last) := by
        rw [runFrom_eq_execute, hv]
        rfl
      exact result_runFrom_of_ok hok
  · rw [execute_procedure, perform_println_of_values hname hlen hvalues]
  · rw [execute_procedure]
    exact perform_println_of_error hname he herr
  · rw [execute_procedure, perform_println_of_lt hname hlen]
    exact ⟨_, rfl⟩
  · rw [execute, runFrom]
    cases env.evaluate e <;> rfl
  · rw [Evaluator.gives_eval]

/-- A line, a value and a line, and then a failure: the failure ends the program, with the lines
before it written; without it the value outlives the line after it. -/
theorem execute_append_line :
    let env : Environment :=
      { symbols := .empty, sheet := none, config := default, clock := .atMidnight .epoch }
    let args : List Expr := [.text "a", .bool true]
    let p : List Statement := [.procedure "PrintLn" args, .expr (.text "x")]
    let q : List Statement := [.procedure "println" []]
    let failing : List Statement := p ++ [.expr (.variable "y")]
    env.execute [.procedure "PrintLn" args] = ⟨["a,true"], .ok none⟩ ∧
      (env.execute (p ++ q)).output = ["a,true", ""] ∧
      (env.execute (p ++ q)).result = .ok (some (.text "x")) ∧
      env.execute (failing ++ q) = ⟨["a,true"], .error (.missingSymbol "y")⟩ ∧
      ∃ err, env.execute [.procedure "println" (args ++ [.variable "y"])] = ⟨[], .error err⟩ := by
  intro env args p q failing
  obtain ⟨hfail, hok, hprint, -, -⟩ := execute_append env
  have hp : env.execute p = ⟨["a,true"], .ok (some (.text "x"))⟩ := rfl
  have hq : env.execute q = ⟨[""], .ok none⟩ := rfl
  have hfailing : env.execute failing = ⟨["a,true"], .error (.missingSymbol "y")⟩ := rfl
  obtain ⟨houtput, -, hresult⟩ := hok p q (some (.text "x")) (by rw [hp])
  refine ⟨(hprint "PrintLn" args rfl).1 [.text "a", .bool true] (by decide) rfl, ?_,
    hresult none (by rw [hq]),
    (hfail failing q (.missingSymbol "y") (by rw [hfailing])).trans hfailing,
    (hprint "println" _ rfl).2.1 (.variable "y") (by simp [args]) (.missingSymbol "y") rfl⟩
  rw [houtput, hp, hq]
  rfl

/-- **Values do not make a line if they are too many**: `println` refuses 256 arguments, all of
which have values. -/
theorem println_refuses_values :
    let env : Environment :=
      { symbols := .empty, sheet := none, config := default, clock := .atMidnight .epoch }
    let args : List Expr := List.replicate 256 (.bool true)
    args.map env.evaluate = (List.replicate 256 (Value.bool true)).map .ok ∧
      env.execute [.procedure "println" args]
        = ⟨[], .error (.invalidArguments "println" (.arity 0 255 256))⟩ := by
  intro env args
  have hlen : args.length = 256 := List.length_replicate
  have hrefused := @perform_println_of_lt env "println" args rfl (by rw [hlen]; decide)
  refine ⟨by rw [List.map_replicate, List.map_replicate]; rfl, ?_⟩
  rw [execute_procedure, hrefused, hlen]
  rfl

end Environment

end Formula
