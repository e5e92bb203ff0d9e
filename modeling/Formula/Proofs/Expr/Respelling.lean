import Formula.Proofs.Builtin.Spelling
import Formula.Proofs.Expr.Parallel

/-!
# Proofs/Expr/Respelling — the spelling of calls is immaterial

`Expr.Respelled` is the relation of an expression to what comes of it when calls in it are spelled
in another way.  Both have one result, unless that is an error that tells of a spelling
(`Expr.TellsSpelling`): a name that is unknown is reported as it is spelled, and a wrong number of
arguments under the name that the function has in the catalog.

Errors that differ are errors all the same, so that where one evaluation fails the other does, at
the same node.  This makes `SameUpTo` a relation that computations keep, and the rest is the
induction over nodes of `Proofs/Expr/Parallel`, with what is looked up for a call in it.
-/

namespace Formula

open Builtin (SpelledAlike function?)

/-! ## Results up to their errors -/

/-- **Two results that are equal, or errors that are related.** -/
inductive SameUpTo (E : EvalError → EvalError → Prop) {α : Type} :
    Except EvalError α → Except EvalError α → Prop where
  | same (x : Except EvalError α) : SameUpTo E x x
  | errors {err err' : EvalError} (h : E err err') : SameUpTo E (.error err) (.error err')

namespace SameUpTo

variable {E E' : EvalError → EvalError → Prop} {α : Type} {x y : Except EvalError α}

theorem compositional (E : EvalError → EvalError → Prop) : Compositional (SameUpTo E) where
  refl := .same
  bind {_ _ x _ _ _} h hfg := by
    cases h with
    | same =>
      cases x with
      | ok a => exact hfg a
      | error err => exact .same _
    | errors h => exact .errors h

theorem mono (h : SameUpTo E x y) (hE : ∀ err err', E err err' → E' err err') :
    SameUpTo E' x y := by
  cases h with
  | same => exact .same _
  | errors h => exact .errors (hE _ _ h)

end SameUpTo

namespace Expr

/-! ## Other spellings -/

/-- **Spelling calls in another way.**  `Respelled e e'` if `e'` is `e` with the names of some calls
replaced by other spellings, be it of the same name or of another name for the same function. -/
inductive Respelled : Expr → Expr → Prop where
  | refl (e : Expr) : Respelled e e
  | unary (op : UnaryOp) {e e' : Expr} (he : Respelled e e') : Respelled (unary op e) (unary op e')
  | binary (op : BinaryOp) {l l' r r' : Expr} (hl : Respelled l l') (hr : Respelled r r') :
      Respelled (binary op l r) (binary op l' r')
  | compare (op : Comparison) {l l' r r' : Expr} (hl : Respelled l l') (hr : Respelled r r') :
      Respelled (compare op l r) (compare op l' r')
  | logical (op : LogicalOp) {l l' r r' : Expr} (hl : Respelled l l') (hr : Respelled r r') :
      Respelled (logical op l r) (logical op l' r')
  | shift (amount : Calendar.Amount) {start start' factor factor' : Expr}
      (hstart : Respelled start start') (hfactor : Respelled factor factor') :
      Respelled (shift start factor amount) (shift start' factor' amount)
  | call {name name' : String} {args args' : List Expr} (hname : SpelledAlike name name')
      (hlen : args.length = args'.length)
      (hargs : ∀ (i : Nat) e e', args[i]? = some e → args'[i]? = some e' → Respelled e e') :
      Respelled (call name args) (call name' args')

/-- **Two nodes in the same place**: `Faces e e' d d'` if `d` stands in `e` where `d'` stands in
`e'`. -/
inductive Faces : Expr → Expr → Expr → Expr → Prop where
  | here {e e' : Expr} : Faces e e' e e'
  | part {e e' c c' d d' : Expr} {i : Nat} (hc : e.children[i]? = some c)
      (hc' : e'.children[i]? = some c') (h : Faces c c' d d') : Faces e e' d d'

/-- **Two errors that tell how a call is spelled**, in the same place of `e` and of `e'`. -/
inductive TellsSpelling (e e' : Expr) : EvalError → EvalError → Prop where
  /-- Neither name is that of a function, and each is reported as it is spelled. -/
  | unknown {name name' : String} {args args' : List Expr}
      (hfaces : Faces e e' (call name args) (call name' args')) (hspelled : SpelledAlike name name')
      (hname : function? name = none) (hname' : function? name' = none) :
      TellsSpelling e e' (.unknownFunction name) (.unknownFunction name')
  /-- There are too few or too many arguments for both functions, and each is reported under its
  own name. -/
  | arity {name name' : String} {args args' : List Expr} {f f' : Function}
      (hfaces : Faces e e' (call name args) (call name' args')) (hspelled : SpelledAlike name name')
      (hf : function? name = some f) (hf' : function? name' = some f')
      (hcount : ¬(f.least ≤ args.length ∧ args.length ≤ f.most)) :
      TellsSpelling e e' (.invalidArguments f.name (.arity f.least f.most args.length))
        (.invalidArguments f'.name (.arity f.least f.most args.length))

/-- An error that tells of a part tells of the whole. -/
theorem TellsSpelling.of_child {e e' c c' : Expr} {i : Nat} {err err' : EvalError}
    (h : TellsSpelling c c' err err') (hc : e.children[i]? = some c)
    (hc' : e'.children[i]? = some c') : TellsSpelling e e' err err' := by
  cases h with
  | unknown hfaces hspelled hname hname' =>
    exact .unknown (.part hc hc' hfaces) hspelled hname hname'
  | arity hfaces hspelled hf hf' hcount => exact .arity (.part hc hc' hfaces) hspelled hf hf' hcount

variable {env : Environment} {e e' : Expr} {n : Nat}

theorem Respelled.symbol?_eq (h : Respelled e e') : e.symbol? = e'.symbol? := by
  cases h <;> rfl

theorem Respelled.range?_eq (h : Respelled e e') : e.range? = e'.range? := by
  cases h <;> rfl

/-! ## Calls -/

section Calls

variable {name name' : String} {args args' : List Expr}

/-- A call of an unknown name reports it as it is spelled. -/
theorem eval_call_of_unknown (hname : function? name = none) :
    (call name args).eval env (n + 1) = .error (.unknownFunction name) := by
  rw [eval_call, Environment.callFunction, hname]

/-- A call with too few or too many arguments reports the function under its name in the catalog. -/
theorem eval_call_of_wrong_arity {f : Function} (hf : function? name = some f)
    (hcount : ¬(f.least ≤ args.length ∧ args.length ≤ f.most)) :
    (call name args).eval env (n + 1)
      = .error (.invalidArguments f.name (.arity f.least f.most args.length)) := by
  rw [eval_call, Environment.callFunction_of_some hf, List.length_map, Builtin.checkArity,
    if_neg hcount]
  rfl

/-- **A call that is spelled in another way** fails as it did where it is not to be run, and else
runs the same plan. -/
theorem eval_call_sameUpTo (hspelled : SpelledAlike name name') (hlen : args.length = args'.length)
    (hargs : ∀ (i : Nat) c c', args[i]? = some c → args'[i]? = some c' →
      SameUpTo (TellsSpelling (call name args) (call name' args')) (c.eval env n) (c'.eval env n) ∧
        c.symbol? = c'.symbol? ∧ c.range? = c'.range?) :
    SameUpTo (TellsSpelling (call name args) (call name' args'))
      ((call name args).eval env (n + 1)) ((call name' args').eval env (n + 1)) := by
  have hfound := hspelled.rel_function?
  generalize hf : function? name = found at hfound
  generalize hf' : function? name' = found' at hfound
  cases hfound with
  | none =>
    rw [eval_call_of_unknown hf, eval_call_of_unknown hf']
    exact .errors (.unknown .here hspelled hf hf')
  | @some f f' hfound =>
    obtain ⟨hleast, hmost, hplan⟩ := hfound
    by_cases hcount : f.least ≤ args.length ∧ args.length ≤ f.most
    · have hcount' : f'.least ≤ args'.length ∧ args'.length ≤ f'.most := by
        rwa [← hleast, ← hmost, ← hlen]
      have hcompositional := SameUpTo.compositional
        (TellsSpelling (call name args) (call name' args'))
      rw [eval_call, eval_call, Environment.callFunction_of_some hf,
        Environment.callFunction_of_some hf', List.length_map, List.length_map,
        Builtin.checkArity, Builtin.checkArity, if_pos hcount, if_pos hcount', ← hplan, ← hlen]
      exact Plan.run_parallel hcompositional (hcompositional.host (.refl env) hlen hargs) _
    · have hcount' : ¬(f'.least ≤ args'.length ∧ args'.length ≤ f'.most) := by
        rwa [← hleast, ← hmost, ← hlen]
      rw [eval_call_of_wrong_arity hf hcount, eval_call_of_wrong_arity hf' hcount', ← hleast,
        ← hmost, ← hlen]
      exact .errors (.arity .here hspelled hf hf' hcount)

end Calls

/-! ## Evaluations -/

/-- **Another spelling changes no result**, however few levels are left, but for the spellings that
errors tell of. -/
theorem Respelled.eval_sameUpTo (h : Respelled e e') (n : Nat) :
    SameUpTo (TellsSpelling e e') (e.eval env n) (e'.eval env n) := by
  induction e using child_induction generalizing e' n with
  | node e ih =>
    obtain _ | n := n
    · rw [eval_zero, eval_zero]
      exact .same _
    have hchild : ∀ (i : Nat) c c', e.children[i]? = some c → e'.children[i]? = some c' →
        Respelled c c' → SameUpTo (TellsSpelling e e') (c.eval env n) (c'.eval env n) :=
      fun i c c' hc hc' hrespelled =>
        (ih c (List.mem_of_getElem? hc) hrespelled n).mono fun _ _ htells =>
          htells.of_child hc hc'
    have hcompositional := SameUpTo.compositional (TellsSpelling e e')
    cases h with
    | refl => exact .same _
    | unary op he => exact hcompositional.unary op (hchild 0 _ _ rfl rfl he)
    | binary op hl hr =>
      exact hcompositional.binary op (hchild 0 _ _ rfl rfl hl) (hchild 1 _ _ rfl rfl hr)
    | compare op hl hr =>
      exact hcompositional.compare op (hchild 0 _ _ rfl rfl hl) (hchild 1 _ _ rfl rfl hr)
    | logical op hl hr =>
      exact hcompositional.logical op (hchild 0 _ _ rfl rfl hl) (hchild 1 _ _ rfl rfl hr)
    | shift amount hstart hfactor =>
      exact hcompositional.shift (.refl env) amount (hchild 0 _ _ rfl rfl hstart)
        (hchild 1 _ _ rfl rfl hfactor)
    | call hname hlen hargs =>
      refine eval_call_sameUpTo hname hlen fun i c c' hc hc' => ?_
      have hrespelled := hargs i c c' hc hc'
      exact ⟨hchild i c c' hc hc' hrespelled, hrespelled.symbol?_eq, hrespelled.range?_eq⟩

end Expr

namespace Environment

open Formula.Expr (Respelled TellsSpelling)

/-- **The spelling of calls is immaterial.**  An expression with the names of calls in it replaced
by other spellings, or by another name for the same function, has the same result, unless the error
is one that tells of the spelling.  An unknown name is reported as it is spelled, wherever it is
called, and a wrong number of arguments under the name of the function in the catalog.  Names that
differ in a character beyond ASCII are never taken for one another. -/
theorem spelling_is_immaterial :
    (∀ (env : Environment) (e e' : Expr), Respelled e e' →
      SameUpTo (TellsSpelling e e') (env.evaluate e) (env.evaluate e')) ∧
    (∀ (env : Environment) (name : String) (args : List Expr) (n : Nat),
      (function? name = none →
        (Expr.call name args).eval env (n + 1) = .error (.unknownFunction name)) ∧
      ∀ f, function? name = some f → ¬(f.least ≤ args.length ∧ args.length ≤ f.most) →
        (Expr.call name args).eval env (n + 1)
          = .error (.invalidArguments f.name (.arity f.least f.most args.length))) ∧
    ∀ (a b : String) (i : Nat) (c : Char), ¬ c.isAscii → a.toList[i]? = some c →
      b.toList[i]? ≠ some c →
      Builtin.foldName a ≠ Builtin.foldName b ∧ ¬ SpelledAlike a b ∧ function? a = none := by
  refine ⟨fun env e e' h => h.eval_sameUpTo env.depth, fun env name args n =>
    ⟨Expr.eval_call_of_unknown, fun f => Expr.eval_call_of_wrong_arity⟩,
    fun a b i c hc ha hb => ⟨fun hfold => ?_, fun hspelled => ?_, ?_⟩⟩
  · exact hb ((Builtin.foldName_eq_foldName_iff.mp hfold).getElem?_eq_some hc ha)
  · exact hb (hspelled.getElem?_eq_some hc ha)
  · exact Builtin.function?_eq_none_of_not_isAscii hc ha

/-- A choice under its two names with a length under its two names in one branch and an unknown name
in the other.  The Kelvin sign, whose small letter is `k`, is no letter of `countblank`. -/
theorem spelling_is_immaterial_choice :
    let env : Environment :=
      { symbols := .empty, sheet := none, config := {}, clock := .atMidnight .epoch }
    let choice (name length unknown : String) (test : Bool) : Expr :=
      .call name [.bool test, .call length [.text "żółw"], .call unknown []]
    let e := choice "IF" "Len" "foo"
    let e' := choice "ifElse" "LENGTH" "FOO"
    (∀ test, Respelled (e test) (e' test) ∧
      SameUpTo (TellsSpelling (e test) (e' test)) (env.evaluate (e test))
        (env.evaluate (e' test))) ∧
    env.evaluate (e true) = .ok (.number (Float.ofNat 4)) ∧
    env.evaluate (e' true) = .ok (.number (Float.ofNat 4)) ∧
    env.evaluate (e false) = .error (.unknownFunction "foo") ∧
    env.evaluate (e' false) = .error (.unknownFunction "FOO") ∧
    env.evaluate (.call "Len" []) = .error (.invalidArguments "len" (.arity 1 1 0)) ∧
    env.evaluate (.call "LENGTH" []) = .error (.invalidArguments "length" (.arity 1 1 0)) ∧
    (function? "COUNTBLANK").isSome ∧ function? "COUNTBLAN\u212A" = none := by
  intro env choice e e'
  obtain ⟨hsame, hreports, hascii⟩ := spelling_is_immaterial
  have hrespelled : ∀ test, Respelled (e test) (e' test) := by
    intro test
    refine .call (by decide) rfl fun i d d' hd hd' => ?_
    obtain _ | _ | _ | i := i <;> cases hd <;> cases hd'
    · exact .refl _
    · refine .call (by decide) rfl fun i d d' hd hd' => ?_
      obtain _ | i := i <;> cases hd
      cases hd'
      exact .refl _
    · exact .call (by decide) rfl nofun
  have hvalue : env.evaluate (e true) = .ok (.number (Float.ofNat 4)) := rfl
  have hvalue' : env.evaluate (e' true) = .ok (.number (Float.ofNat 4)) := by
    have htrue := hsame env _ _ (hrespelled true)
    rw [hvalue] at htrue
    cases htrue
    rfl
  obtain ⟨-, -, hnone⟩ :=
    hascii "COUNTBLAN\u212A" "COUNTBLANK" 9 '\u212A' (by decide) rfl (by decide)
  obtain ⟨-, hlen⟩ := hreports env "Len" [] 255
  obtain ⟨-, hlength⟩ := hreports env "LENGTH" [] 255
  exact ⟨fun test => ⟨hrespelled test, hsame env _ _ (hrespelled test)⟩, hvalue, hvalue', rfl, rfl,
    hlen _ rfl (by decide), hlength _ rfl (by decide), rfl, hnone⟩

end Environment

end Formula
