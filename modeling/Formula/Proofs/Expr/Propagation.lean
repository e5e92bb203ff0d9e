import Formula.Proofs.Expr.Nodes
import Formula.Proofs.Expr.Steps

/-!
# Proofs/Expr/Propagation — what is known may be written out

A variable that is bound and a cell of a sheet may be replaced by the literal of what they hold.
`Expr.Fills` is the relation of an expression to what comes of it when some of them are replaced,
and `Expr.fill` replaces them all; `evaluate_fill` says that neither changes the result, whether a
value or an error.

An argument that is **taken as written** has to stay: the variable of a call that asks what is bound
to it, and the cell or range of a call that reads a range.  The audit of the built-ins says that no
other function looks at an argument but for its value.
-/

namespace Formula

open Builtin (TakesRange TakesVariable foldName)

namespace Expr

/-- **A call takes its argument as written**: a variable for its name, a cell or a range for what
it spans. -/
def TakenAsWritten (name : String) (i : Nat) (e : Expr) : Prop :=
  (TakesVariable (foldName name) i ∧ e.symbol?.isSome) ∨
    (TakesRange (foldName name) i ∧ e.range?.isSome)

instance (name : String) (i : Nat) (e : Expr) : Decidable (TakenAsWritten name i e) := by
  unfold TakenAsWritten
  infer_instance

/-- **Filling in what is known.**  `Fills env e e'` if `e'` is `e` with some variables and cells
replaced by the literals of what they hold in `env`, none of them an argument that is taken as
written. -/
inductive Fills (env : Environment) : Expr → Expr → Prop where
  | refl (e : Expr) : Fills env e e
  | variable {name : String} {v : Value} (hv : env.symbols.get? name = some v) :
      Fills env (.variable name) (ofValue v)
  | cell {s : Sheet} (hs : env.sheet = some s) (a : Address) :
      Fills env (cell a) (ofValue ((s.value? a).getD (.number Number.nan)))
  | unary (op : UnaryOp) {e e' : Expr} (he : Fills env e e') : Fills env (unary op e) (unary op e')
  | binary (op : BinaryOp) {l l' r r' : Expr} (hl : Fills env l l') (hr : Fills env r r') :
      Fills env (binary op l r) (binary op l' r')
  | compare (op : Comparison) {l l' r r' : Expr} (hl : Fills env l l') (hr : Fills env r r') :
      Fills env (compare op l r) (compare op l' r')
  | logical (op : LogicalOp) {l l' r r' : Expr} (hl : Fills env l l') (hr : Fills env r r') :
      Fills env (logical op l r) (logical op l' r')
  | shift (amount : Calendar.Amount) {start start' factor factor' : Expr}
      (hstart : Fills env start start') (hfactor : Fills env factor factor') :
      Fills env (shift start factor amount) (shift start' factor' amount)
  | call (name : String) {args args' : List Expr} (hlen : args.length = args'.length)
      (hargs : ∀ (i : Nat) e e', args[i]? = some e → args'[i]? = some e' → Fills env e e')
      (hkept : ∀ (i : Nat) e e', args[i]? = some e → args'[i]? = some e' →
        TakenAsWritten name i e → e' = e) :
      Fills env (call name args) (call name args')

variable {env : Environment} {e e' : Expr}

/-! ## The values of a filled expression -/

theorem symbol?_ofValue (v : Value) : (ofValue v).symbol? = none := by
  cases v <;> rfl

theorem range?_ofValue (v : Value) : (ofValue v).range? = none := by
  cases v <;> rfl

/-- Filling in makes no variable of what is none. -/
theorem Fills.symbol?_eq_none (h : Fills env e e') (he : e.symbol? = none) : e'.symbol? = none := by
  cases h with
  | refl => exact he
  | «variable» hv => exact symbol?_ofValue _
  | cell hs a => exact symbol?_ofValue _
  | unary | binary | compare | logical | shift | call => rfl

/-- Filling in makes no range of what is none. -/
theorem Fills.range?_eq_none (h : Fills env e e') (he : e.range? = none) : e'.range? = none := by
  cases h with
  | refl => exact he
  | «variable» hv => exact range?_ofValue _
  | cell hs a => exact range?_ofValue _
  | unary | binary | compare | logical | shift | call => rfl

/-- **A filled argument is like the argument** to a call, given that it has the same value: it is
kept where the call takes it as written, and elsewhere it is no range and no variable either. -/
theorem Fills.alike {n i : Nat} {name : String} (h : Fills env e e')
    (hkept : TakenAsWritten name i e → e' = e) (hvalue : e'.eval env n = e.eval env n) :
    Alike env env n name i e' e where
  value := hvalue
  operand htakes := by
    cases hr : e.range? with
    | some r => rw [hkept (Or.inr ⟨htakes, Option.isSome_of_eq_some hr⟩)]
    | none =>
      have hr' : e'.range? = none := h.range?_eq_none hr
      rw [Environment.operand, Environment.operand, argument, argument]
      dsimp only
      rw [hr, hr']
      dsimp only
      rw [hvalue]
  variableName htakes := by
    cases hx : e.symbol? with
    | some x => rw [hkept (Or.inl ⟨htakes, Option.isSome_of_eq_some hx⟩), hx]
    | none => rw [h.symbol?_eq_none hx]
  symbol _ _ _ := rfl

/-- **Filling in what is known changes no result**, however few levels are left. -/
theorem Fills.eval_eq (h : Fills env e e') (n : Nat) : e'.eval env n = e.eval env n := by
  induction e using child_induction generalizing e' n with
  | node e ih =>
    obtain _ | n := n
    · rw [eval_zero, eval_zero]
    cases h with
    | refl => rfl
    | «variable» hv => rw [eval_ofValue, eval_variable, Symbols.require, hv]
    | cell hs a => rw [eval_ofValue, eval_cell, Environment.cellValue, hs]
    | unary op he => rw [eval_unary, eval_unary, ih _ (by simp [children]) he]
    | binary op hl hr =>
      rw [eval_binary, eval_binary, ih _ (by simp [children]) hl, ih _ (by simp [children]) hr]
    | compare op hl hr =>
      rw [eval_compare, eval_compare, ih _ (by simp [children]) hl, ih _ (by simp [children]) hr]
    | logical op hl hr =>
      rw [eval_logical, eval_logical, ih _ (by simp [children]) hl, ih _ (by simp [children]) hr]
    | shift amount hstart hfactor =>
      rw [eval_shift, eval_shift, ih _ (by simp [children]) hstart,
        ih _ (by simp [children]) hfactor]
    | call name hlen hargs hkept =>
      refine eval_call_congr hlen.symm (fun i c' c hc' hc => ?_) (fun _ => rfl) (fun _ => rfl) rfl
        rfl
      have hfills := hargs i c c' hc hc'
      exact hfills.alike (hkept i c c' hc hc') (ih c (List.mem_of_getElem? hc) hfills n)

/-! ## Filling in everything -/

mutual

/-- **Fill in** every variable that is `bound` and every cell that is `held`, but for the arguments
that are taken as written. -/
def fill (bound : String → Option Value) (held : Address → Option Value) (e : Expr) : Expr :=
  match e with
  | .variable name => ((bound name).map ofValue).getD (.variable name)
  | .cell a => ((held a).map ofValue).getD (.cell a)
  | .unary op e => .unary op (e.fill bound held)
  | .binary op l r => .binary op (l.fill bound held) (r.fill bound held)
  | .compare op l r => .compare op (l.fill bound held) (r.fill bound held)
  | .logical op l r => .logical op (l.fill bound held) (r.fill bound held)
  | .shift start factor amount => .shift (start.fill bound held) (factor.fill bound held) amount
  | .call name args => .call name (fillArguments bound held name 0 args)
  | e => e

/-- Fill in the arguments of a call of `name` from the one with the number `i` on. -/
def fillArguments (bound : String → Option Value) (held : Address → Option Value) (name : String)
    (i : Nat) (args : List Expr) : List Expr :=
  match args with
  | [] => []
  | e :: rest =>
    (if TakenAsWritten name i e then e else e.fill bound held) ::
      fillArguments bound held name (i + 1) rest

end

variable {bound : String → Option Value} {held : Address → Option Value} {name : String}

theorem length_fillArguments (args : List Expr) (i : Nat) :
    (fillArguments bound held name i args).length = args.length := by
  induction args generalizing i with
  | nil => rw [fillArguments]
  | cons e rest ih => rw [fillArguments, List.length_cons, List.length_cons, ih]

theorem getElem?_fillArguments (args : List Expr) (i j : Nat) :
    (fillArguments bound held name i args)[j]? = args[j]?.map fun e =>
      if TakenAsWritten name (i + j) e then e else e.fill bound held := by
  induction args generalizing i j with
  | nil => rw [fillArguments, List.getElem?_nil, Option.map_none]
  | cons e rest ih =>
    rw [fillArguments]
    cases j with
    | zero => rw [List.getElem?_cons_zero, List.getElem?_cons_zero, Option.map_some, Nat.add_zero]
    | succ j => rw [List.getElem?_cons_succ, List.getElem?_cons_succ, ih, Nat.succ_add_eq_add_succ]

/-- **To fill in everything is to fill in what is known**, as long as what is given is so. -/
theorem fills_fill (hbound : ∀ name v, bound name = some v → env.symbols.get? name = some v)
    (hheld : ∀ a v, held a = some v →
      ∃ s, env.sheet = some s ∧ v = (s.value? a).getD (.number Number.nan)) (e : Expr) :
    Fills env e (e.fill bound held) := by
  induction e using child_induction with
  | node e ih =>
    cases e with
    | number x => exact .refl _
    | text s => exact .refl _
    | bool b => exact .refl _
    | date t => exact .refl _
    | constant c => exact .refl _
    | range a b => exact .refl _
    | «variable» name =>
      rw [fill]
      cases hv : bound name with
      | none => exact .refl _
      | some v => exact .variable (hbound name v hv)
    | cell a =>
      rw [fill]
      cases hv : held a with
      | none => exact .refl _
      | some v =>
        obtain ⟨s, hs, rfl⟩ := hheld a v hv
        exact .cell hs a
    | unary op e => exact .unary op (ih e (by simp [children]))
    | binary op l r =>
      exact .binary op (ih l (by simp [children])) (ih r (by simp [children]))
    | compare op l r =>
      exact .compare op (ih l (by simp [children])) (ih r (by simp [children]))
    | logical op l r =>
      exact .logical op (ih l (by simp [children])) (ih r (by simp [children]))
    | shift start factor amount =>
      exact .shift amount (ih start (by simp [children])) (ih factor (by simp [children]))
    | call name args =>
      rw [fill]
      refine .call name (length_fillArguments args 0).symm (fun i e e' hget hget' => ?_)
        fun i e e' hget hget' hkept => ?_
      · rw [getElem?_fillArguments, hget, Option.map_some, Nat.zero_add] at hget'
        cases hget'
        split
        · exact .refl e
        · exact ih e (List.mem_of_getElem? hget)
      · rw [getElem?_fillArguments, hget, Option.map_some, Nat.zero_add, if_pos hkept] at hget'
        cases hget'
        rfl

end Expr

namespace Environment

open Formula.Expr (Fills)

/-- **What is known may be written out.**  An expression has the same result when a bound variable
is replaced by the literal of its value wherever it is not taken as written, when a cell of the
sheet is, and when any choice of variables and cells is. -/
theorem evaluate_fill (env : Environment) (e : Expr) :
    (∀ x v, env.symbols.get? x = some v →
      env.evaluate (e.fill (fun y => if y = x then some v else none) fun _ => none)
        = env.evaluate e) ∧
    (∀ s a, env.sheet = some s →
      env.evaluate (e.fill (fun _ => none) fun b =>
          if b = a then some ((s.value? a).getD (.number Number.nan)) else none)
        = env.evaluate e) ∧
    ∀ e', Fills env e e' → env.evaluate e' = env.evaluate e := by
  have hfills : ∀ e', Fills env e e' → env.evaluate e' = env.evaluate e := fun e' h =>
    h.eval_eq env.depth
  refine ⟨fun x v hv => hfills _ ?_, fun s a hs => hfills _ ?_, hfills⟩
  · refine Expr.fills_fill (fun y w hw => ?_) (fun b w hw => ?_) e
    · obtain ⟨rfl, hvw⟩ := Option.ite_none_right_eq_some.mp hw
      rw [hv, hvw]
    · cases hw
  · refine Expr.fills_fill (fun y w hw => ?_) (fun b w hw => ?_) e
    · cases hw
    · obtain ⟨rfl, hvw⟩ := Option.ite_none_right_eq_some.mp hw
      cases hvw
      exact ⟨s, hs, rfl⟩

/-- A default keeps the variable that it asks for and a sum the cell that it reads; the variable and
the cell are filled in elsewhere, in a branch that is not taken as well, and the value is the one
that the variable is bound to. -/
theorem evaluate_fill_default :
    let env : Environment :=
      { symbols := Symbols.empty.insert "rate" (.text "low")
        sheet := some .empty
        config := ⟨.mondayToFriday, 3⟩
        clock := .atMidnight .epoch }
    let e (test rate : Expr) : Expr :=
      .call "If" [.call "IsNaN" [test], .call "IfMissing" [.variable "rate", rate],
        .call "Sum" [.cell ⟨0, 0⟩, rate]]
    let plain := e (.cell ⟨0, 0⟩) (.variable "rate")
    env.evaluate plain = .ok (.text "low") ∧
      env.symbols.get? "rate" = some (.text "low") ∧
      env.evaluate (e (.cell ⟨0, 0⟩) (.text "low")) = env.evaluate plain ∧
      env.evaluate (e (.number Number.nan) (.variable "rate")) = env.evaluate plain ∧
      Fills env plain (e (.number Number.nan) (.text "low")) ∧
      env.evaluate (e (.number Number.nan) (.text "low")) = env.evaluate plain := by
  intro env e plain
  have hrate : env.symbols.get? "rate" = some (.text "low") :=
    (Symbols.get?_insert _ _ _ _).trans (if_pos rfl)
  have hboth : Fills env plain (e (.number Number.nan) (.text "low")) := by
    have hbound : ∀ name v, (if name = "rate" then some (Value.text "low") else none) = some v →
        env.symbols.get? name = some v := by
      intro name v hv
      obtain ⟨rfl, hlow⟩ := Option.ite_none_right_eq_some.mp hv
      rw [hrate, hlow]
    have hheld : ∀ a v, some (Value.number Number.nan) = some v →
        ∃ s, env.sheet = some s ∧ v = (s.value? a).getD (.number Number.nan) := by
      rintro a v ⟨⟩
      exact ⟨.empty, rfl, by rw [Sheet.value?_empty, Option.getD_none]⟩
    exact Expr.fills_fill hbound hheld plain
  obtain ⟨hvariable, hcell, hfills⟩ := evaluate_fill env plain
  have hplain : env.evaluate plain = .ok (.text "low") := by decide +kernel
  refine ⟨hplain, hrate, hvariable "rate" (.text "low") hrate, ?_, hboth, hfills _ hboth⟩
  have h := hcell .empty ⟨0, 0⟩ rfl
  rw [Sheet.value?_empty, Option.getD_none] at h
  exact h

end Environment

end Formula
