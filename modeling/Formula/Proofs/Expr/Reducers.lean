import Formula.Proofs.Expr.Dependence
import Formula.Proofs.Expr.RangeCalls
import Formula.Proofs.Sheet.Writes

/-!
# Proofs/Expr/Reducers — a reducer sees numbers and nothing else

The arguments of `sum`, `min`, `max`, `average`, `stdev` and `stdevp` are turned into one list of
numbers, argument by argument: a cell or a range gives the numbers that it holds, anything else the
number of its value (`Expr.numbersOf`).  The call is a function of that list
(`Expr.eval_reduction`), so the list may as well be written out as literals, and a cell without a
number may hold anything else that is none (`Expr.reducers_see_numbers`).
-/

namespace Formula

open Builtin (foldName function?)

variable {env : Environment} {s t : Sheet} {n : Nat} {args : List Expr}

namespace Expr

/-! ## The numbers of the arguments -/

/-- **The numbers of a list of arguments**, one argument after the other. -/
def numbersOf (env : Environment) (n : Nat) (args : List Expr) : Except EvalError (List Float) :=
  (args.mapM (numbers env n)).map List.flatten

theorem numbersOf_append (before after : List Expr) :
    numbersOf env n (before ++ after)
      = (numbersOf env n before).bind fun xs => (numbersOf env n after).map (xs ++ ·) := by
  rw [numbersOf, numbersOf, numbersOf, List.mapM_append]
  cases before.mapM (numbers env n) with
  | error err => rfl
  | ok xss =>
    cases after.mapM (numbers env n) with
    | error err => rfl
    | ok yss => exact congrArg Except.ok List.flatten_append

theorem numbersOf_cons (e : Expr) (rest : List Expr) :
    numbersOf env n (e :: rest)
      = (numbers env n e).bind fun xs => (numbersOf env n rest).map (xs ++ ·) := by
  rw [numbersOf, numbersOf, List.mapM_cons]
  cases numbers env n e with
  | error err => rfl
  | ok xs => cases rest.mapM (numbers env n) <;> rfl

theorem numbersOf_congr {env' : Environment}
    (h : ∀ e ∈ args, numbers env n e = numbers env' n e) :
    numbersOf env n args = numbersOf env' n args := by
  induction args with
  | nil => rfl
  | cons e rest ih =>
    rw [numbersOf_cons, numbersOf_cons, h e List.mem_cons_self,
      ih fun c hc => h c (List.mem_cons_of_mem e hc)]

/-- Arguments that all have numbers have them together. -/
theorem exists_numbersOf (h : ∀ e ∈ args, ∃ xs, numbers env n e = .ok xs) :
    ∃ xs, numbersOf env n args = .ok xs := by
  induction args with
  | nil => exact ⟨[], rfl⟩
  | cons e rest ih =>
    obtain ⟨xs, hxs⟩ := h e List.mem_cons_self
    obtain ⟨ys, hys⟩ := ih fun c hc => h c (List.mem_cons_of_mem e hc)
    exact ⟨xs ++ ys, by rw [numbersOf_cons, hxs, hys]; rfl⟩

/-- **The first argument without numbers** decides what goes wrong. -/
theorem numbersOf_of_error {before after : List Expr} {e : Expr} {err : EvalError}
    (hbefore : ∀ c ∈ before, ∃ xs, numbers env n c = .ok xs) (he : numbers env n e = .error err) :
    numbersOf env n (before ++ e :: after) = .error err := by
  obtain ⟨xs, hxs⟩ := exists_numbersOf hbefore
  rw [numbersOf_append, hxs, numbersOf_cons, he]
  rfl

/-- Literals are their own numbers. -/
theorem numbersOf_literals (xs : List Float) :
    numbersOf env (n + 1) (xs.map .number) = .ok xs := by
  induction xs with
  | nil => rfl
  | cons x xs ih =>
    have hx : numbers env (n + 1) (.number x) = .ok [x] := rfl
    rw [List.map_cons, numbersOf_cons, hx, ih]
    rfl

/-! ## The calls -/

/-- **The reducers**, with what each makes of a list of numbers. -/
def reductions : List (String × (List Float → Float)) :=
  [("sum", Number.sum), ("min", Number.minimum), ("max", Number.maximum),
   ("average", Number.mean), ("stdev", Number.deviation), ("stdevp", Number.populationDeviation)]

variable {name : String} {f : List Float → Float}

theorem exists_function?_of_mem_reductions (hf : (foldName name, f) ∈ reductions) :
    ∃ help, function? name = some (Builtin.reducer (foldName name) help f) := by
  simp only [reductions, List.mem_cons, Prod.mk.injEq, List.not_mem_nil, or_false] at hf
  rcases hf with ⟨hname, rfl⟩ | ⟨hname, rfl⟩ | ⟨hname, rfl⟩ | ⟨hname, rfl⟩ | ⟨hname, rfl⟩ |
    ⟨hname, rfl⟩ <;>
    (rw [function?, hname]; exact ⟨_, rfl⟩)

/-- **The call of a reducer is a function of the numbers of its arguments.** -/
theorem eval_reduction (hf : (foldName name, f) ∈ reductions)
    (hcount : 1 ≤ args.length ∧ args.length ≤ anyArguments) :
    (call name args).eval env (n + 1) = (numbersOf env n args).map fun xs => .number (f xs) := by
  obtain ⟨help, hfunction⟩ := exists_function?_of_mem_reductions hf
  refine (eval_call_of_function? hfunction rfl hcount).trans ?_
  rw [Builtin.reducer, numbersOf]
  dsimp only
  rw [Plan.run_andThen,
    Environment.run_each (fun _ _ he => run_numbersAt he) (List.drop_zero (l := args))]
  cases args.mapM (numbers env n) <;> rfl

/-! ## Cells without numbers -/

/-- **Two sheets look alike to the arguments of a reducer.**  Where they differ, neither holds a
number, and no argument mentions the cell unless it is a cell or a range itself. -/
def AlikeTo (args : List Expr) (s t : Sheet) : Prop :=
  ∀ a, s.cell a = t.cell a ∨
    (Cell.number? (s.cell a) = none ∧ Cell.number? (t.cell a) = none ∧
      ∀ e ∈ args, e.Mentions a → e.range?.isSome)

/-- **A cell without a number may be written to**, as long as no number is written. -/
theorem alikeTo_write {a : Address} {c : Cell} (hs : Cell.number? (s.cell a) = none)
    (hc : Cell.number? c = none) (hargs : ∀ e ∈ args, e.Mentions a → e.range?.isSome) :
    AlikeTo args s (s.write ⟨a, c⟩).2 := by
  intro b
  rw [Sheet.cell_write]
  split
  · next h =>
    obtain rfl : a = b := h.2
    exact Or.inr ⟨hs, hc, hargs⟩
  · exact Or.inl rfl

/-- A range has the same numbers on both sheets. -/
theorem AlikeTo.numbersIn_cellsIn (h : AlikeTo args s t) (r : Range) :
    Sheet.numbersIn (s.cellsIn r) = Sheet.numbersIn (t.cellsIn r) := by
  rw [Sheet.numbersIn_cellsIn, Sheet.numbersIn_cellsIn]
  refine List.filterMap_congr fun k _ => ?_
  rw [Sheet.numberAt?, Sheet.numberAt?]
  rcases h (r.nth k) with heq | ⟨hs, ht, -⟩
  · rw [heq]
  · rw [hs, ht]

/-- **Every argument has the same numbers on both sheets**: a range by its numbers, and anything
else because the sheets agree on what it mentions. -/
theorem AlikeTo.numbers_eq (h : AlikeTo args s t) (hsheet : env.sheet = some s) {e : Expr}
    (he : e ∈ args) : numbers { env with sheet := some t } n e = numbers env n e := by
  rw [numbers, numbers, hsheet]
  cases hr : e.range? with
  | some r =>
    dsimp only
    rw [h.numbersIn_cellsIn]
  | none =>
    have hagree : Environment.AgreeOn e { env with sheet := some t } env := by
      refine ⟨rfl, by rw [hsheet]; rfl, fun _ _ => rfl, ?_, fun _ => rfl, fun _ => rfl, rfl,
        rfl⟩
      rintro t' ht' s' hs' a ha
      rw [hsheet, Option.mem_some] at hs'
      rw [Option.mem_some] at ht'
      subst hs' ht'
      refine (h a).elim Eq.symm fun hother => ?_
      have hsome := hother.2.2 e he ha
      rw [hr] at hsome
      cases hsome
    dsimp only
    rw [Environment.eval_eq_of_agreeOn hagree]

/-! ## The calls of the reducers -/

/-- **A reducer sees the numbers of its arguments and nothing else.**  If every argument has
numbers, the call gives what the reducer makes of all of them in order, and so does the call with
these numbers as literals.  Cells that hold no number may hold anything else that is none.  If an
argument fails, so does the call, with the first failure. -/
theorem reducers_see_numbers (hf : (foldName name, f) ∈ reductions) (hsheet : env.sheet = some s)
    (hcount : 1 ≤ args.length ∧ args.length ≤ 255) :
    (call name args).eval env 0 = .error (.depthExceeded env.depth) ∧
    ((∀ e ∈ args, ∃ xs, numbers env n e = .ok xs) →
      ∃ xs, numbersOf env n args = .ok xs ∧
        (call name args).eval env (n + 1) = .ok (.number (f xs)) ∧
        (1 ≤ n → 1 ≤ xs.length → xs.length ≤ 255 →
          (call name args).eval env (n + 1) = (call name (xs.map .number)).eval env (n + 1))) ∧
    (∀ t, AlikeTo args s t →
      (call name args).eval { env with sheet := some t } (n + 1)
        = (call name args).eval env (n + 1)) ∧
    ∀ before e after err, args = before ++ e :: after →
      (∀ c ∈ before, ∃ xs, numbers env n c = .ok xs) → numbers env n e = .error err →
      (call name args).eval env (n + 1) = .error err := by
  refine ⟨eval_zero env _, fun hargs => ?_, fun t hlike => ?_,
    fun before e after err hsplit hbefore he => ?_⟩
  · obtain ⟨xs, hxs⟩ := exists_numbersOf hargs
    have hvalue : (call name args).eval env (n + 1) = .ok (.number (f xs)) := by
      rw [eval_reduction hf hcount, hxs]
      rfl
    refine ⟨xs, hxs, hvalue, fun hn hleast hmost => ?_⟩
    obtain ⟨m, rfl⟩ := Nat.exists_eq_add_of_le' hn
    rw [hvalue, eval_reduction hf (by rw [List.length_map]; exact ⟨hleast, hmost⟩),
      numbersOf_literals]
    rfl
  · rw [eval_reduction hf hcount, eval_reduction hf hcount,
      numbersOf_congr fun e he => hlike.numbers_eq hsheet he]
  · rw [eval_reduction hf hcount, hsplit, numbersOf_of_error hbefore he]
    rfl

/-- The average of a square, of one of its cells and of a text: the text in the square is passed
over and may become a date, the other counts as no number, and what is unbound is what fails. -/
theorem reducers_see_numbers_square :
    let s : Sheet := Sheet.empty.writeAll
      [⟨⟨0, 0⟩, .number 4⟩, ⟨⟨0, 1⟩, .text "x"⟩, ⟨⟨1, 1⟩, .number 7⟩]
    let t : Sheet := (s.write ⟨⟨0, 1⟩, .date (.atMidnight .epoch)⟩).2
    let env : Environment :=
      { symbols := .empty, sheet := some s, config := default, clock := .atMidnight .epoch }
    let args : List Expr := [.range ⟨1, 1⟩ ⟨0, 0⟩, .cell ⟨1, 1⟩, .number 3]
    let average (args : List Expr) := (call "Average" args).eval env 2
    ((foldName "Average", Number.mean) ∈ reductions ∧ 1 ≤ args.length ∧ args.length ≤ 255) ∧
      average args = .ok (.number 5.25) ∧
      average args = average [.number 4, .number 7, .number 7, .number 3] ∧
      (call "Average" args).eval { env with sheet := some t } 2 = average args ∧
      average (args ++ [.variable "y", .variable "z"]) = .error (.missingSymbol "y") := by
  intro s t env args average
  have hname : (foldName "Average", Number.mean) ∈ reductions := by
    rw [show foldName "Average" = "average" from rfl, reductions]
    simp only [List.mem_cons, true_or, or_true]
  have hsheet : env.sheet = some s := rfl
  obtain ⟨-, hvalue, hlike, -⟩ := @reducers_see_numbers env s 1 args _ _ hname hsheet (by decide)
  obtain ⟨-, -, -, hfail⟩ := @reducers_see_numbers env s 1
    (args ++ [.variable "y", .variable "z"]) _ _ hname hsheet (by decide)
  have hargs : ∀ e ∈ args, ∃ xs, numbers env 1 e = .ok xs := by
    simp only [args, List.mem_cons, List.not_mem_nil, or_false]
    rintro e (rfl | rfl | rfl)
    · exact ⟨_, rfl⟩
    · exact ⟨_, rfl⟩
    · exact ⟨_, rfl⟩
  have hmentions : ∀ e ∈ args, e.Mentions ⟨0, 1⟩ → e.range?.isSome := by
    simp only [args, List.mem_cons, List.not_mem_nil, or_false]
    rintro e (rfl | rfl | rfl) he
    · rfl
    · rfl
    · rcases he with he | ⟨b, c, he, -⟩ <;> cases he.eq_of_children_eq_nil rfl
  have hlist : numbersOf env 1 args = .ok [4, 7, 7, 3] := by decide +kernel
  obtain ⟨xs, hxs, hcall, hliterals⟩ := hvalue hargs
  obtain rfl : [4, 7, 7, 3] = xs := Except.ok.inj (hlist.symm.trans hxs)
  refine ⟨⟨hname, by decide⟩, hcall.trans (by decide +kernel),
    hliterals (by decide) (by decide) (by decide),
    hlike t (alikeTo_write (by decide +kernel) rfl hmentions),
    hfail args (.variable "y") [.variable "z"] _ rfl hargs rfl⟩

end Expr

end Formula
