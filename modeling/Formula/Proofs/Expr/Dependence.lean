import Formula.Proofs.Expr.Nodes
import Formula.Proofs.Expr.Steps
import Formula.Proofs.Sheet.Rectangle

/-!
# Proofs/Expr/Dependence — an evaluation depends only on what the expression mentions

`Environment.AgreeOn e` is the agreement of two environments on what `e` mentions: its variables,
the cells that it names or spans, and the clock and the policy if something in it asks for them.
`evaluate_eq_of_agreeOn` says that nothing else can make a difference.

Agreement on a node is agreement on its children, and a node brings in nothing but its own name,
address or call.  For a call this is the audit of the built-ins: a function reaches the environment
through the questions that its name allows.
-/

namespace Formula

open Builtin (ReadsPolicy foldName)

namespace Expr

/-- **An expression mentions an address** by a cell, or by a range whose rectangle contains it. -/
def Mentions (e : Expr) (a : Address) : Prop :=
  e.Has (.cell a) ∨ ∃ b c, e.Has (.range b c) ∧ (Range.spanning b c).Contains a

/-- An expression calls a function of a given name, spelt with letters of either case. -/
def Calls (e : Expr) (name : String) : Prop :=
  ∃ spelt args, e.Has (.call spelt args) ∧ foldName spelt = name

/-- An expression moves a date by business days. -/
def CountsBusinessDays (e : Expr) : Prop :=
  ∃ start factor amount, e.Has (.shift start factor amount) ∧ amount.counting = .businessDays

variable {c e : Expr}

theorem Mentions.of_mem_children {a : Address} (hc : c ∈ e.children) (h : c.Mentions a) :
    e.Mentions a := by
  rcases h with hcell | ⟨b, d, hrange, ha⟩
  · exact Or.inl (.part hc hcell)
  · exact Or.inr ⟨b, d, .part hc hrange, ha⟩

theorem Calls.of_mem_children {name : String} (hc : c ∈ e.children) (h : c.Calls name) :
    e.Calls name := by
  obtain ⟨spelt, args, hcall, hname⟩ := h
  exact ⟨spelt, args, .part hc hcall, hname⟩

theorem CountsBusinessDays.of_mem_children (hc : c ∈ e.children) (h : c.CountsBusinessDays) :
    e.CountsBusinessDays := by
  obtain ⟨start, factor, amount, hshift, hdays⟩ := h
  exact ⟨start, factor, amount, .part hc hshift, hdays⟩

/-- An argument that a function takes as a range mentions every address of that range. -/
theorem mentions_of_range? {r : Range} (hr : e.range? = some r) {a : Address}
    (ha : r.Contains a) : e.Mentions a := by
  rcases eq_cell_or_range_of_range? hr with ⟨b, rfl, rfl⟩ | ⟨b, c, rfl, rfl⟩
  · rw [Range.contains_single_iff.mp ha]
    exact Or.inl .here
  · exact Or.inr ⟨b, c, .here, ha⟩

end Expr

namespace Environment

/-- **Two environments agree on what an expression mentions.** -/
structure AgreeOn (e : Expr) (env env' : Environment) : Prop where
  depth : env.config.maxDepth = env'.config.maxDepth
  sheet : env.sheet.isSome = env'.sheet.isSome
  symbols : ∀ name, e.Has (.variable name) → env.symbols.get? name = env'.symbols.get? name
  cells : ∀ s ∈ env.sheet, ∀ s' ∈ env'.sheet, ∀ a, e.Mentions a → s.cell a = s'.cell a
  clock : e.Calls "now" ∨ e.Calls "today" → env.clock = env'.clock
  policy : e.CountsBusinessDays ∨ e.Calls "isbusinessday" →
    env.config.businessDays = env'.config.businessDays
  stored : env.stored = env'.stored
  patterns : env.patterns = env'.patterns

variable {env env' : Environment}

/-- **Agreement passes to the children of a node.** -/
theorem AgreeOn.of_mem_children {c e : Expr} (h : AgreeOn e env env') (hc : c ∈ e.children) :
    AgreeOn c env env' where
  depth := h.depth
  sheet := h.sheet
  symbols name hname := h.symbols name (.part hc hname)
  cells s hs s' hs' a ha := h.cells s hs s' hs' a (.of_mem_children hc ha)
  clock hcalls := h.clock (hcalls.imp (.of_mem_children hc) (.of_mem_children hc))
  policy hcalls := h.policy (hcalls.imp (.of_mem_children hc) (.of_mem_children hc))
  stored := h.stored
  patterns := h.patterns

/-- Two environments that agree on sheets have both none, or two that hold the same cells. -/
theorem AgreeOn.sheet_cases {e : Expr} (h : AgreeOn e env env') :
    (env.sheet = none ∧ env'.sheet = none) ∨
      ∃ s s', env.sheet = some s ∧ env'.sheet = some s' ∧
        ∀ a, e.Mentions a → s.cell a = s'.cell a := by
  have hsome := h.sheet
  cases hs : env.sheet with
  | none =>
    rw [hs, Option.isSome_none] at hsome
    exact Or.inl ⟨rfl, Option.isSome_eq_false_iff.mp hsome.symm |> Option.isNone_iff_eq_none.mp⟩
  | some s =>
    rw [hs, Option.isSome_some] at hsome
    obtain ⟨s', hs'⟩ := Option.isSome_iff_exists.mp hsome.symm
    exact Or.inr ⟨s, s', rfl, hs', h.cells s hs s' hs'⟩

theorem cellValue_eq_of_agreeOn {a : Address} (h : AgreeOn (.cell a) env env') :
    env.cellValue a = env'.cellValue a := by
  rw [cellValue, cellValue]
  rcases h.sheet_cases with ⟨hs, hs'⟩ | ⟨s, s', hs, hs', hcells⟩
  · rw [hs, hs']
  · rw [hs, hs']
    dsimp only
    rw [s.value?_eq, s'.value?_eq, hcells a (Or.inl .here)]

/-- **A range holds the same in both environments.** -/
theorem operand_eq_of_agreeOn {e : Expr} (h : AgreeOn e env env') {n : Nat}
    (hvalue : e.eval env n = e.eval env' n) :
    env.operand (e.argument env n) = env'.operand (e.argument env' n) := by
  rw [operand, operand, Expr.argument, Expr.argument]
  dsimp only
  cases hr : e.range? with
  | none =>
    dsimp only
    rw [hvalue]
  | some r =>
    dsimp only
    rcases h.sheet_cases with ⟨hs, hs'⟩ | ⟨s, s', hs, hs', hcells⟩
    · rw [hs, hs']
    · rw [hs, hs']
      dsimp only
      rw [Range.cellsIn_congr fun a ha => hcells a (Expr.mentions_of_range? hr ha)]

/-- **An argument is the same to a call in both environments**, given that it has the same value. -/
theorem alike_of_agreeOn {e : Expr} (h : AgreeOn e env env') {n : Nat}
    (hvalue : e.eval env n = e.eval env' n) (name : String) (i : Nat) :
    Expr.Alike env env' n name i e e where
  value := hvalue
  operand _ := operand_eq_of_agreeOn h hvalue
  variableName _ := rfl
  symbol _ x hx := by
    obtain rfl := Expr.eq_variable_of_symbol? hx
    exact h.symbols x .here

/-- Only a move by business days asks for the policy. -/
theorem shiftDate_congr {amount : Calendar.Amount} {p p' : Calendar.Policy}
    (h : amount.counting = .businessDays → p = p') (t : Calendar.DateTime) (factor : Float) :
    shiftDate t factor amount p = shiftDate t factor amount p' := by
  rw [shiftDate, shiftDate]
  cases hcounting : amount.counting with
  | plain => rfl
  | businessDays => rw [h hcounting]

/-- **A node has the same value in both environments if its children do.** -/
theorem eval_eq_of_agreeOn {e : Expr} (h : AgreeOn e env env') (n : Nat) :
    e.eval env n = e.eval env' n := by
  induction e using Expr.child_induction generalizing n with
  | node e ih =>
    replace ih : ∀ c ∈ e.children, ∀ n, c.eval env n = c.eval env' n := fun c hc n =>
      ih c hc (h.of_mem_children hc) n
    obtain _ | n := n
    · rw [Expr.eval_zero, Expr.eval_zero, h.depth]
    cases e with
    | number x => rfl
    | text s => rfl
    | bool b => rfl
    | date t => rfl
    | constant c => rfl
    | «variable» name =>
      rw [Expr.eval_variable, Expr.eval_variable, Symbols.require, Symbols.require,
        h.symbols name .here]
    | cell a =>
      rw [Expr.eval_cell, Expr.eval_cell]
      exact cellValue_eq_of_agreeOn h
    | range a b => rw [Expr.eval_range, Expr.eval_range]
    | unary op e => rw [Expr.eval_unary, Expr.eval_unary, ih e (by simp [Expr.children])]
    | binary op l r =>
      rw [Expr.eval_binary, Expr.eval_binary, ih l (by simp [Expr.children]),
        ih r (by simp [Expr.children])]
    | compare op l r =>
      rw [Expr.eval_compare, Expr.eval_compare, ih l (by simp [Expr.children]),
        ih r (by simp [Expr.children])]
    | logical op l r =>
      rw [Expr.eval_logical, Expr.eval_logical, ih l (by simp [Expr.children]),
        ih r (by simp [Expr.children])]
    | call name args =>
      have hcalls : (Expr.call name args).Calls (foldName name) := ⟨name, args, .here, rfl⟩
      refine Expr.eval_call_congr rfl (fun i c c' hc hc' => ?_) (fun hname => ?_) (fun hname => ?_)
        h.stored h.patterns
      · rw [hc, Option.some.injEq] at hc'
        subst hc'
        have hmem : c ∈ args := List.mem_of_getElem? hc
        exact alike_of_agreeOn (h.of_mem_children hmem) (ih c hmem n) name i
      · rw [ReadsPolicy] at hname
        rw [hname] at hcalls
        exact h.policy (Or.inr hcalls)
      · rcases hname with hname | hname
        · rw [hname] at hcalls
          exact h.clock (Or.inl hcalls)
        · rw [hname] at hcalls
          exact h.clock (Or.inr hcalls)
    | shift start factor amount =>
      have hpolicy : amount.counting = .businessDays →
          env.config.businessDays = env'.config.businessDays := fun hdays =>
        h.policy (Or.inl ⟨start, factor, amount, .here, hdays⟩)
      rw [Expr.eval_shift, Expr.eval_shift, ih start (by simp [Expr.children]),
        ih factor (by simp [Expr.children])]
      simp only [shiftDate_congr hpolicy]

/-- **An evaluation depends only on what its expression mentions.** -/
theorem evaluate_eq_of_agreeOn {e : Expr} (h : AgreeOn e env env') :
    env.evaluate e = env'.evaluate e := by
  rw [evaluate, evaluate, depth, depth, h.depth]
  exact eval_eq_of_agreeOn h _

/-- A sum of a range and a variable: cells beyond the range, other variables, the policy and the
clock make no difference. -/
theorem evaluate_eq_of_agreeOn_sum :
    let e : Expr := .call "Sum" [.range ⟨0, 0⟩ ⟨2, 1⟩, .variable "rate"]
    let cells := (∅ : Std.ExtTreeMap Address Cell).insert ⟨1, 1⟩ (.number 3)
    let env : Environment :=
      { symbols := Symbols.empty.insert "rate" (.number 1)
        sheet := some ⟨cells⟩
        config := ⟨.mondayToFriday, 256⟩
        clock := .atMidnight .epoch }
    let env' : Environment :=
      { symbols := (Symbols.empty.insert "rate" (.number 1)).insert "base" (.bool true)
        sheet := some ⟨cells.insert ⟨3, 1⟩ (.bool true)⟩
        config := ⟨.sundayToThursday, 256⟩
        clock := .atMidnight ⟨719165, by decide, by decide⟩ }
    AgreeOn e env env' ∧ env.evaluate e = .ok (.number 4) ∧ env.evaluate e = env'.evaluate e := by
  intro e cells env env'
  have hnodes : ∀ d, e.Has d →
      d = .call "Sum" e.children ∨ d = .range ⟨0, 0⟩ ⟨2, 1⟩ ∨ d = .variable "rate" := by
    intro d hd
    obtain _ | ⟨hc, hd⟩ := hd
    · exact Or.inl rfl
    · rcases List.mem_cons.mp hc with rfl | hc
      · exact Or.inr (Or.inl (hd.eq_of_children_eq_nil rfl))
      · obtain rfl := List.mem_singleton.mp hc
        exact Or.inr (Or.inr (hd.eq_of_children_eq_nil rfl))
  have hcalls : ∀ name, e.Calls name → name = "sum" := by
    rintro name ⟨spelt, args, hcall, rfl⟩
    rcases hnodes _ hcall with heq | heq | heq
    · cases heq
      decide
    · cases heq
    · cases heq
  have h : AgreeOn e env env' := by
    refine ⟨rfl, rfl, fun name hname => ?_, ?_, fun hc => ?_, fun hc => ?_, rfl, rfl⟩
    · rcases hnodes _ hname with heq | heq | heq
      · cases heq
      · cases heq
      · cases heq
        exact ((Symbols.get?_insert _ _ _ _).trans (if_neg (by decide))).symm
    · rintro s hs s' hs' a (ha | ⟨b, c, hrange, ha⟩)
      · rcases hnodes _ ha with heq | heq | heq <;> cases heq
      · rcases hnodes _ hrange with heq | heq | heq <;> cases heq
        cases hs
        cases hs'
        have hne : (⟨3, 1⟩ : Address) ≠ a := by
          rintro rfl
          exact absurd ha.1.2 (by decide)
        have hsame : (cells.insert ⟨3, 1⟩ (.bool true))[a]? = cells[a]? := by
          rw [Std.ExtTreeMap.getElem?_insert, if_neg fun h => hne (Std.LawfulEqOrd.eq_of_compare h)]
        exact congrArg (Option.getD · _) hsame.symm
    · rcases hc with hc | hc
      · exact absurd (hcalls _ hc) (by decide)
      · exact absurd (hcalls _ hc) (by decide)
    · rcases hc with ⟨start, factor, amount, hshift, -⟩ | hc
      · rcases hnodes _ hshift with heq | heq | heq <;> cases heq
      · exact absurd (hcalls _ hc) (by decide)
  have hsum : env.evaluate e = .ok (.number 4) := by decide +kernel
  exact ⟨h, hsum, evaluate_eq_of_agreeOn h⟩

end Environment

end Formula
