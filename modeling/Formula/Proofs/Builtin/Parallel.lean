import Formula.Builtin.Plan

/-!
# Proofs/Builtin/Parallel — two runs of one plan

Two runs of a plan ask the same questions as long as they get the same answers.  A relation between
answers is therefore one between results, as soon as it relates every result to itself and passes
from the steps of a computation to the whole (`Compositional`).  `Plan.run_parallel` says so once
for all such relations.
-/

namespace Formula

/-- **A relation that computations keep**: it relates every result to itself, and related results
that are gone on with alike have related results. -/
structure Compositional (R : ∀ {α : Type}, Except EvalError α → Except EvalError α → Prop) :
    Prop where
  refl : ∀ {α : Type} (x : Except EvalError α), R x x
  bind : ∀ {α β : Type} {x y : Except EvalError α} {f g : α → Except EvalError β},
    R x y → (∀ a, R (f a) (g a)) → R (x.bind f) (y.bind g)

variable {R : ∀ {α : Type}, Except EvalError α → Except EvalError α → Prop}

theorem Compositional.map {α β : Type} {x y : Except EvalError α} (hR : Compositional R)
    (h : R x y) (f : α → β) : R (x.map f) (y.map f) := by
  have hmap : ∀ z : Except EvalError α, z.map f = z.bind fun a => .ok (f a) := by
    rintro (e | a) <;> rfl
  rw [hmap, hmap]
  exact hR.bind h fun a => hR.refl _

namespace Plan

/-- **Two hosts with related answers**, which are the same where they cannot fail. -/
structure Host.Parallel (R : ∀ {α : Type}, Except EvalError α → Except EvalError α → Prop)
    (h h' : Host) : Prop where
  value : ∀ i, R (h.value i) (h'.value i)
  operand : ∀ i, R (h.operand i) (h'.operand i)
  variableName : h.variableName = h'.variableName
  symbol : h.symbol = h'.symbol
  policy : h.policy = h'.policy
  now : h.now = h'.now
  stored : h.stored = h'.stored
  search : h.search = h'.search

/-- **Runs with related answers have related results.** -/
theorem run_parallel {α : Type} {h h' : Host} (hR : Compositional R) (hh : Host.Parallel R h h')
    (p : Plan α) : R (p.run h) (p.run h') := by
  induction p with
  | done a => exact hR.refl _
  | fail e => exact hR.refl _
  | value i next ih =>
    rw [run_value, run_value]
    exact hR.bind (hh.value i) ih
  | operand i next ih =>
    rw [run_operand, run_operand]
    exact hR.bind (hh.operand i) ih
  | variableName i next ih =>
    rw [run, run, ← hh.variableName]
    exact ih _
  | symbol x next ih =>
    rw [run, run, ← hh.symbol]
    exact ih _
  | policy next ih =>
    rw [run, run, ← hh.policy]
    exact ih _
  | now next ih =>
    rw [run, run, ← hh.now]
    exact ih _
  | stored name next ih =>
    rw [run, run, ← hh.stored]
    exact ih _
  | search pattern s next ih =>
    rw [run, run, ← hh.search]
    exact ih _
  | write line next ih => exact ih

end Plan

end Formula
