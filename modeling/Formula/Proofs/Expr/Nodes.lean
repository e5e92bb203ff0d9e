import Formula.Expr.Basic
import Mathlib.Order.Lattice
import Mathlib.Tactic.Common

/-!
# Proofs/Expr/Nodes — the nodes of an expression and how deep they are nested

Whatever its kind, a node has **children**: the parts that an evaluation may descend into.
`Expr.child_induction` proves a property of every expression from that of its children, so that a
proof says once what the kinds have in common.  `Has` is the relation of an expression to all its
nodes, and `height` the number of nodes of its longest branch.
-/

namespace Formula

namespace Expr

/-- The parts of a node, from left to right. -/
def children : Expr → List Expr
  | unary _ e => [e]
  | binary _ l r => [l, r]
  | compare _ l r => [l, r]
  | logical _ l r => [l, r]
  | call _ args => args
  | shift start factor _ => [start, factor]
  | _ => []

theorem sizeOf_lt_of_mem_children {c e : Expr} (hc : c ∈ e.children) : sizeOf c < sizeOf e := by
  cases e <;> simp only [children, List.mem_cons, List.not_mem_nil, or_false] at hc
  case call name args =>
    have hlt := List.sizeOf_lt_of_mem hc
    simp only [call.sizeOf_spec]
    omega
  all_goals
    rcases hc with rfl | rfl <;> simp <;> omega

/-- **Induction over expressions**: what passes from the children of a node to the node holds of
every expression. -/
@[elab_as_elim]
theorem child_induction {motive : Expr → Prop}
    (node : ∀ e, (∀ c ∈ e.children, motive c) → motive e) (e : Expr) : motive e :=
  node e fun c _ => child_induction node c
termination_by sizeOf e
decreasing_by exact sizeOf_lt_of_mem_children ‹_›

/-- **The nodes of an expression**: `e.Has d` if `d` is `e` itself or a part of it. -/
inductive Has : Expr → Expr → Prop where
  | here {e : Expr} : e.Has e
  | part {c d e : Expr} (hc : c ∈ e.children) (hd : c.Has d) : e.Has d

/-- An expression without children is its only node. -/
theorem Has.eq_of_children_eq_nil {d e : Expr} (h : e.Has d) (he : e.children = []) : d = e := by
  obtain _ | ⟨hc, hd⟩ := h
  · rfl
  · rw [he] at hc
    exact absurd hc List.not_mem_nil

mutual

/-- **The nesting of an expression**: one for a leaf, and one more than its highest child for any
other node. -/
def height : Expr → Nat
  | unary _ e => e.height + 1
  | binary _ l r => max l.height r.height + 1
  | compare _ l r => max l.height r.height + 1
  | logical _ l r => max l.height r.height + 1
  | call _ args => heights args + 1
  | shift start factor _ => max start.height factor.height + 1
  | _ => 1

/-- The greatest height of a list of expressions. -/
def heights : List Expr → Nat
  | [] => 0
  | e :: rest => max e.height (heights rest)

end

theorem height_le_heights : ∀ {c : Expr} {args : List Expr}, c ∈ args → c.height ≤ heights args
  | c, e :: rest, hc => by
    rw [heights]
    rcases List.mem_cons.mp hc with rfl | hc
    · exact le_max_left _ _
    · exact (height_le_heights hc).trans (le_max_right _ _)

/-- **A node is nested deeper than its children are.** -/
theorem height_lt_of_mem_children {c e : Expr} (hc : c ∈ e.children) : c.height < e.height := by
  cases e <;> simp only [children, List.mem_cons, List.not_mem_nil, or_false] at hc
  case call name args => exact Nat.lt_succ_of_le (height_le_heights hc)
  all_goals
    rcases hc with rfl | rfl <;> simp only [height] <;> omega

/-- Every expression has a root. -/
theorem height_pos (e : Expr) : 0 < e.height := by
  cases e <;> simp only [height] <;> omega

end Expr

end Formula
