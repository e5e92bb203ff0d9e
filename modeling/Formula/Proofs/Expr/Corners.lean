import Formula.Proofs.Expr.Nodes
import Formula.Proofs.Expr.Steps
import Formula.Proofs.Sheet.Corners
import Formula.Sheet.Writes

/-!
# Proofs/Expr/Corners — a range has no direction

`Expr.Redrawn` is the relation of an expression to what comes of it when ranges in it are given by
other corners of the same rectangles.  No expression sees which corners a range was given by: where
a range is read, it is read as the rectangle that the corners span, and where it is evaluated, it
has no value (`Redrawn.eval_eq`).  With what `Proofs/Sheet/Corners` says of the rectangle itself
this is `ranges_have_no_direction`.
-/

namespace Formula

namespace Expr

/-- **Giving ranges by other corners.**  `Redrawn e e'` if `e'` is `e` with some ranges replaced by
ranges whose corners span the same rectangles. -/
inductive Redrawn : Expr → Expr → Prop where
  | refl (e : Expr) : Redrawn e e
  | range {a b c d : Address} (h : Range.spanning c d = Range.spanning a b) :
      Redrawn (range a b) (range c d)
  | unary (op : UnaryOp) {e e' : Expr} (he : Redrawn e e') : Redrawn (unary op e) (unary op e')
  | binary (op : BinaryOp) {l l' r r' : Expr} (hl : Redrawn l l') (hr : Redrawn r r') :
      Redrawn (binary op l r) (binary op l' r')
  | compare (op : Comparison) {l l' r r' : Expr} (hl : Redrawn l l') (hr : Redrawn r r') :
      Redrawn (compare op l r) (compare op l' r')
  | logical (op : LogicalOp) {l l' r r' : Expr} (hl : Redrawn l l') (hr : Redrawn r r') :
      Redrawn (logical op l r) (logical op l' r')
  | shift (amount : Calendar.Amount) {start start' factor factor' : Expr}
      (hstart : Redrawn start start') (hfactor : Redrawn factor factor') :
      Redrawn (shift start factor amount) (shift start' factor' amount)
  | call (name : String) {args args' : List Expr} (hlen : args.length = args'.length)
      (hargs : ∀ (i : Nat) e e', args[i]? = some e → args'[i]? = some e' → Redrawn e e') :
      Redrawn (call name args) (call name args')

variable {env : Environment} {e e' : Expr}

theorem Redrawn.symbol?_eq (h : Redrawn e e') : e'.symbol? = e.symbol? := by
  cases h <;> rfl

/-- A range that is read spans what it spanned. -/
theorem Redrawn.range?_eq (h : Redrawn e e') : e'.range? = e.range? := by
  cases h with
  | range h => exact congrArg some h
  | refl | unary | binary | compare | logical | shift | call => rfl

/-- **Other corners change no result**, however few levels are left. -/
theorem Redrawn.eval_eq (h : Redrawn e e') (n : Nat) : e'.eval env n = e.eval env n := by
  induction e using child_induction generalizing e' n with
  | node e ih =>
    obtain _ | n := n
    · rw [eval_zero, eval_zero]
    cases h with
    | refl => rfl
    | range h => rw [eval_range, eval_range]
    | unary op he => rw [eval_unary, eval_unary, ih _ (by simp [children]) he]
    | binary op hl hr =>
      rw [eval_binary, eval_binary, ih _ (by simp [children]) hl, ih _ (by simp [children]) hr]
    | compare op hl hr =>
      rw [eval_compare, eval_compare, ih _ (by simp [children]) hl, ih _ (by simp [children]) hr]
    | logical op hl hr =>
      rw [eval_logical, eval_logical, ih _ (by simp [children]) hl, ih _ (by simp [children]) hr]
    | shift amount hstart hfactor =>
      rw [eval_shift, eval_shift, ih _ (by simp [children]) hstart,
        ih _ (by simp [children]) hfactor]
    | call name hlen hargs =>
      refine eval_call_congr hlen.symm (fun i c' c hc' hc => ?_) (fun _ => rfl) (fun _ => rfl) rfl
        rfl
      have hredrawn := hargs i c c' hc hc'
      have hvalue : c'.eval env n = c.eval env n := ih c (List.mem_of_getElem? hc) hredrawn n
      -- Whether the call reads its argument or evaluates it, it is the same to it.
      have hargument : argument env n c' = argument env n c := by
        rw [argument, argument, hredrawn.symbol?_eq, hredrawn.range?_eq, hvalue]
      exact ⟨hvalue, fun _ => by rw [hargument], fun _ => by rw [hredrawn.symbol?_eq],
        fun _ _ _ => rfl⟩

end Expr

namespace Environment

open Formula.Expr (Redrawn)

/-- **A range has no direction.**  Two corners span the same rectangle in either order, as the other
two do, and as the rectangle's own do.  The walk over it meets the addresses between the corners,
each once and in the order of addresses, as many as its size says, which 64 bits hold if the corners
can be written; and the sheet gives for each what the cell there holds.  An expression has the same
result when any ranges in it are given by other corners. -/
theorem ranges_have_no_direction :
    (∀ a b : Address, let r := Range.spanning a b
      (Range.spanning b a = r ∧ Range.spanning ⟨a.row, b.column⟩ ⟨b.row, a.column⟩ = r ∧
        Range.spanning ⟨b.row, a.column⟩ ⟨a.row, b.column⟩ = r ∧
        Range.spanning r.start r.finish = r) ∧
      (∀ c, c ∈ r.addresses ↔ Between a.row c.row b.row ∧ Between a.column c.column b.column) ∧
      r.addresses.Nodup ∧ r.addresses.Pairwise Address.Precedes ∧
      r.addresses.length = r.size ∧
      (a.Writable → b.Writable → r.size < UInt64.size) ∧
      ∀ s : Sheet, r.addresses.zip (s.cellsIn r) = r.addresses.map fun c => (c, s.cell c)) ∧
    ∀ (env : Environment) (e e' : Expr), Redrawn e e' → env.evaluate e' = env.evaluate e := by
  refine ⟨fun a b => ⟨⟨Range.spanning_comm a b, Range.spanning_diagonal a b, ?_,
    Range.spanning_corners a b⟩, fun c => Range.mem_addresses_spanning_iff,
    Range.nodup_addresses _, Range.pairwise_addresses _, Range.length_addresses _,
    Range.size_spanning_lt, fun s => ?_⟩, fun env e e' h => h.eval_eq env.depth⟩
  · rw [Range.spanning_comm, Range.spanning_diagonal]
  · have hzip : ((Range.spanning a b).addresses.map id).zip (s.cellsIn (Range.spanning a b))
        = (Range.spanning a b).addresses.map fun c => (c, s.cell c) := List.zip_map'
    rwa [List.map_id] at hzip

/-- A conditional sum reads its two ranges from any corners: the numbers above 0 stand first and
fifth in the one range, and those that stand there in the other are added up.  The rectangle of the
last two rows and columns is walked to its end, and its size fits into 64 bits. -/
theorem ranges_have_no_direction_sumif :
    let last : UInt32 := 4294967294
    let a : Address := ⟨last - 1, last⟩
    let b : Address := ⟨last, last - 1⟩
    let s : Sheet := Sheet.empty.writeAll
      [⟨⟨0, 0⟩, .number 1⟩, ⟨⟨0, 1⟩, .number (-1)⟩, ⟨⟨1, 1⟩, .number 2⟩, ⟨⟨0, 3⟩, .number 10⟩,
        ⟨⟨1, 3⟩, .number 15⟩, ⟨⟨1, 4⟩, .number 20⟩]
    let env : Environment :=
      { symbols := .empty, sheet := some s, config := {}, clock := .atMidnight .epoch }
    let e (r t : Expr) : Expr := .call "SumIf" [r, .text ">0", t]
    let plain := e (.range ⟨0, 0⟩ ⟨1, 2⟩) (.range ⟨0, 3⟩ ⟨1, 5⟩)
    let turned := e (.range ⟨1, 0⟩ ⟨0, 2⟩) (.range ⟨1, 5⟩ ⟨0, 3⟩)
    Redrawn plain turned ∧ env.evaluate turned = env.evaluate plain ∧
      env.evaluate plain = .ok (.number 30) ∧
      (⟨last, last⟩ : Address) ∈ (Range.spanning a b).addresses ∧
      a.Writable ∧ b.Writable ∧ (Range.spanning a b).size < UInt64.size := by
  intro last a b s env e plain turned
  obtain ⟨hrange, hredrawn⟩ := ranges_have_no_direction
  have hturned : Redrawn plain turned := by
    refine .call _ rfl fun i d d' hd hd' => ?_
    obtain _ | _ | _ | i := i <;> cases hd <;> cases hd'
    · exact .range rfl
    · exact .refl _
    · exact .range rfl
  have ha : a.Writable := by decide
  have hb : b.Writable := by decide
  obtain ⟨-, hmem, -, -, -, hsize, -⟩ := hrange a b
  have hsum : env.evaluate plain = .ok (.number 30) := by decide +kernel
  exact ⟨hturned, hredrawn env plain turned hturned, hsum, (hmem _).mpr (by decide), ha, hb,
    hsize ha hb⟩

end Environment

end Formula
