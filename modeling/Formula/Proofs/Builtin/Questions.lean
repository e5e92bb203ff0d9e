import Formula.Builtin.Catalog
import Mathlib.Logic.Basic

/-!
# Proofs/Builtin/Questions — what each built-in asks for, and how it fails

A plan could ask for anything, write anything and fail with anything.  `Plan.Fits name n` says what
the plan of the built-in called `name` does with `n` arguments: it asks for these arguments only,
for a range, a variable, the policy or the clock only where the built-in is known for it, and for
what is bound to a name only where an argument has that name.  It writes only if it is known for
that, and where it fails of itself it says that the arguments of `name` are at fault.

`fits_of_mem_functions` is the audit of every function.  Three facts follow for any plan that fits:
hosts that answer its questions alike give the same result (`run_congr`), an error is the plan's own
or one of the answers (`error_of_run`), and a built-in that is not known for writing writes nothing
(`written_eq_nil`).
-/

namespace Formula

namespace Builtin

/-! ## The questions of each function -/

/-- The arguments that a function takes as ranges, not evaluating a cell or a range. -/
def TakesRange (name : String) (i : Nat) : Prop :=
  name ∈ ["sum", "min", "max", "average", "stdev", "stdevp"] ∨
    i = 0 ∧ name ∈ ["countif", "sumif", "countblank", "slope", "intercept"] ∨
    i = 1 ∧ name ∈ ["slope", "intercept"] ∨
    i = 2 ∧ name = "sumif"

instance (name : String) (i : Nat) : Decidable (TakesRange name i) := by
  unfold TakesRange
  infer_instance

/-- The argument that a function takes as the name of a variable. -/
def TakesVariable (name : String) (i : Nat) : Prop := name = "ifmissing" ∧ i = 0

instance (name : String) (i : Nat) : Decidable (TakesVariable name i) := by
  unfold TakesVariable
  infer_instance

/-- The functions that ask which days are business days. -/
def ReadsPolicy (name : String) : Prop := name = "isbusinessday"

/-- The functions that ask for the time. -/
def ReadsClock (name : String) : Prop := name = "now" ∨ name = "today"

/-- The procedures that write. -/
def Writes (name : String) : Prop := name = "println"

end Builtin

namespace Plan

open Builtin (TakesRange TakesVariable ReadsPolicy ReadsClock Writes)

variable {α β : Type} {name : String} {n : Nat} {known : List String}

/-- The plan asks only what the built-in called `name` may ask about `n` arguments, of which some
are known to be the variables `known`, and fails of itself only over the arguments. -/
def FitsKnowing (name : String) (n : Nat) : List String → Plan α → Prop
  | _, done _ => True
  | _, fail e => ∃ f, e = .invalidArguments name f
  | known, value i next => i < n ∧ ∀ v, (next v).FitsKnowing name n known
  | known, operand i next => (i < n ∧ TakesRange name i) ∧ ∀ o, (next o).FitsKnowing name n known
  | known, variableName i next => (i < n ∧ TakesVariable name i) ∧
    ∀ x : Option String, (next x).FitsKnowing name n (x.toList ++ known)
  | known, symbol x next => x ∈ known ∧ ∀ v, (next v).FitsKnowing name n known
  | known, policy next => ReadsPolicy name ∧ ∀ p, (next p).FitsKnowing name n known
  | known, now next => ReadsClock name ∧ ∀ t, (next t).FitsKnowing name n known
  | known, stored _ next => ∀ s, (next s).FitsKnowing name n known
  | known, search _ _ next => ∀ b, (next b).FitsKnowing name n known
  | known, write _ next => Writes name ∧ next.FitsKnowing name n known

/-- **The plan fits the built-in** called `name` with `n` arguments, of which none is known yet. -/
def Fits (name : String) (n : Nat) (p : Plan α) : Prop := p.FitsKnowing name n []

/-! ## What follows from the questions -/

/-- **Two hosts that answer alike** what the built-in called `name` may ask about `n` arguments. -/
structure Host.Agree (name : String) (n : Nat) (h h' : Host) : Prop where
  value : ∀ i < n, h.value i = h'.value i
  operand : ∀ i < n, TakesRange name i → h.operand i = h'.operand i
  variableName : ∀ i < n, TakesVariable name i → h.variableName i = h'.variableName i
  symbol : ∀ i < n, TakesVariable name i → ∀ x ∈ h.variableName i, h.symbol x = h'.symbol x
  policy : ReadsPolicy name → h.policy = h'.policy
  now : ReadsClock name → h.now = h'.now
  stored : h.stored = h'.stored
  search : h.search = h'.search

/-- A plan sees only the answers to its questions; `hknown` is about the names known so far. -/
theorem FitsKnowing.run_congr {h h' : Host} (hh : Host.Agree name n h h') {p : Plan α}
    (hp : p.FitsKnowing name n known) (hknown : ∀ x ∈ known, h.symbol x = h'.symbol x) :
    p.run h = p.run h' := by
  induction p generalizing known with
  | done a => rfl
  | fail e => rfl
  | value i next ih =>
    rw [run, run, ← hh.value i hp.1]
    cases h.value i with
    | ok v => exact ih v (hp.2 v) hknown
    | error e => rfl
  | operand i next ih =>
    rw [run, run, ← hh.operand i hp.1.1 hp.1.2]
    cases h.operand i with
    | ok o => exact ih o (hp.2 o) hknown
    | error e => rfl
  | variableName i next ih =>
    rw [run, run, ← hh.variableName i hp.1.1 hp.1.2]
    refine ih _ (hp.2 _) fun x hx => ?_
    rcases List.mem_append.mp hx with hx | hx
    · exact hh.symbol i hp.1.1 hp.1.2 x (Option.mem_toList.mp hx)
    · exact hknown x hx
  | symbol x next ih =>
    rw [run, run, ← hknown x hp.1]
    exact ih _ (hp.2 _) hknown
  | policy next ih =>
    rw [run, run, ← hh.policy hp.1]
    exact ih _ (hp.2 _) hknown
  | now next ih =>
    rw [run, run, ← hh.now hp.1]
    exact ih _ (hp.2 _) hknown
  | stored s next ih =>
    rw [run, run, ← hh.stored]
    exact ih _ (hp _) hknown
  | search pattern s next ih =>
    rw [run, run, ← hh.search]
    exact ih _ (hp _) hknown
  | write line next ih => exact ih hp.2 hknown

/-- **A plan sees only the answers to its questions.** -/
theorem run_congr {h h' : Host} (hh : Host.Agree name n h h') {p : Plan α} (hp : p.Fits name n) :
    p.run h = p.run h' :=
  FitsKnowing.run_congr hh hp fun _ hx => absurd hx List.not_mem_nil

/-- **An error of a run has a source**: the plan finds its arguments at fault, or the answer to a
question is an error. -/
theorem error_of_run {h : Host} {e : EvalError} {p : Plan α} (hp : p.FitsKnowing name n known)
    (hrun : p.run h = .error e) :
    (∃ f, e = .invalidArguments name f) ∨ (∃ i < n, h.value i = .error e) ∨
      ∃ i < n, TakesRange name i ∧ h.operand i = .error e := by
  induction p generalizing known with
  | done a => cases hrun
  | fail e' =>
    obtain ⟨f, rfl⟩ := hp
    cases hrun
    exact Or.inl ⟨f, rfl⟩
  | value i next ih =>
    rw [run] at hrun
    cases hv : h.value i with
    | ok v =>
      rw [hv] at hrun
      exact ih v (hp.2 v) hrun
    | error e' =>
      rw [hv] at hrun
      cases hrun
      exact Or.inr (Or.inl ⟨i, hp.1, hv⟩)
  | operand i next ih =>
    rw [run] at hrun
    cases ho : h.operand i with
    | ok o =>
      rw [ho] at hrun
      exact ih o (hp.2 o) hrun
    | error e' =>
      rw [ho] at hrun
      cases hrun
      exact Or.inr (Or.inr ⟨i, hp.1.1, hp.1.2, ho⟩)
  | variableName i next ih => exact ih _ (hp.2 _) hrun
  | symbol x next ih => exact ih _ (hp.2 _) hrun
  | policy next ih => exact ih _ (hp.2 _) hrun
  | now next ih => exact ih _ (hp.2 _) hrun
  | stored s next ih => exact ih _ (hp _) hrun
  | search pattern s next ih => exact ih _ (hp _) hrun
  | write line next ih => exact ih hp.2 hrun

/-- **A built-in writes nothing** if it is not known for that. -/
theorem written_eq_nil (h : Host) {p : Plan α} (hp : p.FitsKnowing name n known)
    (hname : ¬Writes name) : p.written h = [] := by
  induction p generalizing known with
  | done a => rfl
  | fail e => rfl
  | value i next ih =>
    rw [written]
    cases h.value i with
    | ok v => exact ih v (hp.2 v)
    | error e => rfl
  | operand i next ih =>
    rw [written]
    cases h.operand i with
    | ok o => exact ih o (hp.2 o)
    | error e => rfl
  | variableName i next ih => exact ih _ (hp.2 _)
  | symbol x next ih => exact ih _ (hp.2 _)
  | policy next ih => exact ih _ (hp.2 _)
  | now next ih => exact ih _ (hp.2 _)
  | stored s next ih => exact ih _ (hp _)
  | search pattern s next ih => exact ih _ (hp _)
  | write line next ih => exact absurd hp.1 hname

/-! ## The questions of the pieces of a plan -/

theorem fits_pure (a : α) : (pure a : Plan α).Fits name n := trivial

theorem fits_policy {next : Calendar.Policy → Plan α} (hname : ReadsPolicy name)
    (hnext : ∀ p, (next p).Fits name n) : (policy next).Fits name n :=
  ⟨hname, hnext⟩

theorem fits_now {next : Calendar.DateTime → Plan α} (hname : ReadsClock name)
    (hnext : ∀ t, (next t).Fits name n) : (now next).Fits name n :=
  ⟨hname, hnext⟩

theorem fits_stored {key : String} {next : Option String → Plan α}
    (hnext : ∀ s, (next s).Fits name n) : (stored key next).Fits name n :=
  hnext

theorem fits_search {pattern s : String} {next : Option Bool → Plan α}
    (hnext : ∀ b, (next b).Fits name n) : (search pattern s next).Fits name n :=
  hnext

theorem fits_write {line : String} {next : Plan α} (hname : Writes name)
    (hnext : next.Fits name n) : (write line next).Fits name n :=
  ⟨hname, hnext⟩

theorem fits_fault (f : Fault) : (fault name f : Plan α).Fits name n := ⟨f, rfl⟩

/-- What fits goes on fitting when more is known. -/
theorem FitsKnowing.mono {known' : List String} {p : Plan α} (hp : p.FitsKnowing name n known)
    (hle : known ⊆ known') : p.FitsKnowing name n known' := by
  induction p generalizing known known' with
  | done a => trivial
  | fail e => exact hp
  | value i next ih => exact ⟨hp.1, fun v => ih v (hp.2 v) hle⟩
  | operand i next ih => exact ⟨hp.1, fun o => ih o (hp.2 o) hle⟩
  | variableName i next ih =>
    exact ⟨hp.1, fun x => ih x (hp.2 x) fun y hy =>
      List.mem_append.mpr ((List.mem_append.mp hy).imp_right fun hmem => hle hmem)⟩
  | symbol x next ih => exact ⟨hle hp.1, fun v => ih v (hp.2 v) hle⟩
  | policy next ih => exact ⟨hp.1, fun p => ih p (hp.2 p) hle⟩
  | now next ih => exact ⟨hp.1, fun t => ih t (hp.2 t) hle⟩
  | stored s next ih => exact fun s => ih s (hp s) hle
  | search pattern s next ih => exact fun b => ih b (hp b) hle
  | write line next ih => exact ⟨hp.1, ih hp.2 hle⟩

theorem FitsKnowing.bind {p : Plan α} {f : α → Plan β} (hp : p.FitsKnowing name n known)
    (hf : ∀ a, (f a).Fits name n) : (p >>= f).FitsKnowing name n known := by
  induction p generalizing known with
  | done a => exact (hf a).mono (List.nil_subset _)
  | fail e => exact hp
  | value i next ih => exact ⟨hp.1, fun v => ih v (hp.2 v)⟩
  | operand i next ih => exact ⟨hp.1, fun o => ih o (hp.2 o)⟩
  | variableName i next ih => exact ⟨hp.1, fun x => ih x (hp.2 x)⟩
  | symbol x next ih => exact ⟨hp.1, fun v => ih v (hp.2 v)⟩
  | policy next ih => exact ⟨hp.1, fun p => ih p (hp.2 p)⟩
  | now next ih => exact ⟨hp.1, fun t => ih t (hp.2 t)⟩
  | stored s next ih => exact fun s => ih s (hp s)
  | search pattern s next ih => exact fun b => ih b (hp b)
  | write line next ih => exact ⟨hp.1, ih hp.2⟩

/-- **One plan after another** fits if both do. -/
theorem Fits.bind {p : Plan α} {f : α → Plan β} (hp : p.Fits name n)
    (hf : ∀ a, (f a).Fits name n) : (p >>= f).Fits name n :=
  FitsKnowing.bind hp hf

theorem Fits.ite {c : Prop} [Decidable c] {p q : Plan α} (hp : c → p.Fits name n)
    (hq : q.Fits name n) : (if c then p else q).Fits name n := by
  split
  · next hc => exact hp hc
  · exact hq

theorem fits_argument {i : Nat} (hi : i < n) : (argument i).Fits name n := ⟨hi, fun _ => trivial⟩

theorem fits_number {i : Nat} (hi : i < n) : (number i).Fits name n := ⟨hi, fun _ => trivial⟩

theorem fits_text {i : Nat} (hi : i < n) : (text i).Fits name n := ⟨hi, fun _ => trivial⟩

theorem fits_integer {i : Nat} (hi : i < n) : (integer name i).Fits name n := by
  refine ⟨hi, fun v => ?_⟩
  dsimp only
  split
  · exact fits_fault _
  · exact trivial

theorem fits_count {i : Nat} (hi : i < n) : (count name i).Fits name n :=
  (fits_integer hi).bind fun _ => .ite (fun _ => fits_fault _) trivial

theorem fits_position {i : Nat} (hi : i < n) : (position name i).Fits name n :=
  (fits_integer hi).bind fun _ => .ite (fun _ => fits_fault _) trivial

theorem fits_region {i : Nat} (hi : i < n) (hr : TakesRange name i) :
    (region name i).Fits name n := by
  refine ⟨⟨hi, hr⟩, fun o => ?_⟩
  cases o with
  | scalar v => exact fits_fault _
  | region r cells => exact trivial

/-- A question put to each argument. -/
theorem fits_each {ask : Nat → Plan α} (hask : ∀ i < n, (ask i).Fits name n) {first count : Nat}
    (hcount : first + count ≤ n) : (each first count ask).Fits name n := by
  induction count generalizing first with
  | zero => exact trivial
  | succ count ih =>
    exact (hask first (by omega)).bind fun _ => (ih (by omega)).bind fun _ => trivial

end Plan

end Formula
