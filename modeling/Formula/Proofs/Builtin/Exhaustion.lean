import Formula.Proofs.Builtin.Audit
import Formula.Proofs.Builtin.Parallel

/-!
# Proofs/Builtin/Exhaustion — no built-in hides that an argument ran out of levels

An argument that is nested too deeply has no value, only the error `depthExceeded`.  A built-in that
is told so fails with just that error, and with it only then: `run_eq_depthExceeded_iff` says so for
every function and every procedure, in terms of the answers that a run meets (`Plan.Meets`).

What a built-in makes of answers that are not cut off is therefore what it makes of them with more
levels to go.  `Deepens` is that relation of a result to the one with more levels, and it is one
that computations keep.
-/

namespace Formula

/-! ## Results with more levels to go -/

/-- **A result with more levels to go**: `y` is what `x` is, unless `x` ran out of its levels, of
which there were `limit`. -/
def Deepens {α : Type} (limit : Nat) (x y : Except EvalError α) : Prop :=
  x ≠ .error (.depthExceeded limit) → y = x

namespace Deepens

variable {α : Type} {limit : Nat} {x y : Except EvalError α}

theorem refl (x : Except EvalError α) : Deepens limit x x := fun _ => rfl

/-- A result that ran out of its levels may become anything. -/
theorem of_cutOff (y : Except EvalError α) :
    Deepens limit (.error (.depthExceeded limit)) y :=
  fun hne => absurd rfl hne

theorem eq_ok (h : Deepens limit x y) {a : α} (hx : x = .ok a) : y = .ok a := by
  subst hx
  exact h nofun

theorem eq_error (h : Deepens limit x y) {e : EvalError} (hx : x = .error e)
    (he : e ≠ .depthExceeded limit) : y = .error e := by
  subst hx
  exact h fun heq => he (Except.error.inj heq)

/-- **One step after another** goes on as each of them does. -/
theorem compositional : Compositional (Deepens limit) where
  refl := .refl
  bind {_ _ x y f g} h hfg := by
    intro hne
    cases x with
    | ok a =>
      rw [h.eq_ok rfl]
      exact hfg a hne
    | error e =>
      have he : e ≠ .depthExceeded limit := by
        rintro rfl
        exact hne rfl
      rw [h.eq_error rfl he]
      rfl

end Deepens

namespace Plan

variable {α : Type} {limit : Nat} {h : Host}

/-! ## Answers that are errors -/

/-- **A run meets an error**: one of the questions that it comes to ask is answered by it. -/
inductive Meets (h : Host) (e : EvalError) : Plan α → Prop where
  | value {i : Nat} {next : Value → Plan α} (hi : h.value i = .error e) : Meets h e (value i next)
  | operand {i : Nat} {next : Operand → Plan α} (hi : h.operand i = .error e) :
      Meets h e (operand i next)
  | afterValue {i : Nat} {next : Value → Plan α} {v : Value} (hi : h.value i = .ok v)
      (hnext : Meets h e (next v)) : Meets h e (value i next)
  | afterOperand {i : Nat} {next : Operand → Plan α} {o : Operand} (hi : h.operand i = .ok o)
      (hnext : Meets h e (next o)) : Meets h e (operand i next)
  | afterVariableName {i : Nat} {next : Option String → Plan α}
      (hnext : Meets h e (next (h.variableName i))) : Meets h e (variableName i next)
  | afterSymbol {name : String} {next : Option Value → Plan α}
      (hnext : Meets h e (next (h.symbol name))) : Meets h e (symbol name next)
  | afterPolicy {next : Calendar.Policy → Plan α} (hnext : Meets h e (next h.policy)) :
      Meets h e (policy next)
  | afterNow {next : Calendar.DateTime → Plan α} (hnext : Meets h e (next h.now)) :
      Meets h e (now next)
  | afterStored {name : String} {next : Option String → Plan α}
      (hnext : Meets h e (next (h.stored name))) : Meets h e (stored name next)
  | afterSearch {pattern s : String} {next : Option Bool → Plan α}
      (hnext : Meets h e (next (h.search pattern s))) : Meets h e (search pattern s next)
  | afterWrite {line : String} {next : Plan α} (hnext : Meets h e next) :
      Meets h e (write line next)

variable {e : EvalError}

/-- **A run that meets an error ends with it.** -/
theorem Meets.run_eq {p : Plan α} (hp : p.Meets h e) : p.run h = .error e := by
  induction hp with
  | value hi => rw [run_value, hi]; rfl
  | operand hi => rw [run_operand, hi]; rfl
  | afterValue hi hnext ih => rw [run_value, hi]; exact ih
  | afterOperand hi hnext ih => rw [run_operand, hi]; exact ih
  | afterVariableName hnext ih => rw [run]; exact ih
  | afterSymbol hnext ih => rw [run]; exact ih
  | afterPolicy hnext ih => rw [run]; exact ih
  | afterNow hnext ih => rw [run]; exact ih
  | afterStored hnext ih => rw [run]; exact ih
  | afterSearch hnext ih => rw [run]; exact ih
  | afterWrite hnext ih => rw [run]; exact ih

/-- **An error that says nothing about the arguments was met**, for a plan that fits its name. -/
theorem meets_of_run_eq {name : String} {n : Nat} {known : List String} {p : Plan α}
    (hfits : p.FitsKnowing name n known) (he : ∀ f, e ≠ .invalidArguments name f)
    (hrun : p.run h = .error e) : p.Meets h e := by
  induction p generalizing known with
  | done a => cases hrun
  | fail e' =>
    obtain ⟨f, rfl⟩ := hfits
    cases hrun
    exact absurd rfl (he f)
  | value i next ih =>
    rw [run_value] at hrun
    cases hi : h.value i with
    | ok v =>
      rw [hi] at hrun
      exact .afterValue hi (ih v (hfits.2 v) hrun)
    | error e' =>
      rw [hi] at hrun
      cases hrun
      exact .value hi
  | operand i next ih =>
    rw [run_operand] at hrun
    cases hi : h.operand i with
    | ok o =>
      rw [hi] at hrun
      exact .afterOperand hi (ih o (hfits.2 o) hrun)
    | error e' =>
      rw [hi] at hrun
      cases hrun
      exact .operand hi
  | variableName i next ih => exact .afterVariableName (ih _ (hfits.2 _) hrun)
  | symbol name next ih => exact .afterSymbol (ih _ (hfits.2 _) hrun)
  | policy next ih => exact .afterPolicy (ih _ (hfits.2 _) hrun)
  | now next ih => exact .afterNow (ih _ (hfits.2 _) hrun)
  | stored name next ih => exact .afterStored (ih _ (hfits _) hrun)
  | search pattern s next ih => exact .afterSearch (ih _ (hfits _) hrun)
  | write line next ih => exact .afterWrite (ih hfits.2 hrun)

/-- A plan that fits its name runs out of levels exactly where an answer does. -/
theorem Fits.run_eq_depthExceeded_iff {name : String} {n : Nat} {p : Plan α}
    (hfits : p.Fits name n) :
    p.run h = .error (.depthExceeded limit) ↔ p.Meets h (.depthExceeded limit) :=
  ⟨meets_of_run_eq hfits nofun, Meets.run_eq⟩

/-! ## Lines with more levels to go -/

/-- **A run with more levels to go has written the same lines and maybe others after them**, and no
others unless it had run out of its levels. -/
theorem written_deepens {h' : Host} (hh : Host.Parallel (Deepens limit) h h') (p : Plan α) :
    p.written h <+: p.written h' ∧
      (p.run h ≠ .error (.depthExceeded limit) → p.written h' = p.written h) := by
  induction p with
  | done a => exact ⟨List.prefix_rfl, fun _ => rfl⟩
  | fail e => exact ⟨List.prefix_rfl, fun _ => rfl⟩
  | value i next ih =>
    rw [written, written, run]
    cases hi : h.value i with
    | ok v =>
      rw [(hh.value i).eq_ok hi]
      exact ih v
    | error e =>
      refine ⟨List.nil_prefix, fun hne => ?_⟩
      rw [(hh.value i).eq_error hi fun heq => hne (congrArg Except.error heq)]
  | operand i next ih =>
    rw [written, written, run]
    cases hi : h.operand i with
    | ok o =>
      rw [(hh.operand i).eq_ok hi]
      exact ih o
    | error e =>
      refine ⟨List.nil_prefix, fun hne => ?_⟩
      rw [(hh.operand i).eq_error hi fun heq => hne (congrArg Except.error heq)]
  | variableName i next ih =>
    rw [written, written, run, ← hh.variableName]
    exact ih _
  | symbol x next ih =>
    rw [written, written, run, ← hh.symbol]
    exact ih _
  | policy next ih =>
    rw [written, written, run, ← hh.policy]
    exact ih _
  | now next ih =>
    rw [written, written, run, ← hh.now]
    exact ih _
  | stored name next ih =>
    rw [written, written, run, ← hh.stored]
    exact ih _
  | search pattern s next ih =>
    rw [written, written, run, ← hh.search]
    exact ih _
  | write line next ih =>
    obtain ⟨hbegins, heq⟩ := ih
    exact ⟨List.cons_prefix_cons.mpr ⟨rfl, hbegins⟩, fun hne => congrArg _ (heq hne)⟩

end Plan

end Formula
