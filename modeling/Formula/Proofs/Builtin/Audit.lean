import Formula.Proofs.Builtin.Questions
import Mathlib.Tactic.Common

/-!
# Proofs/Builtin/Audit — every built-in fits its name

`fits_of_mem_functions` goes through the catalog once, so that no later proof has to open a plan.
Families of functions are audited as families; the plans with a body of their own one by one.
-/

namespace Formula

/-- **A function fits its name** if its plans do, for every number of arguments that it takes. -/
def Function.Fits (f : Function) : Prop :=
  ∀ n, f.least ≤ n → n ≤ f.most → (f.plan n).Fits f.name n

namespace Builtin

open Plan

/-! ## Families -/

theorem fits_unary (name help : String) (f : Float → Float) : (unary name help f).Fits :=
  fun _ hn _ => (fits_number hn).bind fun _ => fits_pure _

theorem fits_binary (name help : String) (f : Float → Float → Float) : (binary name help f).Fits :=
  fun n hn _ => by
    have hn' : 2 ≤ n := hn
    exact (fits_number (by omega)).bind fun _ => (fits_number (by omega)).bind fun _ => fits_pure _

theorem fits_textMap (name help : String) (f : String → String) : (textMap name help f).Fits :=
  fun _ hn _ => (fits_text hn).bind fun _ => fits_pure _

theorem fits_componentFunction (name help : String) (c : Calendar.Component) :
    (componentFunction name help c).Fits :=
  fun _ hn _ => (fits_argument hn).bind fun _ => fits_pure _

/-- A reducer takes every argument as a range if it is one. -/
theorem fits_reducer {name : String} (hname : ∀ i, TakesRange name i) (help : String)
    (f : List Float → Float) : (reducer name help f).Fits := by
  intro n _ _
  refine (fits_each (fun i hi => ?_) (by omega)).bind fun _ => fits_pure _
  refine ⟨⟨hi, hname i⟩, fun o => ?_⟩
  cases o with
  | scalar v => exact fits_pure _
  | region r cells => exact fits_pure _

/-! ## Functions of texts -/

theorem fits_substr {n : Nat} (hn : 2 ≤ n) : (substr n).Fits "substr" n := by
  refine (fits_text (by omega)).bind fun s => (fits_position (by omega)).bind fun first => ?_
  exact .ite (fun h => (fits_position h).bind fun _ => fits_pure _) (fits_pure _)

/-- A part of a text that a count measures off at one end. -/
theorem fits_measured {name : String} {n : Nat} (hn : 2 ≤ n) (f : String → Nat → String) :
    (do
      let s ← Plan.text 0
      let k ← Plan.count name 1
      return Value.text (f s k) : Plan Value).Fits name n :=
  (fits_text (by omega)).bind fun _ => (fits_count (by omega)).bind fun _ => fits_pure _

theorem fits_middle {n : Nat} (hn : 3 ≤ n) :
    (do
      let s ← Plan.text 0
      let pos ← Plan.position "mid" 1
      let k ← Plan.count "mid" 2
      return Value.text (Text.middle s pos k) : Plan Value).Fits "mid" n :=
  (fits_text (by omega)).bind fun _ => (fits_position (by omega)).bind fun _ =>
    (fits_count (by omega)).bind fun _ => fits_pure _

theorem fits_find {n : Nat} (hn : 2 ≤ n) : (find n).Fits "find" n := by
  refine (fits_text (by omega)).bind fun s => (fits_text (by omega)).bind fun t => ?_
  refine .ite (fun h => ?_) (fits_pure _)
  exact ((fits_position h).bind fun _ => fits_pure _).bind fun _ => fits_pure _

theorem fits_replace {n : Nat} (hn : 4 ≤ n) : replace.Fits "replace" n := by
  refine (fits_text (by omega)).bind fun s => (fits_position (by omega)).bind fun pos => ?_
  refine (fits_count (by omega)).bind fun k => (fits_text (by omega)).bind fun new => ?_
  split
  · exact fits_pure _
  · exact fits_fault _

theorem fits_substitute {n : Nat} (hn : 3 ≤ n) : (substitute n).Fits "substitute" n := by
  refine (fits_text (by omega)).bind fun s => (fits_text (by omega)).bind fun old => ?_
  refine (fits_text (by omega)).bind fun new => ?_
  exact .ite (fun h => (fits_integer h).bind fun _ => fits_pure _) (fits_pure _)

theorem fits_rept {n : Nat} (hn : 2 ≤ n) : rept.Fits "rept" n := by
  refine (fits_text (by omega)).bind fun s => (fits_count (by omega)).bind fun k => ?_
  split
  · exact fits_pure _
  · exact fits_fault _

theorem fits_matchesWhole {n : Nat} (hn : 2 ≤ n) : matchesWhole.Fits "matches" n := by
  refine (fits_text (by omega)).bind fun s => (fits_text (by omega)).bind fun pattern => ?_
  refine fits_search fun b => ?_
  cases b with
  | none => exact fits_fault _
  | some b => exact fits_pure _

theorem fits_length {name : String} {n : Nat} (hn : 1 ≤ n) : length.Fits name n :=
  (fits_text hn).bind fun _ => fits_pure _

theorem fits_of_mem_textFunctions : ∀ f ∈ textFunctions, f.Fits := by
  rw [textFunctions]
  simp only [List.forall_mem_cons, List.not_mem_nil, IsEmpty.forall_iff,
    implies_true, and_true]
  refine ⟨?_, ?_, ?_, ?_, ?_, ?_, ?_, ?_, ?_, ?_, ?_, ?_, ?_, ?_, ?_, ?_, ?_⟩
  · exact fun _ hn _ => fits_substr hn
  · exact fun _ hn _ => fits_measured hn _
  · exact fun _ hn _ => fits_middle hn
  · exact fun _ hn _ => fits_measured hn _
  · exact fun _ hn _ => fits_rept hn
  · exact fun n _ _ => (fits_each (fun i hi => fits_text hi) (by omega)).bind fun _ => fits_pure _
  · exact fits_textMap _ _ _
  · exact fits_textMap _ _ _
  · exact fits_textMap _ _ _
  · exact fits_textMap _ _ _
  · exact fits_textMap _ _ _
  · exact fun _ hn _ => fits_matchesWhole hn
  · exact fun _ hn _ => fits_length hn
  · exact fun _ hn _ => fits_length hn
  · exact fun _ hn _ => fits_find hn
  · exact fun _ hn _ => fits_replace hn
  · exact fun _ hn _ => fits_substitute hn

/-! ## Functions of numbers, of dates, and choices -/

theorem fits_of_mem_mathFunctions : ∀ f ∈ mathFunctions, f.Fits := by
  rw [mathFunctions]
  simp only [List.forall_mem_cons, List.not_mem_nil, IsEmpty.forall_iff,
    implies_true, and_true, fits_unary, fits_binary]

theorem fits_of_mem_dateFunctions : ∀ f ∈ dateFunctions, f.Fits := by
  rw [dateFunctions]
  simp only [List.forall_mem_cons, List.not_mem_nil, IsEmpty.forall_iff,
    implies_true, and_true, fits_componentFunction, true_and]
  refine ⟨?_, ?_, ?_⟩
  · exact fun _ _ _ => fits_now (Or.inl rfl) fun _ => fits_pure _
  · exact fun _ _ _ => fits_now (Or.inr rfl) fun _ => fits_pure _
  · exact fun _ hn _ => (fits_argument hn).bind fun _ => fits_policy rfl fun _ => fits_pure _

/-- A choice asks for its condition and for one branch. -/
theorem fits_choose {name : String} {n : Nat} (hn : 3 ≤ n) : choose.Fits name n :=
  (fits_argument (by omega)).bind fun _ =>
    .ite (fun _ => fits_argument (by omega)) (fits_argument (by omega))

theorem fits_orDefault {n : Nat} (hn : 2 ≤ n) : orDefault.Fits "ifmissing" n := by
  refine ⟨⟨by omega, rfl, rfl⟩, fun x => ?_⟩
  cases x with
  | none => exact fits_fault _
  | some x =>
    refine ⟨List.mem_cons_self, fun v => ?_⟩
    cases v with
    | none => exact ⟨by omega, fun _ => trivial⟩
    | some v => trivial

theorem fits_of_mem_logicFunctions : ∀ f ∈ logicFunctions, f.Fits := by
  rw [logicFunctions]
  simp only [List.forall_mem_cons, List.not_mem_nil, IsEmpty.forall_iff,
    implies_true, and_true]
  refine ⟨?_, ?_, ?_, ?_, ?_⟩
  · exact fun _ hn _ => fits_choose hn
  · exact fun _ hn _ => fits_choose hn
  · exact fun _ hn _ => fits_orDefault hn
  · exact fun _ hn _ => (fits_number hn).bind fun _ => fits_pure _
  · exact fun _ hn _ => (fits_text hn).bind fun _ => fits_stored fun _ => fits_pure _

/-! ## Functions of ranges -/

theorem fits_countIf {n : Nat} (hn : 2 ≤ n) : countIf.Fits "countif" n := by
  refine (fits_region (by omega) (by decide)).bind fun _ => ?_
  exact (fits_argument (by omega)).bind fun _ => fits_pure _

theorem fits_sumIf {n : Nat} (hn : 2 ≤ n) : (sumIf n).Fits "sumif" n := by
  refine (fits_region (by omega) (by decide)).bind fun _ => ?_
  refine (fits_argument (by omega)).bind fun _ => ?_
  refine .ite (fun h => ?_) (fits_pure _)
  refine (fits_region h (by decide)).bind fun _ => .ite (fun _ => fits_pure _) ?_
  exact (fits_fault _).bind fun _ => fits_pure _

theorem fits_countBlank {n : Nat} (hn : 1 ≤ n) : countBlank.Fits "countblank" n :=
  (fits_region hn (by decide)).bind fun _ => fits_pure _

/-- A number read off a regression, which takes both its arguments as ranges. -/
theorem fits_ofRegression {name : String} (h₀ : TakesRange name 0) (h₁ : TakesRange name 1)
    (help : String) (part : Float × Float → Float) :
    (Function.mk name 2 2 help fun _ => do return .number (part (← regression name))).Fits := by
  intro n hn _
  have hn' : 2 ≤ n := hn
  refine Fits.bind ?_ fun _ => fits_pure _
  refine (fits_region (by omega) h₀).bind fun _ => (fits_region (by omega) h₁).bind fun _ => ?_
  exact .ite (fun _ => fits_fault _) (fits_pure _)

theorem fits_of_mem_cellFunctions : ∀ f ∈ cellFunctions, f.Fits := by
  rw [cellFunctions]
  simp only [List.forall_mem_cons, List.not_mem_nil, IsEmpty.forall_iff,
    implies_true, and_true]
  refine ⟨?_, ?_, ?_, ?_, ?_, ?_, ?_, ?_, ?_, ?_, ?_⟩
  · exact fits_reducer (fun i => Or.inl (by decide)) _ _
  · exact fits_reducer (fun i => Or.inl (by decide)) _ _
  · exact fits_reducer (fun i => Or.inl (by decide)) _ _
  · exact fits_reducer (fun i => Or.inl (by decide)) _ _
  · exact fits_reducer (fun i => Or.inl (by decide)) _ _
  · exact fits_reducer (fun i => Or.inl (by decide)) _ _
  · exact fun _ hn _ => fits_countIf hn
  · exact fun _ hn _ => fits_sumIf hn
  · exact fun _ hn _ => fits_countBlank hn
  · exact fits_ofRegression (by decide) (by decide) _ Prod.fst
  · exact fits_ofRegression (by decide) (by decide) _ Prod.snd

/-! ## The catalog -/

/-- **Every function fits its name.** -/
theorem fits_of_mem_functions {f : Function} (hf : f ∈ functions) : f.Fits := by
  simp only [functions, List.mem_append] at hf
  rcases hf with (((hf | hf) | hf) | hf) | hf
  · exact fits_of_mem_mathFunctions f hf
  · exact fits_of_mem_textFunctions f hf
  · exact fits_of_mem_logicFunctions f hf
  · exact fits_of_mem_dateFunctions f hf
  · exact fits_of_mem_cellFunctions f hf

/-- **Every procedure fits its name.** -/
theorem fits_of_mem_procedures {p : Procedure} (hp : p ∈ procedures) (n : Nat) :
    (p.plan n).Fits p.name n := by
  obtain rfl := List.mem_singleton.mp hp
  exact (fits_each (fun i hi => fits_text hi) (by omega)).bind fun _ =>
    fits_write rfl (fits_pure ())

/-- No function is known for writing. -/
theorem not_writes_of_mem_functions {f : Function} (hf : f ∈ functions) : ¬Writes f.name := by
  have key : ∀ name ∈ functions.map Function.name, name ≠ "println" := by decide +kernel
  exact key f.name (List.mem_map_of_mem hf)

/-- A function that is found bears the name looked for, in lower case. -/
theorem name_of_function? {name : String} {f : Function} (hf : function? name = some f) :
    f.name = foldName name := by
  have h := List.find?_some hf
  exact eq_of_beq h

theorem mem_of_function? {name : String} {f : Function} (hf : function? name = some f) :
    f ∈ functions :=
  List.mem_of_find?_eq_some hf

/-- The catalog spells its names in lower case. -/
theorem foldName_of_mem_functions : ∀ f ∈ functions, foldName f.name = f.name := by
  have key : ∀ name ∈ functions.map Function.name, foldName name = name := by
    decide +kernel
  exact fun f hf => key f.name (List.mem_map_of_mem hf)

/-- **No function is found exactly when the catalog has none of that name**, in any case of its
letters. -/
theorem function?_eq_none_iff {name : String} :
    function? name = none ↔ ∀ f ∈ functions, foldName f.name ≠ foldName name := by
  rw [function?, List.find?_eq_none]
  refine forall₂_congr fun f hf => ?_
  rw [foldName_of_mem_functions f hf, beq_iff_eq]

end Builtin

end Formula
