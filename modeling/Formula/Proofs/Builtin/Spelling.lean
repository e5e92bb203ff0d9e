import Formula.Proofs.Builtin.Audit
import Formula.Text.Chars
import Mathlib

/-!
# Proofs/Builtin/Spelling — the spellings of a function

A function is called by its name with ASCII letters in either case, and five functions have two
names.  `SpelledAlike` is the relation between names that this makes; what is found under one of
two such names and what is found under the other take the same arguments and make the same of them
(`rel_function?`).

No other letters have two cases here.  Spellings differ in ASCII characters only, and a name with
any other character in it is the name of no function.
-/

namespace Formula

namespace Builtin

/-! ## Letters -/

/-- **One letter in either case**: two characters are equal, or one is a capital from `A` to `Z` and
the other its small letter, which is 32 characters on. -/
def SameLetter (c d : Char) : Prop :=
  c = d ∨ (c.isUpper ∧ d.toNat = c.toNat + 32) ∨ (d.isUpper ∧ c.toNat = d.toNat + 32)

section Letters

variable {c d : Char}

theorem toNat_toLower (c : Char) :
    c.toLower.toNat = if c.isUpper then c.toNat + 32 else c.toNat := by
  split
  · next hupper =>
    have hvalid : (c.toNat + 32).isValidChar := by
      rw [Text.isUpper_iff_toNat] at hupper
      exact Or.inl (by omega)
    rw [Char.toLower_eq_of_isUpper hupper, Char.toNat_ofNat, if_pos hvalid]
  · next hupper => rw [Char.toLower_eq_of_not_isUpper hupper]

/-- **Letters are one in lower case** if they are one in either case. -/
theorem toLower_eq_toLower_iff : c.toLower = d.toLower ↔ SameLetter c d := by
  rw [← Char.toNat_inj, toNat_toLower, toNat_toLower, SameLetter, ← Char.toNat_inj]
  simp only [Text.isUpper_iff_toNat]
  split <;> split <;> omega

/-- A character beyond ASCII has one case only. -/
theorem SameLetter.eq_of_not_isAscii (h : SameLetter c d) (hc : ¬ c.isAscii) : c = d := by
  have hbound : ¬ c.toNat < 128 := fun hlt => hc (decide_eq_true hlt)
  rw [SameLetter, Text.isUpper_iff_toNat, Text.isUpper_iff_toNat] at h
  rcases h with h | h | h
  · exact h
  all_goals omega

end Letters

/-! ## Names -/

/-- **Two names that differ in the case of ASCII letters only.** -/
def CaseVariant (a b : String) : Prop := List.Forall₂ SameLetter a.toList b.toList

/-- **The functions that have two names**, by both of them. -/
def aliases : List (String × String) :=
  [("if", "ifelse"), ("pow", "power"), ("lower", "lowercase"), ("upper", "uppercase"),
    ("len", "length")]

/-- **Two spellings of one name**, or of the two names of one function. -/
def SpelledAlike (a b : String) : Prop :=
  ∃ p q, CaseVariant a p ∧ CaseVariant b q ∧ (p = q ∨ (p, q) ∈ aliases ∨ (q, p) ∈ aliases)

section Names

variable {a b : String} {f : Function} {i : Nat} {c : Char}

/-- **The spellings of a name are one in lower case.** -/
theorem foldName_eq_foldName_iff : foldName a = foldName b ↔ CaseVariant a b := by
  rw [foldName, foldName, String.ofList_inj, CaseVariant, ← List.forall₂_eq_eq_eq,
    List.forall₂_map_left_iff, List.forall₂_map_right_iff]
  simp only [toLower_eq_toLower_iff]

instance (a b : String) : Decidable (CaseVariant a b) :=
  decidable_of_iff _ foldName_eq_foldName_iff

theorem CaseVariant.symm (h : CaseVariant a b) : CaseVariant b a :=
  foldName_eq_foldName_iff.mp (foldName_eq_foldName_iff.mpr h).symm

theorem CaseVariant.function?_eq (h : CaseVariant a b) : function? a = function? b := by
  rw [function?, function?, foldName_eq_foldName_iff.mpr h]

theorem caseVariant_foldName (a : String) : CaseVariant a (foldName a) := by
  rw [← foldName_eq_foldName_iff, foldName, foldName, String.toList_ofList, List.map_map]
  exact congrArg String.ofList
    (List.map_congr_left fun c _ => (Char.toLower_toLower_eq_toLower c).symm)

/-- A function is found by the spellings of its name. -/
theorem caseVariant_of_function? (hf : function? a = some f) : CaseVariant a f.name := by
  rw [← foldName_eq_foldName_iff, foldName_of_mem_functions f (mem_of_function? hf)]
  exact (name_of_function? hf).symm

/-- A spelling keeps the characters beyond ASCII. -/
theorem CaseVariant.getElem?_eq_some (h : CaseVariant a b) (hc : ¬ c.isAscii)
    (ha : a.toList[i]? = some c) : b.toList[i]? = some c := by
  obtain ⟨hi, hget⟩ := List.getElem?_eq_some_iff.mp ha
  obtain ⟨hlen, hletters⟩ := List.forall₂_iff_get.mp h
  have hletter : SameLetter a.toList[i] b.toList[i] := hletters i hi (hlen ▸ hi)
  rw [hget] at hletter
  exact List.getElem?_eq_some_iff.mpr ⟨hlen ▸ hi, (hletter.eq_of_not_isAscii hc).symm⟩

/-- **A name with a character beyond ASCII in it is the name of no function.** -/
theorem function?_eq_none_of_not_isAscii (hc : ¬ c.isAscii) (ha : a.toList[i]? = some c) :
    function? a = none := by
  have key : ∀ name ∈ functions.map Function.name, name.toList.all Char.isAscii := by
    decide +kernel
  rw [Option.eq_none_iff_forall_ne_some]
  intro f hf
  have hname : f.name.toList[i]? = some c := (caseVariant_of_function? hf).getElem?_eq_some hc ha
  have hall := key f.name (List.mem_map_of_mem (mem_of_function? hf))
  exact hc (List.all_eq_true.mp hall c (List.mem_of_getElem? hname))

end Names

/-! ## What is found under a name -/

/-- **Two functions that are one but for their names** and the lines on their use. -/
structure Interchangeable (f g : Function) : Prop where
  least : f.least = g.least
  most : f.most = g.most
  plan : f.plan = g.plan

theorem Interchangeable.refl (f : Function) : Interchangeable f f := ⟨rfl, rfl, rfl⟩

theorem Interchangeable.symm {f g : Function} (h : Interchangeable f g) : Interchangeable g f :=
  ⟨h.least.symm, h.most.symm, h.plan.symm⟩

/-- Both names of a function that has two are in the catalog, for the same plan. -/
theorem exists_function?_of_mem_aliases {p q : String} (h : (p, q) ∈ aliases) :
    ∃ f g, function? p = some f ∧ function? q = some g ∧ Interchangeable f g := by
  simp only [aliases, List.mem_cons, Prod.mk.injEq, List.not_mem_nil, or_false] at h
  rcases h with ⟨rfl, rfl⟩ | ⟨rfl, rfl⟩ | ⟨rfl, rfl⟩ | ⟨rfl, rfl⟩ | ⟨rfl, rfl⟩ <;>
    exact ⟨_, _, rfl, rfl, rfl, rfl, rfl⟩

section Spellings

variable {a b : String} {i : Nat} {c : Char}

/-- **Names are spelled alike** if they are in lower case one name, or two for one function. -/
theorem spelledAlike_iff :
    SpelledAlike a b ↔ foldName a = foldName b ∨
      (foldName a, foldName b) ∈ aliases ∨ (foldName b, foldName a) ∈ aliases := by
  have hlower : ∀ p ∈ aliases, foldName p.1 = p.1 ∧ foldName p.2 = p.2 := by decide
  constructor
  · rintro ⟨p, q, ha, hb, h⟩
    rw [← foldName_eq_foldName_iff] at ha hb
    rw [ha, hb]
    rcases h with rfl | h | h
    · exact Or.inl rfl
    · obtain ⟨hp, hq⟩ := hlower _ h
      exact Or.inr (Or.inl (by rwa [hp, hq]))
    · obtain ⟨hq, hp⟩ := hlower _ h
      exact Or.inr (Or.inr (by rwa [hp, hq]))
  · exact fun h => ⟨_, _, caseVariant_foldName a, caseVariant_foldName b, h⟩

instance (a b : String) : Decidable (SpelledAlike a b) := decidable_of_iff _ spelledAlike_iff.symm

/-- **Under two spellings of a name the same is found**: no function under either of them, or
functions that are one but for their names. -/
theorem SpelledAlike.rel_function? (h : SpelledAlike a b) :
    Option.Rel Interchangeable (function? a) (function? b) := by
  obtain ⟨p, q, ha, hb, rfl | halias | halias⟩ := h
  · rw [ha.function?_eq, hb.function?_eq]
    cases function? p with
    | none => exact .none
    | some f => exact .some (.refl f)
  · obtain ⟨f, g, hf, hg, hfg⟩ := exists_function?_of_mem_aliases halias
    rw [ha.function?_eq, hb.function?_eq, hf, hg]
    exact .some hfg
  · obtain ⟨g, f, hg, hf, hfg⟩ := exists_function?_of_mem_aliases halias
    rw [ha.function?_eq, hb.function?_eq, hf, hg]
    exact .some hfg.symm

/-- **Two spellings differ in ASCII characters only.** -/
theorem SpelledAlike.getElem?_eq_some (h : SpelledAlike a b) (hc : ¬ c.isAscii)
    (ha : a.toList[i]? = some c) : b.toList[i]? = some c := by
  obtain ⟨p, q, hap, hbq, hpq⟩ := h
  have hp : p.toList[i]? = some c := hap.getElem?_eq_some hc ha
  have hnone : function? p = none := function?_eq_none_of_not_isAscii hc hp
  rcases hpq with rfl | halias | halias
  · exact hbq.symm.getElem?_eq_some hc hp
  · obtain ⟨f, g, hf, -⟩ := exists_function?_of_mem_aliases halias
    rw [hnone] at hf
    cases hf
  · obtain ⟨f, g, -, hg, -⟩ := exists_function?_of_mem_aliases halias
    rw [hnone] at hg
    cases hg

end Spellings

end Builtin

end Formula
