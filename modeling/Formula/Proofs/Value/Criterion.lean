import Formula.Proofs.Text.Trimming
import Formula.Value.Criterion

/-!
# Proofs/Value/Criterion — a criterion with a sign and an operand

A text that is a sign and then anything else is read as that comparison with the operand that the
rest writes, blanks around the rest not counted (`ofText_append`).  An operand that is no number
differs from every number (`accepts_number_of_ofText?_eq_none`).  Of the criteria "equal" and
"different" with one operand a value meets one, whatever can be compared (`holds_ne_iff`).
-/

namespace Formula

open Text (isBlank skipBlanks trim trimChars)

namespace Criterion

/-! ## Signs -/

/-- **A sign and an operand.**  The sign must be told from any longer one, whatever follows it. -/
theorem ofText_append {sign : String} {comparison : Comparison} (hne : sign ≠ "")
    (hsign : sign.toList.all fun c => !isBlank c)
    (hsplit : ∀ rest, splitSign (sign.toList ++ rest) = (comparison, rest)) (s : String) :
    ofText (sign ++ s) = ⟨comparison, operandOfText (trim s)⟩ := by
  have hnil : sign.toList ≠ [] := fun h => hne (String.toList_eq_nil_iff.mp h)
  have hblank : ∀ c ∈ sign.toList, ¬isBlank c := fun c hc => by
    simpa using List.all_eq_true.mp hsign c hc
  rw [ofText, String.toList_append, Text.trimChars_append hnil hblank, hsplit]
  dsimp only
  rw [Text.trimChars_trimEnd, trim]

/-- The criterion "different from". -/
theorem ofText_ne (s : String) : ofText ("<>" ++ s) = ⟨.ne, operandOfText (trim s)⟩ :=
  ofText_append (by decide) (by decide) (fun _ => rfl) s

/-- Its other sign. -/
theorem ofText_bang (s : String) : ofText ("!=" ++ s) = ⟨.ne, operandOfText (trim s)⟩ :=
  ofText_append (by decide) (by decide) (fun _ => rfl) s

/-- The criterion "equal to". -/
theorem ofText_eq (s : String) : ofText ("=" ++ s) = ⟨.eq, operandOfText (trim s)⟩ :=
  ofText_append (by decide) (by decide) (fun _ => rfl) s

/-! ## Values that meet a criterion -/

/-- A value meets a criterion if it compares with the operand as the criterion asks. -/
def Meets (c : Criterion) (v : Value) : Prop := c.comparison.holds (v.compare? c.operand)

/-- A cell meets a criterion if it has a value that does. -/
def MetBy (c : Criterion) (cell : Cell) : Prop := ∃ v, Value.ofCell? cell = some v ∧ c.Meets v

/-- **The cells that are counted** are those that meet the criterion. -/
theorem accepts_iff {c : Criterion} {cell : Cell} : c.accepts cell ↔ c.MetBy cell := by
  rw [accepts, MetBy]
  cases Value.ofCell? cell with
  | none => exact ⟨nofun, fun ⟨_, h, _⟩ => nomatch h⟩
  | some v =>
    constructor
    · exact fun h => ⟨v, rfl, h⟩
    · rintro ⟨w, hw, hmeets⟩
      rwa [Option.some.inj hw]

theorem accepts_eq_metBy (c : Criterion) : (fun cell => (c.accepts cell : Prop)) = c.MetBy :=
  funext fun _ => propext accepts_iff

/-- **Of "equal" and "different" one holds**, of an incomparable pair the second. -/
theorem holds_ne_iff (o : Option Ordering) : Comparison.ne.holds o ↔ ¬Comparison.eq.holds o := by
  rw [Comparison.holds_ne, Bool.not_eq_true', Bool.not_eq_true]

/-! ## Operands -/

/-- A text that reads as no number names no number. -/
theorem operandOfText_ne_number {s : String} (h : Decimal.ofText? s = none) (x : Float) :
    operandOfText s ≠ .number x := by
  rw [operandOfText, h]
  dsimp only
  split
  · exact nofun
  · split <;> exact nofun

/-- **Every number differs from an operand that is none.** -/
theorem accepts_number_of_ofText?_eq_none {s : String} (h : Decimal.ofText? (trim s) = none)
    (x : Float) : (ofText ("<>" ++ s)).accepts (.number x) := by
  rw [ofText_ne, accepts, Value.ofCell?]
  have hoperand := operandOfText_ne_number h
  generalize operandOfText (trim s) = v at hoperand
  cases v with
  | number y => exact absurd rfl (hoperand y)
  | text t => rfl
  | bool b => rfl
  | date t => rfl

end Criterion

end Formula
