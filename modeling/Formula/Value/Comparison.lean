import Formula.Value.Basic

/-!
# Value/Comparison — the six comparisons

A comparison asks about the order of two values.  Of an incomparable pair only `≠` holds.
-/

namespace Formula

/-- **A comparison of two values.** -/
inductive Comparison where
  | lt
  | le
  | gt
  | ge
  | eq
  | ne
deriving DecidableEq

namespace Comparison

/-- Every comparison, in the order in which they are listed. -/
def all : List Comparison := [lt, le, gt, ge, eq, ne]

/-- The sign of a comparison. -/
def sign : Comparison → String
  | lt => "<"
  | le => "<="
  | gt => ">"
  | ge => ">="
  | eq => "="
  | ne => "!="

/-- **Whether a comparison holds** of a pair with a given order. -/
def holds : Comparison → Option Ordering → Bool
  | lt, some o => o.isLT
  | le, some o => o.isLE
  | gt, some o => o.isGT
  | ge, some o => o.isGE
  | eq, some o => o.isEq
  | ne, some o => o.isNe
  | ne, none => true
  | _, none => false

/-! ## What the signs say -/

section Signs

variable (o : Option Ordering)

/-- "Different" is "not equal". -/
theorem holds_ne : ne.holds o = !eq.holds o := by
  cases o with
  | none => rfl
  | some o => cases o <;> rfl

/-- "Less or equal" is what it says. -/
theorem holds_le : le.holds o = (lt.holds o || eq.holds o) := by
  cases o with
  | none => rfl
  | some o => cases o <;> rfl

/-- "Greater or equal" is what it says. -/
theorem holds_ge : ge.holds o = (gt.holds o || eq.holds o) := by
  cases o with
  | none => rfl
  | some o => cases o <;> rfl

end Signs

/-- **Of an incomparable pair only "different" holds.** -/
theorem holds_none_iff (r : Comparison) : r.holds none ↔ r = ne := by
  cases r <;> decide

end Comparison

end Formula
