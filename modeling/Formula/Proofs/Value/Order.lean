import Formula.Value.Comparison
import Formula.Proofs.Calendar.Order
import Mathlib

/-!
# Proofs/Value/Order — the order of values and the comparisons that cut it

Every value except what is no number has a **place** among the values of its kind, a list of
integers: a text its code points, an instant what the calendar shows of it, a number its sign,
exponent and mantissa.  `Value.compare?_eq_place` says that two values of one kind compare as their
places do, lexicographically, and that no others compare.

So the order of values is a linear order in each of four kinds, and `Value.comparisons_cut_order`
reads off it what a partial order and the six comparisons have to satisfy.
-/

namespace Formula

/-! ## Places -/

/-- **The order of two places**, if there are two. -/
def comparePlaces? (p q : Option (List Int)) : Option Ordering :=
  p.bind fun p => q.map (compare p)

theorem comparePlaces?_eq_some_iff {p q : Option (List Int)} {o : Ordering} :
    comparePlaces? p q = some o ↔ ∃ p', p = some p' ∧ ∃ q', q = some q' ∧ compare p' q' = o := by
  simp only [comparePlaces?, Option.bind_eq_some_iff, Option.map_eq_some_iff]

theorem comparePlaces?_swap (p q : Option (List Int)) :
    comparePlaces? q p = (comparePlaces? p q).map Ordering.swap := by
  cases p with
  | none => cases q <;> rfl
  | some p =>
    cases q with
    | none => rfl
    | some q => exact congrArg some Std.OrientedOrd.eq_swap

/-! ## Numbers -/

namespace Number

open Float.Model.UnpackedFloat

/-- The place of a number that is given by its parts. -/
def placeOfParts? : Float.Model.UnpackedFloat → Option (List Int)
  | .notANumber => none
  | .infinity .negative => some [-2]
  | .finite .negative mantissa exponent _ => some [-1, -exponent, -mantissa]
  | .zero _ => some [0]
  | .finite .positive mantissa exponent _ => some [1, exponent, mantissa]
  | .infinity .positive => some [2]

/-- **The place of a number**; what is no number has none. -/
def place? (x : Float) : Option (List Int) := placeOfParts? x.toModel.unpack

theorem compare_neg (a b : Int) : compare (-a) (-b) = compare b a := by
  simp only [Int.compare_eq_ite_lt, Int.neg_lt_neg_iff]

theorem compare_natCast (m n : Nat) : compare (m : Int) (n : Int) = compare m n := by
  simp only [Int.compare_eq_ite_lt, Nat.compare_eq_ite_lt, Int.ofNat_lt]

/-- **Parts compare as places do.**  Where the signs differ nothing is left to compare; below zero
exponent and mantissa count backwards. -/
theorem compare_eq_placeOfParts (a b : Float.Model.UnpackedFloat) :
    a.compare b = comparePlaces? (placeOfParts? a) (placeOfParts? b) := by
  rcases a with (_ | _) | _ | _ | ⟨_ | _, m, e, _⟩ <;>
    rcases b with (_ | _) | _ | _ | ⟨_ | _, n, f, _⟩
  case finite.negative.finite.negative =>
    rw [Float.Model.UnpackedFloat.compare, Ordering.swap_then, ← Std.OrientedOrd.eq_swap,
      ← Std.OrientedOrd.eq_swap]
    simp [comparePlaces?, placeOfParts?, compare_neg, compare_natCast]
  case finite.positive.finite.positive =>
    rw [Float.Model.UnpackedFloat.compare]
    simp [comparePlaces?, placeOfParts?, compare_natCast]
  all_goals rfl

theorem lt_iff_compare (x y : Float) :
    x < y ↔ x.toModel.unpack.compare y.toModel.unpack = some .lt :=
  decide_eq_true_iff.trans
    (beq_iff_eq (a := x.toModel.unpack.compare y.toModel.unpack) (b := some .lt))

theorem beq_iff_compare (x y : Float) :
    x == y ↔ x.toModel.unpack.compare y.toModel.unpack = some .eq :=
  beq_iff_eq (a := x.toModel.unpack.compare y.toModel.unpack)

theorem le_iff_compare (x y : Float) :
    x ≤ y ↔ (x.toModel.unpack.compare y.toModel.unpack).any (·.isLE) := decide_eq_true_iff

/-- What is no number is what has no place. -/
theorem place?_eq_none_iff {x : Float} : place? x = none ↔ x.isNaN := by
  change placeOfParts? x.toModel.unpack = none ↔ x.toModel.unpack.isNaN = true
  rcases x.toModel.unpack with (_ | _) | _ | _ | ⟨_ | _, m, e, _⟩ <;>
    simp [placeOfParts?, Float.Model.UnpackedFloat.isNaN]

end Number

/-! ## Texts -/

/-- The code points of a text. -/
def codePoints (s : String) : List Int := s.toList.map fun c => (c.toNat : Int)

theorem codePoints_injective {s t : String} (h : codePoints s = codePoints t) : s = t := by
  refine String.toList_injective (List.map_injective_iff.mpr (fun c d hcd => ?_) h)
  exact Char.toNat_inj.mp (Int.natCast_inj.mp hcd)

/-- Characters that differ first decide the order of two texts. -/
theorem lt_of_compare_codes {cs ds : List Char}
    (h : compare (cs.map fun c => (c.toNat : Int)) (ds.map fun c => (c.toNat : Int)) = .lt) :
    cs < ds := by
  induction cs generalizing ds with
  | nil =>
    cases ds with
    | nil => cases h
    | cons d ds => exact List.nil_lt_cons d ds
  | cons c cs ih =>
    cases ds with
    | nil => cases h
    | cons d ds =>
      rw [List.map_cons, List.map_cons, List.compare_cons_cons, Ordering.then_eq_lt,
        Int.compare_eq_lt, Int.compare_eq_eq, Int.ofNat_lt, Int.natCast_inj] at h
      rw [List.cons_lt_cons_iff]
      exact h.imp (Char.lt_def.trans UInt32.lt_iff_toNat_lt).mpr (And.imp Char.toNat_inj.mp ih)

/-- **Texts are ordered by code point.** -/
theorem compare_eq_codePoints (s t : String) :
    compare s t = compare (codePoints s) (codePoints t) := by
  refine compare_eq_of_lt codePoints_injective (fun h => ?_) s t
  exact compare_lt_iff_lt.mpr (String.lt_iff_toList_lt.mpr (lt_of_compare_codes h))

namespace Value

/-- Whether a value is a number that is none. -/
def isNaN : Value → Bool
  | number x => x.isNaN
  | _ => false

/-- **The place of a value** among those of its kind. -/
def place? : Value → Option (List Int)
  | number x => Number.place? x
  | text s => some (codePoints s)
  | bool b => some [if b then 1 else 0]
  | date t => some t.calendar

/-- What has no place is no number. -/
theorem place?_eq_none_iff {a : Value} : a.place? = none ↔ a.isNaN := by
  cases a with
  | number x => exact Number.place?_eq_none_iff
  | text | bool | date => exact ⟨nofun, nofun⟩

theorem compareNumbers_eq_compare (x y : Float) :
    compareNumbers x y = x.toModel.unpack.compare y.toModel.unpack := by
  have hswap : y.toModel.unpack.compare x.toModel.unpack
      = (x.toModel.unpack.compare y.toModel.unpack).map Ordering.swap := by
    rw [Number.compare_eq_placeOfParts, Number.compare_eq_placeOfParts, comparePlaces?_swap]
  simp only [compareNumbers, Number.lt_iff_compare, Number.beq_iff_compare, hswap]
  rcases x.toModel.unpack.compare y.toModel.unpack with _ | _ | _ | _ <;> rfl

/-- **Values compare as their places do**, within one kind. -/
theorem compare?_eq_place (a b : Value) :
    a.compare? b = if a.kindName = b.kindName then comparePlaces? a.place? b.place? else none := by
  cases a <;> cases b
  case number.number x y =>
    exact (compareNumbers_eq_compare x y).trans (Number.compare_eq_placeOfParts _ _)
  case text.text s t => exact congrArg some (compare_eq_codePoints s t)
  case bool.bool p q => cases p <;> cases q <;> rfl
  case date.date t u => exact congrArg some (Calendar.DateTime.compare_eq_calendar t u)
  all_goals rfl

/-! ## A partial order -/

variable {a b c : Value} {o o' : Ordering}

/-- **Two values are comparable** if they are of one kind and neither is what is no number. -/
def Comparable (a b : Value) : Prop := a.kindName = b.kindName ∧ ¬a.isNaN ∧ ¬b.isNaN

instance : Decidable (a.Comparable b) := inferInstanceAs (Decidable (_ ∧ _))

theorem compare?_eq_some_iff : a.compare? b = some o ↔ a.kindName = b.kindName ∧
    ∃ p, a.place? = some p ∧ ∃ q, b.place? = some q ∧ compare p q = o := by
  rw [compare?_eq_place, Option.ite_none_right_eq_some, comparePlaces?_eq_some_iff]

/-- **Comparable values have an order, and no others.** -/
theorem isSome_compare?_iff : (a.compare? b).isSome ↔ a.Comparable b := by
  rw [compare?_eq_place, Comparable, ← place?_eq_none_iff, ← place?_eq_none_iff]
  cases a.place? <;> cases b.place? <;> simp [comparePlaces?]

/-- **Read from the other side the order is reversed.** -/
theorem compare?_swap (a b : Value) : b.compare? a = (a.compare? b).map Ordering.swap := by
  rw [compare?_eq_place, compare?_eq_place, comparePlaces?_swap,
    apply_ite (Option.map Ordering.swap)]
  exact if_congr eq_comm rfl rfl

/-- **The order is transitive.** -/
theorem compare?_isLE_trans (hab : a.compare? b = some o) (hle : o.isLE)
    (hbc : b.compare? c = some o') (hle' : o'.isLE) :
    ∃ o, a.compare? c = some o ∧ o.isLE := by
  obtain ⟨hkind, p, hp, q, hq, rfl⟩ := compare?_eq_some_iff.mp hab
  obtain ⟨hkind', q', hq', r, hr, rfl⟩ := compare?_eq_some_iff.mp hbc
  obtain rfl : q = q' := Option.some.inj (hq.symm.trans hq')
  exact ⟨compare p r, compare?_eq_some_iff.mpr ⟨hkind.trans hkind', p, hp, r, hr, rfl⟩,
    Std.TransOrd.isLE_trans hle hle'⟩

end Value

/-! ## Comparisons -/

namespace Comparison

/-- **Whether a comparison holds between two values.** -/
def between (r : Comparison) (a b : Value) : Bool := r.holds (a.compare? b)

/-- The comparison that holds from the other side. -/
def converse : Comparison → Comparison
  | lt => gt
  | le => ge
  | gt => lt
  | ge => le
  | eq => eq
  | ne => ne

theorem holds_converse (r : Comparison) (o : Option Ordering) :
    r.converse.holds (o.map Ordering.swap) = r.holds o := by
  rcases o with _ | _ | _ | _ <;> cases r <;> rfl

variable {o : Option Ordering}

theorem holds_lt_iff : lt.holds o ↔ o = some .lt := by
  rcases o with _ | _ | _ | _ <;> decide

theorem holds_eq_iff : eq.holds o ↔ o = some .eq := by
  rcases o with _ | _ | _ | _ <;> decide

theorem holds_le_iff : le.holds o ↔ ∃ o', o = some o' ∧ o'.isLE := by
  cases o <;> simp [holds]

/-- Whether a comparison holds of a number that stands for an order. -/
def cuts : Comparison → Float → Bool
  | lt, x => x < 0
  | le, x => x ≤ 0
  | gt, x => 0 < x
  | ge, x => 0 ≤ x
  | eq, x => x == 0
  | ne, x => x != 0

/-- **A comparison cuts the numbers of the orders at zero.** -/
theorem holds_eq_cuts (r : Comparison) (o : Option Ordering) :
    r.holds o = r.cuts (Value.orderNumber o) := by
  rcases o with _ | _ | _ | _ <;> cases r <;> decide

/-- Of "less", "equal" and "greater" one holds where there is an order, and none elsewhere. -/
theorem countP_holds (o : Option Ordering) :
    [lt, eq, gt].countP (·.holds o) = if o.isSome then 1 else 0 := by
  rcases o with _ | _ | _ | _ <;> rfl

end Comparison

namespace Value

open Comparison

/-! ## The order as a number -/

theorem orderNumber_mem (o : Option Ordering) : orderNumber o ∈ [-1, 0, 1, Number.nan] := by
  rcases o with _ | _ | _ | _ <;> simp [orderNumber]

theorem isNaN_orderNumber (o : Option Ordering) : (orderNumber o).isNaN ↔ ¬o.isSome := by
  rcases o with _ | _ | _ | _ <;> decide

/-- The reversed order is the negated number, and no number remains none. -/
theorem orderNumber_swap (o : Option Ordering) :
    orderNumber (o.map Ordering.swap) == -orderNumber o ∨
      (orderNumber o).isNaN ∧ (orderNumber (o.map Ordering.swap)).isNaN := by
  rcases o with _ | _ | _ | _ <;> decide

theorem between_number (r : Comparison) (x y : Float) : r.between (.number x) (.number y)
    = r.holds (x.toModel.unpack.compare y.toModel.unpack) :=
  congrArg r.holds (compareNumbers_eq_compare x y)

/-- **The values are partially ordered, and the comparisons cut the order.** -/
theorem comparisons_cut_order (a b c : Value) :
    -- The order is a number or none, and reading it backwards negates it.
    (a.order b ∈ [-1, 0, 1, Number.nan] ∧ ((a.order b).isNaN ↔ ¬a.Comparable b) ∧
      (b.order a == -a.order b ∨ (a.order b).isNaN ∧ (b.order a).isNaN)) ∧
    -- It is transitive, and a linear order of what is comparable.
    ((le.between a b → le.between b c → le.between a c) ∧
      [lt, eq, gt].countP (·.between a b) = if a.Comparable b then 1 else 0) ∧
    -- The comparisons depend on each other, from one side and from both.
    (ne.between a b = !eq.between a b ∧ le.between a b = (lt.between a b || eq.between a b) ∧
      ge.between a b = (gt.between a b || eq.between a b) ∧
      lt.between a b = gt.between b a ∧ le.between a b = ge.between b a) ∧
    -- They cut the number of the order at zero; where it is none, only "different" holds.
    ((∀ r : Comparison, r.between a b = r.cuts (a.order b)) ∧
      (¬a.Comparable b → ∀ r : Comparison, r.between a b ↔ r = ne)) ∧
    -- Numbers are ordered as such, instants as the calendar shows them, texts by code point.
    (∀ x y, (lt.between (number x) (number y) ↔ x < y) ∧
      (le.between (number x) (number y) ↔ x ≤ y) ∧ (eq.between (number x) (number y) ↔ x == y)) ∧
    (∀ t u, (date t).compare? (date u) = some (compare t.calendar u.calendar)) ∧
    (∀ s t, (text s).compare? (text t) = some (compare (codePoints s) (codePoints t))) := by
  have hsome : (a.compare? b).isSome ↔ a.Comparable b := isSome_compare?_iff
  have hconverse (r : Comparison) : r.between a b = r.converse.between b a := by
    rw [between, between, compare?_swap a b, holds_converse]
  refine ⟨⟨orderNumber_mem _, (isNaN_orderNumber _).trans (not_congr hsome), ?_⟩,
    ⟨fun hab hbc => ?_, (countP_holds _).trans (if_congr hsome rfl rfl)⟩,
    ⟨holds_ne _, holds_le _, holds_ge _, hconverse lt, hconverse le⟩,
    ⟨fun r => r.holds_eq_cuts _, fun h r => ?_⟩, fun x y => ⟨?_, ?_, ?_⟩, fun t u => ?_,
    fun s t => ?_⟩
  · rw [order, order, compare?_swap a b]
    exact orderNumber_swap _
  · obtain ⟨o, ho, hle⟩ := holds_le_iff.mp hab
    obtain ⟨o', ho', hle'⟩ := holds_le_iff.mp hbc
    exact holds_le_iff.mpr (compare?_isLE_trans ho hle ho' hle')
  · rw [← hsome, Option.not_isSome_iff_eq_none] at h
    rw [between, h]
    exact r.holds_none_iff
  · rw [between_number, Number.lt_iff_compare, holds_lt_iff]
  · rw [between_number, Number.le_iff_compare, holds_le_iff, Option.any_eq_true]
  · rw [between_number, Number.beq_iff_compare, holds_eq_iff]
  · exact congrArg some (Calendar.DateTime.compare_eq_calendar t u)
  · exact congrArg some (compare_eq_codePoints s t)

/-- The last half second of 2016, its leap second and the first instant of 2017 follow each other.
What is no number is different from a number, and neither less nor equal nor greater. -/
theorem comparisons_cut_order_new_year :
    let eve : Calendar.Date := ⟨736328, by decide, by decide⟩
    let before : Value := date ⟨eve, 86399, 500000000, by decide, by decide⟩
    let leap : Value := date ⟨eve, 86399, 1250000000, by decide, by decide⟩
    let after : Value := date (.atMidnight ⟨736329, by decide, by decide⟩)
    let noNumber : Value := number Number.nan
    (le.between before leap ∧ le.between leap after) ∧ le.between before after ∧
      ¬noNumber.Comparable (number 1) ∧
      ∀ r : Comparison, r.between noNumber (number 1) ↔ r = ne := by
  intro eve before leap after noNumber
  have hbefore : le.between before leap := by decide
  have hleap : le.between leap after := by decide
  have hnone : ¬noNumber.Comparable (number 1) := by decide
  obtain ⟨-, ⟨htrans, -⟩, -⟩ := comparisons_cut_order before leap after
  obtain ⟨-, -, -, ⟨-, hincomparable⟩, -⟩ := comparisons_cut_order noNumber (number 1) (number 1)
  exact ⟨⟨hbefore, hleap⟩, htrans hbefore hleap, hnone, hincomparable hnone⟩

end Value

end Formula
