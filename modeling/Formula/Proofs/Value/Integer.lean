import Formula.Proofs.Decimal.Naturals
import Formula.Proofs.Value.Order

/-!
# Proofs/Value/Integer — the integer reading of a number that is not negative

A number from zero on is a finite one with a rational value, or infinity.  Its integer is the whole
part of that value as long as this stays below `integerBound`.  From there on the integer is the
greatest one of 64 bits, to which the conversion saturates; and that is the integer which stands for
no integer, so that these numbers have no integer reading (`Value.integer?_of_nonneg`).

The greatest integer of 64 bits is not the whole part of any number: it is odd, and a number of its
size is a multiple of a high power of two (`Magnitude.floor_ne`).
-/

namespace Formula

namespace Decimal

/-- **The whole part of a size** is that of its value. -/
theorem Magnitude.floor_eq (d : Magnitude) : d.floor = ⌊d.value⌋₊ := by
  obtain ⟨m, e⟩ := d
  rw [floor, ratio, value]
  by_cases he : 0 ≤ e
  · obtain ⟨k, rfl⟩ := Int.eq_ofNat_of_zero_le he
    have hvalue : (m : ℚ) * 2 ^ (k : Int) = (m * 2 ^ k : Nat) := by
      rw [zpow_natCast]
      push_cast
      rfl
    rw [if_pos he, hvalue, Nat.floor_natCast, Int.toNat_natCast, Nat.shiftLeft_eq, Nat.div_one]
  · obtain ⟨k, rfl⟩ : ∃ k : Nat, e = -k := ⟨(-e).toNat, by omega⟩
    have hvalue : (m : ℚ) * 2 ^ (-k : Int) = m / (2 ^ k : Nat) := by
      rw [zpow_neg, zpow_natCast, div_eq_mul_inv]
      push_cast
      rfl
    rw [if_neg he, hvalue, Nat.floor_div_eq_div, neg_neg, Int.toNat_natCast, Nat.one_shiftLeft]

/-- **The kinds of numbers from zero on**: zero of either sign, positive finite numbers, and
infinity. -/
theorem Shape.of_nonneg {x : Float} (hx : 0 ≤ x) :
    (∃ negative, Shape.of x = .finite negative ⟨0, 0⟩) ∨
      (∃ size, Shape.of x = .finite false size) ∨ Shape.of x = .infinite false := by
  have hcompare := (Number.le_iff_compare 0 x).mp hx
  have hzero : (0 : Float).toModel.unpack = .zero .positive := rfl
  rw [hzero] at hcompare
  rw [Shape.of]
  generalize x.toModel.unpack = parts at hcompare ⊢
  cases parts with
  | notANumber => cases hcompare
  | zero sign => exact Or.inl ⟨_, rfl⟩
  | infinity sign =>
    cases sign with
    | negative => cases hcompare
    | positive => exact Or.inr (Or.inr rfl)
  | finite sign mantissa exponent hpos =>
    cases sign with
    | negative => cases hcompare
    | positive => exact Or.inr (Or.inl ⟨_, rfl⟩)

theorem Shape.of_eq_nan_iff {x : Float} : Shape.of x = .nan ↔ x.isNaN := by
  change _ ↔ x.toModel.unpack.isNaN = true
  rw [Shape.of]
  cases x.toModel.unpack <;> simp [Float.Model.UnpackedFloat.isNaN]

/-- **The mantissa of a number** has 53 bits. -/
theorem Shape.mantissa_lt {x : Float} {negative : Bool} {size : Magnitude}
    (h : Shape.of x = .finite negative size) : size.mantissa < 2 ^ 53 := by
  rw [Shape.of] at h
  cases hparts : x.toModel.unpack with
  | notANumber => rw [hparts] at h; cases h
  | infinity sign => rw [hparts] at h; cases h
  | zero sign => rw [hparts] at h; cases h; decide
  | finite sign mantissa exponent hpos =>
    rw [hparts] at h
    cases h
    rw [Float.Model.unpack, Float.Model.UnpackedFloat.unpack] at hparts
    dsimp only at hparts
    split_ifs at hparts
    · cases hparts
      exact (BitVec.isLt _).trans (by decide)
    · cases hparts
      exact BitVec.isLt _

/-- A size with 53 bits is not the greatest integer of 64 bits. -/
theorem Magnitude.floor_ne {d : Magnitude} (h : d.mantissa < 2 ^ 53) : d.floor ≠ 2 ^ 63 - 1 := by
  obtain ⟨m, e⟩ := d
  rw [floor, ratio]
  dsimp only at h ⊢
  by_cases he : 0 ≤ e
  · rw [if_pos he, Nat.div_one, Nat.shiftLeft_eq]
    rcases e.toNat with _ | k
    · rw [Nat.pow_zero, Nat.mul_one]
      omega
    · rw [Nat.pow_succ, ← Nat.mul_assoc]
      omega
  · rw [if_neg he]
    have hle := Nat.div_le_self m (1 <<< (-e).toNat)
    dsimp only
    omega

end Decimal

namespace Value

/-- The bound below which 64-bit integers stay. -/
def integerBound : Int := 9223372036854775808

/-- **The integer reading of a value**, if it has one. -/
def integer? (v : Value) : Option Int :=
  if v.toInteger = notAnInteger then none else some v.toInteger.toInt

/-- **Conversion saturates** at the integer that stands for none, and comes to it in no other way.
-/
theorem integer?_of_saturate {x : Float} {size : Decimal.Magnitude} {negative : Bool}
    (hshape : Decimal.Shape.of x = .finite negative size)
    (hsaturate : Decimal.saturate x = .ofIntClamp size.floor) :
    (number x).integer? =
      if (size.floor : Int) < integerBound then some (size.floor : Int) else none := by
  have hnan : ¬ x.isNaN := fun h => by
    rw [Decimal.Shape.of_eq_nan_iff.mpr h] at hshape
    cases hshape
  have hinteger : (number x).toInteger = .ofIntClamp size.floor := by
    rw [toInteger, if_neg hnan, hsaturate]
  have hleast : Int64.minValue.toInt ≤ size.floor := by
    have hmin : Int64.minValue.toInt = -9223372036854775808 := rfl
    omega
  have hmost : Int64.maxValue.toInt = integerBound - 1 := rfl
  rw [integer?, hinteger]
  by_cases hlt : (size.floor : Int) < integerBound
  · have hvalue := Int64.toInt_ofIntClamp hleast (by omega)
    have hne : Int64.ofIntClamp size.floor ≠ notAnInteger := fun heq => by
      rw [heq, notAnInteger, hmost] at hvalue
      refine Decimal.Magnitude.floor_ne (Decimal.Shape.mantissa_lt hshape) ?_
      rw [integerBound] at hvalue
      omega
    rw [if_neg hne, if_pos hlt, hvalue]
  · have heq : Int64.ofIntClamp size.floor = notAnInteger := by
      rw [Int64.ofIntClamp, dif_pos hleast, dif_neg (by omega), notAnInteger]
    rw [if_pos heq, if_neg hlt]

/-- **The integer reading of a number from zero on** is the whole part of its value, which must be
below `integerBound`. -/
theorem integer?_of_nonneg {x : Float} (hx : 0 ≤ x) :
    (number x).integer? =
      ((Decimal.value? x).filter fun q => q < (integerBound : ℚ)).map fun q => (⌊q⌋₊ : Int) := by
  rcases Decimal.Shape.of_nonneg hx with ⟨negative, hshape⟩ | ⟨size, hshape⟩ | hshape
  · have hvalue : Decimal.value? x = some 0 := by
      rw [Decimal.value?, hshape]
      cases negative <;> simp [Decimal.Magnitude.value]
    have hfloor : (⟨0, 0⟩ : Decimal.Magnitude).floor = 0 := rfl
    have hsaturate : Decimal.saturate x = .ofIntClamp (⟨0, 0⟩ : Decimal.Magnitude).floor := by
      rw [Decimal.saturate, hshape]
      cases negative <;> rfl
    have hbound : (0 : ℚ) < (integerBound : ℚ) := by norm_num [integerBound]
    rw [hvalue, Option.filter_some, if_pos (decide_eq_true hbound), Option.map_some, Nat.floor_zero,
      integer?_of_saturate hshape hsaturate, hfloor]
    rfl
  · have hvalue : Decimal.value? x = some size.value := by simp [Decimal.value?, hshape]
    have hpos : 0 ≤ size.value := by
      rw [Decimal.Magnitude.value]
      positivity
    have hlt : (size.floor : Int) < integerBound ↔ size.value < (integerBound : ℚ) := by
      have hbound : integerBound = (9223372036854775808 : Nat) := rfl
      rw [Decimal.Magnitude.floor_eq, hbound, Int.ofNat_lt, Nat.floor_lt hpos, Int.cast_natCast]
    have hsaturate : Decimal.saturate x = .ofIntClamp size.floor := by
      rw [Decimal.saturate, hshape]
      rfl
    rw [integer?_of_saturate hshape hsaturate]
    simp only [hvalue, hlt, Option.filter_some, decide_eq_true_eq]
    split
    · rw [Option.map_some, Decimal.Magnitude.floor_eq]
    · rfl
  · have hinteger : (number x).toInteger = notAnInteger := by
      have hnan : ¬ x.isNaN := fun h => by
        rw [Decimal.Shape.of_eq_nan_iff.mpr h] at hshape
        cases hshape
      rw [toInteger, if_neg hnan, Decimal.saturate, hshape]
      rfl
    rw [integer?, if_pos hinteger, Decimal.value?, hshape]
    rfl

end Value

end Formula
