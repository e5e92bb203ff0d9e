import Formula.Decimal.Exact
import Mathlib

/-!
# Proofs/Decimal/Naturals — small natural numbers are exact

A finite floating-point number has a rational **value** (`value?`).  A natural number below `2^53`
has at most 53 binary digits, so that it has a representation with a full mantissa (`IsNormal`),
which neither rounding (`roundWithAccuracy_exact`) nor packing into bits (`unpack_pack`) changes.
Its conversion has the natural number itself for its value (`value?_ofNat`).
-/

namespace Formula.Decimal

open Float.Model
open Float.Model.UnpackedFloat

/-! ## Values -/

/-- The size as a rational number. -/
def Magnitude.value (d : Magnitude) : ℚ := d.mantissa * 2 ^ d.exponent

/-- **The value of a finite number**, as a rational number. -/
def value? (x : Float) : Option ℚ :=
  match Shape.of x with
  | .finite negative size => some (if negative then -size.value else size.value)
  | _ => none

/-! ## Full mantissas -/

/-- **A full mantissa** of 53 binary digits and an exponent that is in range. -/
structure IsNormal (mantissa : Nat) (exponent : Int) : Prop where
  log2_eq : mantissa.log2 = 52
  le_exponent : -1074 ≤ exponent
  exponent_le : exponent ≤ 971

variable {m : Nat} {e : Int}

theorem IsNormal.pos (h : IsNormal m e) : 0 < m := by
  refine Nat.pos_of_ne_zero fun h0 => ?_
  have hlog := h.log2_eq
  rw [h0] at hlog
  exact absurd hlog (by decide)

theorem log2_mul_two_pow (hm : m ≠ 0) (k : Nat) : (m * 2 ^ k).log2 = m.log2 + k := by
  induction k with
  | zero => rw [Nat.pow_zero, Nat.mul_one, Nat.add_zero]
  | succ k ih =>
    have hne : m * 2 ^ k ≠ 0 := Nat.mul_ne_zero hm (Nat.pow_pos (by decide)).ne'
    rw [Nat.pow_succ', Nat.mul_left_comm, Nat.log2_two_mul hne, ih, Nat.add_assoc]

/-! ## Rounding -/

/-- Zeros at the end are shifted out without loss. -/
theorem shiftRight_exact (m k : Nat) :
    (⟨m * 2 ^ k, false, false⟩ : ExtendedMantissa) >>> k = ⟨m, false, false⟩ := by
  change k.repeat ExtendedMantissa.shiftRightOne _ = _
  induction k generalizing m with
  | zero => rw [Nat.pow_zero, Nat.mul_one]; rfl
  | succ k ih =>
    rw [Nat.repeat, Nat.pow_succ', ← Nat.mul_assoc, ih]
    simp [ExtendedMantissa.shiftRightOne]

/-- **A full mantissa is found again** behind zeros at its end. -/
theorem shiftToTargetExponent_exact (h : IsNormal m e) (k : Nat) :
    shiftToTargetExponent Format.binary64 (m * 2 ^ k) (e - k) .exact
      = (⟨m, false, false⟩, e) := by
  have hlog : (m * 2 ^ k).log2 = 52 + k := by rw [log2_mul_two_pow h.pos.ne', h.log2_eq]
  have hmin : Format.binary64.minExponent = -1074 := rfl
  have hbits : Format.binary64.mantissaBits = 53 := rfl
  have htarget : Format.binary64.targetExponent (totalExponent (m * 2 ^ k) (e - k)) = e := by
    have hle := h.le_exponent
    rw [Format.targetExponent, totalExponent, hlog, hmin, hbits]
    omega
  have hshift : (e - (e - k)).toNat = k := by omega
  rw [shiftToTargetExponent, htarget, shiftToExponent, hshift,
    ExtendedMantissa.ofMantissaAndAccuracy, shiftRight_exact, Int.sub_add_cancel]

/-- **Rounding leaves a full mantissa**, however many zeros follow it. -/
theorem roundWithAccuracy_exact (h : IsNormal m e) (s : Sign) (k : Nat) :
    roundWithAccuracy Format.binary64 s (m * 2 ^ k) (e - k) .exact = .finite s m e h.pos := by
  have hagain : shiftToTargetExponent Format.binary64 m e .exact = (⟨m, false, false⟩, e) := by
    have hzero := shiftToTargetExponent_exact h 0
    rwa [Nat.pow_zero, Nat.mul_one, Int.natCast_zero, Int.sub_zero] at hzero
  have hrounded : (⟨m, false, false⟩ : ExtendedMantissa).roundedMantissa = m := rfl
  rw [roundWithAccuracy, shiftToTargetExponent_exact h k]
  dsimp only
  rw [hrounded]
  simp only [hagain, h.pos.ne', ↓reduceDIte]

/-! ## Packing -/

/-- The bit that is left out of a full mantissa is its first. -/
theorem toNat_implicit_append (hm : m.log2 = 52) : (1#1 ++ BitVec.ofNat 52 m).toNat = m := by
  have hne : m ≠ 0 := by
    rintro rfl
    exact absurd hm (by decide)
  obtain ⟨hlow, hhigh⟩ := (Nat.log2_eq_iff hne).mp hm
  rw [BitVec.toNat_append, ← Nat.shiftLeft_add_eq_or_of_lt (BitVec.ofNat 52 m).isLt,
    BitVec.toNat_ofNat, Nat.shiftLeft_eq]
  change 1 * 2 ^ 52 + m % 2 ^ 52 = m
  omega

/-- A biased exponent that is neither the least, of subnormal numbers, nor the greatest, of
infinities. -/
theorem toNat_biased (b : Nat) (hpos : 0 < b) (hlt : b < 2047) :
    (BitVec.ofNat 11 b).toNat = b ∧ BitVec.ofNat 11 b ≠ -1#11 ∧ BitVec.ofNat 11 b ≠ 0#11 := by
  have hb : (BitVec.ofNat 11 b).toNat = b := by
    rw [BitVec.toNat_ofNat, Nat.mod_eq_of_lt (by omega)]
  have hones : (-1#11).toNat = 2047 := rfl
  have hzeros : (0#11).toNat = 0 := rfl
  refine ⟨hb, fun h => ?_, fun h => ?_⟩
  · rw [h, hones] at hb
    omega
  · rw [h, hzeros] at hb
    omega

/-- The bits of a full mantissa: its exponent is biased, and its first digit left out. -/
theorem pack_eq (h : IsNormal m e) (s : Sign) {b : Nat} (hb : e + 1075 = b) :
    UnpackedFloat.pack Format.binary64 (.finite s m e h.pos)
      = packComponents Format.binary64 s (BitVec.ofNat 11 b) (BitVec.ofNat 52 m) := by
  have hbias : (e + (Format.binary64.exponentBias : Nat)
      + (Format.binary64.mantissaBitsWithoutImplicit : Nat)).toNat = b := by
    change (e + 1023 + 52).toNat = b
    omega
  have hfits : ¬2 ^ Format.binary64.exponentBits ≤ b + 1 := by
    have hge := h.exponent_le
    change ¬2048 ≤ b + 1
    omega
  have hfull : m.log2 + 1 = Format.binary64.mantissaBits := by rw [h.log2_eq]; rfl
  rw [UnpackedFloat.pack]
  dsimp only
  rw [hbias, if_neg hfits, if_pos hfull]

/-- **A full mantissa goes through the bits** of a number unchanged. -/
theorem unpack_pack (h : IsNormal m e) (s : Sign) :
    (Float.Model.pack (.finite s m e h.pos)).unpack = .finite s m e h.pos := by
  have hle := h.le_exponent
  have hge := h.exponent_le
  obtain ⟨b, hb⟩ : ∃ b : Nat, e + 1075 = b := Int.eq_ofNat_of_zero_le (by omega)
  obtain ⟨hexponent, hones, hzeros⟩ := toNat_biased b (by omega) (by omega)
  have hbias : (b : Int) - ((Format.binary64.exponentBias : Nat)
      + (Format.binary64.mantissaBitsWithoutImplicit : Nat)) = e := by
    change (b : Int) - (1023 + 52) = e
    omega
  change UnpackedFloat.unpack Format.binary64 (UnpackedFloat.pack Format.binary64 _) = _
  rw [pack_eq h s hb, UnpackedFloat.unpack]
  simp only [unpackExponent_packComponents, unpackMantissa_packComponents,
    unpackSign_packComponents, Sign.ofBitVec_toBitVec, hones, hzeros, ↓reduceIte, hexponent, hbias]
  congr 1
  exact toNat_implicit_append h.log2_eq

/-! ## Natural numbers -/

variable {n : Nat}

/-- The 53 digits of a natural number, zeros at the end included. -/
theorem isNormal_natural (hpos : 0 < n) (hlt : n < 2 ^ 53) :
    IsNormal (n * 2 ^ (52 - n.log2)) (n.log2 - 52) := by
  have hlog : n.log2 < 53 := (Nat.log2_lt hpos.ne').mpr hlt
  refine ⟨?_, by omega, by omega⟩
  rw [log2_mul_two_pow hpos.ne']
  omega

theorem round_natural (hpos : 0 < n) (hlt : n < 2 ^ 53) (s : Sign) :
    UnpackedFloat.round Format.binary64 s n 0
      = .finite s (n * 2 ^ (52 - n.log2)) (n.log2 - 52) (isNormal_natural hpos hlt).pos := by
  have hlog : n.log2 < 53 := (Nat.log2_lt hpos.ne').mpr hlt
  have hmin : Format.binary64.minExponent = -1074 := rfl
  have hbits : Format.binary64.mantissaBits = 53 := rfl
  have htarget : Format.binary64.targetExponent (totalExponent n 0) = n.log2 - 52 := by
    rw [Format.targetExponent, totalExponent, hmin, hbits]
    omega
  have hshift : (0 - ((n.log2 : Int) - 52)).toNat = 52 - n.log2 := by omega
  have hexponent : (0 : Int) - (52 - n.log2 : Nat) = n.log2 - 52 := by omega
  have hround := roundWithAccuracy_exact (isNormal_natural hpos hlt) s 0
  rw [Nat.pow_zero, Nat.mul_one, Int.natCast_zero, Int.sub_zero] at hround
  rw [UnpackedFloat.round, htarget, decreaseExponent]
  dsimp only
  rw [hshift, hexponent, Nat.shiftLeft_eq, hround]

/-- The conversion of a positive number. -/
theorem unpack_toFloat (hpos : 0 < n) (hlt : n < 2 ^ 53) :
    n.toUInt64.toFloat.toModel.unpack = .finite .positive (n * 2 ^ (52 - n.log2)) (n.log2 - 52)
      (isNormal_natural hpos hlt).pos := by
  have hnat : n.toUInt64.toNat = n := Nat.mod_eq_of_lt (hlt.trans (by decide))
  have hcompare : compare (n : Int) 0 = .gt := by
    rw [compare_gt_iff_gt]
    exact_mod_cast hpos
  have hmodel : UnpackedFloat.ofUInt64 Format.binary64 n.toUInt64
      = UnpackedFloat.round Format.binary64 .positive n 0 := by
    rw [UnpackedFloat.ofUInt64, hnat, UnpackedFloat.ofNat, UnpackedFloat.ofInt,
      UnpackedFloat.normalize, hcompare]
    rfl
  change (Float.Model.pack (UnpackedFloat.ofUInt64 Format.binary64 n.toUInt64)).unpack = _
  rw [hmodel, round_natural hpos hlt, unpack_pack (isNormal_natural hpos hlt)]

/-- The product with one is exact, too. -/
theorem unpack_ofNat (hpos : 0 < n) (hlt : n < 2 ^ 53) :
    (Float.ofNat n).toModel.unpack = .finite .positive (n * 2 ^ (52 - n.log2)) (n.log2 - 52)
      (isNormal_natural hpos hlt).pos := by
  have hone : (Float.ofBits 0x3FF0000000000000).toModel.unpack
      = .finite .positive (2 ^ 52) (-(52 : Nat)) (by decide) := rfl
  have hproduct : Float.ofNat n = n.toUInt64.toFloat * Float.ofBits 0x3FF0000000000000 := by
    change Float.ofScientific n false 0 = _
    rw [Float.ofScientific, dif_pos ⟨hlt, Nat.zero_le 22⟩]
    rfl
  have hround := roundWithAccuracy_exact (isNormal_natural hpos hlt) (.positive * .positive) 52
  rw [hproduct]
  change (Float.Model.pack (UnpackedFloat.mul Format.binary64 n.toUInt64.toFloat.toModel.unpack
    (Float.ofBits 0x3FF0000000000000).toModel.unpack)).unpack = _
  rw [unpack_toFloat hpos hlt, hone, UnpackedFloat.mul, ← sub_eq_add_neg, hround,
    unpack_pack (isNormal_natural hpos hlt)]
  rfl

/-- **A natural number below `2^53` is exact** as a floating-point number. -/
theorem value?_ofNat (h : n < 2 ^ 53) : value? (Float.ofNat n) = some (n : ℚ) := by
  rcases Nat.eq_zero_or_pos n with rfl | hpos
  · have hzero : Shape.of (Float.ofNat 0) = .finite false ⟨0, 0⟩ := rfl
    rw [value?, hzero]
    dsimp only
    rw [if_neg Bool.false_ne_true, Magnitude.value, Nat.cast_zero, zero_mul]
  · have hshape : Shape.of (Float.ofNat n)
        = .finite false ⟨n * 2 ^ (52 - n.log2), n.log2 - 52⟩ := by
      rw [Shape.of, unpack_ofNat hpos h]
    have hlog : n.log2 < 53 := (Nat.log2_lt hpos.ne').mpr h
    have hexponent : (n.log2 : Int) - 52 = -(52 - n.log2 : Nat) := by omega
    rw [value?, hshape]
    dsimp only
    rw [if_neg Bool.false_ne_true, Magnitude.value, hexponent, zpow_neg, zpow_natCast]
    push_cast
    rw [mul_inv_cancel_right₀ (pow_ne_zero _ two_ne_zero)]

end Formula.Decimal
