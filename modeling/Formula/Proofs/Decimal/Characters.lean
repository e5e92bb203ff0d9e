import Formula.Decimal.Printer
import Formula.Decimal.Reader
import Formula.Text.Chars
import Mathlib

/-!
# Proofs/Decimal/Characters — the characters of a number

A text that reads as a number is a sign, if there is one, and then letters, digits, points and
signs; behind the first character a hyphen stands only in an exponent, whose letter is there as well
(`exists_unsigned_of_ofText?`).  So there are no blanks in it, and it is trimmed as it stands
(`trimChars_of_ofText?`).

What is no number has one representation (`eq_nan_of_isNaN`) and reads back from its text.
-/

namespace Formula.Decimal

open Formula.Text (isBlank trimChars)

variable {cs ds : List Char} {s : String} {x : Float}

/-! ## Behind the sign -/

/-- **What stands behind the sign of a number**, as far as its characters go. -/
structure Unsigned (cs : List Char) : Prop where
  chars : ∀ c ∈ cs, c.isAlphanum ∨ c = '.' ∨ c = '+' ∨ c = '-'
  exponent : '-' ∈ cs → 'e' ∈ cs ∨ 'E' ∈ cs

theorem Unsigned.append (hcs : Unsigned cs) (hds : Unsigned ds) : Unsigned (cs ++ ds) where
  chars c hc := (List.mem_append.mp hc).elim (hcs.chars c) (hds.chars c)
  exponent hmem := by
    rw [List.mem_append, List.mem_append]
    rcases List.mem_append.mp hmem with hmem | hmem
    · exact (hcs.exponent hmem).imp Or.inl Or.inl
    · exact (hds.exponent hmem).imp Or.inr Or.inr

theorem unsigned_of_alphanum (h : ∀ c ∈ cs, c.isAlphanum) : Unsigned cs where
  chars c hc := Or.inl (h c hc)
  exponent hmem := absurd (h '-' hmem) (by decide)

theorem unsigned_of_digits (h : ∀ c ∈ cs, c.isDigit) : Unsigned cs :=
  unsigned_of_alphanum fun c hc => Bool.or_eq_true_iff.mpr (Or.inr (h c hc))

theorem unsigned_takeWhile (cs : List Char) : Unsigned (cs.takeWhile Char.isDigit) :=
  unsigned_of_digits fun _ hc => List.mem_takeWhile_imp hc

/-- A sign, or none. -/
inductive Sign : List Char → Prop where
  | absent : Sign []
  | plus : Sign ['+']
  | minus : Sign ['-']

theorem isDigit_of_not_isEmpty_or (h : ¬(cs.isEmpty || !cs.all Char.isDigit) = true) :
    ∀ c ∈ cs, c.isDigit := by
  simp only [Bool.or_eq_true, not_or, Bool.not_eq_true', Bool.not_eq_false] at h
  exact List.all_eq_true.mp h.2

/-- **An exponent**: its letter, a sign or none, and digits. -/
theorem exists_of_readExponent {e : Char} {n : Int} (h : readExponent (e :: cs) = some n) :
    (e = 'e' ∨ e = 'E') ∧
      ∃ sign digits, cs = sign ++ digits ∧ Sign sign ∧ ∀ c ∈ digits, c.isDigit := by
  rw [readExponent.eq_def] at h
  dsimp only at h
  split at h
  · next he =>
    refine ⟨he, ?_⟩
    split at h <;> dsimp only at h <;> split at h
    case h_1.isFalse digits hdigits =>
      exact ⟨['-'], digits, rfl, .minus, isDigit_of_not_isEmpty_or hdigits⟩
    case h_2.isFalse digits hdigits =>
      exact ⟨['+'], digits, rfl, .plus, isDigit_of_not_isEmpty_or hdigits⟩
    case h_3.isFalse hdigits =>
      exact ⟨[], cs, rfl, .absent, isDigit_of_not_isEmpty_or hdigits⟩
    all_goals cases h
  · cases h

/-- An exponent has its letter in front, and at most one sign. -/
theorem unsigned_of_readExponent {n : Int} (h : readExponent cs = some n) : Unsigned cs := by
  cases cs with
  | nil => exact unsigned_of_digits fun c hc => absurd hc List.not_mem_nil
  | cons e cs =>
    obtain ⟨he, sign, digits, rfl, hsign, hdigits⟩ := exists_of_readExponent h
    have hletter : 'e' ∈ e :: (sign ++ digits) ∨ 'E' ∈ e :: (sign ++ digits) := by
      rcases he with rfl | rfl
      · exact Or.inl List.mem_cons_self
      · exact Or.inr List.mem_cons_self
    refine ⟨fun c hc => ?_, fun _ => hletter⟩
    rcases List.mem_cons.mp hc with rfl | hc
    · rcases he with rfl | rfl <;> decide
    rcases List.mem_append.mp hc with hc | hc
    · cases hsign with
      | absent => exact absurd hc List.not_mem_nil
      | plus => exact Or.inr (Or.inr (Or.inl (List.mem_singleton.mp hc)))
      | minus => exact Or.inr (Or.inr (Or.inr (List.mem_singleton.mp hc)))
    · exact (unsigned_of_digits hdigits).chars c hc

/-- Digits with a point or without, and an exponent or none. -/
theorem unsigned_of_readNumeral {n : Numeral} (h : readNumeral cs = some n) : Unsigned cs := by
  rw [← List.takeWhile_append_dropWhile (p := Char.isDigit) (l := cs)]
  refine (unsigned_takeWhile cs).append ?_
  rw [readNumeral.eq_def] at h
  dsimp only at h
  split at h <;> dsimp only at h <;> split at h
  case h_1.isFalse more hmore _ =>
    obtain ⟨exponent, hexponent, -⟩ := Option.map_eq_some_iff.mp h
    have hpoint : Unsigned ['.'] := by
      refine ⟨fun c hc => Or.inr (Or.inl (List.mem_singleton.mp hc)), fun hmem => ?_⟩
      exact absurd (List.mem_singleton.mp hmem) (by decide)
    rw [hmore, ← List.takeWhile_append_dropWhile (p := Char.isDigit) (l := more)]
    exact hpoint.append ((unsigned_takeWhile more).append (unsigned_of_readExponent hexponent))
  case h_2.isFalse _ _ =>
    obtain ⟨exponent, hexponent, -⟩ := Option.map_eq_some_iff.mp h
    exact unsigned_of_readExponent hexponent
  all_goals cases h

theorem unsigned_of_readUnsigned (h : readUnsigned cs = some x) : Unsigned cs := by
  have word {w : String} (hw : w.toList.all Char.isAlpha)
      (heq : String.ofList (cs.map Char.toLower) = w) : Unsigned cs := by
    refine unsigned_of_alphanum fun c hc => Bool.or_eq_true_iff.mpr (Or.inl ?_)
    have hlower : c.toLower ∈ w.toList := by
      rw [← heq, String.toList_ofList]
      exact List.mem_map_of_mem hc
    rw [← Char.isAlpha_toLower_eq_isAlpha]
    exact List.all_eq_true.mp hw _ hlower
  rw [readUnsigned] at h
  split at h
  · next heq => exact word (by decide) heq
  · next heq => exact word (by decide) heq
  · next heq => exact word (by decide) heq
  · obtain ⟨n, hn, -⟩ := Option.map_eq_some_iff.mp h
    exact unsigned_of_readNumeral hn

/-! ## The whole number -/

/-- **A number is a sign, if there is one, and what stands behind it.** -/
theorem exists_unsigned_of_ofText? (h : ofText? s = some x) :
    ∃ sign cs, s.toList = sign ++ cs ∧ Sign sign ∧ Unsigned cs := by
  rw [ofText?] at h
  split at h
  · next cs hcs =>
    obtain ⟨y, hy, -⟩ := Option.map_eq_some_iff.mp h
    exact ⟨['-'], cs, hcs, .minus, unsigned_of_readUnsigned hy⟩
  · next cs hcs => exact ⟨['+'], cs, hcs, .plus, unsigned_of_readUnsigned h⟩
  · exact ⟨[], s.toList, rfl, .absent, unsigned_of_readUnsigned h⟩

/-- **The characters of a number.** -/
theorem mem_of_ofText? (h : ofText? s = some x) :
    ∀ c ∈ s.toList, c.isAlphanum ∨ c = '.' ∨ c = '+' ∨ c = '-' := by
  obtain ⟨sign, cs, hs, hsign, hcs⟩ := exists_unsigned_of_ofText? h
  rw [hs]
  intro c hc
  rcases List.mem_append.mp hc with hc | hc
  · cases hsign with
    | absent => exact absurd hc List.not_mem_nil
    | plus => exact Or.inr (Or.inr (Or.inl (List.mem_singleton.mp hc)))
    | minus => exact Or.inr (Or.inr (Or.inr (List.mem_singleton.mp hc)))
  · exact hcs.chars c hc

/-- **A number is trimmed as it stands.** -/
theorem trimChars_of_ofText? (h : ofText? s = some x) : trimChars s.toList = s.toList := by
  have hblank : ∀ c ∈ s.toList, ¬isBlank c := by
    intro c hc
    rcases mem_of_ofText? h c hc with hc | rfl | rfl | rfl
    · exact Text.not_isBlank_of_isAlphanum hc
    all_goals decide
  exact Text.trimChars_eq_self (fun c hc => hblank c (List.mem_of_head? hc))
    fun c hc => hblank c (List.mem_of_getLast? hc)

/-- **A number with two hyphens has an exponent.** -/
theorem exponent_of_ofText? (h : ofText? s = some x) (hcount : 2 ≤ s.toList.count '-') :
    'e' ∈ s.toList ∨ 'E' ∈ s.toList := by
  obtain ⟨sign, cs, hs, hsign, hcs⟩ := exists_unsigned_of_ofText? h
  rw [hs, List.count_append] at hcount
  have hle : sign.count '-' ≤ 1 := by cases hsign <;> decide
  have hmem : '-' ∈ cs := List.count_pos_iff.mp (by omega)
  rw [hs, List.mem_append, List.mem_append]
  exact (hcs.exponent hmem).imp Or.inr Or.inr

/-! ## What is no number -/

open Float.Model.UnpackedFloat in
/-- **What is no number has one representation.** -/
theorem eq_nan_of_isNaN (h : x.isNaN) : x = 0 / 0 := by
  obtain ⟨⟨bits, hvalid⟩⟩ := x
  have hbits : bits.toBitVec = packedNaN Float.Model.Format.binary64 :=
    (isNaN_unpack_iff_of_valid hvalid).mp h
  have hnan : (0 / 0 : Float).toModel.toBits.toBitVec = packedNaN Float.Model.Format.binary64 := by
    decide +kernel
  obtain rfl : bits = (0 / 0 : Float).toModel.toBits :=
    UInt64.toBitVec_inj.mp (hbits.trans hnan.symm)
  rfl

/-- It reads back from its text. -/
theorem ofText?_toText_nan : ofText? (toText (0 / 0)) = some (0 / 0) := by decide +kernel

end Formula.Decimal
