import Formula.Sheet.Address
import Mathlib.Data.Nat.Digits.Lemmas
import Mathlib.Tactic.Common

/-!
# Proofs/Sheet/Numeral — the numerals of rows and columns

A numeral has a **value**: its digits, each counted for its place.  `numeral?_eq` says that reading
in 32 bits gives that value, or nothing where it does not fit, however many digits there are.

Two kinds of numeral write a number in one way only: those whose digits go from 1 to the base, which
are the columns, and those whose digits go from 0 to less than the base and do not begin with 0,
which are the rows.
-/

namespace Formula.Address

/-- **The value of a numeral** in a given base, its first digit being the most significant. -/
def numeralValue (base : Nat) (digits : List Nat) : Nat := Nat.ofDigits base digits.reverse

variable {base n d : Nat} {ds es : List Nat}

theorem numeralValue_nil : numeralValue base [] = 0 := rfl

/-- One more digit moves the others up by a place. -/
theorem numeralValue_concat :
    numeralValue base (ds ++ [d]) = base * numeralValue base ds + d := by
  rw [numeralValue, numeralValue, List.reverse_append, List.reverse_singleton,
    List.singleton_append, Nat.ofDigits_cons, Nat.add_comm]

theorem numeralValue_eq_foldl :
    numeralValue base ds = ds.foldl (fun n d => base * n + d) 0 := by
  induction ds using List.reverseRecOn with
  | nil => rfl
  | append_singleton ds d ih => rw [numeralValue_concat, ih, List.foldl_concat]

/-! ## Reading in 32 bits -/

/-- **Reading in 32 bits gives the value if that fits**, and gives up if it does not. -/
theorem numeral?_eq (hbase : 0 < base) :
    numeral? base ds =
      if numeralValue base ds < UInt32.size then some (.ofNat (numeralValue base ds))
      else none := by
  induction ds using List.reverseRecOn with
  | nil => rfl
  | append_singleton ds d ih =>
    have hstep : numeral? base (ds ++ [d]) = (numeral? base ds).bind (appendDigit? base · d) := by
      rw [numeral?, List.foldlM_append]
      exact congrArg ((numeral? base ds).bind ·) (funext fun n => bind_pure _)
    rw [hstep, ih, numeralValue_concat]
    by_cases hfits : numeralValue base ds < UInt32.size
    · rw [if_pos hfits, Option.bind_some, appendDigit?, UInt32.toNat_ofNat_of_lt' hfits]
    · -- What has left 32 bits stays out of them.
      have hle : numeralValue base ds ≤ base * numeralValue base ds :=
        Nat.le_mul_of_pos_left _ hbase
      rw [if_neg hfits, Option.bind_none, if_neg (by omega)]

/-! ## Numerals without a zero -/

/-- **A bijective numeral**: its digits go from 1 to the base. -/
def Bijective (base : Nat) (digits : List Nat) : Prop := ∀ d ∈ digits, 1 ≤ d ∧ d ≤ base

/-- A bijective numeral with a digit in it writes no zero. -/
theorem numeralValue_pos_of_bijective (hds : Bijective base (ds ++ [d])) :
    0 < numeralValue base (ds ++ [d]) := by
  have hd := hds d (List.mem_append_right _ (List.mem_singleton_self d))
  rw [numeralValue_concat]
  omega

/-- The last digit of a bijective numeral, and what it is appended to. -/
theorem concat_inj_of_bijective {m n c d : Nat} (hc : 1 ≤ c ∧ c ≤ base) (hd : 1 ≤ d ∧ d ≤ base)
    (h : base * m + c = base * n + d) : m = n ∧ c = d := by
  have hmn : m = n := by
    rcases Nat.lt_trichotomy m n with hlt | heq | hgt
    · have hle := Nat.mul_le_mul_left base hlt
      rw [Nat.mul_succ] at hle
      omega
    · exact heq
    · have hle := Nat.mul_le_mul_left base hgt
      rw [Nat.mul_succ] at hle
      omega
  subst hmn
  exact ⟨rfl, Nat.add_left_cancel h⟩

/-- **Bijective numerals of one value are the same.** -/
theorem eq_of_numeralValue_eq_of_bijective (hds : Bijective base ds) (hes : Bijective base es)
    (h : numeralValue base ds = numeralValue base es) : ds = es := by
  induction ds using List.reverseRecOn generalizing es with
  | nil =>
    obtain rfl | ⟨es, e, rfl⟩ := es.eq_nil_or_concat'
    · rfl
    · have hpos := numeralValue_pos_of_bijective hes
      rw [← h, numeralValue_nil] at hpos
      exact absurd hpos (Nat.lt_irrefl 0)
  | append_singleton ds d ih =>
    obtain rfl | ⟨es, e, rfl⟩ := es.eq_nil_or_concat'
    · have hpos := numeralValue_pos_of_bijective hds
      rw [h, numeralValue_nil] at hpos
      exact absurd hpos (Nat.lt_irrefl 0)
    · rw [numeralValue_concat, numeralValue_concat] at h
      have hd := hds d (List.mem_append_right _ (List.mem_singleton_self d))
      have he := hes e (List.mem_append_right _ (List.mem_singleton_self e))
      obtain ⟨hvalue, rfl⟩ := concat_inj_of_bijective hd he h
      rw [ih (fun x hx => hds x (List.mem_append_left _ hx))
        (fun x hx => hes x (List.mem_append_left _ hx)) hvalue]

/-! ## Numerals without a leading zero -/

/-- **A plain numeral**: its digits stay below the base, and it does not begin with a zero. -/
def Plain (base : Nat) (digits : List Nat) : Prop :=
  (∀ d ∈ digits, d < base) ∧ digits.head? ≠ some 0

theorem digits_numeralValue (hbase : 1 < base) (hds : Plain base ds) :
    Nat.digits base (numeralValue base ds) = ds.reverse := by
  refine Nat.digits_ofDigits base hbase _ (fun d hd => hds.1 d (List.mem_reverse.mp hd)) ?_
  intro hne hlast
  apply hds.2
  rw [← List.getLast?_reverse, List.getLast?_eq_some_getLast hne, hlast]

/-- **Plain numerals of one value are the same.** -/
theorem eq_of_numeralValue_eq_of_plain (hbase : 1 < base) (hds : Plain base ds)
    (hes : Plain base es) (h : numeralValue base ds = numeralValue base es) : ds = es := by
  have hreverse : ds.reverse = es.reverse := by
    rw [← digits_numeralValue hbase hds, ← digits_numeralValue hbase hes, h]
  exact List.reverse_inj.mp hreverse

/-- A zero in front counts for nothing. -/
theorem numeralValue_zero_cons : numeralValue base (0 :: ds) = numeralValue base ds := by
  rw [numeralValue_eq_foldl, numeralValue_eq_foldl, List.foldl_cons, Nat.mul_zero, Nat.add_zero]

end Formula.Address
