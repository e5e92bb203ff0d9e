import Formula.Text.Slice
import Mathlib.Tactic.Common

/-!
# Proofs/Text/Parts — the parts of a text fit together

A text is cut at a position into what `left` takes and what `middle` takes from there on, and every
other part is said through such cuts: `right` counts from the end, `between` by two positions, and a
splice puts another text in place of the stretch between two cuts (`Splices`).  A stretch and the
text that replaces it play the same part, so that a splice is undone by a splice (`Splices.symm`).

The position behind the stretch is a sum in 64 bits.  A sum that they do not hold lies behind the
end of every text with fewer than `UInt64.size` characters, which is every text in memory.
-/

namespace Formula.Text

variable {s t a b c new : String} {pos n : Nat}

/-! ## Parts as lists -/

theorem toList_left (s : String) (n : Nat) : (left s n).toList = s.toList.take n :=
  String.toList_ofList

theorem toList_right (s : String) (n : Nat) :
    (right s n).toList = s.toList.drop (s.length - n) := by
  rw [right, String.toList_ofList, String.length_toList]

theorem toList_middle (s : String) (pos n : Nat) :
    (middle s pos n).toList = (s.toList.drop pos).take n :=
  String.toList_ofList

/-- As many characters as the text has are all that follow. -/
theorem toList_middle_length (s : String) (pos : Nat) :
    (middle s pos s.length).toList = s.toList.drop pos := by
  rw [toList_middle, List.take_of_length_le]
  rw [List.length_drop, String.length_toList]
  exact Nat.sub_le _ _

theorem length_left (s : String) (n : Nat) : (left s n).length = min n s.length := by
  rw [← String.length_toList, toList_left, List.length_take, String.length_toList]

theorem eq_append_iff : s = a ++ b ++ c ↔ s.toList = a.toList ++ (b.toList ++ c.toList) := by
  rw [← String.toList_inj, String.toList_append, String.toList_append, List.append_assoc]

/-! ## One cut -/

/-- **A text is what a cut takes off and what it leaves.** -/
theorem left_append_middle (s : String) (n : Nat) : left s n ++ middle s n s.length = s := by
  refine String.toList_injective ?_
  rw [String.toList_append, toList_left, toList_middle_length, List.take_append_drop]

/-- A cut may be counted from the end. -/
theorem left_append_right (s : String) (n : Nat) : left s (s.length - n) ++ right s n = s := by
  refine String.toList_injective ?_
  rw [String.toList_append, toList_left, toList_right, List.take_append_drop]

theorem right_of_length_le (h : s.length ≤ n) : right s n = s := by
  refine String.toList_injective ?_
  rw [toList_right, Nat.sub_eq_zero_of_le h, List.drop_zero]

/-! ## Two cuts -/

theorem between_eq_empty {first last : Nat} (h : last ≤ first) : between s first last = "" :=
  if_pos h

theorem between_eq_middle {first last : Nat} (h : first ≤ last) :
    between s first last = middle s first (last - first) := by
  rw [between]
  split
  · next hle =>
    rw [Nat.le_antisymm h hle, Nat.sub_self]
    rfl
  · rfl

/-- **A stretch is what is right of its beginning in what is left of its end.** -/
theorem middle_eq_right_left {first last : Nat} (h : first ≤ (left s last).length) :
    middle s first (last - first) = right (left s last) ((left s last).length - first) := by
  refine String.toList_injective ?_
  rw [toList_middle, toList_right, toList_left, Nat.sub_sub_self h, List.drop_take]

/-! ## Splices -/

/-- **A splice**: a stretch of `n` characters after the first `pos` makes way for another text. -/
def Splices (s : String) (pos n : Nat) (new t : String) : Prop :=
  ∃ a b c, s = a ++ b ++ c ∧ a.length = pos ∧ b.length = n ∧ t = a ++ new ++ c

theorem left_append (h : a.length = n) : left (a ++ b) n = a := by
  refine String.toList_injective ?_
  rw [toList_left, String.toList_append, List.take_left' (String.length_toList.trans h)]

theorem middle_append (ha : a.length = pos) (hb : b.length = n) :
    middle (a ++ b ++ c) pos n = b := by
  refine String.toList_injective ?_
  rw [toList_middle, String.toList_append, String.toList_append, List.append_assoc,
    List.drop_left' (String.length_toList.trans ha),
    List.take_left' (String.length_toList.trans hb)]

theorem middle_append_length (h : a.length = n) : middle (a ++ b) n (a ++ b).length = b := by
  refine String.toList_injective ?_
  rw [toList_middle_length, String.toList_append, List.drop_left' (String.length_toList.trans h)]

/-- **Two cuts make three parts.** -/
theorem left_append_middle_append (s : String) (pos n : Nat) :
    left s pos ++ middle s pos n ++ middle s (pos + n) s.length = s := by
  refine String.toList_injective ?_
  rw [String.toList_append, String.toList_append, toList_left, toList_middle, toList_middle_length,
    ← List.take_add, List.take_append_drop]

theorem length_middle (h : pos + n ≤ s.length) : (middle s pos n).length = n := by
  rw [← String.length_toList, toList_middle, List.length_take, List.length_drop,
    String.length_toList]
  omega

/-- **A text has a splice where it has the stretch**, and one for each text to put there. -/
theorem splices_iff : Splices s pos n new t ↔
    pos + n ≤ s.length ∧ t = left s pos ++ new ++ middle s (pos + n) s.length := by
  constructor
  · rintro ⟨a, b, c, rfl, ha, hb, rfl⟩
    have hab : (a ++ b).length = pos + n := by rw [String.length_append, ha, hb]
    refine ⟨?_, ?_⟩
    · rw [String.length_append, hab]
      exact Nat.le_add_right _ _
    · have hleft : left (a ++ b ++ c) pos = a := by rw [String.append_assoc, left_append ha]
      rw [middle_append_length hab, hleft]
  · rintro ⟨hle, rfl⟩
    have hleft : (left s pos).length = pos := by
      rw [length_left]
      omega
    exact ⟨left s pos, middle s pos n, middle s (pos + n) s.length,
      (left_append_middle_append s pos n).symm, hleft, length_middle hle, rfl⟩

theorem splices_self (h : pos + n ≤ s.length) : Splices s pos n (middle s pos n) s :=
  splices_iff.mpr ⟨h, (left_append_middle_append s pos n).symm⟩

/-- **A splice is undone by the splice that puts the stretch back.** -/
theorem Splices.symm (h : Splices s pos n new t) : Splices t pos new.length (middle s pos n) s := by
  obtain ⟨a, b, c, rfl, ha, hb, rfl⟩ := h
  exact ⟨a, new, c, rfl, ha, rfl, by rw [middle_append ha hb]⟩

/-! ## Splices with positions in 64 bits -/

/-- **A checked sum is the exact one**, if 64 bits hold it. -/
theorem sum?_eq_some_iff {m n k : UInt64} : sum? m n = some k ↔ k.toNat = m.toNat + n.toNat := by
  have hbound := k.toNat_lt
  rw [sum?]
  split
  · next h =>
    rw [Option.some_inj, ← UInt64.toNat_inj, UInt64.toNat_add, Nat.mod_eq_of_lt h, eq_comm]
  · next h => exact iff_of_false (Option.some_ne_none k).symm fun hk => h (hk ▸ hbound)

theorem sum?_eq_none_iff {m n : UInt64} : sum? m n = none ↔ UInt64.size ≤ m.toNat + n.toNat := by
  rw [sum?, ite_eq_right_iff, imp_iff_not (Option.some_ne_none _), Nat.not_lt]

/-- **`splice?` gives the splice**, if it is there and its end is a sum that 64 bits hold. -/
theorem splice?_eq_some_iff {pos n : UInt64} : splice? s pos n new = some t ↔
    pos.toNat + n.toNat < UInt64.size ∧ Splices s pos.toNat n.toNat new t := by
  have htext (stop : Nat) :
      String.ofList (s.toList.take pos.toNat ++ new.toList ++ s.toList.drop stop)
        = left s pos.toNat ++ new ++ middle s stop s.length := by
    rw [eq_append_iff, String.toList_ofList, toList_left, toList_middle_length, List.append_assoc]
  rw [splice?, splices_iff]
  -- The end of the stretch is the one position that is computed, so the cases are those of the sum.
  cases hsum : sum? pos n with
  | none =>
    have hlarge := sum?_eq_none_iff.mp hsum
    exact iff_of_false (Option.some_ne_none t).symm fun h => Nat.not_lt.mpr hlarge h.1
  | some stop =>
    have hstop := sum?_eq_some_iff.mp hsum
    have hbound := stop.toNat_lt
    dsimp only
    rw [hstop] at hbound ⊢
    rw [String.length_toList, htext]
    split
    · next hlt =>
      exact iff_of_false (Option.some_ne_none t).symm fun h => Nat.not_le.mpr hlt h.2.1
    · next hle =>
      rw [Option.some_inj, eq_comm]
      exact ⟨fun h => ⟨hbound, Nat.not_lt.mp hle, h⟩, fun h => h.2.2⟩

/-- **A text in memory has its splices and no others.** -/
theorem splice?_eq_ite (hs : s.length < UInt64.size) (pos n : UInt64) (new : String) :
    splice? s pos n new
      = if pos.toNat + n.toNat ≤ s.length then
          some (left s pos.toNat ++ new ++ middle s (pos.toNat + n.toNat) s.length)
        else none := by
  refine Option.ext fun t => ?_
  rw [splice?_eq_some_iff, splices_iff, and_iff_right_of_imp fun h => Nat.lt_of_le_of_lt h.1 hs,
    Option.ite_none_right_eq_some, Option.some_inj, eq_comm]

theorem splice?_of_splice? {pos n : UInt64} (h : splice? s pos n new = some t)
    (ht : t.length < UInt64.size) :
    splice? t pos (.ofNat new.length) (middle s pos.toNat n.toNat) = some s := by
  have hback := (splice?_eq_some_iff.mp h).2.symm
  have hle := (splices_iff.mp hback).1
  have hlength : (UInt64.ofNat new.length).toNat = new.length :=
    UInt64.toNat_ofNat_of_lt' (Nat.lt_of_le_of_lt (Nat.le_of_add_left_le hle) ht)
  rw [splice?_eq_some_iff, hlength]
  exact ⟨Nat.lt_of_le_of_lt hle ht, hback⟩

/-- **The parts of a text fit together.**  A cut, counted from either end, takes a text apart into
two that make it again; a stretch between two positions is what is right of the one in what is left
of the other; and `splice?` gives the text with the stretch replaced, exactly where the text has
that stretch, so that a splice is undone by the one that puts the stretch back.  The sizes of texts
are numbers that 64 bits hold, as the positions in them are. -/
theorem parts_fit (s : String) :
    (∀ n, left s n ++ middle s n s.length = s) ∧
    (∀ n, n ≤ s.length → left s (s.length - n) ++ right s n = s) ∧
    (∀ n, s.length ≤ n → right s n = s) ∧
    (∀ first last, first ≤ last → first ≤ s.length →
      between s first last = middle s first (last - first) ∧
      first ≤ (left s last).length ∧
      between s first last = right (left s last) ((left s last).length - first)) ∧
    (∀ first last, last ≤ first → between s first last = "") ∧
    (s.length < UInt64.size → ∀ (pos n : UInt64) new,
      splice? s pos n new
        = (if pos.toNat + n.toNat ≤ s.length then
            some (left s pos.toNat ++ new ++ middle s (pos.toNat + n.toNat) s.length)
          else none) ∧
      (pos.toNat + n.toNat ≤ s.length →
        splice? s pos n (middle s pos.toNat n.toNat) = some s) ∧
      (∀ t, splice? s pos n new = some t → t.length < UInt64.size →
        splice? t pos (.ofNat new.length) (middle s pos.toNat n.toNat) = some s)) := by
  refine ⟨left_append_middle s, fun n _ => left_append_right s n, fun n => right_of_length_le,
    fun first last hle hfirst => ?_, fun first last => between_eq_empty, fun hs pos n new => ?_⟩
  · have hleft : first ≤ (left s last).length := by
      rw [length_left]
      exact Nat.le_min.mpr ⟨hle, hfirst⟩
    rw [between_eq_middle hle]
    exact ⟨rfl, hleft, middle_eq_right_left hleft⟩
  · refine ⟨splice?_eq_ite hs pos n new, fun hle => ?_, fun t => splice?_of_splice?⟩
    exact splice?_eq_some_iff.mpr ⟨Nat.lt_of_le_of_lt hle hs, splices_self hle⟩

/-- A text of four characters, of which three take two bytes each: its halves, the stretch between
its ends, a splice that shortens it and is undone, and a stretch that would end at `2 ^ 64`. -/
theorem parts_fit_four :
    left "żółw" 2 ++ right "żółw" 2 = "żółw" ∧ right "żółw" 5 = "żółw" ∧
      between "żółw" 1 3 = right (left "żółw" 3) 2 ∧ between "żółw" 3 1 = "" ∧
      splice? "żółw" 1 2 "a" = some "żaw" ∧ splice? "żaw" 1 1 "ół" = some "żółw" ∧
      splice? "żółw" 18446744073709551615 1 "a" = none := by
  obtain ⟨-, hends, hall, hstretch, hempty, hsplice⟩ := parts_fit "żółw"
  have hsize : "żółw".length < UInt64.size := by decide
  obtain ⟨hshorter, -, hback⟩ := hsplice hsize 1 2 "a"
  obtain ⟨hbeyond, -⟩ := hsplice hsize 18446744073709551615 1 "a"
  have hmove : splice? "żółw" 1 2 "a" = some "żaw" := hshorter.trans (by decide)
  exact ⟨hends 2 (by decide), hall 5 (by decide), (hstretch 1 3 (by decide) (by decide)).2.2,
    hempty 3 1 (by decide), hmove, hback "żaw" hmove (by decide), hbeyond.trans (by decide)⟩

end Formula.Text
