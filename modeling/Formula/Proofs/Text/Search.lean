import Formula.Proofs.Text.Parts
import Formula.Proofs.Text.Substitution

/-!
# Proofs/Text/Search — what `find` finds, and what a substitution does there

A position of a text is one where the needle stands (`StandsAt`), said by taking that part of the
text out and looking at it.  `find` gives the first position that is not before its start, and 0 if
and only if there is none (`find_is_first`).

A substitution, a search and a splice each look for occurrences in their own way: the one on what it
has not cut off yet, the other from a position, the last not at all.  They meet in the first
occurrence in a text (`IsFirst`), so that to replace it is to splice at the position that is found
(`substitute_at_find`).
-/

namespace Formula.Text

variable {needle haystack : String} {start skip p : Nat}

/-! ## Positions -/

/-- **The needle stands at position `p`** of the haystack, counted from 1. -/
structure StandsAt (needle haystack : String) (p : Nat) : Prop where
  one_le : 1 ≤ p
  within : p - 1 + needle.length ≤ haystack.length
  text : middle haystack (p - 1) needle.length = needle

/-- **A position has the text before it and the text behind the needle.** -/
theorem standsAt_iff : StandsAt needle haystack p ↔
    ∃ a b, haystack.toList = a ++ (needle.toList ++ b) ∧ p = a.length + 1 := by
  constructor
  · rintro ⟨hone, hwithin, htext⟩
    refine ⟨(left haystack (p - 1)).toList,
      (middle haystack (p - 1 + needle.length) haystack.length).toList, ?_, ?_⟩
    · have hcut := left_append_middle_append haystack (p - 1) needle.length
      rw [htext] at hcut
      exact eq_append_iff.mp hcut.symm
    · rw [String.length_toList, length_left]
      omega
  · rintro ⟨a, b, htext, rfl⟩
    have hhaystack : haystack = String.ofList a ++ needle ++ String.ofList b := by
      rw [eq_append_iff, String.toList_ofList, String.toList_ofList, htext]
    have hbefore : (String.ofList a).length = a.length + 1 - 1 := String.length_ofList
    have hlength := congrArg List.length htext
    rw [List.length_append, List.length_append, String.length_toList,
      String.length_toList] at hlength
    exact ⟨Nat.le_add_left _ _, by omega, by rw [hhaystack, middle_append hbefore rfl]⟩

/-- Behind the first `skip` characters the positions are those of the rest. -/
theorem standsAt_add_iff (hskip : skip ≤ haystack.length) {k : Nat} :
    StandsAt needle haystack (skip + k + 1) ↔
      ∃ a b, haystack.toList.drop skip = a ++ (needle.toList ++ b) ∧ a.length = k := by
  rw [standsAt_iff]
  constructor
  · rintro ⟨a, b, htext, hlength⟩
    refine ⟨a.drop skip, b, ?_, ?_⟩
    · rw [htext, List.drop_append_of_le_length (by omega)]
    · rw [List.length_drop]
      omega
  · rintro ⟨a, b, htext, rfl⟩
    refine ⟨haystack.toList.take skip ++ a, b, ?_, ?_⟩
    · rw [List.append_assoc, ← htext, List.take_append_drop]
    · rw [List.length_append, List.length_take, String.length_toList, Nat.min_eq_left hskip]

/-! ## The first position -/

/-- **A search finds nothing behind the end of the text**, and at the end only the empty needle. -/
theorem find_eq (needle haystack : String) (start : Nat) :
    find needle haystack start =
      if haystack.toList.length < start - 1 then 0
      else search needle.toList haystack.toList (start - 1) := by
  rw [find]
  generalize start - 1 = skip
  rcases Nat.lt_trichotomy skip haystack.toList.length with hlt | heq | hgt
  · rw [List.getElem?_eq_getElem hlt, if_neg (Nat.not_lt_of_lt hlt)]
  · rw [List.getElem?_eq_none heq.ge, if_neg (Nat.not_lt.mpr heq.le)]
    dsimp only
    split
    · rfl
    · next hneedle =>
      have hcons : needle.toList ≠ [] := fun hnil => by
        rw [String.toList_eq_nil_iff.mp hnil, heq, beq_self_eq_true] at hneedle
        exact hneedle rfl
      have hnone : cut? needle.toList [] = none := by
        rwa [cut?_eq_none_iff, List.infix_nil]
      rw [search, heq, List.drop_length, hnone]
  · rw [List.getElem?_eq_none hgt.le, if_pos hgt]
    dsimp only
    rw [if_neg]
    rw [Bool.and_eq_true, beq_iff_eq]
    exact fun h => absurd h.2 hgt.ne'

/-- **What `find` gives when there is no position**, and when there is. -/
theorem find_cases (needle haystack : String) (start : Nat) :
    (find needle haystack start = 0 ∧ ∀ q, max start 1 ≤ q → ¬StandsAt needle haystack q) ∨
    (max start 1 ≤ find needle haystack start ∧
      StandsAt needle haystack (find needle haystack start) ∧
      ∀ q, max start 1 ≤ q → StandsAt needle haystack q → find needle haystack start ≤ q) := by
  -- A position that is not before the start is one in what is not skipped.
  have hrest {q : Nat} (hq : max start 1 ≤ q) : ∃ k, q = start - 1 + k + 1 :=
    ⟨q - 1 - (start - 1), by omega⟩
  rw [find_eq]
  split
  · next hbeyond =>
    refine .inl ⟨rfl, fun q hq hstands => ?_⟩
    have hwithin := hstands.within
    rw [String.length_toList] at hbeyond
    omega
  · next hskip =>
    rw [String.length_toList, Nat.not_lt] at hskip
    rw [search]
    split
    · next before after hcut =>
      have hfirst := isFirst_of_cut? hcut
      refine .inr ⟨by omega, (standsAt_add_iff hskip).mpr ⟨_, _, hfirst.text, rfl⟩,
        fun q hq hstands => ?_⟩
      obtain ⟨k, rfl⟩ := hrest hq
      obtain ⟨a, b, htext, rfl⟩ := (standsAt_add_iff hskip).mp hstands
      have hleast := hfirst.least a b htext
      omega
    · next hnone =>
      refine .inl ⟨rfl, fun q hq hstands => cut?_eq_none_iff.mp hnone ?_⟩
      obtain ⟨k, rfl⟩ := hrest hq
      obtain ⟨a, b, htext, -⟩ := (standsAt_add_iff hskip).mp hstands
      exact ⟨a, b, by rw [htext, List.append_assoc]⟩

/-- The empty needle stands before each character and at the end. -/
theorem standsAt_empty_iff : StandsAt "" haystack p ↔ 1 ≤ p ∧ p ≤ haystack.length + 1 := by
  rw [standsAt_iff]
  constructor
  · rintro ⟨a, b, htext, rfl⟩
    have hlength := congrArg List.length htext
    rw [List.length_append, String.length_toList] at hlength
    omega
  · rintro ⟨hone, hle⟩
    refine ⟨haystack.toList.take (p - 1), haystack.toList.drop (p - 1),
      (List.take_append_drop _ _).symm, ?_⟩
    rw [List.length_take, String.length_toList]
    omega

theorem find_eq_zero_iff : find needle haystack start = 0 ↔
    ∀ q, max start 1 ≤ q → ¬StandsAt needle haystack q := by
  rcases find_cases needle haystack start with ⟨hzero, hnone⟩ | ⟨hle, hstands, -⟩
  · exact iff_of_true hzero hnone
  · exact iff_of_false (by omega) fun hnone => hnone _ hle hstands

theorem find_eq_iff (hp : 0 < p) : find needle haystack start = p ↔
    max start 1 ≤ p ∧ StandsAt needle haystack p ∧
      ∀ q, max start 1 ≤ q → q < p → ¬StandsAt needle haystack q := by
  rcases find_cases needle haystack start with ⟨hzero, hnone⟩ | ⟨hle, hstands, hleast⟩
  · exact iff_of_false (by omega) fun h => hnone p h.1 h.2.1
  · constructor
    · rintro rfl
      exact ⟨hle, hstands, fun q hq hlt hq' => Nat.not_le.mpr hlt (hleast q hq hq')⟩
    · rintro ⟨hp', hstands', hbefore⟩
      refine Nat.le_antisymm (hleast p hp' hstands') (Nat.not_lt.mp fun hlt => ?_)
      exact hbefore _ hle hlt hstands

/-- **`find` gives the first position and nothing else.**  A result that is not 0 is a position
where the needle stands, not before the start, and the first of these; the result is 0 if and only
if there is none.  The empty needle is found at the start, up to the end of the text and no further.
-/
theorem find_is_first (needle haystack : String) (start : Nat) :
    (∀ p, 0 < p → (find needle haystack start = p ↔
      max start 1 ≤ p ∧ StandsAt needle haystack p ∧
        ∀ q, max start 1 ≤ q → q < p → ¬StandsAt needle haystack q)) ∧
    (find needle haystack start = 0 ↔ ∀ q, max start 1 ≤ q → ¬StandsAt needle haystack q) ∧
    find "" haystack start = if max start 1 ≤ haystack.length + 1 then max start 1 else 0 := by
  refine ⟨fun p => find_eq_iff, find_eq_zero_iff, ?_⟩
  split
  · next hle =>
    refine (find_eq_iff (Nat.le_max_right _ _)).mpr ⟨Nat.le_refl _,
      standsAt_empty_iff.mpr ⟨Nat.le_max_right _ _, hle⟩, fun q hq hlt => ?_⟩
    exact absurd hq (Nat.not_le.mpr hlt)
  · next hbeyond =>
    refine find_eq_zero_iff.mpr fun q hq hstands => hbeyond ?_
    exact Nat.le_trans hq (standsAt_empty_iff.mp hstands).2

/-- In `"żółżó"` the needle is found at 5 from 3 on, where it does not stand at 4, and not at all
from 6 on, where the empty needle is still found at the end. -/
theorem find_is_first_accents :
    (find "ó" "żółżó" 3 = 5 ∧ StandsAt "ó" "żółżó" 5 ∧ ¬StandsAt "ó" "żółżó" 4) ∧
      (find "ó" "żółżó" 6 = 0 ∧ ¬StandsAt "ó" "żółżó" 6) ∧
      find "" "żółżó" 6 = 6 ∧ find "" "żółżó" 7 = 0 := by
  obtain ⟨hfirst, -, -⟩ := find_is_first "ó" "żółżó" 3
  obtain ⟨-, hnone, hend⟩ := find_is_first "ó" "żółżó" 6
  obtain ⟨-, -, hbeyond⟩ := find_is_first "ó" "żółżó" 7
  have hfound : find "ó" "żółżó" 3 = 5 := by decide
  have habsent : find "ó" "żółżó" 6 = 0 := by decide
  obtain ⟨-, hstands, hbefore⟩ := (hfirst 5 (by decide)).mp hfound
  exact ⟨⟨hfound, hstands, hbefore 4 (by decide) (by decide)⟩,
    ⟨habsent, hnone.mp habsent 6 (by decide)⟩, hend, hbeyond⟩

/-! ## Replacing what is found -/

variable {x y s before after : String}

/-- From the beginning of a text `find` finds the first occurrence. -/
theorem find_of_isFirst (h : IsFirst x.toList s.toList before.toList after.toList) :
    find x s 1 = before.length + 1 := by
  rw [find_eq, if_neg (Nat.not_lt_zero _), search, List.drop_zero, h.cut?_eq]
  exact congrArg (· + 1) ((Nat.zero_add _).trans String.length_toList)

/-- And nothing if and only if there is none. -/
theorem find_eq_zero_iff_not_occurs : find x s 1 = 0 ↔ ¬x.toList <:+: s.toList := by
  rw [← cut?_eq_none_iff, find_eq, if_neg (Nat.not_lt_zero _), search, List.drop_zero]
  cases cut? x.toList s.toList with
  | none => exact iff_of_true rfl rfl
  | some p => exact iff_of_false (Nat.succ_ne_zero _) (Option.some_ne_none p)

theorem exists_isFirst (h : x.toList <:+: s.toList) :
    ∃ before after : String, IsFirst x.toList s.toList before.toList after.toList := by
  cases hcut : cut? x.toList s.toList with
  | none => exact absurd h (cut?_eq_none_iff.mp hcut)
  | some p =>
    refine ⟨String.ofList p.1, String.ofList p.2, ?_⟩
    rw [String.toList_ofList, String.toList_ofList]
    exact isFirst_of_cut? hcut

/-- **A substitution replaces the first occurrence** and then those that its limit leaves in what
follows. -/
theorem substitute_add_one (hx : x ≠ "")
    (h : IsFirst x.toList s.toList before.toList after.toList) {n : Int} (hn : 0 ≤ n) :
    substitute s x y (n + 1) = before ++ y ++
      String.ofList (y.toList.intercalate (pieces x.toList (some n.toNat) after.toList)) := by
  have hnil : x.toList ≠ [] := fun hnil => hx (String.toList_eq_nil_iff.mp hnil)
  have hlimit : some (n + 1).toNat ≠ some 0 := fun hzero => by
    have hzero := Option.some.inj hzero
    omega
  have hrest : (some (n + 1).toNat).map (· - 1) = some n.toNat :=
    congrArg some (by omega : (n + 1).toNat - 1 = n.toNat)
  rw [substitute_eq, if_neg (by omega), pieces_of_isFirst hnil hlimit h, hrest,
    List.intercalate_cons_of_ne_nil (pieces_ne_nil hnil _ _), String.ofList_append,
    String.ofList_append, String.ofList_toList, String.ofList_toList]

theorem substitute_one (hx : x ≠ "")
    (h : IsFirst x.toList s.toList before.toList after.toList) :
    substitute s x y 1 = before ++ y ++ after := by
  have hone := @substitute_add_one x y s before after hx h 0 (Int.le_refl 0)
  have hstop : pieces x.toList (some 0) after.toList = [after.toList] :=
    piecesFrom_of_stop [] (.inl rfl)
  rwa [Int.toNat_zero, hstop, List.intercalate_singleton, String.ofList_toList] at hone

theorem substitute_succ (hx : x ≠ "")
    (h : IsFirst x.toList s.toList before.toList after.toList) {n : Int} (hn : 1 ≤ n) :
    substitute s x y (n + 1) = before ++ y ++ substitute after x y n := by
  rw [substitute_add_one hx h (by omega), substitute_eq, if_neg (by omega)]

theorem substitute_of_not_occurs (h : ¬x.toList <:+: s.toList) (max : Int) :
    substitute s x y max = s := by
  rw [substitute_eq, pieces, piecesFrom_of_stop [] (.inr h)]
  exact (congrArg String.ofList List.intercalate_singleton).trans String.ofList_toList

/-- **The first occurrence is a stretch** that a splice may replace, at the position that is found.
-/
theorem splice?_find (h : IsFirst x.toList s.toList before.toList after.toList)
    (hs : s.length < UInt64.size) :
    splice? s (.ofNat (find x s 1 - 1)) (.ofNat x.length) y = some (before ++ y ++ after) := by
  have htext : s = before ++ x ++ after := eq_append_iff.mpr h.text
  have hlength : before.length + x.length ≤ s.length := by
    rw [htext, String.length_append, String.length_append]
    exact Nat.le_add_right _ _
  have hfind : find x s 1 - 1 = before.length := by
    rw [find_of_isFirst h, Nat.add_sub_cancel]
  have hpos : (UInt64.ofNat before.length).toNat = before.length :=
    UInt64.toNat_ofNat_of_lt' (by omega)
  have hn : (UInt64.ofNat x.length).toNat = x.length := UInt64.toNat_ofNat_of_lt' (by omega)
  rw [hfind, splice?_eq_some_iff, hpos, hn]
  exact ⟨by omega, before, x, after, htext, rfl, rfl, rfl⟩

/-- **To find and to splice is to substitute once**, and to substitute more than once is to go on
behind the first occurrence.  Where nothing is found nothing is substituted. -/
theorem substitute_at_find (s y : String) {x : String} (hx : x ≠ "") :
    (x.toList <:+: s.toList → ∃ before after : String,
      IsFirst x.toList s.toList before.toList after.toList ∧
      find x s 1 = before.length + 1 ∧
      (s.length < UInt64.size →
        splice? s (.ofNat (find x s 1 - 1)) (.ofNat x.length) y = some (substitute s x y 1)) ∧
      ∀ n : Int, 1 ≤ n → substitute s x y (n + 1) = before ++ y ++ substitute after x y n) ∧
    (find x s 1 = 0 → ∀ max, substitute s x y max = s) := by
  refine ⟨fun hoccurs => ?_, fun hnone => ?_⟩
  · obtain ⟨before, after, hfirst⟩ := exists_isFirst hoccurs
    refine ⟨before, after, hfirst, find_of_isFirst hfirst, fun hs => ?_,
      fun n => substitute_succ hx hfirst⟩
    rw [splice?_find hfirst hs, substitute_one hx hfirst]
  · exact substitute_of_not_occurs (find_eq_zero_iff_not_occurs.mp hnone)

/-- Of the two overlapping occurrences after the first letter the earlier is replaced. -/
theorem substitute_at_find_overlap :
    ("aa".toList <:+: "baaaac".toList ∧ "baaaac".length < UInt64.size) ∧
      splice? "baaaac" (.ofNat (find "aa" "baaaac" 1 - 1)) 2 "-"
        = some (substitute "baaaac" "aa" "-" 1) ∧
      substitute "baaaac" "aa" "-" 2 = "b" ++ "-" ++ substitute "aac" "aa" "-" 1 ∧
      substitute "baaaac" "ab" "-" 7 = "baaaac" := by
  have hoccurs : "aa".toList <:+: "baaaac".toList := by decide
  have hsize : "baaaac".length < UInt64.size := by decide
  have hcut : IsFirst "aa".toList "baaaac".toList "b".toList "aac".toList := isFirst_of_cut? rfl
  obtain ⟨hreplaced, -⟩ := @substitute_at_find "baaaac" "-" "aa" (by decide)
  obtain ⟨-, habsent⟩ := @substitute_at_find "baaaac" "-" "ab" (by decide)
  obtain ⟨before, after, hfirst, -, hsplice, hmore⟩ := hreplaced hoccurs
  obtain ⟨hbefore, hafter⟩ := hfirst.unique hcut
  obtain rfl := String.toList_injective hbefore
  obtain rfl := String.toList_injective hafter
  exact ⟨⟨hoccurs, hsize⟩, hsplice hsize, hmore 1 (by decide), habsent (by decide) 7⟩

end Formula.Text
