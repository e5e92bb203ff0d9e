import Formula.Text.Chars
import Mathlib.Data.List.Basic
import Mathlib.Data.List.TakeWhile
import Mathlib.Tactic.Common

/-!
# Proofs/Text/Trimming — what trimming takes off a text, and what it leaves

What is trimmed off either end of a text is blank (`exists_eq_append_trimChars`), so that nothing
else is lost (`mem_trimChars`) and trimming again takes nothing more (`trimChars_trimChars`).
-/

namespace Formula.Text

/-- The characters up to the blanks at the end. -/
def trimEnd (cs : List Char) : List Char := (skipBlanks cs.reverse).reverse

/-- What is trimmed off the end is blank. -/
theorem exists_eq_trimEnd_append (cs : List Char) :
    ∃ after, cs = trimEnd cs ++ after ∧ ∀ c ∈ after, isBlank c := by
  refine ⟨(cs.reverse.takeWhile isBlank).reverse, ?_, fun c hc =>
    List.mem_takeWhile_imp (List.mem_reverse.mp hc)⟩
  rw [trimEnd, skipBlanks, ← List.reverse_append, List.takeWhile_append_dropWhile,
    List.reverse_reverse]

/-- **What is trimmed off a text is blank.** -/
theorem exists_eq_append_trimChars (cs : List Char) :
    ∃ before after, cs = before ++ trimChars cs ++ after ∧ (∀ c ∈ before, isBlank c) ∧
      ∀ c ∈ after, isBlank c := by
  obtain ⟨after, hcs, hafter⟩ := exists_eq_trimEnd_append (skipBlanks cs)
  refine ⟨cs.takeWhile isBlank, after, ?_, fun c hc => List.mem_takeWhile_imp hc, hafter⟩
  rw [List.append_assoc]
  change cs = cs.takeWhile isBlank ++ (trimEnd (skipBlanks cs) ++ after)
  rw [← hcs, skipBlanks, List.takeWhile_append_dropWhile]

/-- What is not blank is not trimmed off. -/
theorem mem_trimChars {cs : List Char} {c : Char} (hc : c ∈ cs) (hblank : ¬isBlank c) :
    c ∈ trimChars cs := by
  obtain ⟨before, after, hcs, hbefore, hafter⟩ := exists_eq_append_trimChars cs
  rw [hcs, List.mem_append, List.mem_append] at hc
  rcases hc with (hc | hc) | hc
  · exact absurd (hbefore c hc) hblank
  · exact hc
  · exact absurd (hafter c hc) hblank

/-- **Trimming once is enough.** -/
theorem trimChars_trimChars (cs : List Char) : trimChars (trimChars cs) = trimChars cs := by
  obtain ⟨before, after, hcs, hbefore, hafter⟩ := exists_eq_append_trimChars cs
  conv_rhs => rw [hcs]
  exact (trimChars_append_blanks hbefore hafter).symm

/-- Behind a text that is not blank only the end is trimmed. -/
theorem trimChars_append {sign : List Char} (hne : sign ≠ []) (hsign : ∀ c ∈ sign, ¬isBlank c)
    (cs : List Char) : trimChars (sign ++ cs) = sign ++ trimEnd cs := by
  have hfront : skipBlanks (sign ++ cs) = sign ++ cs := by
    refine skipBlanks_eq_self fun c hc => hsign c (List.mem_of_head? ?_)
    rwa [List.head?_append_of_ne_nil _ hne] at hc
  have hsign' : sign.reverse.dropWhile isBlank = sign.reverse := by
    refine skipBlanks_eq_self fun c hc => hsign c ?_
    exact List.mem_reverse.mp (List.mem_of_head? hc)
  rw [trimChars, hfront, List.reverse_append, trimEnd, skipBlanks, skipBlanks,
    List.dropWhile_append, hsign']
  split
  · next hblank =>
    rw [List.isEmpty_iff.mp hblank, List.reverse_reverse, List.reverse_nil, List.append_nil]
  · rw [List.reverse_append, List.reverse_reverse]

theorem trimChars_trimEnd (cs : List Char) : trimChars (trimEnd cs) = trimChars cs := by
  obtain ⟨after, hcs, hafter⟩ := exists_eq_trimEnd_append cs
  conv_rhs => rw [hcs, ← List.nil_append (trimEnd cs)]
  exact (trimChars_append_blanks (fun c hc => absurd hc List.not_mem_nil) hafter).symm

end Formula.Text
