/-!
# Text/Chars — blanks, letters and digits

**Blank** is the Unicode property `White_Space`.  `trim` takes the blanks off both ends of a text.
Hexadecimal digits are read in either case and written in lower case.
-/

namespace Formula.Text

/-- Whether a character has the Unicode property `White_Space`. -/
def isBlank (c : Char) : Bool :=
  let n := c.toNat
  (0x9 ≤ n && n ≤ 0xD) || n == 0x20 || n == 0x85 || n == 0xA0 || n == 0x1680 ||
    (0x2000 ≤ n && n ≤ 0x200A) || n == 0x2028 || n == 0x2029 || n == 0x202F || n == 0x205F ||
    n == 0x3000

/-- The characters from the first on that is not blank. -/
def skipBlanks (cs : List Char) : List Char := cs.dropWhile isBlank

/-- The characters between the blanks at either end. -/
def trimChars (cs : List Char) : List Char := (skipBlanks (skipBlanks cs).reverse).reverse

/-- **A text without the blanks at either end.** -/
def trim (s : String) : String := String.ofList (trimChars s.toList)

/-! ## Hexadecimal digits -/

/-- The value of a hexadecimal digit. -/
def hexValue? (c : Char) : Option Nat :=
  if c.isDigit then some (c.toNat - '0'.toNat)
  else if 'a' ≤ c ∧ c ≤ 'f' then some (c.toNat - 'a'.toNat + 10)
  else if 'A' ≤ c ∧ c ≤ 'F' then some (c.toNat - 'A'.toNat + 10)
  else none

/-- The hexadecimal digit of a number below 16. -/
def hexDigit (n : Nat) : Char := Nat.digitChar n

/-! ## Letters and digits -/

section Letters

variable {c : Char}

/-- The capitals are the characters from `A` to `Z`. -/
theorem isUpper_iff_toNat : c.isUpper ↔ 65 ≤ c.toNat ∧ c.toNat ≤ 90 :=
  decide_eq_true_iff.trans (and_congr UInt32.le_iff_toNat_le UInt32.le_iff_toNat_le)

/-- The small letters are the characters from `a` to `z`. -/
theorem isLower_iff_toNat : c.isLower ↔ 97 ≤ c.toNat ∧ c.toNat ≤ 122 :=
  Bool.and_eq_true_iff.trans (and_congr (decide_eq_true_iff.trans UInt32.le_iff_toNat_le)
    (decide_eq_true_iff.trans UInt32.le_iff_toNat_le))

theorem isAlpha_iff_toNat :
    c.isAlpha ↔ (65 ≤ c.toNat ∧ c.toNat ≤ 90) ∨ 97 ≤ c.toNat ∧ c.toNat ≤ 122 :=
  Bool.or_eq_true_iff.trans (or_congr isUpper_iff_toNat isLower_iff_toNat)

theorem isDigit_iff_toNat : c.isDigit ↔ 48 ≤ c.toNat ∧ c.toNat ≤ 57 := Char.isDigit_iff_toNat

/-- Letters and digits are not blank. -/
theorem not_isBlank_of_isAlphanum (h : c.isAlphanum) : ¬isBlank c := by
  have hbounds : 48 ≤ c.toNat ∧ c.toNat ≤ 122 := by
    rcases Bool.or_eq_true_iff.mp h with h | h
    · rw [isAlpha_iff_toNat] at h
      omega
    · rw [isDigit_iff_toNat] at h
      omega
  simp only [isBlank, Bool.or_eq_true, Bool.and_eq_true, decide_eq_true_eq, beq_iff_eq]
  omega

end Letters

/-! ## Texts that are trimmed -/

/-- No blanks are skipped where there are none. -/
theorem skipBlanks_eq_self {cs : List Char} (h : ∀ c ∈ cs.head?, ¬isBlank c) :
    skipBlanks cs = cs := by
  cases cs with
  | nil => rfl
  | cons c cs => exact List.dropWhile_cons_of_neg (h c rfl)

/-- **A text without a blank at either end is trimmed already.** -/
theorem trimChars_eq_self {cs : List Char} (hfirst : ∀ c ∈ cs.head?, ¬isBlank c)
    (hlast : ∀ c ∈ cs.getLast?, ¬isBlank c) : trimChars cs = cs := by
  rw [trimChars, skipBlanks_eq_self hfirst, skipBlanks_eq_self, List.reverse_reverse]
  rwa [List.head?_reverse]

/-- Blanks at either end make no difference. -/
theorem trimChars_append_blanks {before cs after : List Char} (hbefore : ∀ c ∈ before, isBlank c)
    (hafter : ∀ c ∈ after, isBlank c) : trimChars (before ++ cs ++ after) = trimChars cs := by
  have hnone : after.dropWhile isBlank = [] := by
    rw [← List.append_nil after, List.dropWhile_append_of_pos hafter]
    rfl
  have hskip : skipBlanks (before ++ cs ++ after)
      = if (skipBlanks cs).isEmpty then [] else skipBlanks cs ++ after := by
    rw [skipBlanks, List.append_assoc, List.dropWhile_append_of_pos hbefore, List.dropWhile_append,
      hnone]
    rfl
  rw [trimChars, hskip, trimChars]
  split
  · next hempty => rw [List.isEmpty_iff.mp hempty]
  · have hreverse : ∀ c ∈ after.reverse, isBlank c := fun c hc => hafter c (List.mem_reverse.mp hc)
    have hend : skipBlanks (after.reverse ++ (skipBlanks cs).reverse)
        = skipBlanks (skipBlanks cs).reverse := List.dropWhile_append_of_pos hreverse
    rw [List.reverse_append, hend]

end Formula.Text
