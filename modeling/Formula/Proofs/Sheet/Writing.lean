import Formula.Proofs.Sheet.Grammar
import Mathlib

/-!
# Proofs/Sheet/Writing — the text of an address, and what reading makes of it

The column of an address is written as the one word of capital letters that counts it, and the row
as the one decimal that counts it without zeros in front (`WritesColumn`, `WritesRow`).
`toA1_faithful` puts together what follows from that: no two addresses have one text, reading gives
back every address of the grid, and an address that was read is written as `canonicalText` says.

Counting from 1 takes one number more than counting from 0, so all this is about addresses whose
row and column are not the greatest of 32 bits (`Writable`).
-/

namespace Formula.Address

open Text (trim isBlank)

/-! ## The words of a column and of a row -/

/-- **The word that counts a column**: capital letters, the last of them counting single columns. -/
def WritesColumn (n : Nat) (letters : List Char) : Prop :=
  Word Char.isUpper letters ∧ columnValue letters = n

/-- **The decimal that counts a row**, without zeros in front. -/
def WritesRow (n : Nat) (digits : List Char) : Prop :=
  Word Char.isDigit digits ∧ digits.head? ≠ some '0' ∧ rowValue digits = n

/-- **Both numbers of the address can be counted from 1** in 32 bits. -/
def Writable (a : Address) : Prop := a.row.toNat < 2 ^ 32 - 1 ∧ a.column.toNat < 2 ^ 32 - 1

instance (a : Address) : Decidable (Writable a) := by
  unfold Writable
  infer_instance

/-- **The canonical form of a text**: trimmed, without dollar signs, in upper case, and without
zeros in front of the row. -/
def canonicalText (s : String) : String :=
  let plain := ((trim s).toList.filter (· ≠ '$')).map Char.toUpper
  String.ofList
    (plain.takeWhile Char.isAlpha ++ (plain.dropWhile Char.isAlpha).dropWhile (· == '0'))

variable {c : Char} {n : Nat} {letters digits : List Char}

/-! ## Letters -/

/-- The letter of a digit is a capital. -/
theorem isUpper_ofNat {d : Nat} (hd : d < 26) : (Char.ofNat ('A'.toNat + d)).isUpper := by
  have key : ∀ i < 26, (Char.ofNat ('A'.toNat + i)).isUpper := by decide
  exact key d hd

/-- The letter of a digit stands for that digit. -/
theorem letterDigit_ofNat {d : Nat} (hd : d < 26) :
    letterDigit (Char.ofNat ('A'.toNat + d)) = d + 1 := by
  have key : ∀ i < 26, letterDigit (Char.ofNat ('A'.toNat + i)) = i + 1 := by decide
  exact key d hd

theorem exists_eq_ofNat_of_isUpper (h : c.isUpper) : ∃ d < 26, c = Char.ofNat ('A'.toNat + d) := by
  rw [Text.isUpper_iff_toNat] at h
  refine ⟨c.toNat - 65, by omega, ?_⟩
  change c = Char.ofNat (65 + (c.toNat - 65))
  rw [Nat.add_sub_cancel' h.1, Char.ofNat_toNat]

theorem letterDigit_bounds (h : c.isUpper) : 1 ≤ letterDigit c ∧ letterDigit c ≤ 26 := by
  obtain ⟨d, hd, rfl⟩ := exists_eq_ofNat_of_isUpper h
  rw [letterDigit_ofNat hd]
  omega

/-- A capital is known by its digit. -/
theorem ofNat_letterDigit (h : c.isUpper) : Char.ofNat ('A'.toNat + (letterDigit c - 1)) = c := by
  obtain ⟨d, hd, rfl⟩ := exists_eq_ofNat_of_isUpper h
  rw [letterDigit_ofNat hd, Nat.add_sub_cancel]

/-- The case of a letter does not change its digit. -/
theorem letterDigit_toUpper (c : Char) : letterDigit c.toUpper = letterDigit c := by
  rw [letterDigit, letterDigit, Char.toUpper_toUpper_eq_toUpper]

theorem columnValue_map_toUpper : columnValue (letters.map Char.toUpper) = columnValue letters := by
  rw [columnValue, columnValue, List.map_map]
  exact congrArg _ (List.map_congr_left fun c _ => letterDigit_toUpper c)

theorem bijective_of_isUpper (h : ∀ c ∈ letters, c.isUpper) :
    Bijective 26 (letters.map letterDigit) := by
  intro d hd
  obtain ⟨c, hc, rfl⟩ := List.mem_map.mp hd
  exact letterDigit_bounds (h c hc)

/-- Words are the same that are the same digit by digit, if each digit knows its character. -/
theorem eq_of_map_eq {kind : Char → Bool} {f : Char → Nat} {g : Nat → Char}
    (hg : ∀ c, kind c → g (f c) = c) {cs ds : List Char} (hcs : ∀ c ∈ cs, kind c)
    (hds : ∀ c ∈ ds, kind c) (h : cs.map f = ds.map f) : cs = ds := by
  have key : ∀ es : List Char, (∀ c ∈ es, kind c) → (es.map f).map g = es := fun es hes => by
    rw [List.map_map]
    exact (List.map_congr_left fun c hc => hg c (hes c hc)).trans (List.map_id es)
  rw [← key cs hcs, h, key ds hds]

/-- **No two words count one column.** -/
theorem WritesColumn.unique {letters' : List Char} (h : WritesColumn n letters)
    (h' : WritesColumn n letters') : letters = letters' := by
  have hdigits : letters.map letterDigit = letters'.map letterDigit :=
    eq_of_numeralValue_eq_of_bijective (bijective_of_isUpper h.1.2)
      (bijective_of_isUpper h'.1.2) (h.2.trans h'.2.symm)
  exact eq_of_map_eq (g := fun d => Char.ofNat ('A'.toNat + (d - 1)))
    (fun _ => ofNat_letterDigit) h.1.2 h'.1.2 hdigits

theorem columnLetters_zero : columnLetters 0 = [] := by
  rw [columnLetters, if_pos rfl]

theorem columnLetters_of_pos (h : n ≠ 0) :
    columnLetters n
      = columnLetters ((n - 1) / 26) ++ [Char.ofNat ('A'.toNat + (n - 1) % 26)] := by
  rw [columnLetters, if_neg h]

theorem isUpper_of_mem_columnLetters : ∀ c ∈ columnLetters n, c.isUpper := by
  induction n using columnLetters.induct with
  | case1 =>
    intro c hc
    rw [columnLetters_zero] at hc
    exact absurd hc List.not_mem_nil
  | case2 n hn ih =>
    intro c hc
    rw [columnLetters_of_pos hn] at hc
    rcases List.mem_append.mp hc with hc | hc
    · exact ih c hc
    · rw [List.mem_singleton.mp hc]
      exact isUpper_ofNat (Nat.mod_lt _ (by decide))

/-- The letters that are written count the column: taking 1 off before each division makes room for
the digit 26. -/
theorem columnValue_columnLetters : columnValue (columnLetters n) = n := by
  induction n using columnLetters.induct with
  | case1 => rw [columnLetters_zero, columnValue, List.map_nil, numeralValue_nil]
  | case2 n hn ih =>
    have hdigit : (n - 1) % 26 < 26 := Nat.mod_lt _ (by decide)
    rw [columnLetters_of_pos hn, columnValue, List.map_append, List.map_singleton,
      numeralValue_concat, letterDigit_ofNat hdigit, ← columnValue, ih]
    omega

/-- **The letters of a column are a word that counts it.** -/
theorem writesColumn_columnLetters (hn : n ≠ 0) : WritesColumn n (columnLetters n) := by
  refine ⟨⟨?_, isUpper_of_mem_columnLetters⟩, columnValue_columnLetters⟩
  rw [columnLetters_of_pos hn]
  exact List.append_ne_nil_of_right_ne_nil _ (List.cons_ne_nil _ _)

/-! ## Digits -/

theorem decimalDigit_lt (h : c.isDigit) : decimalDigit c < 10 := by
  have hbounds := Text.isDigit_iff_toNat.mp h
  change c.toNat - 48 < 10
  omega

/-- A decimal digit is known by its number. -/
theorem ofNat_decimalDigit (h : c.isDigit) : Char.ofNat ('0'.toNat + decimalDigit c) = c := by
  have hbounds := Text.isDigit_iff_toNat.mp h
  change Char.ofNat (48 + (c.toNat - 48)) = c
  rw [Nat.add_sub_cancel' hbounds.1, Char.ofNat_toNat]

theorem eq_zero_of_decimalDigit_eq_zero (h : c.isDigit) (hzero : decimalDigit c = 0) :
    c = '0' := by
  rw [← ofNat_decimalDigit h, hzero]
  rfl

theorem plain_of_isDigit (h : ∀ c ∈ digits, c.isDigit) (hhead : digits.head? ≠ some '0') :
    Plain 10 (digits.map decimalDigit) := by
  constructor
  · intro d hd
    obtain ⟨c, hc, rfl⟩ := List.mem_map.mp hd
    exact decimalDigit_lt (h c hc)
  · rw [List.head?_map]
    intro hzero
    obtain ⟨c, hc, hdigit⟩ := Option.map_eq_some_iff.mp hzero
    have hmem : c ∈ digits := List.mem_of_head? hc
    rw [eq_zero_of_decimalDigit_eq_zero (h c hmem) hdigit] at hc
    exact hhead hc

/-- **No two decimals count one row.** -/
theorem WritesRow.unique {digits' : List Char} (h : WritesRow n digits)
    (h' : WritesRow n digits') : digits = digits' := by
  have hnumbers : digits.map decimalDigit = digits'.map decimalDigit :=
    eq_of_numeralValue_eq_of_plain (by decide) (plain_of_isDigit h.1.2 h.2.1)
      (plain_of_isDigit h'.1.2 h'.2.1) (h.2.2.trans h'.2.2.symm)
  exact eq_of_map_eq (g := fun d => Char.ofNat ('0'.toNat + d))
    (fun _ => ofNat_decimalDigit) h.1.2 h'.1.2 hnumbers

theorem rowValue_toDigits : rowValue (Nat.toDigits 10 n) = n := by
  rw [rowValue, numeralValue_eq_foldl, List.foldl_map]
  exact Nat.ofDigitChars_eq_foldl.symm.trans Nat.ofDigitChars_ten_toDigits

theorem isDigit_of_mem_toDigits : ∀ c ∈ Nat.toDigits 10 n, c.isDigit := fun _ hc =>
  Nat.isDigit_of_mem_toDigits (by decide) (by decide) hc

theorem head?_toDigits_ne_zero (hn : n ≠ 0) : (Nat.toDigits 10 n).head? ≠ some '0' := by
  induction n using Nat.strongRecOn with
  | ind n ih =>
    by_cases hlt : n < 10
    · have key : ∀ i < 10, i ≠ 0 → i.digitChar ≠ '0' := by decide
      rw [Nat.toDigits_of_lt_base hlt, List.head?_cons, ne_eq, Option.some.injEq]
      exact key n hlt hn
    · rw [Nat.toDigits_of_base_le (by decide) (Nat.not_lt.mp hlt),
        List.head?_append_of_ne_nil _ Nat.toDigits_ne_nil]
      exact ih (n / 10) (by omega) (by omega)

/-- **The digits of a row are a decimal that counts it.** -/
theorem writesRow_toDigits (hn : n ≠ 0) : WritesRow n (Nat.toDigits 10 n) :=
  ⟨⟨Nat.toDigits_ne_nil, isDigit_of_mem_toDigits⟩, head?_toDigits_ne_zero hn, rowValue_toDigits⟩

theorem rowValue_dropWhile_zero : rowValue (digits.dropWhile (· == '0')) = rowValue digits := by
  induction digits with
  | nil => rfl
  | cons c cs ih =>
    by_cases hc : c = '0'
    · subst hc
      exact ih.trans numeralValue_zero_cons.symm
    · rw [List.dropWhile_cons_of_neg (by simpa using hc)]

/-! ## Writing -/

/-- Counting a number from 1 stays within 32 bits if it is not the greatest. -/
theorem toNat_add_one {x : UInt32} (h : x.toNat < 2 ^ 32 - 1) : (x + 1).toNat = x.toNat + 1 := by
  rw [UInt32.toNat_add]
  change (x.toNat + 1) % 2 ^ 32 = x.toNat + 1
  exact Nat.mod_eq_of_lt (by omega)

variable {a b : Address}

/-- Every address of the grid can be written. -/
theorem writable_of_inGrid (h : a.inGrid) : Writable a := by
  rw [inGrid, Bool.and_eq_true, decide_eq_true_iff, decide_eq_true_iff] at h
  exact ⟨h.1.trans (by decide), h.2.trans (by decide)⟩

/-- **The text of an address** is the letters of its column and the digits of its row. -/
theorem toList_toA1 (h : Writable a) :
    a.toA1.toList = columnLetters (a.column.toNat + 1) ++ Nat.toDigits 10 (a.row.toNat + 1) := by
  rw [toA1, String.toList_ofList, toNat_add_one h.1, toNat_add_one h.2]

/-- A text of capital letters and digits splits into these and those. -/
theorem ofText_append (hletters : Word Char.isUpper letters) (hdigits : Word Char.isDigit digits) :
    Parts.ofText (letters ++ digits) = ⟨letters, digits, []⟩ := by
  have halpha : Word Char.isAlpha letters :=
    ⟨hletters.1, fun c hc => Bool.or_eq_true_iff.mpr (Or.inl (hletters.2 c hc))⟩
  refine (shape_iff.mp ⟨⟨halpha, [], [], .absent, .absent, ?_⟩, hdigits⟩).1
  rw [List.nil_append, List.append_nil]

theorem ofText_toA1 (h : Writable a) :
    Parts.ofText a.toA1.toList
      = ⟨columnLetters (a.column.toNat + 1), Nat.toDigits 10 (a.row.toNat + 1), []⟩ := by
  rw [toList_toA1 h]
  exact ofText_append (writesColumn_columnLetters (Nat.succ_ne_zero _)).1
    (writesRow_toDigits (Nat.succ_ne_zero _)).1

/-- **No two addresses have one text.** -/
theorem eq_of_toA1_eq (ha : Writable a) (hb : Writable b) (h : a.toA1 = b.toA1) : a = b := by
  have hparts : Parts.ofText a.toA1.toList = Parts.ofText b.toA1.toList := by rw [h]
  rw [ofText_toA1 ha, ofText_toA1 hb, Parts.mk.injEq] at hparts
  obtain ⟨hletters, hdigits, -⟩ := hparts
  have hcolumn := congrArg columnValue hletters
  have hrow := congrArg rowValue hdigits
  rw [columnValue_columnLetters, columnValue_columnLetters] at hcolumn
  rw [rowValue_toDigits, rowValue_toDigits] at hrow
  have hcolumn' : a.column = b.column := UInt32.toNat_inj.mp (Nat.succ_injective hcolumn)
  have hrow' : a.row = b.row := UInt32.toNat_inj.mp (Nat.succ_injective hrow)
  cases a
  cases b
  exact congrArg₂ Address.mk hrow' hcolumn'

/-- The text of an address is letters and digits. -/
theorem isAlphanum_of_mem_toA1 (h : Writable a) {c : Char} (hc : c ∈ a.toA1.toList) :
    c.isAlphanum := by
  rw [toList_toA1 h, List.mem_append] at hc
  rcases hc with hc | hc
  · have halpha : c.isAlpha := Bool.or_eq_true_iff.mpr (Or.inl (isUpper_of_mem_columnLetters c hc))
    exact Bool.or_eq_true_iff.mpr (Or.inl halpha)
  · exact Bool.or_eq_true_iff.mpr (Or.inr (isDigit_of_mem_toDigits c hc))

/-- The text of an address has no blanks at its ends. -/
theorem trim_toA1 (h : Writable a) : trim a.toA1 = a.toA1 := by
  have hblank : ∀ c ∈ a.toA1.toList, ¬isBlank c := fun c hc =>
    Text.not_isBlank_of_isAlphanum (isAlphanum_of_mem_toA1 h hc)
  rw [trim, Text.trimChars_eq_self (fun c hc => hblank c (List.mem_of_head? hc))
    (fun c hc => hblank c (List.mem_of_getLast? hc)), String.ofList_toList]

/-! ## Reading what was written -/

/-- **Reading gives back every address of the grid**, and says of any other what is out of it. -/
theorem ofA1_toA1 (h : Writable a) :
    ofA1 a.toA1 =
      if maxColumns ≤ a.column.toNat then .error (.columnOutOfRange a.toA1)
      else if maxRows ≤ a.row.toNat then .error (.rowOutOfRange a.toA1)
      else .ok a := by
  have hcolumn := writesColumn_columnLetters (Nat.succ_ne_zero a.column.toNat)
  have hrow := writesRow_toDigits (Nat.succ_ne_zero a.row.toNat)
  have hempty : a.toA1.toList ≠ [] := by
    rw [toList_toA1 h]
    exact List.append_ne_nil_of_left_ne_nil hcolumn.1.1 _
  have hread : ∀ x : UInt32, x.toNat < 2 ^ 32 - 1 → UInt32.ofNat (x.toNat + 1) - 1 = x :=
    fun x hx => (ofNat_sub_one_eq_iff (Nat.le_add_left 1 _) (by
      change x.toNat + 1 < 2 ^ 32
      omega)).mpr rfl
  have hrows : (1 ≤ a.row.toNat + 1 ∧ a.row.toNat + 1 ≤ maxRows) ↔ ¬maxRows ≤ a.row.toNat := by
    omega
  rw [ofA1_eq_address (by rwa [trim_toA1 h]), trim_toA1 h, ofText_toA1 h, address_eq]
  dsimp only
  rw [if_neg hcolumn.1.1, if_neg hrow.1.1, if_neg (not_not_intro rfl), hcolumn.2, hrow.2.2,
    hread _ h.1, hread _ h.2]
  simp only [Nat.lt_add_one_iff, hrows, not_not]

/-! ## Writing what was read -/

theorem filter_dollar {d : List Char} (hd : Dollar d) : d.filter (· ≠ '$') = [] := by
  cases hd <;> rfl

theorem filter_eq_self_of_word {kind : Char → Bool} {cs : List Char} (hcs : Word kind cs)
    (hkind : ∀ c, kind c → ¬(c == '$')) : cs.filter (· ≠ '$') = cs := by
  refine List.filter_eq_self.mpr fun c hc => ?_
  simpa using hkind c (hcs.2 c hc)

/-- Digits have no case. -/
theorem map_toUpper_of_isDigit (h : ∀ c ∈ digits, c.isDigit) :
    digits.map Char.toUpper = digits := by
  refine (List.map_congr_left fun c hc => ?_).trans (List.map_id digits)
  have hbounds := Text.isDigit_iff_toNat.mp (h c hc)
  refine Char.toUpper_eq_of_not_isLower fun hlower => ?_
  rw [Text.isLower_iff_toNat] at hlower
  omega

/-- The canonical form of a text that has the shape of an address. -/
theorem canonicalText_of_shape {s : String} (h : Shape (trim s).toList letters digits) :
    canonicalText s =
      String.ofList (letters.map Char.toUpper ++ digits.dropWhile (· == '0')) := by
  obtain ⟨⟨hletters, d, d', hd, hd', htext⟩, hdigits⟩ := h
  have hupper : Word Char.isAlpha (letters.map Char.toUpper) := by
    refine ⟨by simpa using hletters.1, fun c hc => ?_⟩
    obtain ⟨x, hx, rfl⟩ := List.mem_map.mp hc
    rw [Char.isAlpha_toUpper_eq_isAlpha]
    exact hletters.2 x hx
  have hend : ¬Begins Char.isAlpha digits :=
    hdigits.begins.not_of_disjoint not_isAlpha_of_isDigit
  have hplain : ((trim s).toList.filter (· ≠ '$')).map Char.toUpper
      = letters.map Char.toUpper ++ digits := by
    rw [htext, List.filter_append, List.filter_append, List.filter_append, filter_dollar hd,
      filter_dollar hd', filter_eq_self_of_word hletters not_dollar_of_isAlpha,
      filter_eq_self_of_word hdigits not_dollar_of_isDigit, List.nil_append, List.append_nil,
      List.map_append, map_toUpper_of_isDigit hdigits.2]
  rw [canonicalText, hplain, takeWhile_append_of_word hupper hend,
    dropWhile_append_of_word hupper hend]

/-- Letters of either case write a column as their capitals do. -/
theorem writesColumn_map_toUpper (h : Word Char.isAlpha letters) :
    WritesColumn (columnValue letters) (letters.map Char.toUpper) := by
  refine ⟨⟨by simpa using h.1, fun c hc => ?_⟩, columnValue_map_toUpper⟩
  obtain ⟨x, hx, rfl⟩ := List.mem_map.mp hc
  rw [Char.isUpper_toUpper_eq_isAlpha]
  exact h.2 x hx

/-- Digits that count something write a row as they do without zeros in front. -/
theorem writesRow_dropWhile_zero (h : ∀ c ∈ digits, c.isDigit) (hpos : rowValue digits ≠ 0) :
    WritesRow (rowValue digits) (digits.dropWhile (· == '0')) := by
  refine ⟨⟨fun hnil => hpos ?_, fun c hc => ?_⟩, fun hzero => ?_, rowValue_dropWhile_zero⟩
  · rw [← rowValue_dropWhile_zero, hnil]
    rfl
  · exact h c ((List.dropWhile_sublist _).subset hc)
  · have hhead := List.head?_dropWhile_not (· == '0') digits
    rw [hzero] at hhead
    exact absurd hhead (by decide)

/-- **An address that was read is written in the canonical form of its text.** -/
theorem toA1_eq_canonicalText {s : String} (h : ofA1 s = .ok a) : a.toA1 = canonicalText s := by
  obtain ⟨letters, digits, hshape, ⟨hcolumn, hcolumns⟩, hrow, -, hrows⟩ := ofA1_eq_ok_iff.mp h
  have hwritable : Writable a := by
    have hbounds : maxRows < 2 ^ 32 - 1 ∧ maxColumns < 2 ^ 32 - 1 := by decide
    exact ⟨by omega, by omega⟩
  have hletters : columnLetters (a.column.toNat + 1) = letters.map Char.toUpper := by
    have hwrites := writesColumn_map_toUpper hshape.1.1
    rw [hcolumn] at hwrites
    exact (writesColumn_columnLetters (Nat.succ_ne_zero _)).unique hwrites
  have hdigits : Nat.toDigits 10 (a.row.toNat + 1) = digits.dropWhile (· == '0') := by
    have hwrites := writesRow_dropWhile_zero hshape.2.2 (hrow ▸ Nat.succ_ne_zero _)
    rw [hrow] at hwrites
    exact (writesRow_toDigits (Nat.succ_ne_zero _)).unique hwrites
  rw [canonicalText_of_shape hshape, ← hletters, ← hdigits, ← toList_toA1 hwritable,
    String.ofList_toList]

/-! ## The headline -/

/-- **Writing is faithful, and reading undoes it.**  The text of an address is the word of its
column and the decimal of its row, no other word and no other decimal count them, and no two
addresses have one text.  Reading it gives the address back, or says which of its two numbers is out
of the grid; and whatever text an address was read from, it is written in the canonical form of that
text. -/
theorem toA1_faithful :
    (∀ a : Address, Writable a → ∃ letters digits,
      a.toA1 = String.ofList (letters ++ digits) ∧
        (WritesColumn (a.column.toNat + 1) letters ∧
          ∀ w, WritesColumn (a.column.toNat + 1) w → w = letters) ∧
        WritesRow (a.row.toNat + 1) digits ∧ ∀ w, WritesRow (a.row.toNat + 1) w → w = digits) ∧
    (∀ a b : Address, Writable a → Writable b → a.toA1 = b.toA1 → a = b) ∧
    (∀ a : Address, Writable a → ofA1 a.toA1 =
      if maxColumns ≤ a.column.toNat then .error (.columnOutOfRange a.toA1)
      else if maxRows ≤ a.row.toNat then .error (.rowOutOfRange a.toA1)
      else .ok a) ∧
    ∀ (s : String) (a : Address), ofA1 s = .ok a → a.toA1 = canonicalText s := by
  refine ⟨fun a ha => ?_, fun a b => eq_of_toA1_eq, fun a => ofA1_toA1,
    fun s a => toA1_eq_canonicalText⟩
  have hcolumn := writesColumn_columnLetters (Nat.succ_ne_zero a.column.toNat)
  have hrow := writesRow_toDigits (Nat.succ_ne_zero a.row.toNat)
  refine ⟨_, _, ?_, ⟨hcolumn, fun w hw => hw.unique hcolumn⟩, hrow, fun w hw => hw.unique hrow⟩
  rw [← toList_toA1 ha, String.ofList_toList]

/-- The columns on either side of the step from two letters to three have two texts.  The first
column past the grid is written, but not read.  What was read from a text with dollar signs, small
letters and zeros is written without them. -/
theorem toA1_faithful_edges :
    (Writable ⟨4, 702⟩ ∧ Writable ⟨4, 701⟩ ∧
      (⟨4, 702⟩ : Address).toA1 ≠ (⟨4, 701⟩ : Address).toA1) ∧
    (Writable ⟨4, 16384⟩ ∧
      ofA1 (⟨4, 16384⟩ : Address).toA1 = .error (.columnOutOfRange (⟨4, 16384⟩ : Address).toA1)) ∧
    ofA1 " $xfd$0070 " = .ok ⟨69, 16383⟩ ∧
      (⟨69, 16383⟩ : Address).toA1 = canonicalText " $xfd$0070 " := by
  have hread : ofA1 " $xfd$0070 " = .ok ⟨69, 16383⟩ := by decide
  refine ⟨⟨by decide, by decide, fun h => ?_⟩, ⟨by decide, ?_⟩, hread, ?_⟩
  · exact absurd (toA1_faithful.2.1 _ _ (by decide) (by decide) h) (by decide)
  · exact (toA1_faithful.2.2.1 ⟨4, 16384⟩ (by decide)).trans (if_pos (by decide))
  · exact toA1_faithful.2.2.2 _ _ hread

end Formula.Address
