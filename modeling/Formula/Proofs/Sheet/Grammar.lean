import Formula.Proofs.Sheet.Numeral
import Mathlib.Data.List.TakeWhile

/-!
# Proofs/Sheet/Grammar — which texts are addresses, and what is wrong with the others

The text of an address is `[$] letters [$] digits`.  `Shape` is that grammar, `Names` adds what the
letters and the digits count, and `Applies` says of each error what it is about; none of them scans
a text.  `ofA1_eq_iff` says that reading a text gives the address that it names, and else the first
error that applies.

The scan takes as many letters and as many digits as there are.  That is no choice of its own:
letters end where a dollar sign or a digit stands (`splits_iff`), so the parts it finds are the only
ones there are.
-/

namespace Formula

/-- **The first that applies**: `x` is in the list and satisfies `p`, and nothing before it does. -/
def IsFirst {α : Type} (p : α → Prop) (xs : List α) (x : α) : Prop :=
  ∃ before after, xs = before ++ x :: after ∧ p x ∧ ∀ y ∈ before, ¬p y

section IsFirst

variable {α : Type} {p : α → Prop} {x y : α} {ys : List α}

theorem not_isFirst_nil : ¬IsFirst p [] x := by
  rintro ⟨before, after, h, -⟩
  exact List.append_ne_nil_of_right_ne_nil before (List.cons_ne_nil x after) h.symm

/-- The first of a list is its head, if that applies, and else the first of its tail. -/
theorem isFirst_cons_iff : IsFirst p (y :: ys) x ↔ p y ∧ x = y ∨ ¬p y ∧ IsFirst p ys x := by
  constructor
  · rintro ⟨before, after, hlist, hx, hbefore⟩
    cases before with
    | nil =>
      obtain ⟨rfl, -⟩ := List.cons_eq_cons.mp hlist
      exact Or.inl ⟨hx, rfl⟩
    | cons z before =>
      obtain ⟨rfl, hys⟩ := List.cons_eq_cons.mp hlist
      obtain ⟨hy, hrest⟩ := List.forall_mem_cons.mp hbefore
      exact Or.inr ⟨hy, before, after, hys, hx, hrest⟩
  · rintro (⟨hy, rfl⟩ | ⟨hy, before, after, rfl, hx, hbefore⟩)
    · exact ⟨[], ys, rfl, hy, fun z hz => absurd hz List.not_mem_nil⟩
    · exact ⟨y :: before, after, rfl, hx, List.forall_mem_cons.mpr ⟨hy, hbefore⟩⟩

theorem isFirst_cons_of_pos (hy : p y) : IsFirst p (y :: ys) x ↔ y = x := by
  rw [isFirst_cons_iff]
  exact ⟨fun h => (h.resolve_right fun hn => hn.1 hy).2.symm, fun h => Or.inl ⟨hy, h.symm⟩⟩

theorem isFirst_cons_of_neg (hy : ¬p y) : IsFirst p (y :: ys) x ↔ IsFirst p ys x := by
  rw [isFirst_cons_iff]
  exact ⟨fun h => (h.resolve_left fun hn => hy hn.1).2, fun h => Or.inr ⟨hy, h⟩⟩

end IsFirst

namespace Address

open Text (trim)

/-! ## The grammar -/

/-- A dollar sign, or none. -/
inductive Dollar : List Char → Prop where
  | absent : Dollar []
  | present : Dollar ['$']

/-- One or more characters of a kind. -/
def Word (kind : Char → Bool) (cs : List Char) : Prop := cs ≠ [] ∧ ∀ c ∈ cs, kind c

/-- The text begins with a character of a kind. -/
def Begins (kind : Char → Bool) (cs : List Char) : Prop := ∃ c rest, cs = c :: rest ∧ kind c

/-- **The text opens with letters**, with a dollar sign before them or not, and again one after them
or not; `rest` is what follows. -/
def Opens (text letters rest : List Char) : Prop :=
  Word Char.isAlpha letters ∧ ∃ d d', Dollar d ∧ Dollar d' ∧ text = d ++ letters ++ d' ++ rest

/-- **The shape of an address**: `[$] letters [$] digits`. -/
def Shape (text letters digits : List Char) : Prop :=
  Opens text letters digits ∧ Word Char.isDigit digits

/-- The column that letters write, counted from 1. -/
def columnValue (letters : List Char) : Nat := numeralValue 26 (letters.map letterDigit)

/-- The row that digits write, counted from 1. -/
def rowValue (digits : List Char) : Nat := numeralValue 10 (digits.map decimalDigit)

/-- **The text names an address**: it has the shape of one, and its letters and digits count the
column and the row, both in the grid. -/
def Names (text : List Char) (a : Address) : Prop :=
  ∃ letters digits, Shape text letters digits ∧
    (columnValue letters = a.column.toNat + 1 ∧ a.column.toNat + 1 ≤ maxColumns) ∧
    rowValue digits = a.row.toNat + 1 ∧ 1 ≤ a.row.toNat + 1 ∧ a.row.toNat + 1 ≤ maxRows

/-- **What each error says** of a text. -/
def Applies (text : List Char) : AddressError → Prop
  | .empty => text = []
  | .missingColumn _ => ∀ d rest, Dollar d → text = d ++ rest → ¬Begins Char.isAlpha rest
  | .missingRow _ => ∀ letters rest, Opens text letters rest → ¬Begins Char.isDigit rest
  | .trailingCharacters _ =>
    ∃ letters digits rest, Opens text letters (digits ++ rest) ∧ Word Char.isDigit digits ∧
      rest ≠ [] ∧ ¬Begins Char.isDigit rest
  | .columnOutOfRange _ =>
    ∃ letters digits, Shape text letters digits ∧ maxColumns < columnValue letters
  | .rowOutOfRange _ =>
    ∃ letters digits, Shape text letters digits ∧ ¬(1 ≤ rowValue digits ∧ rowValue digits ≤ maxRows)

/-- The errors of a text, in the order in which they are looked for. -/
def errorsOf (text : String) : List AddressError :=
  [.empty, .missingColumn text, .missingRow text, .trailingCharacters text,
   .columnOutOfRange text, .rowOutOfRange text]

/-! ## The scan -/

variable {text letters digits rest : List Char}

theorem begins_iff {kind : Char → Bool} {cs : List Char} :
    Begins kind cs ↔ cs.takeWhile kind ≠ [] := by
  cases cs with
  | nil => simp [Begins]
  | cons c cs => by_cases hc : kind c <;> simp [Begins, hc]

theorem Begins.append {kind : Char → Bool} {cs : List Char} (h : Begins kind cs)
    (ds : List Char) : Begins kind (cs ++ ds) := by
  obtain ⟨c, rest, rfl, hc⟩ := h
  exact ⟨c, rest ++ ds, rfl, hc⟩

theorem Word.begins {kind : Char → Bool} {cs : List Char} (h : Word kind cs) : Begins kind cs := by
  obtain ⟨c, rest, rfl⟩ := List.exists_cons_of_ne_nil h.1
  exact ⟨c, rest, rfl, h.2 c List.mem_cons_self⟩

/-- What begins with a character of one kind does not begin with one of another. -/
theorem Begins.not_of_disjoint {kind kind' : Char → Bool} {cs : List Char} (h : Begins kind cs)
    (hkind : ∀ c, kind c → ¬kind' c) : ¬Begins kind' cs := by
  obtain ⟨c, rest, rfl, hc⟩ := h
  rintro ⟨c', rest', hcons, hc'⟩
  obtain ⟨rfl, -⟩ := List.cons_eq_cons.mp hcons
  exact hkind c hc hc'

/-- A word is all that is taken of a text, if the text does not go on with it. -/
theorem takeWhile_append_of_word {kind : Char → Bool} {cs ds : List Char} (hcs : Word kind cs)
    (hds : ¬Begins kind ds) : (cs ++ ds).takeWhile kind = cs := by
  rw [begins_iff, not_not] at hds
  rw [List.takeWhile_append_of_pos hcs.2, hds, List.append_nil]

theorem dropWhile_append_of_word {kind : Char → Bool} {cs ds : List Char} (hcs : Word kind cs)
    (hds : ¬Begins kind ds) : (cs ++ ds).dropWhile kind = ds := by
  have h := List.takeWhile_append_dropWhile (p := kind) (l := cs ++ ds)
  rw [takeWhile_append_of_word hcs hds] at h
  exact List.append_cancel_left h

theorem word_takeWhile {kind : Char → Bool} {cs : List Char} (h : cs.takeWhile kind ≠ []) :
    Word kind (cs.takeWhile kind) :=
  ⟨h, fun _ hc => List.mem_takeWhile_imp hc⟩

theorem not_begins_dropWhile (kind : Char → Bool) (cs : List Char) :
    ¬Begins kind (cs.dropWhile kind) := by
  rintro ⟨c, rest, h, hc⟩
  have hhead := List.head?_dropWhile_not kind cs
  rw [h] at hhead
  simp [hc] at hhead

theorem exists_dollar (cs : List Char) : ∃ d, Dollar d ∧ cs = d ++ dropDollar cs := by
  rw [dropDollar.eq_def]
  split
  · exact ⟨['$'], .present, rfl⟩
  · exact ⟨[], .absent, rfl⟩

/-- What is left without a dollar sign, if no second one follows. -/
theorem dropDollar_append {d cs : List Char} (hd : Dollar d) (hcs : ¬Begins (· == '$') cs) :
    dropDollar (d ++ cs) = cs := by
  cases hd with
  | present => rfl
  | absent =>
    rw [List.nil_append, dropDollar.eq_def]
    split
    · next rest => exact absurd ⟨'$', rest, rfl, rfl⟩ hcs
    · rfl

theorem not_dollar_of_isAlpha (c : Char) (hc : c.isAlpha) : ¬(c == '$') := by
  rintro h
  obtain rfl := eq_of_beq h
  exact absurd hc (by decide)

theorem not_dollar_of_isDigit (c : Char) (hc : c.isDigit) : ¬(c == '$') := by
  rintro h
  obtain rfl := eq_of_beq h
  exact absurd hc (by decide)

theorem not_isAlpha_of_isDigit (c : Char) (hc : c.isDigit) : ¬c.isAlpha := by
  rw [Text.isDigit_iff_toNat] at hc
  rw [Text.isAlpha_iff_toNat]
  omega

/-- **The parts of a text are the ones that the grammar sees**: any way to read letters and a digit
after them is the one that the scan finds. -/
theorem ofText_of_opens (h : Opens text letters rest) (hrest : Begins Char.isDigit rest) :
    Parts.ofText text
      = ⟨letters, rest.takeWhile Char.isDigit, rest.dropWhile Char.isDigit⟩ := by
  obtain ⟨hletters, d, d', hd, hd', rfl⟩ := h
  have hrestDollar : ¬Begins (· == '$') rest := hrest.not_of_disjoint not_dollar_of_isDigit
  have hend : ¬Begins Char.isAlpha (d' ++ rest) := by
    cases hd' with
    | absent => exact hrest.not_of_disjoint not_isAlpha_of_isDigit
    | present =>
      rintro ⟨c, cs, hcons, hc⟩
      obtain ⟨rfl, -⟩ := List.cons_eq_cons.mp hcons
      exact absurd hc (by decide)
  have hbody : dropDollar (d ++ letters ++ d' ++ rest) = letters ++ (d' ++ rest) := by
    rw [List.append_assoc, List.append_assoc]
    exact dropDollar_append hd
      ((hletters.begins.append _).not_of_disjoint not_dollar_of_isAlpha)
  rw [Parts.ofText, hbody, takeWhile_append_of_word hletters hend,
    dropWhile_append_of_word hletters hend, dropDollar_append hd' hrestDollar]

/-- The scan reads its letters as the grammar does. -/
theorem opens_ofText (h : (Parts.ofText text).letters ≠ []) :
    Opens text (Parts.ofText text).letters
      ((Parts.ofText text).digits ++ (Parts.ofText text).rest) := by
  obtain ⟨d, hd, htext⟩ := exists_dollar text
  obtain ⟨d', hd', htail⟩ := exists_dollar ((dropDollar text).dropWhile Char.isAlpha)
  refine ⟨word_takeWhile h, d, d', hd, hd', ?_⟩
  calc text = d ++ dropDollar text := htext
    _ = d ++ ((dropDollar text).takeWhile Char.isAlpha
          ++ (dropDollar text).dropWhile Char.isAlpha) := by rw [List.takeWhile_append_dropWhile]
    _ = d ++ ((dropDollar text).takeWhile Char.isAlpha
          ++ (d' ++ dropDollar ((dropDollar text).dropWhile Char.isAlpha))) := by rw [← htail]
    _ = d ++ (Parts.ofText text).letters ++ d'
          ++ ((Parts.ofText text).digits ++ (Parts.ofText text).rest) := by
        rw [Parts.ofText, List.takeWhile_append_dropWhile, List.append_assoc, List.append_assoc]

/-- **A text splits in one way only**, into letters, all the digits after them, and a rest. -/
theorem splits_iff :
    (Opens text letters (digits ++ rest) ∧ Word Char.isDigit digits ∧ ¬Begins Char.isDigit rest)
      ↔ Parts.ofText text = ⟨letters, digits, rest⟩ ∧ letters ≠ [] ∧ digits ≠ [] := by
  constructor
  · rintro ⟨hopens, hdigits, hrest⟩
    refine ⟨?_, hopens.1.1, hdigits.1⟩
    rw [ofText_of_opens hopens (hdigits.begins.append rest),
      takeWhile_append_of_word hdigits hrest, dropWhile_append_of_word hdigits hrest]
  · rintro ⟨hparts, hletters, hdigits⟩
    have hletters' : (Parts.ofText text).letters ≠ [] := by rwa [hparts]
    have hdigits' : (Parts.ofText text).digits ≠ [] := by rwa [hparts]
    have hopens := opens_ofText hletters'
    have hword : Word Char.isDigit (Parts.ofText text).digits := word_takeWhile hdigits'
    have hrest : ¬Begins Char.isDigit (Parts.ofText text).rest := not_begins_dropWhile _ _
    rw [hparts] at hopens hword hrest
    exact ⟨hopens, hword, hrest⟩

/-- A text has the shape of an address when the scan leaves nothing over. -/
theorem shape_iff :
    Shape text letters digits
      ↔ Parts.ofText text = ⟨letters, digits, []⟩ ∧ letters ≠ [] ∧ digits ≠ [] := by
  have hnil : ¬Begins Char.isDigit [] := by
    rintro ⟨c, cs, hcons, -⟩
    exact absurd hcons (List.cons_ne_nil c cs).symm
  rw [← splits_iff, List.append_nil]
  exact ⟨fun h => ⟨h.1, h.2, hnil⟩, fun h => ⟨h.1, h.2.1⟩⟩

/-! ## What the scan says of the errors -/

theorem applies_empty_iff : Applies text .empty ↔ text = [] := Iff.rfl

theorem applies_missingColumn_iff {t : String} :
    Applies text (.missingColumn t) ↔ (Parts.ofText text).letters = [] := by
  constructor
  · intro h
    obtain ⟨d, hd, htext⟩ := exists_dollar text
    exact not_not.mp (mt begins_iff.mpr (h d _ hd htext))
  · rintro h d rest hd rfl hrest
    rw [Parts.ofText, dropDollar_append hd (hrest.not_of_disjoint not_dollar_of_isAlpha)] at h
    exact begins_iff.mp hrest h

theorem applies_missingRow_iff {t : String} (hletters : (Parts.ofText text).letters ≠ []) :
    Applies text (.missingRow t) ↔ (Parts.ofText text).digits = [] := by
  constructor
  · intro h
    by_contra hdigits
    exact h _ _ (opens_ofText hletters) ((word_takeWhile hdigits).begins.append _)
  · intro h letters rest hopens hrest
    rw [ofText_of_opens hopens hrest] at h
    exact begins_iff.mp hrest h

theorem applies_trailingCharacters_iff {t : String} (hletters : (Parts.ofText text).letters ≠ [])
    (hdigits : (Parts.ofText text).digits ≠ []) :
    Applies text (.trailingCharacters t) ↔ (Parts.ofText text).rest ≠ [] := by
  constructor
  · rintro ⟨letters, digits, rest, hopens, hword, hne, hrest⟩
    rw [(splits_iff.mp ⟨hopens, hword, hrest⟩).1]
    exact hne
  · intro hne
    obtain ⟨hopens, hword, hrest⟩ := splits_iff.mpr ⟨rfl, hletters, hdigits⟩
    exact ⟨_, _, _, hopens, hword, hne, hrest⟩

/-- What is said of a shape is said of the parts that the scan finds. -/
theorem exists_shape_iff {p : List Char → List Char → Prop}
    (hletters : (Parts.ofText text).letters ≠ []) (hdigits : (Parts.ofText text).digits ≠ [])
    (hrest : (Parts.ofText text).rest = []) :
    (∃ letters digits, Shape text letters digits ∧ p letters digits)
      ↔ p (Parts.ofText text).letters (Parts.ofText text).digits := by
  constructor
  · rintro ⟨letters, digits, hshape, hp⟩
    rw [(shape_iff.mp hshape).1]
    exact hp
  · intro hp
    refine ⟨_, _, shape_iff.mpr ⟨?_, hletters, hdigits⟩, hp⟩
    rw [← hrest]

theorem applies_columnOutOfRange_iff {t : String} (hletters : (Parts.ofText text).letters ≠ [])
    (hdigits : (Parts.ofText text).digits ≠ []) (hrest : (Parts.ofText text).rest = []) :
    Applies text (.columnOutOfRange t) ↔ maxColumns < columnValue (Parts.ofText text).letters :=
  exists_shape_iff hletters hdigits hrest

theorem applies_rowOutOfRange_iff {t : String} (hletters : (Parts.ofText text).letters ≠ [])
    (hdigits : (Parts.ofText text).digits ≠ []) (hrest : (Parts.ofText text).rest = []) :
    Applies text (.rowOutOfRange t) ↔
      ¬(1 ≤ rowValue (Parts.ofText text).digits ∧ rowValue (Parts.ofText text).digits ≤ maxRows) :=
  exists_shape_iff hletters hdigits hrest

/-! ## The numbers of the grid -/

/-- A numeral is read within a bound that 32 bits can hold exactly if its value is within it. -/
theorem filter_numeral?_eq {p : Nat → Prop} [DecidablePred p] {base : Nat} {ds : List Nat}
    (hbase : 0 < base) (hp : ∀ n, p n → n < UInt32.size) :
    (numeral? base ds).filter (fun n => p n.toNat) =
      if p (numeralValue base ds) then some (.ofNat (numeralValue base ds)) else none := by
  rw [numeral?_eq hbase]
  by_cases hvalue : p (numeralValue base ds)
  · have hfits := hp _ hvalue
    rw [if_pos hfits, if_pos hvalue, Option.filter_some, UInt32.toNat_ofNat_of_lt' hfits,
      if_pos (decide_eq_true hvalue)]
  · rw [if_neg hvalue]
    split
    · next hfits =>
      rw [Option.filter_some, UInt32.toNat_ofNat_of_lt' hfits, decide_eq_false hvalue]
      rfl
    · rfl

theorem lt_size_of_le_maxColumns {n : Nat} (h : n ≤ maxColumns) : n < UInt32.size :=
  Nat.lt_of_le_of_lt h (by decide)

theorem lt_size_of_le_maxRows {n : Nat} (h : n ≤ maxRows) : n < UInt32.size :=
  Nat.lt_of_le_of_lt h (by decide)

/-- The letters give the column that they count, if the grid has it. -/
theorem columnNumber?_eq :
    columnNumber? letters =
      if columnValue letters ≤ maxColumns then some (.ofNat (columnValue letters)) else none :=
  filter_numeral?_eq (p := (· ≤ maxColumns)) (by decide) fun _ => lt_size_of_le_maxColumns

/-- The digits give the row that they count, if the grid has it. -/
theorem rowNumber?_eq :
    rowNumber? digits =
      if 1 ≤ rowValue digits ∧ rowValue digits ≤ maxRows then some (.ofNat (rowValue digits))
      else none :=
  filter_numeral?_eq (p := fun n => 1 ≤ n ∧ n ≤ maxRows) (by decide) fun _ h =>
    lt_size_of_le_maxRows h.2

/-- Letters count from 1. -/
theorem columnValue_pos (h : letters ≠ []) : 0 < columnValue letters := by
  obtain ⟨cs, c, rfl⟩ := (List.eq_nil_or_concat' letters).resolve_left h
  rw [columnValue, List.map_append, List.map_singleton, numeralValue_concat, letterDigit]
  omega

/-- Counting from 0 instead of from 1 stays within 32 bits. -/
theorem ofNat_sub_one_eq_iff {n : Nat} {x : UInt32} (hpos : 1 ≤ n) (hfits : n < UInt32.size) :
    UInt32.ofNat n - 1 = x ↔ n = x.toNat + 1 := by
  have hn : (UInt32.ofNat n).toNat = n := UInt32.toNat_ofNat_of_lt' hfits
  have hone : (1 : UInt32) ≤ UInt32.ofNat n := by
    rw [UInt32.le_iff_toNat_le, hn]
    exact hpos
  rw [← UInt32.toNat_inj, UInt32.toNat_sub_of_le _ _ hone, hn]
  change n - 1 = x.toNat ↔ n = x.toNat + 1
  omega

/-! ## Reading -/

/-- The address of parts, in terms of what they count. -/
theorem address_eq (t : String) (parts : Parts) :
    parts.address t =
      if parts.letters = [] then .error (.missingColumn t)
      else if parts.digits = [] then .error (.missingRow t)
      else if parts.rest ≠ [] then .error (.trailingCharacters t)
      else if maxColumns < columnValue parts.letters then .error (.columnOutOfRange t)
      else if ¬(1 ≤ rowValue parts.digits ∧ rowValue parts.digits ≤ maxRows) then
        .error (.rowOutOfRange t)
      else .ok ⟨.ofNat (rowValue parts.digits) - 1, .ofNat (columnValue parts.letters) - 1⟩ := by
  rw [Parts.address, columnNumber?_eq, rowNumber?_eq]
  simp only [List.isEmpty_iff, Bool.not_eq_true', List.isEmpty_eq_false_iff]
  congr 3
  by_cases hcolumn : columnValue parts.letters ≤ maxColumns
  · rw [if_pos hcolumn, if_neg (Nat.not_lt.mpr hcolumn)]
    by_cases hrow : 1 ≤ rowValue parts.digits ∧ rowValue parts.digits ≤ maxRows
    · rw [if_pos hrow, if_neg (not_not_intro hrow)]
    · rw [if_neg hrow, if_pos hrow]
  · rw [if_neg hcolumn, if_pos (Nat.not_le.mp hcolumn)]

theorem not_names_nil (a : Address) : ¬Names [] a := by
  rintro ⟨letters, digits, hshape, -⟩
  have hparts : Parts.ofText [] = ⟨[], [], []⟩ := rfl
  obtain ⟨heq, hletters, -⟩ := shape_iff.mp hshape
  rw [hparts] at heq
  exact hletters (congrArg Parts.letters heq).symm

/-- **The parts of a text give an address exactly if the text names it.** -/
theorem address_ofText_eq_ok_iff {t : String} {a : Address} :
    (Parts.ofText text).address t = .ok a ↔ Names text a := by
  rw [address_eq]
  constructor
  · intro h
    split_ifs at h with hletters hdigits hrest hcolumn hrow
    cases h
    rw [not_not] at hrest
    rw [Nat.not_lt] at hcolumn
    obtain ⟨hpos, hle⟩ := hrow
    have hcolumnEq := (ofNat_sub_one_eq_iff (columnValue_pos hletters)
      (lt_size_of_le_maxColumns hcolumn)).mp rfl
    have hrowEq := (ofNat_sub_one_eq_iff hpos (lt_size_of_le_maxRows hle)).mp rfl
    refine (exists_shape_iff hletters hdigits hrest).mpr ⟨⟨hcolumnEq, ?_⟩, hrowEq, ?_, ?_⟩
    · exact hcolumnEq ▸ hcolumn
    · exact hrowEq ▸ hpos
    · exact hrowEq ▸ hle
  · rintro ⟨letters, digits, hshape, ⟨hcolumnEq, hcolumn⟩, hrowEq, hpos, hle⟩
    obtain ⟨hparts, hletters, hdigits⟩ := shape_iff.mp hshape
    rw [← hcolumnEq] at hcolumn
    rw [← hrowEq] at hpos hle
    rw [hparts, if_neg hletters, if_neg hdigits, if_neg (not_not_intro rfl),
      if_neg (Nat.not_lt.mpr hcolumn), if_neg (not_not_intro ⟨hpos, hle⟩),
      (ofNat_sub_one_eq_iff (columnValue_pos hletters)
        (lt_size_of_le_maxColumns hcolumn)).mpr hcolumnEq,
      (ofNat_sub_one_eq_iff hpos (lt_size_of_le_maxRows hle)).mpr hrowEq]

/-- **The parts of a text that is not empty fail with the first error that applies to it.** -/
theorem address_ofText_eq_error_iff {t : String} {e : AddressError} :
    (Parts.ofText text).address t = .error e
      ↔ IsFirst (Applies text) [.missingColumn t, .missingRow t, .trailingCharacters t,
          .columnOutOfRange t, .rowOutOfRange t] e := by
  rw [address_eq]
  by_cases hletters : (Parts.ofText text).letters = []
  · rw [if_pos hletters, isFirst_cons_of_pos (applies_missingColumn_iff.mpr hletters),
      Except.error.injEq]
  rw [if_neg hletters, isFirst_cons_of_neg (mt applies_missingColumn_iff.mp hletters)]
  by_cases hdigits : (Parts.ofText text).digits = []
  · rw [if_pos hdigits, isFirst_cons_of_pos ((applies_missingRow_iff hletters).mpr hdigits),
      Except.error.injEq]
  rw [if_neg hdigits, isFirst_cons_of_neg (mt (applies_missingRow_iff hletters).mp hdigits)]
  have htrailing := applies_trailingCharacters_iff (t := t) hletters hdigits
  by_cases hrest : (Parts.ofText text).rest = []
  swap
  · rw [if_pos hrest, isFirst_cons_of_pos (htrailing.mpr hrest), Except.error.injEq]
  rw [if_neg (not_not_intro hrest), isFirst_cons_of_neg (mt htrailing.mp (not_not_intro hrest))]
  have hcolumns := applies_columnOutOfRange_iff (t := t) hletters hdigits hrest
  by_cases hcolumn : maxColumns < columnValue (Parts.ofText text).letters
  · rw [if_pos hcolumn, isFirst_cons_of_pos (hcolumns.mpr hcolumn), Except.error.injEq]
  rw [if_neg hcolumn, isFirst_cons_of_neg (mt hcolumns.mp hcolumn)]
  have hrows := applies_rowOutOfRange_iff (t := t) hletters hdigits hrest
  by_cases hrow : 1 ≤ rowValue (Parts.ofText text).digits ∧
      rowValue (Parts.ofText text).digits ≤ maxRows
  · rw [if_neg (not_not_intro hrow), isFirst_cons_of_neg (mt hrows.mp (not_not_intro hrow))]
    exact iff_of_false (fun h => by cases h) not_isFirst_nil
  · rw [if_pos hrow, isFirst_cons_of_pos (hrows.mpr hrow), Except.error.injEq]

/-- A text with something in it is read by its parts. -/
theorem ofA1_eq_address {s : String} (h : (trim s).toList ≠ []) :
    ofA1 s = (Parts.ofText (trim s).toList).address (trim s) := by
  rw [ofA1, if_neg (mt (String.toList_eq_nil_iff.mpr ∘ String.isEmpty_iff.mp) h)]

/-- An empty text has no address. -/
theorem ofA1_eq_empty {s : String} (h : (trim s).toList = []) : ofA1 s = .error .empty := by
  rw [ofA1, if_pos (String.isEmpty_iff.mpr (String.toList_eq_nil_iff.mp h))]

/-- **A text is read as the address that it names.** -/
theorem ofA1_eq_ok_iff {s : String} {a : Address} : ofA1 s = .ok a ↔ Names (trim s).toList a := by
  by_cases hempty : (trim s).toList = []
  · rw [ofA1_eq_empty hempty, hempty]
    exact iff_of_false (fun h => by cases h) (not_names_nil a)
  · rw [ofA1_eq_address hempty, address_ofText_eq_ok_iff]

/-- **A text fails with the first error that applies to it.** -/
theorem ofA1_eq_error_iff {s : String} {e : AddressError} :
    ofA1 s = .error e ↔ IsFirst (Applies (trim s).toList) (errorsOf (trim s)) e := by
  rw [errorsOf]
  by_cases hempty : (trim s).toList = []
  · rw [ofA1_eq_empty hempty, isFirst_cons_of_pos (applies_empty_iff.mpr hempty),
      Except.error.injEq]
  · rw [ofA1_eq_address hempty, isFirst_cons_of_neg (mt applies_empty_iff.mp hempty),
      address_ofText_eq_error_iff]

/-- **Reading is the grammar**: a text gives the address that it names, and any other text gives the
first error that applies to it. -/
theorem ofA1_eq_iff (s : String) :
    (∀ a, ofA1 s = .ok a ↔ Names (trim s).toList a) ∧
      ∀ e, ofA1 s = .error e ↔ IsFirst (Applies (trim s).toList) (errorsOf (trim s)) e :=
  ⟨fun _ => ofA1_eq_ok_iff, fun _ => ofA1_eq_error_iff⟩

/-- Row 0 is out of the grid, but what stands after it is reported first. -/
example : ofA1 "$a0 $" = .error (.trailingCharacters "$a0 $") := by decide

end Address

end Formula
