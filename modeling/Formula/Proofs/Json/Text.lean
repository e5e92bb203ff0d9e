import Formula.Json.Printer
import Formula.Json.Reader
import Formula.Proofs.Sheet.Writing

/-!
# Proofs/Json/Text — the text of a JSON value is read as that value

A value is **exact** if it has no floating-point number, its integers fit 64 bits and the fields of
its objects stand in the order of their names.  The text of an exact value says all of it
(`ofText?_text`).

Each part of a text is read up to what stands behind it.  A quote ends a string and a bracket a
list, but a number ends only where the text does not go on with it (`Closed`); so that is asked of
whatever stands behind a value (`ReadsBack`), and commas and brackets see to it.

The items of an array and the fields of an object are read by loops of one shape, which is
unrolled once for both (`loop_texts`).  A loop never needs more steps than its text has characters.
-/

namespace Formula.Json

open Formula.Address (Word Begins)
open Formula.Text (hexDigit hexValue?)

variable {n fuel : Nat} {c : Char} {cs rest : List Char} {j : Json}

/-! ## Numbers -/

/-- **What does not go on with a number.** -/
def Closed (rest : List Char) : Prop :=
  ∀ c ∈ rest.head?, ¬c.isDigit ∧ c ≠ '.' ∧ c ≠ 'e' ∧ c ≠ 'E'

theorem closed_nil : Closed [] := nofun

theorem closed_cons (h : c ∈ [',', ']', '\x7d']) : Closed (c :: rest) := by
  intro d hd
  obtain rfl : c = d := Option.some.inj hd
  simp only [List.mem_cons, List.not_mem_nil, or_false] at h
  obtain rfl | rfl | rfl := h <;> decide

theorem le_ofDigitChars (cs : List Char) (m : Nat) : m ≤ Nat.ofDigitChars 10 cs m := by
  induction cs generalizing m with
  | nil => exact Nat.le_refl m
  | cons c cs ih =>
    rw [Nat.ofDigitChars_cons]
    exact le_trans (by omega) (ih _)

/-- **Digits are gathered as they stand** as long as 64 bits hold their number. -/
theorem addWhole_eq (m : Nat) (h : Nat.ofDigitChars 10 cs m ≤ maxGathered) :
    Gathered.addWhole ⟨m, 0⟩ cs = ⟨Nat.ofDigitChars 10 cs m, 0⟩ := by
  induction cs generalizing m with
  | nil => rfl
  | cons c cs ih =>
    rw [Nat.ofDigitChars_cons] at h ⊢
    have hnext : ¬maxGathered < 10 * m + (c.toNat - '0'.toNat) :=
      Nat.not_lt.mpr ((le_ofDigitChars cs _).trans h)
    rw [Gathered.addWhole, if_neg hnext]
    exact ih _ h

theorem exists_toDigits_cons (n : Nat) : ∃ c cs, Nat.toDigits 10 n = c :: cs ∧ c.isDigit := by
  obtain ⟨c, cs, hdigits⟩ := List.exists_cons_of_ne_nil (Nat.toDigits_ne_nil (n := n) (b := 10))
  exact ⟨c, cs, hdigits, Address.isDigit_of_mem_toDigits c (hdigits ▸ List.mem_cons_self)⟩

/-- The digits of a number have no zero before others. -/
theorem not_leading_zero (n : Nat) :
    ¬((Nat.toDigits 10 n).isEmpty ||
      (Nat.toDigits 10 n).head? == some '0' && decide (1 < (Nat.toDigits 10 n).length)) = true := by
  by_cases hn : n = 0
  · subst hn
    decide
  · have hhead := Address.head?_toDigits_ne_zero hn
    simp [hhead]

/-- **The digits of a number are read as that number**, with its sign. -/
theorem readNumber_toDigits (negative : Bool) (hn : n ≤ maxGathered)
    (hneg : negative → 0 < n ∧ n ≤ maxNegated) (hrest : Closed rest) :
    readNumber negative (Nat.toDigits 10 n ++ rest)
      = some (.int (if negative then -(n : Int) else n), rest) := by
  have hword : Word Char.isDigit (Nat.toDigits 10 n) :=
    ⟨Nat.toDigits_ne_nil, Address.isDigit_of_mem_toDigits⟩
  have hbegins : ¬Begins Char.isDigit rest := by
    rintro ⟨c, more, rfl, hc⟩
    exact (hrest c rfl).1 hc
  have hgathered : Gathered.addWhole {} (Nat.toDigits 10 n) = ⟨n, 0⟩ := by
    have h := @addWhole_eq (Nat.toDigits 10 n) 0
    rw [Nat.ofDigitChars_ten_toDigits] at h
    exact h hn
  have hsign : (if negative = true then decide (0 < n) && decide (n ≤ maxNegated) else true)
      = true := by
    cases negative with
    | false => rfl
    | true => simpa using hneg rfl
  rw [readNumber, Address.takeWhile_append_of_word hword hbegins,
    Address.dropWhile_append_of_word hword hbegins, if_neg (not_leading_zero n), hgathered,
    Nat.ofDigitChars_ten_toDigits]
  cases rest with
  | nil => simp [hsign, Gathered.addFraction]
  | cons c more =>
    obtain ⟨-, hpoint, he, hE⟩ := hrest c rfl
    simp [hpoint, he, hE, hsign, Gathered.addFraction]

/-! ## Strings -/

theorem hexValue?_hexDigit : ∀ d < 16, hexValue? (hexDigit d) = some d := by decide

/-- A control character is read from its number. -/
theorem readEscape_hex (hc : c.toNat < 0x20) :
    readEscape ('u' :: '0' :: '0' :: hexDigit (c.toNat / 16) :: hexDigit (c.toNat % 16) :: rest)
      = some (c, rest) := by
  have hhigh := hexValue?_hexDigit (c.toNat / 16) (by omega)
  have hlow := hexValue?_hexDigit (c.toNat % 16) (by omega)
  have hzero : hexValue? '0' = some 0 := rfl
  have hvalue : ((0 * 16 + 0) * 16 + c.toNat / 16) * 16 + c.toNat % 16 = c.toNat := by omega
  rw [readEscape, readHex4, hzero, hhigh, hlow]
  simp only [Option.bind_eq_bind, Option.bind_some, pure, hvalue]
  rw [if_neg (by simp; omega), if_neg (by simp; omega), Char.ofNat_toNat]

/-- **A character stands for itself, or a backslash announces what is read as it.** -/
theorem escape_cases (c : Char) :
    (escape c = [c] ∧ c ≠ '"' ∧ c ≠ '\\' ∧ ¬c.toNat < 0x20) ∨
      ∃ cs, escape c = '\\' :: cs ∧ ∀ rest, readEscape (cs ++ rest) = some (c, rest) := by
  unfold escape
  split
  · next h => exact .inr ⟨_, rfl, fun rest => by rw [h]; rfl⟩
  · next hquote =>
    split
    · next h => exact .inr ⟨_, rfl, fun rest => by rw [h]; rfl⟩
    · next hback =>
      split
      · next hc =>
        refine .inr ?_
        split
        case h_6 => exact ⟨_, rfl, fun rest => readEscape_hex hc⟩
        all_goals exact ⟨_, rfl, fun rest => rfl⟩
      · next hc => exact .inl ⟨rfl, hquote, hback, hc⟩

theorem readString_escape (fuel : Nat) (acc : List Char) :
    readString (fuel + 1) acc (escape c ++ rest) = readString fuel (c :: acc) rest := by
  obtain ⟨hc, hquote, hback, hcontrol⟩ | ⟨cs, hc, hread⟩ := escape_cases c
  · rw [hc, List.singleton_append, readString, if_neg hquote, if_neg hback, if_neg hcontrol]
  · rw [hc, List.cons_append, readString, if_neg (by decide), if_pos rfl, hread]

/-- **The characters of a string are read up to its quote.** -/
theorem readString_escaped (h : cs.length < fuel) (acc : List Char) :
    readString fuel acc (cs.flatMap escape ++ '"' :: rest)
      = some (String.ofList (acc.reverse ++ cs), rest) := by
  induction cs generalizing fuel acc with
  | nil =>
    obtain ⟨fuel, rfl⟩ := Nat.exists_eq_succ_of_ne_zero (Nat.ne_zero_of_lt h)
    rw [List.append_nil]
    rfl
  | cons c cs ih =>
    obtain ⟨fuel, rfl⟩ := Nat.exists_eq_succ_of_ne_zero (Nat.ne_zero_of_lt h)
    rw [List.flatMap_cons, List.append_assoc, readString_escape, ih (Nat.lt_of_succ_lt_succ h),
      List.reverse_cons, List.append_assoc]
    rfl

theorem length_le_length_escape (cs : List Char) : cs.length ≤ (cs.flatMap escape).length := by
  induction cs with
  | nil => exact Nat.le_refl 0
  | cons c cs ih =>
    have hc : 1 ≤ (escape c).length := by
      obtain ⟨hc, -⟩ | ⟨cs, hc, -⟩ := escape_cases c <;> rw [hc] <;> exact Nat.le_add_left 1 _
    rw [List.flatMap_cons, List.length_append, List.length_cons]
    omega

theorem readString_quoted (s : String) :
    readString ((s.toList.flatMap escape ++ '"' :: rest).length + 1) []
      (s.toList.flatMap escape ++ '"' :: rest) = some (s, rest) := by
  have hlen := length_le_length_escape s.toList
  have hfuel : s.toList.length < (s.toList.flatMap escape ++ '"' :: rest).length + 1 := by
    rw [List.length_append]
    omega
  rw [readString_escaped hfuel, List.reverse_nil, List.nil_append, String.ofList_toList]

theorem toList_quoted (s : String) :
    (quoted s).toList = '"' :: (s.toList.flatMap escape ++ ['"']) := by
  simp [quoted]

/-! ## The first character of a value -/

theorem skipSpace_cons (h : c ∉ [' ', '\t', '\n', '\r']) : skipSpace (c :: cs) = c :: cs :=
  List.dropWhile_cons_of_neg (by simpa using h)

theorem not_space_of_isDigit (h : c.isDigit) : c ∉ [' ', '\t', '\n', '\r', ']'] := by
  simp only [List.mem_cons, List.not_mem_nil, or_false, not_or]
  refine ⟨?_, ?_, ?_, ?_, ?_⟩ <;> rintro rfl <;> exact absurd h (by decide)

theorem readValue_digit (h : c.isDigit) :
    readValue (fuel + 1) (c :: cs) = readNumber false (c :: cs) := by
  have hspace : c ∉ [' ', '\t', '\n', '\r'] := fun hc =>
    not_space_of_isDigit h (List.mem_append_left [']'] hc)
  rw [readValue, skipSpace_cons hspace]
  split
  case h_8 => rfl
  all_goals
    next heq =>
      obtain ⟨rfl, -⟩ := List.cons_eq_cons.mp heq
      exact absurd h (by decide)

theorem readValue_minus : readValue (fuel + 1) ('-' :: cs) = readNumber true cs := by
  rw [readValue, skipSpace_cons (by decide)]
  rfl

theorem readValue_null :
    readValue (fuel + 1) ((text .null).toList ++ rest) = some (.null, rest) := by
  have htext : (text .null).toList ++ rest = 'n' :: 'u' :: 'l' :: 'l' :: rest := by simp [text]
  rw [htext, readValue, skipSpace_cons (by decide)]
  rfl

theorem readValue_bool (b : Bool) :
    readValue (fuel + 1) ((text (.bool b)).toList ++ rest) = some (.bool b, rest) := by
  cases b with
  | false =>
    have htext : (text (.bool false)).toList ++ rest
        = 'f' :: 'a' :: 'l' :: 's' :: 'e' :: rest := by simp [text]
    rw [htext, readValue, skipSpace_cons (by decide)]
    rfl
  | true =>
    have htext : (text (.bool true)).toList ++ rest = 't' :: 'r' :: 'u' :: 'e' :: rest := by
      simp [text]
    rw [htext, readValue, skipSpace_cons (by decide)]
    rfl

theorem readValue_bracket (h : c ∉ [' ', '\t', '\n', '\r', ']']) :
    readValue (fuel + 1) ('[' :: c :: cs) = readItems fuel [] (c :: cs) := by
  have hspace : c ∉ [' ', '\t', '\n', '\r'] := fun hc => h (List.mem_append_left [']'] hc)
  simp (disch := decide) only [readValue, skipSpace_cons, skipSpace_cons hspace]
  split
  · next heq =>
    obtain ⟨rfl, -⟩ := List.cons_eq_cons.mp heq
    exact absurd h (by decide)
  · rfl

theorem readValue_empty_array :
    readValue (fuel + 1) ('[' :: ']' :: rest) = some (.array [], rest) := by
  simp (disch := decide) only [readValue, skipSpace_cons]

theorem readValue_empty_object :
    readValue (fuel + 1) ('\x7b' :: '\x7d' :: rest) = some (.fields [], rest) := by
  simp (disch := decide) only [readValue, skipSpace_cons]

theorem readValue_brace :
    readValue (fuel + 1) ('\x7b' :: '"' :: cs) = readFields fuel [] ('"' :: cs) := by
  simp (disch := decide) only [readValue, skipSpace_cons]
  rfl

/-! ## Exact values -/

/-- Whether the name of one field comes before that of another. -/
def Before (a b : String × Json) : Prop := compare a.1 b.1 = .lt

/-- **A value whose text says all of it.** -/
inductive Exact : Json → Prop where
  | null : Exact .null
  | bool (b : Bool) : Exact (.bool b)
  | int {n : Int} (hlow : Int64.minValue.toInt ≤ n) (hhigh : n < UInt64.size) : Exact (.int n)
  | string (s : String) : Exact (.string s)
  | array {items : List Json} (h : ∀ item ∈ items, Exact item) : Exact (.array items)
  | fields {entries : List (String × Json)} (hsorted : entries.Pairwise Before)
      (h : ∀ entry ∈ entries, Exact entry.2) : Exact (.fields entries)

/-- The text of a field. -/
def fieldText (entry : String × Json) : String := quoted entry.1 ++ ":" ++ entry.2.text

theorem itemTexts_eq_map (items : List Json) : itemTexts items = items.map text := by
  induction items with
  | nil => rfl
  | cons item items ih => rw [itemTexts, ih, List.map_cons]

theorem fieldTexts_eq_map (entries : List (String × Json)) :
    fieldTexts entries = entries.map fieldText := by
  induction entries with
  | nil => rfl
  | cons entry entries ih =>
    obtain ⟨name, value⟩ := entry
    rw [fieldTexts, ih, List.map_cons, fieldText]

theorem toList_integerText_of_nonneg {n : Int} (hn : 0 ≤ n) :
    (Decimal.integerText n).toList = Nat.toDigits 10 n.toNat := by
  have hnat : n.natAbs = n.toNat := by omega
  simp [Decimal.integerText, Decimal.digitsText, Int.not_lt.mpr hn, hnat]

theorem toList_integerText_of_neg {n : Int} (hn : n < 0) :
    (Decimal.integerText n).toList = '-' :: Nat.toDigits 10 n.natAbs := by
  simp [Decimal.integerText, Decimal.digitsText, hn]

theorem toList_text_array (items : List Json) :
    (text (.array items)).toList = '[' :: ((",".intercalate (items.map text)).toList ++ [']']) := by
  rw [text, itemTexts_eq_map]
  simp

theorem toList_text_fields (entries : List (String × Json)) :
    (text (.fields entries)).toList
      = '\x7b' :: ((",".intercalate (entries.map fieldText)).toList ++ ['\x7d']) := by
  rw [text, fieldTexts_eq_map]
  simp

/-- **The text of an exact value begins** neither with a blank nor with a closing bracket. -/
theorem Exact.begins (h : j.Exact) :
    ∃ c cs, j.text.toList = c :: cs ∧ c ∉ [' ', '\t', '\n', '\r', ']'] := by
  cases h with
  | null => exact ⟨'n', ['u', 'l', 'l'], rfl, by decide⟩
  | bool b =>
    cases b with
    | false => exact ⟨'f', ['a', 'l', 's', 'e'], rfl, by decide⟩
    | true => exact ⟨'t', ['r', 'u', 'e'], rfl, by decide⟩
  | @int n hlow hhigh =>
    by_cases hn : n < 0
    · exact ⟨'-', _, toList_integerText_of_neg hn, by decide⟩
    · obtain ⟨c, cs, hdigits, hc⟩ := exists_toDigits_cons n.toNat
      refine ⟨c, cs, ?_, not_space_of_isDigit hc⟩
      rw [text, toList_integerText_of_nonneg (Int.not_lt.mp hn), hdigits]
  | string s => exact ⟨'"', _, toList_quoted s, by decide⟩
  | array h => exact ⟨'[', _, toList_text_array _, by decide⟩
  | fields hsorted h => exact ⟨'\x7b', _, toList_text_fields _, by decide⟩

/-! ## Lists of parts -/

/-- The characters of a list of texts, one at least, with commas between them. -/
theorem toList_intercalate_cons (s : String) (texts : List String) :
    (",".intercalate (s :: texts)).toList
      = s.toList ++ texts.flatMap fun t => ',' :: t.toList := by
  induction texts generalizing s with
  | nil => simp
  | cons t texts ih =>
    rw [String.intercalate_cons_cons, String.toList_append, ih]
    simp

section Loop

variable {α : Type} {loop : Nat → List α → List Char → Option (Json × List Char)}
  {part : α → String} {close : Char} {whole : List α → Json}

/-- **One round of a loop** takes in a part of a text and looks at the character behind it. -/
def TakesPart (loop : Nat → List α → List Char → Option (Json × List Char)) (part : α → String)
    (close : Char) (whole : List α → Json) (x : α) : Prop :=
  ∀ fuel acc rest, (part x).toList.length ≤ fuel →
    loop (fuel + 1) acc ((part x).toList ++ ',' :: rest) = loop fuel (x :: acc) rest ∧
      loop (fuel + 1) acc ((part x).toList ++ close :: rest) = some (whole (x :: acc).reverse, rest)

/-- **A loop takes in all parts** up to what closes them. -/
theorem loop_texts {x : α} {xs : List α} (acc : List α)
    (h : ∀ y ∈ x :: xs, TakesPart loop part close whole y)
    (hfuel : (",".intercalate ((x :: xs).map part)).toList.length < fuel) :
    loop fuel acc ((",".intercalate ((x :: xs).map part)).toList ++ close :: rest)
      = some (whole (acc.reverse ++ x :: xs), rest) := by
  rw [List.map_cons, toList_intercalate_cons] at hfuel ⊢
  induction xs generalizing fuel acc x with
  | nil =>
    obtain ⟨fuel, rfl⟩ := Nat.exists_eq_succ_of_ne_zero (Nat.ne_zero_of_lt hfuel)
    rw [List.map_nil, List.flatMap_nil, List.append_nil] at hfuel ⊢
    rw [(h x List.mem_cons_self fuel acc rest (Nat.le_of_lt_succ hfuel)).2, List.reverse_cons]
  | cons y ys ih =>
    obtain ⟨fuel, rfl⟩ := Nat.exists_eq_succ_of_ne_zero (Nat.ne_zero_of_lt hfuel)
    rw [List.map_cons, List.flatMap_cons, List.length_append, List.cons_append,
      List.length_cons] at hfuel
    rw [List.map_cons, List.flatMap_cons, List.append_assoc, List.cons_append, List.cons_append,
      (h x List.mem_cons_self fuel acc _ (by omega)).1,
      ih (x :: acc) (fun z hz => h z (List.mem_cons_of_mem x hz)) (by omega), List.reverse_cons,
      List.append_assoc, List.singleton_append]

end Loop

/-- **A value is read back from its text**, up to what stands behind it. -/
def ReadsBack (j : Json) : Prop :=
  ∀ fuel rest, j.text.toList.length ≤ fuel → Closed rest →
    readValue fuel (j.text.toList ++ rest) = some (j, rest)

theorem ReadsBack.takesItem (h : ReadsBack j) : TakesPart readItems text ']' .array j := by
  intro fuel acc rest hfuel
  rw [readItems, h fuel _ hfuel (closed_cons (by decide)), readItems,
    h fuel _ hfuel (closed_cons (by decide))]
  simp (disch := decide) only [skipSpace_cons]
  exact ⟨trivial, trivial⟩

theorem ReadsBack.takesField {entry : String × Json} (h : ReadsBack entry.2) :
    TakesPart readFields fieldText '\x7d' object entry := by
  have htext (rest : List Char) : (fieldText entry).toList ++ rest
      = '"' :: (entry.1.toList.flatMap escape ++ '"' :: ':' :: (entry.2.text.toList ++ rest)) := by
    rw [fieldText, String.toList_append, String.toList_append, toList_quoted]
    simp
  intro fuel acc rest hfuel
  rw [fieldText, String.toList_append, List.length_append] at hfuel
  have hvalue (c : Char) (hc : c ∈ [',', ']', '\x7d']) :=
    h fuel (c :: rest) (Nat.le_of_add_left_le hfuel) (closed_cons hc)
  rw [htext, htext]
  simp (disch := decide) only [readFields, skipSpace_cons, readString_quoted, hvalue]
  exact ⟨trivial, trivial⟩

/-! ## Objects -/

theorem insertField_of_before {name : String} {value : Json} {entries : List (String × Json)}
    (h : ∀ entry ∈ entries, Before entry (name, value)) :
    insertField name value entries = entries ++ [(name, value)] := by
  induction entries with
  | nil => rfl
  | cons entry rest ih =>
    obtain ⟨hentry, hrest⟩ := List.forall_mem_cons.mp h
    have hgt : compare name entry.1 = .gt := Std.OrientedCmp.gt_iff_lt.mpr hentry
    rw [insertField, hgt]
    dsimp only
    rw [ih hrest, List.cons_append]

theorem foldl_insertField_of_sorted {entries acc : List (String × Json)}
    (h : (acc ++ entries).Pairwise Before) :
    entries.foldl (fun acc (n, v) => insertField n v acc) acc = acc ++ entries := by
  induction entries generalizing acc with
  | nil => exact (List.append_nil acc).symm
  | cons entry rest ih =>
    obtain ⟨name, value⟩ := entry
    have hlast : ∀ entry ∈ acc, Before entry (name, value) := fun entry hentry =>
      (List.pairwise_append.mp h).2.2 entry hentry _ List.mem_cons_self
    rw [List.append_cons] at h
    rw [List.foldl_cons]
    dsimp only
    rw [insertField_of_before hlast, ih h, List.append_assoc, List.singleton_append]

/-- **Fields that stand in order are kept as they stand.** -/
theorem object_of_sorted {entries : List (String × Json)} (h : entries.Pairwise Before) :
    object entries = .fields entries :=
  congrArg fields (@foldl_insertField_of_sorted entries [] h)

theorem mem_insertField {name : String} {value : Json} {entries : List (String × Json)}
    {entry : String × Json} (h : entry ∈ insertField name value entries) :
    entry = (name, value) ∨ entry ∈ entries := by
  induction entries with
  | nil => exact .inl (List.mem_singleton.mp h)
  | cons first rest ih =>
    rw [insertField] at h
    cases hcompare : compare name first.1 <;> rw [hcompare] at h
    · exact List.mem_cons.mp h
    · exact (List.mem_cons.mp h).imp_right (List.mem_cons_of_mem first)
    · obtain rfl | h := List.mem_cons.mp h
      · exact .inr List.mem_cons_self
      · exact (ih h).imp_right (List.mem_cons_of_mem first)

/-- **A field is put in its place.** -/
theorem pairwise_insertField {entries : List (String × Json)} (name : String) (value : Json)
    (h : entries.Pairwise Before) : (insertField name value entries).Pairwise Before := by
  induction entries with
  | nil => exact List.pairwise_singleton _ _
  | cons first rest ih =>
    obtain ⟨hfirst, hrest⟩ := List.pairwise_cons.mp h
    rw [insertField]
    cases hcompare : compare name first.1 with
    | lt =>
      refine List.pairwise_cons.mpr ⟨List.forall_mem_cons.mpr ⟨hcompare, fun e he => ?_⟩, h⟩
      exact Std.TransCmp.lt_trans hcompare (hfirst e he)
    | eq =>
      obtain rfl : name = first.1 := Std.LawfulEqOrd.eq_of_compare hcompare
      exact List.pairwise_cons.mpr ⟨hfirst, hrest⟩
    | gt =>
      refine List.pairwise_cons.mpr ⟨fun e he => ?_, ih hrest⟩
      obtain rfl | he := mem_insertField he
      · exact Std.OrientedCmp.gt_iff_lt.mp hcompare
      · exact hfirst e he

/-- **An object of exact values is exact**, in whatever order its fields are given. -/
theorem exact_object {entries : List (String × Json)} (h : ∀ entry ∈ entries, entry.2.Exact) :
    (object entries).Exact := by
  have hfold {acc : List (String × Json)} (hacc : (fields acc).Exact) :
      (fields (entries.foldl (fun acc (n, v) => insertField n v acc) acc)).Exact := by
    induction entries generalizing acc with
    | nil => exact hacc
    | cons entry rest ih =>
      obtain ⟨hentry, hrest⟩ := List.forall_mem_cons.mp h
      refine ih hrest ?_
      cases hacc with
      | fields hsorted hvalues =>
        refine .fields (pairwise_insertField _ _ hsorted) fun e he => ?_
        obtain rfl | he := mem_insertField he
        · exact hentry
        · exact hvalues e he
  exact hfold (.fields .nil nofun)

/-! ## Values -/

theorem readValue_int {n : Int} (hlow : Int64.minValue.toInt ≤ n) (hhigh : n < UInt64.size)
    (hrest : Closed rest) :
    readValue (fuel + 1) ((text (.int n)).toList ++ rest) = some (.int n, rest) := by
  have hmin : Int64.minValue.toInt = -(maxNegated : Int) := rfl
  have hmax : UInt64.size = maxGathered + 1 := rfl
  rw [text]
  by_cases hn : n < 0
  · have hnegated : n.natAbs ≤ maxNegated := by omega
    have hgathered : n.natAbs ≤ maxGathered := hnegated.trans (by decide)
    have hvalue : -(n.natAbs : Int) = n := by omega
    rw [toList_integerText_of_neg hn, List.cons_append, readValue_minus,
      readNumber_toDigits true hgathered (fun _ => ⟨by omega, hnegated⟩) hrest, if_pos rfl, hvalue]
  · have hgathered : n.toNat ≤ maxGathered := by omega
    have hvalue : (n.toNat : Int) = n := by omega
    obtain ⟨c, cs, hdigits, hc⟩ := exists_toDigits_cons n.toNat
    rw [toList_integerText_of_nonneg (Int.not_lt.mp hn), hdigits, List.cons_append,
      readValue_digit hc, ← List.cons_append, ← hdigits,
      readNumber_toDigits false hgathered nofun hrest, if_neg (by decide), hvalue]

theorem readValue_string (s : String) :
    readValue (fuel + 1) ((text (.string s)).toList ++ rest) = some (.string s, rest) := by
  rw [text, toList_quoted, List.cons_append, List.append_assoc]
  simp (disch := decide) only [readValue, skipSpace_cons, List.singleton_append, readString_quoted,
    Option.map_some]

theorem readValue_array {items : List Json} (hexact : ∀ item ∈ items, item.Exact)
    (h : ∀ item ∈ items, ReadsBack item)
    (hfuel : (text (.array items)).toList.length ≤ fuel + 1) :
    readValue (fuel + 1) ((text (.array items)).toList ++ rest) = some (.array items, rest) := by
  rw [toList_text_array, List.length_cons, List.length_append, List.length_singleton] at hfuel
  rw [toList_text_array, List.cons_append, List.append_assoc, List.singleton_append]
  cases items with
  | nil => exact readValue_empty_array
  | cons item items =>
    obtain ⟨c, cs, hcs, hc⟩ := (hexact item List.mem_cons_self).begins
    have htexts : (",".intercalate ((item :: items).map text)).toList
        = c :: (cs ++ (items.map text).flatMap fun t => ',' :: t.toList) := by
      rw [List.map_cons, toList_intercalate_cons, hcs, List.cons_append]
    rw [htexts, List.cons_append, readValue_bracket hc, ← List.cons_append, ← htexts]
    exact loop_texts [] (fun item hitem => (h item hitem).takesItem) (by omega)

theorem readValue_fields {entries : List (String × Json)} (hsorted : entries.Pairwise Before)
    (h : ∀ entry ∈ entries, ReadsBack entry.2)
    (hfuel : (text (.fields entries)).toList.length ≤ fuel + 1) :
    readValue (fuel + 1) ((text (.fields entries)).toList ++ rest)
      = some (.fields entries, rest) := by
  rw [toList_text_fields, List.length_cons, List.length_append, List.length_singleton] at hfuel
  rw [toList_text_fields, List.cons_append, List.append_assoc, List.singleton_append]
  cases entries with
  | nil => exact readValue_empty_object
  | cons entry entries =>
    obtain ⟨cs, htexts⟩ : ∃ cs,
        (",".intercalate ((entry :: entries).map fieldText)).toList = '"' :: cs := by
      rw [List.map_cons, toList_intercalate_cons, fieldText, String.toList_append,
        String.toList_append, toList_quoted]
      exact ⟨_, rfl⟩
    rw [htexts, List.cons_append, readValue_brace, ← List.cons_append, ← htexts,
      ← object_of_sorted hsorted]
    exact loop_texts [] (fun entry hentry => (h entry hentry).takesField) (by omega)

/-- Reading takes a step, since no text is empty. -/
theorem Exact.readsBack_of_succ (h : j.Exact)
    (hread : ∀ fuel rest, j.text.toList.length ≤ fuel + 1 → Closed rest →
      readValue (fuel + 1) (j.text.toList ++ rest) = some (j, rest)) : ReadsBack j := by
  intro fuel rest hfuel hrest
  obtain ⟨c, cs, hcs, -⟩ := h.begins
  obtain ⟨fuel, rfl⟩ : ∃ k, fuel = k + 1 := by
    rw [hcs] at hfuel
    exact Nat.exists_eq_succ_of_ne_zero (Nat.ne_zero_of_lt hfuel)
  exact hread fuel rest hfuel hrest

/-- **An exact value is read back from its text**, as long as what stands behind it does not go on
with it. -/
theorem Exact.readsBack (h : j.Exact) : ReadsBack j := by
  induction h with
  | null => exact Exact.null.readsBack_of_succ fun _ _ _ _ => readValue_null
  | bool b => exact (Exact.bool b).readsBack_of_succ fun _ _ _ _ => readValue_bool b
  | int hlow hhigh =>
    exact (Exact.int hlow hhigh).readsBack_of_succ fun _ _ _ hrest =>
      readValue_int hlow hhigh hrest
  | string s => exact (Exact.string s).readsBack_of_succ fun _ _ _ _ => readValue_string s
  | array h ih =>
    exact (Exact.array h).readsBack_of_succ fun _ _ hfuel _ => readValue_array h ih hfuel
  | fields hsorted h ih =>
    exact (Exact.fields hsorted h).readsBack_of_succ fun _ _ hfuel _ =>
      readValue_fields hsorted ih hfuel

/-- **The text of an exact value is read as that value.** -/
theorem ofText?_text (h : j.Exact) : ofText? j.text = some j := by
  have hread := h.readsBack (2 * j.text.toList.length + 2) [] (by omega) closed_nil
  rw [List.append_nil] at hread
  rw [ofText?]
  simp [hread, skipSpace]

end Formula.Json
