import Formula.Proofs.Decimal.Characters
import Formula.Proofs.Value.Criterion

/-!
# Proofs/Value/CriterionText — the sign of a criterion is the longest that fits

The signs of the comparisons begin alike, so a text may begin with several of them.  The longest is
the sign of the criterion (`LongestSign`), which the reader finds because its list has the longer
signs first.  What follows it is trimmed, and a number, a truth value in any case, or a text.

Signs have no blanks in them: behind a blank no sign goes on.  So blanks may stand behind the sign
as well as at either end, and a criterion written as its sign, a blank and its operand is read back
(`ofText_iff_longest_sign`).
-/

namespace Formula

open Text (isBlank skipBlanks trim trimChars)

/-- **The signs of a comparison.** -/
def Comparison.signs : Comparison → List String
  | lt => ["<"]
  | le => ["<="]
  | gt => [">"]
  | ge => [">="]
  | eq => ["="]
  | ne => ["<>", "!="]

namespace Criterion

variable {cs rest : List Char} {comparison : Comparison} {sign s t : String} {v : Value}

/-! ## The longest sign -/

/-- **The longest sign that a text begins with**, and what follows it; no sign is a sign for
equality. -/
inductive LongestSign (cs : List Char) : Comparison → String → List Char → Prop where
  | sign {comparison : Comparison} {sign : String} {rest : List Char}
    (hsign : sign ∈ comparison.signs) (hcs : cs = sign.toList ++ rest)
    (hlongest : ∀ other, ∀ longer ∈ Comparison.signs other, longer.toList <+: cs →
      longer.length ≤ sign.length) :
    LongestSign cs comparison sign rest
  | none (h : ∀ other, ∀ sign ∈ Comparison.signs other, ¬sign.toList <+: cs) :
    LongestSign cs .eq "" cs

/-- The list of the reader has the signs of the comparisons. -/
theorem mem_signs_iff : (cs, comparison) ∈ signs ↔ ∃ sign ∈ comparison.signs, cs = sign.toList := by
  cases comparison <;> simp [signs, Comparison.signs]

/-- A sign of two comparisons is the sign of one. -/
theorem eq_of_mem_signs {other : Comparison} (h : sign ∈ comparison.signs)
    (h' : sign ∈ other.signs) : comparison = other := by
  revert sign
  cases comparison <;> cases other <;> decide

/-- Longer signs come first. -/
theorem pairwise_signs : signs.Pairwise fun a b => b.1.length ≤ a.1.length := by
  decide

/-- **The reader finds the longest sign**: those before it in the list do not fit, and those behind
it are no longer. -/
theorem exists_longestSign (cs : List Char) :
    ∃ sign, LongestSign cs (splitSign cs).1 sign (splitSign cs).2 := by
  rw [splitSign]
  cases hfind : signs.find? fun p => p.1.isPrefixOf cs with
  | none =>
    refine ⟨"", .none fun other sign hsign hprefix => ?_⟩
    have hmiss := List.find?_eq_none.mp hfind _ (mem_signs_iff.mpr ⟨sign, hsign, rfl⟩)
    exact hmiss (List.isPrefixOf_iff_prefix.mpr hprefix)
  | some p =>
    obtain ⟨chars, comparison⟩ := p
    obtain ⟨hfits, before, after, hlist, hbefore⟩ := List.find?_eq_some_iff_append.mp hfind
    obtain ⟨sign, hsign, rfl⟩ := mem_signs_iff.mp (List.mem_of_find?_eq_some hfind)
    obtain ⟨rest, hrest⟩ := List.isPrefixOf_iff_prefix.mp hfits
    dsimp only
    rw [← hrest, List.drop_left]
    refine ⟨sign, .sign hsign rfl fun other longer hlonger hprefix => ?_⟩
    rw [← String.length_toList, ← String.length_toList]
    have hmem : (longer.toList, other) ∈ before ++ (sign.toList, comparison) :: after :=
      hlist ▸ mem_signs_iff.mpr ⟨longer, hlonger, rfl⟩
    have hsorted := pairwise_signs
    rw [hlist, List.pairwise_append] at hsorted
    rcases List.mem_append.mp hmem with hmem | hmem
    · have hmiss := hbefore _ hmem
      rw [← hrest, List.isPrefixOf_iff_prefix.mpr hprefix] at hmiss
      cases hmiss
    rcases List.mem_cons.mp hmem with heq | hmem
    · rw [(Prod.mk.inj heq).1]
    · exact (List.pairwise_cons.mp hsorted.2.1).1 _ hmem

/-- **A text has one longest sign.** -/
theorem LongestSign.unique {comparison' : Comparison} {sign' : String} {rest' : List Char}
    (h : LongestSign cs comparison sign rest) (h' : LongestSign cs comparison' sign' rest') :
    comparison = comparison' ∧ sign = sign' ∧ rest = rest' := by
  cases h with
  | none hnone =>
    cases h' with
    | none _ => exact ⟨rfl, rfl, rfl⟩
    | sign hsign' hcs' _ => exact absurd (hcs' ▸ List.prefix_append _ _) (hnone _ _ hsign')
  | sign hsign hcs hlongest =>
    cases h' with
    | none hnone => exact absurd (hcs ▸ List.prefix_append _ _) (hnone _ _ hsign)
    | sign hsign' hcs' hlongest' =>
      have hprefix : sign.toList <+: cs := hcs ▸ List.prefix_append _ _
      have hprefix' : sign'.toList <+: cs := hcs' ▸ List.prefix_append _ _
      have hlength : sign.toList.length = sign'.toList.length :=
        Nat.le_antisymm (hlongest' _ _ hsign hprefix) (hlongest _ _ hsign' hprefix')
      obtain ⟨heq, hrest⟩ := List.append_inj (hcs.symm.trans hcs') hlength
      obtain rfl := String.toList_inj.mp heq
      exact ⟨eq_of_mem_signs hsign hsign', rfl, hrest⟩

theorem LongestSign.splitSign_eq (h : LongestSign cs comparison sign rest) :
    splitSign cs = (comparison, rest) := by
  obtain ⟨sign', h'⟩ := exists_longestSign cs
  obtain ⟨hcomparison, -, hrest⟩ := h'.unique h
  exact Prod.ext hcomparison hrest

/-! ## Behind a blank -/

/-- No sign is empty, and no sign has a blank in it. -/
theorem not_isBlank_of_mem_sign (h : sign ∈ comparison.signs) : ∀ c ∈ sign.toList, ¬isBlank c := by
  have hall : comparison.signs.all fun sign => sign.toList.all fun c => !isBlank c := by
    cases comparison <;> decide
  intro c hc
  simpa using List.all_eq_true.mp (List.all_eq_true.mp hall sign h) c hc

theorem toList_ne_nil_of_mem_signs (h : sign ∈ comparison.signs) : sign.toList ≠ [] := by
  have hall : comparison.signs.all fun sign => !sign.toList.isEmpty := by
    cases comparison <;> decide
  simpa using List.all_eq_true.mp hall sign h

/-- **Behind a blank no sign goes on.** -/
theorem longestSign_append (h : sign ∈ comparison.signs) (hrest : ∀ c ∈ rest.head?, isBlank c) :
    LongestSign (sign.toList ++ rest) comparison sign rest := by
  refine .sign h rfl fun other longer hlonger hprefix => ?_
  rcases List.prefix_or_prefix_of_prefix hprefix (List.prefix_append sign.toList rest)
    with hle | hle
  · exact hle.length_le
  · obtain ⟨more, hmore⟩ := hle
    cases more with
    | nil =>
      rw [List.append_nil] at hmore
      rw [String.toList_inj.mp hmore]
    | cons c more =>
      rw [← hmore, List.prefix_append_right_inj] at hprefix
      obtain ⟨tail, rfl⟩ := hprefix
      have hmem : c ∈ longer.toList := hmore ▸ List.mem_append_right _ List.mem_cons_self
      exact absurd (hrest c rfl) (not_isBlank_of_mem_sign hlonger c hmem)

/-! ## Operands -/

/-- **The operand that a trimmed text names**: a number before a truth value in any case, and that
before the text itself. -/
inductive Names (t : String) : Value → Prop where
  | number {x : Float} (h : Decimal.ofText? t = some x) : Names t (.number x)
  | bool {b : Bool} (hnumber : Decimal.ofText? t = none)
    (h : t.toList.map Char.toLower = (Value.bool b).toText.toList) : Names t (.bool b)
  | text (hnumber : Decimal.ofText? t = none)
    (hbool : ∀ b, t.toList.map Char.toLower ≠ (Value.bool b).toText.toList) : Names t (.text t)

theorem isWord_iff (word : String) : isWord word t ↔ t.toList.map Char.toLower = word.toList :=
  beq_iff_eq

theorem names_operandOfText (t : String) : Names t (operandOfText t) := by
  rw [operandOfText]
  cases hnumber : Decimal.ofText? t with
  | some x => exact .number hnumber
  | none =>
    dsimp only
    split_ifs with htrue hfalse
    · exact .bool (b := true) hnumber ((isWord_iff _).mp htrue)
    · exact .bool (b := false) hnumber ((isWord_iff _).mp hfalse)
    · refine .text hnumber fun b hb => ?_
      cases b with
      | true => exact htrue ((isWord_iff _).mpr hb)
      | false => exact hfalse ((isWord_iff _).mpr hb)

/-- **A text names one operand.** -/
theorem Names.unique {w : Value} (hv : Names t v) (hw : Names t w) : v = w := by
  cases hv with
  | number h =>
    cases hw with
    | number h' => rw [Option.some.inj (h.symm.trans h')]
    | bool hnone _ => cases h.symm.trans hnone
    | text hnone _ => cases h.symm.trans hnone
  | @bool b hnumber h =>
    cases hw with
    | number h' => cases hnumber.symm.trans h'
    | @bool b' _ h' =>
      have htext := h.symm.trans h'
      revert htext
      cases b <;> cases b' <;> decide
    | text _ hbool => exact absurd h (hbool b)
  | text hnumber hbool =>
    cases hw with
    | number h' => cases hnumber.symm.trans h'
    | @bool b _ h' => exact absurd h' (hbool b)
    | text _ _ => rfl

theorem operandOfText_eq_iff : operandOfText t = v ↔ Names t v :=
  ⟨fun h => h ▸ names_operandOfText t, fun h => (names_operandOfText t).unique h⟩

/-- **An operand is read back from its text**, a number as far as numbers are. -/
theorem operandOfText_toText (ht : trim t = t)
    (hread : ∀ x, operandOfText t = .number x → ¬x.isNaN →
      Decimal.ofText? (Decimal.toText x) = some x) :
    operandOfText (trim (operandOfText t).toText) = operandOfText t := by
  have hnames := names_operandOfText t
  cases hv : operandOfText t with
  | number x =>
    have hback : Decimal.ofText? (Decimal.toText x) = some x := by
      by_cases hnan : x.isNaN
      · rw [Decimal.eq_nan_of_isNaN hnan]
        exact Decimal.ofText?_toText_nan
      · exact hread x hv hnan
    change operandOfText (trim (Decimal.toText x)) = .number x
    rw [trim, Decimal.trimChars_of_ofText? hback, String.ofList_toList]
    exact operandOfText_eq_iff.mpr (.number hback)
  | text s =>
    rw [hv] at hnames
    cases hnames with
    | text hnumber hbool =>
      change operandOfText (trim t) = .text t
      rw [ht, hv]
  | bool b => cases b <;> decide
  | date x =>
    rw [hv] at hnames
    cases hnames

/-! ## The reader -/

/-- **A criterion has the longest sign, and the operand that follows it.** -/
theorem ofText_of_longestSign (h : LongestSign (trimChars s.toList) comparison sign rest) :
    ofText s = ⟨comparison, operandOfText (String.ofList (trimChars rest))⟩ := by
  rw [ofText, h.splitSign_eq]

/-- **Blanks at either end of a text make no difference.** -/
theorem ofText_append_blanks {before after : String} (hbefore : ∀ c ∈ before.toList, isBlank c)
    (hafter : ∀ c ∈ after.toList, isBlank c) : ofText (before ++ s ++ after) = ofText s := by
  rw [ofText, ofText, String.toList_append, String.toList_append,
    Text.trimChars_append_blanks hbefore hafter]

/-- Blanks in front of a text are trimmed off. -/
theorem trimChars_blank_append {before : String} (hbefore : ∀ c ∈ before.toList, isBlank c)
    (s : String) : trimChars (before ++ s).toList = trimChars s.toList := by
  have htrim : trimChars (before.toList ++ s.toList ++ []) = trimChars s.toList :=
    Text.trimChars_append_blanks hbefore fun c hc => absurd hc List.not_mem_nil
  rwa [List.append_nil, ← String.toList_append] at htrim

theorem ofText_blank_append {before : String} (hbefore : ∀ c ∈ before.toList, isBlank c)
    (s : String) : ofText (before ++ s) = ofText s := by
  rw [ofText, ofText, trimChars_blank_append hbefore]

/-- Behind a sign only the end is trimmed. -/
theorem trimChars_sign_append (hsign : sign ∈ comparison.signs) (s : String) :
    trimChars (sign ++ s).toList = sign.toList ++ Text.trimEnd s.toList := by
  rw [String.toList_append]
  exact Text.trimChars_append (toList_ne_nil_of_mem_signs hsign) (not_isBlank_of_mem_sign hsign) _

/-- **Any sign is the longest in front of a blank.** -/
theorem ofText_append_of_blank (hsign : sign ∈ comparison.signs) {operand : String}
    (hblank : ∀ c ∈ operand.toList.head?, isBlank c) :
    ofText (sign ++ operand) = ⟨comparison, operandOfText (trim operand)⟩ := by
  have hhead : ∀ c ∈ (Text.trimEnd operand.toList).head?, isBlank c := by
    obtain ⟨after, hoperand, -⟩ := Text.exists_eq_trimEnd_append operand.toList
    intro c hc
    refine hblank c ?_
    rw [hoperand, List.head?_append, hc]
    rfl
  have hlongest := longestSign_append hsign hhead
  rw [← trimChars_sign_append hsign] at hlongest
  rw [ofText_of_longestSign hlongest, Text.trimChars_trimEnd, trim]

/-- **Blanks behind the sign make no difference.** -/
theorem ofText_insert_blanks {before blanks after : String}
    (hbefore : ∀ c ∈ before.toList, isBlank c) (hblanks : ∀ c ∈ blanks.toList, isBlank c)
    (hlongest : LongestSign (trimChars (before ++ sign ++ after).toList) comparison sign rest) :
    ofText (before ++ sign ++ blanks ++ after) = ofText (before ++ sign ++ after) := by
  have hleft : before ++ sign ++ blanks ++ after = before ++ (sign ++ (blanks ++ after)) := by
    rw [String.append_assoc, String.append_assoc]
  have hright : before ++ sign ++ after = before ++ (sign ++ after) := String.append_assoc
  rw [hright, trimChars_blank_append hbefore] at hlongest
  rw [hleft, hright, ofText_blank_append hbefore, ofText_blank_append hbefore]
  cases hlongest with
  | none _ =>
    rw [String.empty_append, String.empty_append, ofText_blank_append hblanks]
  | sign hsign hcs hlongest =>
    have hvalue : ofText (sign ++ after) = ⟨comparison, operandOfText (trim after)⟩ := by
      rw [ofText_of_longestSign (.sign hsign hcs hlongest)]
      rw [trimChars_sign_append hsign] at hcs
      rw [← List.append_cancel_left hcs, Text.trimChars_trimEnd, trim]
    cases hchars : blanks.toList with
    | nil => rw [String.toList_eq_nil_iff.mp hchars, String.empty_append]
    | cons c more =>
      have hblank : ∀ d ∈ (blanks ++ after).toList.head?, isBlank d := by
        rw [String.toList_append, hchars]
        exact fun d hd => hblanks d (hchars ▸ Option.some.inj hd ▸ List.mem_cons_self)
      rw [hvalue, ofText_append_of_blank hsign hblank, trim, trimChars_blank_append hblanks, trim]

/-- **A sign, a blank and the text of an operand** are read as that sign and that operand. -/
theorem ofText_rewritten (hsign : sign ∈ comparison.signs) (ht : trim t = t)
    (hread : ∀ x, operandOfText t = .number x → ¬x.isNaN →
      Decimal.ofText? (Decimal.toText x) = some x) :
    ofText (sign ++ " " ++ (operandOfText t).toText) = ⟨comparison, operandOfText t⟩ := by
  have hblank : ∀ c ∈ " ".toList, isBlank c := fun c hc => by
    rw [List.mem_singleton.mp hc]
    rfl
  have hhead : ∀ c ∈ (" " ++ (operandOfText t).toText).toList.head?, isBlank c := by
    rw [String.toList_append]
    exact fun c hc => Option.some.inj hc ▸ rfl
  rw [String.append_assoc, ofText_append_of_blank hsign hhead, trim, trimChars_blank_append hblank,
    ← trim, operandOfText_toText ht hread]

/-! ## Criteria and their texts -/

/-- **The sign of a criterion is the longest that fits, and its text can be written again.**  What
follows the sign is trimmed and names the operand.  The sign, a blank and the text of the operand
write the criterion again, and blanks at either end or behind the sign change nothing. -/
theorem ofText_iff_longest_sign :
    (∀ s comparison v, ofText s = ⟨comparison, v⟩ ↔
      ∃ sign rest, LongestSign (trimChars s.toList) comparison sign rest ∧
        Names (String.ofList (trimChars rest)) v) ∧
    (∀ s, ∀ sign ∈ (ofText s).comparison.signs,
      (∀ x, (ofText s).operand = .number x → ¬x.isNaN →
        Decimal.ofText? (Decimal.toText x) = some x) →
      ofText (sign ++ " " ++ (ofText s).operand.toText) = ofText s) ∧
    (∀ before s after : String, (∀ c ∈ before.toList, isBlank c) →
      (∀ c ∈ after.toList, isBlank c) → ofText (before ++ s ++ after) = ofText s) ∧
    ∀ (before sign blanks after : String) comparison rest, (∀ c ∈ before.toList, isBlank c) →
      (∀ c ∈ blanks.toList, isBlank c) →
      LongestSign (trimChars (before ++ sign ++ after).toList) comparison sign rest →
      ofText (before ++ sign ++ blanks ++ after) = ofText (before ++ sign ++ after) := by
  refine ⟨fun s comparison v => ⟨fun h => ?_, ?_⟩, fun s sign hsign hread => ?_,
    fun before s after => ofText_append_blanks,
    fun before sign blanks after comparison rest => ofText_insert_blanks⟩
  · obtain ⟨sign, hlongest⟩ := exists_longestSign (trimChars s.toList)
    rw [ofText_of_longestSign hlongest] at h
    obtain ⟨rfl, rfl⟩ := Criterion.mk.inj h
    exact ⟨sign, _, hlongest, names_operandOfText _⟩
  · rintro ⟨sign, rest, hlongest, hnames⟩
    rw [ofText_of_longestSign hlongest, operandOfText_eq_iff.mpr hnames]
  · obtain ⟨found, hlongest⟩ := exists_longestSign (trimChars s.toList)
    rw [ofText_of_longestSign hlongest] at hsign hread ⊢
    dsimp only at hsign hread ⊢
    refine ofText_rewritten hsign ?_ hread
    rw [trim, String.toList_ofList, Text.trimChars_trimChars]

/-- A bound with blanks at its ends: of the two signs that it begins with the longer is taken, its
number is read back, and a blank may stand behind the sign.  Where one stands between the signs only
the first is a sign, and the other belongs to the operand. -/
theorem ofText_iff_longest_sign_bound :
    LongestSign (trimChars "\t>=10 ".toList) .ge ">=" "10".toList ∧
      ofText "\t>=10 " = ⟨.ge, .number 10⟩ ∧
      Decimal.ofText? (Decimal.toText 10) = some 10 ∧
      ofText (">=" ++ " " ++ (ofText "\t>=10 ").operand.toText) = ofText "\t>=10 " ∧
      ofText ("\t" ++ ">=" ++ " " ++ "10 ") = ofText ("\t" ++ ">=" ++ "10 ") ∧
      ofText ("\t" ++ "> =10" ++ " ") = ⟨.gt, .text "=10"⟩ ∧
      ofText (">" ++ " " ++ (ofText "> =10").operand.toText) = ofText "> =10" := by
  obtain ⟨hiff, hrewrite, hends, hinsert⟩ := ofText_iff_longest_sign
  have hlongest : LongestSign (trimChars "\t>=10 ".toList) .ge ">=" "10".toList := by
    refine .sign (by decide) (by decide) fun other => ?_
    cases other <;> decide
  have hlongest' : LongestSign (trimChars "> =10".toList) .gt ">" " =10".toList := by
    refine .sign (by decide) (by decide) fun other => ?_
    cases other <;> decide
  have hread : Decimal.ofText? (Decimal.toText 10) = some 10 := by decide +kernel
  have hbound : ofText "\t>=10 " = ⟨.ge, .number 10⟩ :=
    (hiff _ _ _).mpr ⟨_, _, hlongest, .number (by decide +kernel)⟩
  have htext : ofText "> =10" = ⟨.gt, .text "=10"⟩ := by
    refine (hiff _ _ _).mpr ⟨_, _, hlongest', .text (by decide +kernel) fun b => ?_⟩
    cases b <;> decide
  have htab : ∀ c ∈ "\t".toList, isBlank c := List.all_eq_true.mp (by decide)
  have hspace : ∀ c ∈ " ".toList, isBlank c := List.all_eq_true.mp (by decide)
  refine ⟨hlongest, hbound, hread, hrewrite _ ">=" (by rw [hbound]; decide) ?_,
    hinsert "\t" ">=" " " "10 " _ _ htab hspace hlongest,
    (hends "\t" "> =10" " " htab hspace).trans htext, hrewrite _ ">" (by rw [htext]; decide) ?_⟩
  · rw [hbound]
    intro x hx _
    cases hx
    exact hread
  · rw [htext]
    intro x hx
    cases hx

end Criterion

end Formula
