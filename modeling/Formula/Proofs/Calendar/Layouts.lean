import Formula.Proofs.Calendar.Grammar

/-!
# Proofs/Calendar/Layouts — a layout reads what the grammar writes

Reading by a layout scans: a field takes as many digits as it may.  A separator ends the field
before it in any case, so that the scan has no choice to make there (`readLayout_field_char_iff`).
The one place where it has is the day of a date whose time follows at once (`readLayout_date_iff`),
and there a day of one digit must not be followed by another digit.

`ReadsTime` says that a layout reads the times of a grammar, whatever date stands before them, so
that a time alone and a date with a time are read by the same lemmas (`ReadsTime.bind_time?_iff`,
`ReadsTime.bind_dateTime?_iff`).
-/

namespace Formula.Calendar

open Address (Word Begins begins_iff dropWhile_append_of_word not_begins_dropWhile word_takeWhile)
open Formula.Text (isBlank skipBlanks)

variable {cs rest text digits : List Char} {n : Nat}

/-! ## Digits -/

/-- The digits that a field of a given width takes. -/
def taken (width : Option Nat) (cs : List Char) : List Char :=
  match width with
  | some w => (cs.takeWhile Char.isDigit).take w
  | none => cs.takeWhile Char.isDigit

theorem readDigits_eq (width : Option Nat) (cs : List Char) :
    readDigits width cs = if (taken width cs).isEmpty then none
      else some (Nat.ofDigitChars 10 (taken width cs) 0, cs.drop (taken width cs).length) := rfl

theorem taken_append_drop (width : Option Nat) (cs : List Char) :
    taken width cs ++ cs.drop (taken width cs).length = cs := by
  rw [← List.prefix_iff_eq_append]
  cases width with
  | none => exact List.takeWhile_prefix _
  | some w => exact List.IsPrefix.trans ( List.take_prefix w _) ( List.takeWhile_prefix _)

theorem isDigit_of_mem_taken {width : Option Nat} : ∀ c ∈ taken width cs, c.isDigit := by
  intro c hc
  cases width with
  | none => exact List.mem_takeWhile_imp hc
  | some w => exact List.mem_takeWhile_imp (List.mem_of_mem_take hc)

/-- **Digits are taken as far as they go**, or up to the width. -/
theorem taken_append_eq_iff {width : Option Nat} (hdigits : ∀ c ∈ digits, c.isDigit) :
    taken width (digits ++ rest) = digits ↔
      (∀ w ∈ width, digits.length ≤ w) ∧
        (width = some digits.length ∨ ¬Begins Char.isDigit rest) := by
  have hend : ¬Begins Char.isDigit rest ↔ rest.takeWhile Char.isDigit = [] := by
    rw [begins_iff, not_not]
  rw [taken.eq_def, List.takeWhile_append_of_pos hdigits, hend]
  generalize rest.takeWhile Char.isDigit = more
  cases width with
  | none => simp
  | some w =>
    constructor
    · intro h
      have hlength := congrArg List.length h
      simp only [List.length_take, List.length_append] at hlength
      refine ⟨fun _ hw => by cases hw; omega, ?_⟩
      by_cases hmore : more = []
      · exact Or.inr hmore
      · have hpos := List.length_pos_of_ne_nil hmore
        exact Or.inl (congrArg some (by omega))
    · rintro ⟨hle, hw | rfl⟩
      · rw [Option.some.inj hw]
        exact List.take_left
      · rw [List.append_nil]
        exact List.take_of_length_le (hle w rfl)

theorem readDigits_eq_some_iff {width : Option Nat} :
    readDigits width cs = some (n, rest) ↔
      ∃ digits, cs = digits ++ rest ∧ Word Char.isDigit digits ∧ Nat.ofDigitChars 10 digits 0 = n ∧
        (∀ w ∈ width, digits.length ≤ w) ∧
        (width = some digits.length ∨ ¬Begins Char.isDigit rest) := by
  rw [readDigits_eq]
  constructor
  · intro h
    split at h
    · exact nomatch h
    · next hne =>
      obtain ⟨rfl, rfl⟩ := Prod.mk.inj (Option.some.inj h)
      have hsplit := taken_append_drop width cs
      refine ⟨taken width cs, hsplit.symm, ⟨by simpa using hne, isDigit_of_mem_taken⟩, rfl, ?_⟩
      rw [← taken_append_eq_iff isDigit_of_mem_taken, hsplit]
  · rintro ⟨digits, rfl, hdigits, rfl, hwidth⟩
    rw [(taken_append_eq_iff hdigits.2).mpr hwidth, if_neg (by simpa using hdigits.1),
      List.drop_left]

/-! ## Numbers -/

/-- Blanks are skipped up to what is none. -/
theorem skipBlanks_append {blanks : List Char} (hblanks : Blanks blanks)
    (hcs : ¬Begins isBlank cs) : skipBlanks (blanks ++ cs) = cs := by
  rw [skipBlanks, List.dropWhile_append_of_pos hblanks]
  refine Text.skipBlanks_eq_self fun c hc hblank => hcs ?_
  obtain ⟨tail, rfl⟩ := List.head?_eq_some_iff.mp hc
  exact ⟨c, tail, rfl, hblank⟩

theorem exists_blanks (cs : List Char) : ∃ blanks, Blanks blanks ∧ cs = blanks ++ skipBlanks cs :=
  ⟨cs.takeWhile isBlank, fun _ hc => List.mem_takeWhile_imp hc,
    List.takeWhile_append_dropWhile.symm⟩

theorem not_begins_blank (hdigits : Word Char.isDigit digits) (rest : List Char) :
    ¬Begins isBlank (digits ++ rest) :=
  (hdigits.begins.append rest).not_of_disjoint fun _ => not_isBlank_of_isDigit

/-- **A number is read after any blanks**, and up to what is no digit or to its width. -/
theorem readDigits_skipBlanks_iff {w : Nat} :
    readDigits (some w) (skipBlanks cs) = some (n, rest) ↔
      ∃ k text, cs = text ++ rest ∧ Number k text n ∧ k ≤ w ∧
        (k = w ∨ ¬Begins Char.isDigit rest) := by
  rw [readDigits_eq_some_iff]
  constructor
  · rintro ⟨digits, hcs, hdigits, hn, hle, hend⟩
    obtain ⟨blanks, hblanks, hsplit⟩ := exists_blanks cs
    refine ⟨digits.length, blanks ++ digits, ?_, ⟨blanks, digits, rfl, hblanks, hdigits, rfl, hn⟩,
      hle w rfl, hend.imp_left fun h => (Option.some.inj h).symm⟩
    rw [hsplit, hcs, List.append_assoc]
  · rintro ⟨k, text, rfl, ⟨blanks, digits, rfl, hblanks, hdigits, rfl, hn⟩, hle, hend⟩
    refine ⟨digits, ?_, hdigits, hn, fun _ hw => Option.some.inj hw ▸ hle,
      hend.imp_left fun h => congrArg some h.symm⟩
    rw [List.append_assoc, skipBlanks_append hblanks (not_begins_blank hdigits rest)]

/-- Where something else than a digit follows, a number has no second reading. -/
theorem readDigits_skipBlanks_iff_writes {w : Nat} (hrest : ¬Begins Char.isDigit rest) :
    readDigits (some w) (skipBlanks cs) = some (n, rest) ↔
      ∃ text, cs = text ++ rest ∧ Writes w text n := by
  rw [readDigits_skipBlanks_iff]
  constructor
  · rintro ⟨k, text, hcs, hnumber, hk, -⟩
    exact ⟨text, hcs, k, hk, hnumber⟩
  · rintro ⟨text, hcs, k, hk, hnumber⟩
    exact ⟨k, text, hcs, hnumber, hk, Or.inr hrest⟩

/-- After a sign all digits are read. -/
theorem readDigits_none_iff (hrest : ¬Begins Char.isDigit rest) :
    readDigits none cs = some (n, rest) ↔
      ∃ digits, cs = digits ++ rest ∧ Word Char.isDigit digits ∧
        Nat.ofDigitChars 10 digits 0 = n := by
  rw [readDigits_eq_some_iff]
  constructor
  · rintro ⟨digits, hcs, hdigits, hn, -⟩
    exact ⟨digits, hcs, hdigits, hn⟩
  · rintro ⟨digits, hcs, hdigits, hn⟩
    exact ⟨digits, hcs, hdigits, hn, (fun _ hw => nomatch hw), Or.inr hrest⟩

/-- **A year is read** where its hyphen follows. -/
theorem readYear_skipBlanks_iff {y : Int} (hrest : ¬Begins Char.isDigit rest) :
    readYear (skipBlanks cs) = some (y, rest) ↔
      ∃ text, cs = text ++ rest ∧ WritesYear text y := by
  constructor
  · intro h
    obtain ⟨blanks, hblanks, hsplit⟩ := exists_blanks cs
    generalize hbody : skipBlanks cs = body at h hsplit
    rw [readYear.eq_def] at h
    split at h
    · next tail =>
      obtain ⟨⟨n, rest'⟩, hread, heq⟩ := Option.map_eq_some_iff.mp h
      obtain ⟨rfl, rfl⟩ := Prod.mk.inj heq
      obtain ⟨digits, rfl, hdigits, rfl⟩ := (readDigits_none_iff hrest).mp hread
      exact ⟨blanks ++ '-' :: digits, by rw [hsplit, List.append_assoc, List.cons_append],
        .minus hblanks hdigits⟩
    · next tail =>
      obtain ⟨⟨n, rest'⟩, hread, heq⟩ := Option.map_eq_some_iff.mp h
      obtain ⟨rfl, rfl⟩ := Prod.mk.inj heq
      obtain ⟨digits, rfl, hdigits, rfl⟩ := (readDigits_none_iff hrest).mp hread
      exact ⟨blanks ++ '+' :: digits, by rw [hsplit, List.append_assoc, List.cons_append],
        .plus hblanks hdigits⟩
    · obtain ⟨⟨n, rest'⟩, hread, heq⟩ := Option.map_eq_some_iff.mp h
      obtain ⟨rfl, rfl⟩ := Prod.mk.inj heq
      rw [← hbody] at hread
      obtain ⟨text, hcs, htext⟩ := (readDigits_skipBlanks_iff_writes hrest).mp hread
      exact ⟨text, hcs, .plain htext⟩
  · rintro ⟨text, rfl, hyear⟩
    cases hyear with
    | plain htext =>
      have hread := (readDigits_skipBlanks_iff_writes hrest).mpr ⟨text, rfl, htext⟩
      obtain ⟨digits, hbody, hdigits, -⟩ := readDigits_eq_some_iff.mp hread
      obtain ⟨c, ds, rfl⟩ := List.exists_cons_of_ne_nil hdigits.1
      rw [hbody, List.cons_append] at hread ⊢
      rw [readYear_of_isDigit (hdigits.2 c List.mem_cons_self), hread, Option.map_some]
    | @plus blanks digits hblanks hdigits =>
      have hplus : ¬isBlank '+' := by decide
      rw [List.append_assoc, List.cons_append, skipBlanks_append hblanks (not_begins_cons hplus),
        readYear, (readDigits_none_iff hrest).mpr ⟨digits, rfl, hdigits, rfl⟩, Option.map_some]
    | @minus blanks digits hblanks hdigits =>
      have hminus : ¬isBlank '-' := by decide
      rw [List.append_assoc, List.cons_append, skipBlanks_append hblanks (not_begins_cons hminus),
        readYear, (readDigits_none_iff hrest).mpr ⟨digits, rfl, hdigits, rfl⟩, Option.map_some]

/-! ## Layouts -/

variable {r r' : Reading} {layout : List Part}

theorem readLayout_char_iff {c : Char} :
    readLayout r cs (.char c :: layout) = some r' ↔
      ∃ rest, cs = c :: rest ∧ readLayout r rest layout = some r' := by
  constructor
  · intro h
    cases cs with
    | nil => cases h
    | cons d rest =>
      by_cases hd : d = c
      · have hread : readPart r (d :: rest) (.char c) = some (r, rest) := if_pos hd
        rw [readLayout_cons hread] at h
        exact ⟨rest, hd ▸ rfl, h⟩
      · have hread : readPart r (d :: rest) (.char c) = none := if_neg hd
        rw [readLayout, hread] at h
        cases h
  · rintro ⟨rest, rfl, h⟩
    have hread : readPart r (c :: rest) (.char c) = some (r, rest) := if_pos rfl
    rw [readLayout_cons hread]
    exact h

/-- The blanks of a layout are those that the field after them skips. -/
theorem readLayout_blanks_field (f : Field) :
    readLayout r cs (.blanks :: .field f :: layout) = readLayout r cs (.field f :: layout) := by
  have hskip : skipBlanks (skipBlanks cs) = skipBlanks cs :=
    @skipBlanks_append (skipBlanks cs) [] (List.forall_mem_nil _) (not_begins_dropWhile isBlank cs)
  rw [readLayout_cons rfl, readLayout, readLayout, readPart, readPart, hskip]

section Field

variable {f : Field} {low high : Nat} {store : Nat → Reading}

/-- **A field other than the year is read** with a number within its bounds.  A number of one digit
ends where no digit follows. -/
theorem readLayout_field_iff
    (hf : ∀ cs, readField f r cs = readField.bounded cs low high store) :
    readLayout r cs (.field f :: layout) = some r' ↔
      ∃ k text rest n, cs = text ++ rest ∧ Number k text n ∧ k ≤ 2 ∧
        (k = 2 ∨ ¬Begins Char.isDigit rest) ∧ (low ≤ n ∧ n ≤ high) ∧
        readLayout (store n) rest layout = some r' := by
  have hstep : readLayout r cs (.field f :: layout) = some r' ↔
      ∃ n rest, readDigits (some 2) (skipBlanks cs) = some (n, rest) ∧ (low ≤ n ∧ n ≤ high) ∧
        readLayout (store n) rest layout = some r' := by
    rw [readLayout, readPart, hf, readField.bounded]
    cases readDigits (some 2) (skipBlanks cs) with
    | none => simp
    | some found =>
      obtain ⟨n, rest⟩ := found
      by_cases hn : low ≤ n ∧ n ≤ high
      · simp [hn]
      · simp [hn]
  rw [hstep]
  constructor
  · rintro ⟨n, rest, hread, hn, h⟩
    obtain ⟨k, text, hcs, hnumber, hk, hend⟩ := readDigits_skipBlanks_iff.mp hread
    exact ⟨k, text, rest, n, hcs, hnumber, hk, hend, hn, h⟩
  · rintro ⟨k, text, rest, n, hcs, hnumber, hk, hend, hn, h⟩
    exact ⟨n, rest, readDigits_skipBlanks_iff.mpr ⟨k, text, hcs, hnumber, hk, hend⟩, hn, h⟩

/-- **A separator ends the field before it.** -/
theorem readLayout_field_char_iff {c : Char} (hc : ¬c.isDigit)
    (hf : ∀ cs, readField f r cs = readField.bounded cs low high store) :
    readLayout r cs (.field f :: .char c :: layout) = some r' ↔
      ∃ text rest n, cs = text ++ c :: rest ∧ Writes 2 text n ∧ (low ≤ n ∧ n ≤ high) ∧
        readLayout (store n) rest layout = some r' := by
  rw [readLayout_field_iff hf]
  constructor
  · rintro ⟨k, text, _, n, hcs, hnumber, hk, -, hn, htail⟩
    obtain ⟨rest, rfl, h⟩ := readLayout_char_iff.mp htail
    exact ⟨text, rest, n, hcs, ⟨k, hk, hnumber⟩, hn, h⟩
  · rintro ⟨text, rest, n, hcs, ⟨k, hk, hnumber⟩, hn, h⟩
    exact ⟨k, text, c :: rest, n, hcs, hnumber, hk, Or.inr (not_begins_cons hc), hn,
      readLayout_char_iff.mpr ⟨rest, rfl, h⟩⟩

end Field

/-- The hyphen ends the year. -/
theorem readLayout_year_iff :
    readLayout r cs (.field .year :: .char '-' :: layout) = some r' ↔
      ∃ text rest y, cs = text ++ '-' :: rest ∧ WritesYear text y ∧
        readLayout { r with year := y } rest layout = some r' := by
  have hstep : readLayout r cs (.field .year :: .char '-' :: layout) = some r' ↔
      ∃ y rest, readYear (skipBlanks cs) = some (y, '-' :: rest) ∧
        readLayout { r with year := y } rest layout = some r' := by
    rw [readLayout, readPart, readField]
    cases readYear (skipBlanks cs) with
    | none => simp
    | some found =>
      obtain ⟨y, tail⟩ := found
      dsimp only [Option.map_some]
      rw [readLayout_char_iff]
      constructor
      · rintro ⟨rest, rfl, h⟩
        exact ⟨y, rest, rfl, h⟩
      · rintro ⟨_, rest, hread, h⟩
        obtain ⟨rfl, rfl⟩ := Prod.mk.inj (Option.some.inj hread)
        exact ⟨rest, rfl, h⟩
  have hend (rest : List Char) : ¬Begins Char.isDigit ('-' :: rest) :=
    not_begins_cons not_isDigit_hyphen
  rw [hstep]
  constructor
  · rintro ⟨y, rest, hread, h⟩
    obtain ⟨text, hcs, htext⟩ := (readYear_skipBlanks_iff (hend rest)).mp hread
    exact ⟨text, rest, y, hcs, htext, h⟩
  · rintro ⟨text, rest, y, hcs, htext, h⟩
    exact ⟨y, rest, (readYear_skipBlanks_iff (hend rest)).mpr ⟨text, hcs, htext⟩, h⟩

/-! ## Fractions -/

/-- **Nine digits of a fraction are all that a nanosecond shows of it.** -/
theorem nanosOfDigits_eq (h : ∀ c ∈ digits, c.isDigit) :
    nanosOfDigits digits
      = Nat.ofDigitChars 10 digits 0 * nanosPerSecond / 10 ^ digits.length := by
  rw [nanosOfDigits]
  rcases Nat.le_total digits.length 9 with hle | hle
  · have hsecond : nanosPerSecond = Nat.pow 10 (9 - digits.length) * 10 ^ digits.length :=
      (Nat.pow_sub_mul_pow 10 hle).symm
    rw [List.take_of_length_le hle, hsecond, ← Nat.mul_assoc,
      Nat.mul_div_cancel _ (Nat.pow_pos (by decide))]
  · have hnine : (digits.take 9).length = 9 := List.length_take_of_le hle
    have hsecond : nanosPerSecond = 10 ^ 9 := rfl
    have hlength : digits.length = (digits.drop 9).length + 9 := by
      rw [List.length_drop, Nat.sub_add_cancel hle]
    have hvalue : Nat.ofDigitChars 10 digits 0
        = 10 ^ (digits.drop 9).length * Nat.ofDigitChars 10 (digits.take 9) 0
          + Nat.ofDigitChars 10 (digits.drop 9) 0 := by
      rw [← Nat.ofDigitChars_eq_ofDigitChars_zero, ← Nat.ofDigitChars_append,
        List.take_append_drop]
    have hrest := @ofDigitChars_lt (digits.drop 9) fun c hc => h c (List.mem_of_mem_drop hc)
    rw [hnine, hlength, Nat.pow_add, hsecond, Nat.mul_div_mul_right _ _ (by decide), hvalue,
      Nat.mul_add_div (Nat.pow_pos (by decide)), Nat.div_eq_of_lt hrest, Nat.add_zero]
    exact Nat.mul_one _

/-- The last part of a layout must use the text up. -/
theorem readLayout_singleton_iff {part : Part} :
    readLayout r cs [part] = some r' ↔ readPart r cs part = some (r', []) := by
  rw [readLayout]
  cases readPart r cs part with
  | none => simp
  | some found =>
    obtain ⟨r₁, rest⟩ := found
    cases rest <;> simp [readLayout]

theorem takeWhile_eq_self (h : digits.dropWhile Char.isDigit = []) :
    digits.takeWhile Char.isDigit = digits := by
  have hsplit := List.takeWhile_append_dropWhile (p := Char.isDigit) (l := digits)
  rwa [h, List.append_nil] at hsplit

/-- After the point a digit is needed, and nothing but digits. -/
theorem readPart_point_iff :
    readPart r ('.' :: digits) .fraction = some (r', []) ↔
      Word Char.isDigit digits ∧ r' = { r with nanos := nanosOfDigits digits } := by
  have hstep : readPart r ('.' :: digits) .fraction
      = if (digits.takeWhile Char.isDigit).isEmpty then none
        else some ({ r with nanos := nanosOfDigits (digits.takeWhile Char.isDigit) },
          digits.dropWhile Char.isDigit) := rfl
  rw [hstep]
  constructor
  · intro h
    split at h
    · exact nomatch h
    · next hrun =>
      obtain ⟨rfl, hrest⟩ := Prod.mk.inj (Option.some.inj h)
      have hword := word_takeWhile (by simpa using hrun)
      rw [takeWhile_eq_self hrest] at hword ⊢
      exact ⟨hword, rfl⟩
  · rintro ⟨hword, rfl⟩
    have hrest := dropWhile_append_of_word hword not_begins_nil
    rw [List.append_nil] at hrest
    rw [takeWhile_eq_self hrest, hrest, if_neg (by simpa using hword.1)]

/-- **A fraction at the end of a text is read**, and none leaves the nanoseconds as they are. -/
theorem readLayout_fraction_iff (hr : r.nanos = 0) :
    readLayout r cs [.fraction] = some r' ↔
      ∃ n, WritesFraction cs n ∧ r' = { r with nanos := n } := by
  have hnone : { r with nanos := 0 } = r := by rw [← hr]
  rw [readLayout_singleton_iff]
  constructor
  · intro h
    by_cases hpoint : ∃ digits, cs = '.' :: digits
    · obtain ⟨digits, rfl⟩ := hpoint
      obtain ⟨hdigits, rfl⟩ := readPart_point_iff.mp h
      exact ⟨_, .some hdigits, by rw [nanosOfDigits_eq hdigits.2]⟩
    · have hstep : readPart r cs .fraction = some (r, cs) := by
        rw [readPart.eq_def]
        dsimp only
        split
        · next digits => exact absurd ⟨digits, rfl⟩ hpoint
        · rfl
      obtain ⟨rfl, rfl⟩ := Prod.mk.inj (Option.some.inj (hstep.symm.trans h))
      exact ⟨0, .none, hnone.symm⟩
  · rintro ⟨n, hfraction, rfl⟩
    cases hfraction with
    | none =>
      rw [hnone]
      rfl
    | some hdigits =>
      rw [← nanosOfDigits_eq hdigits.2]
      exact readPart_point_iff.mpr ⟨hdigits, rfl⟩

/-! ## Times -/

variable {writes : List Char → TimeOfDay.Fields → Prop}

/-- **A layout reads the times of a grammar** from where the text stands, and nothing else.  No
grammar writes a whole second as a fraction. -/
structure ReadsTime (layout : List Part) (writes : List Char → TimeOfDay.Fields → Prop) : Prop where
  read_iff : ∀ {r r' : Reading} {cs : List Char}, r.second = 0 → r.nanos = 0 →
    (readLayout r cs layout = some r' ↔ ∃ f, writes cs f ∧ f.InRange ∧ r' = r.withTime f)
  nanos_lt : ∀ {cs : List Char} {f : TimeOfDay.Fields}, writes cs f → f.nanos < nanosPerSecond

theorem readLayout_nil_iff : readLayout r cs [] = some r' ↔ cs = [] ∧ r = r' := by
  cases cs <;> simp [readLayout]

theorem not_isDigit_colon : ¬ ':'.isDigit := by decide

theorem WritesMinute.nanos_lt {f : TimeOfDay.Fields} (h : WritesMinute cs f) :
    f.nanos < nanosPerSecond := by
  rw [h.2.2]
  exact nanosPerSecond_pos

theorem WritesSecond.nanos_lt {f : TimeOfDay.Fields} (h : WritesSecond cs f) :
    f.nanos < nanosPerSecond := by
  obtain ⟨_, _, _, _, _, _, hfraction⟩ := h
  exact hfraction.nanos_lt

theorem readsTime_minute : ReadsTime clockLayout WritesMinute := by
  refine ⟨fun {r r' cs} hsecond hnanos => ?_, WritesMinute.nanos_lt⟩
  obtain ⟨y, m, d, h₀, m₀, s, n⟩ := r
  obtain rfl : s = 0 := hsecond
  obtain rfl : n = 0 := hnanos
  constructor
  · intro h
    obtain ⟨hour, _, hn, rfl, hhour, hh, h⟩ :=
      (readLayout_field_char_iff not_isDigit_colon fun _ => rfl).mp h
    obtain ⟨k, minute, _, mn, rfl, hminute, hk, -, hm, h⟩ :=
      (readLayout_field_iff fun _ => rfl).mp h
    obtain ⟨rfl, rfl⟩ := readLayout_nil_iff.mp h
    exact ⟨⟨hn, mn, 0, 0⟩,
      ⟨⟨hour, minute, by rw [List.append_nil], hhour, k, hk, hminute⟩, rfl, rfl⟩,
      ⟨hh.2, hm.2, Nat.zero_le _, nanosPerSecond_pos⟩, rfl⟩
  · rintro ⟨⟨hn, mn, _, _⟩, ⟨⟨hour, minute, rfl, hhour, k, hk, hminute⟩, rfl, rfl⟩, hrange, rfl⟩
    refine (readLayout_field_char_iff not_isDigit_colon fun _ => rfl).mpr
      ⟨hour, minute, hn, rfl, hhour, ⟨Nat.zero_le _, hrange.hour_le⟩, ?_⟩
    exact (readLayout_field_iff fun _ => rfl).mpr ⟨k, minute, [], mn, by rw [List.append_nil],
      hminute, hk, Or.inr not_begins_nil, ⟨Nat.zero_le _, hrange.minute_le⟩,
      readLayout_nil_iff.mpr ⟨rfl, rfl⟩⟩

theorem readsTime_second : ReadsTime (secondsLayout ++ [.fraction]) WritesSecond := by
  refine ⟨fun {r r' cs} hsecond hnanos => ?_, WritesSecond.nanos_lt⟩
  obtain ⟨y, m, d, h₀, m₀, s, n⟩ := r
  obtain rfl : n = 0 := hnanos
  constructor
  · intro h
    obtain ⟨hour, _, hn, rfl, hhour, hh, h⟩ :=
      (readLayout_field_char_iff not_isDigit_colon fun _ => rfl).mp h
    obtain ⟨minute, _, mn, rfl, hminute, hm, h⟩ :=
      (readLayout_field_char_iff not_isDigit_colon fun _ => rfl).mp h
    obtain ⟨k, second, fraction, sn, rfl, hseconds, hk, -, hs, h⟩ :=
      (readLayout_field_iff fun _ => rfl).mp h
    obtain ⟨n, hfraction, rfl⟩ := (readLayout_fraction_iff rfl).mp h
    exact ⟨⟨hn, mn, sn, n⟩, ⟨hour ++ ':' :: minute, second, fraction, by simp,
      ⟨hour, minute, rfl, hhour, hminute⟩, ⟨k, hk, hseconds⟩, hfraction⟩,
      ⟨hh.2, hm.2, hs.2, hfraction.nanos_lt⟩, rfl⟩
  · rintro ⟨⟨hn, mn, sn, n⟩, ⟨_, second, fraction, rfl, ⟨hour, minute, rfl, hhour, hminute⟩,
      ⟨k, hk, hseconds⟩, hfraction⟩, hrange, rfl⟩
    refine (readLayout_field_char_iff not_isDigit_colon fun _ => rfl).mpr
      ⟨hour, minute ++ ':' :: (second ++ fraction), hn, by simp, hhour,
        ⟨Nat.zero_le _, hrange.hour_le⟩, ?_⟩
    refine (readLayout_field_char_iff not_isDigit_colon fun _ => rfl).mpr
      ⟨minute, second ++ fraction, mn, rfl, hminute, ⟨Nat.zero_le _, hrange.minute_le⟩, ?_⟩
    refine (readLayout_field_iff fun _ => rfl).mpr ⟨k, second, fraction, sn, rfl, hseconds, hk,
      Or.inr (not_begins_fraction hfraction), ⟨Nat.zero_le _, hrange.second_le⟩, ?_⟩
    exact (readLayout_fraction_iff rfl).mpr ⟨n, hfraction, rfl⟩

/-- Blanks in front of a time are part of its hour. -/
theorem ReadsTime.blanks {f : Field} (h : ReadsTime (.field f :: layout) writes) :
    ReadsTime (.blanks :: .field f :: layout) writes := by
  refine ⟨fun hsecond hnanos => ?_, h.nanos_lt⟩
  rw [readLayout_blanks_field]
  exact h.read_iff hsecond hnanos

/-- A letter in front of a time. -/
theorem ReadsTime.char (h : ReadsTime layout writes) (c : Char) :
    ReadsTime (.char c :: layout) fun text f => ∃ rest, text = c :: rest ∧ writes rest f := by
  refine ⟨fun hsecond hnanos => ?_, fun ⟨_, _, hwrites⟩ => h.nanos_lt hwrites⟩
  rw [readLayout_char_iff]
  constructor
  · rintro ⟨rest, rfl, hread⟩
    obtain ⟨f, hwrites, hrest⟩ := (h.read_iff hsecond hnanos).mp hread
    exact ⟨f, ⟨rest, rfl, hwrites⟩, hrest⟩
  · rintro ⟨f, ⟨rest, rfl, hwrites⟩, hrest⟩
    exact ⟨rest, rfl, (h.read_iff hsecond hnanos).mpr ⟨f, hwrites, hrest⟩⟩

theorem readsTime_spacedMinute : ReadsTime (.blanks :: clockLayout) WritesMinute :=
  readsTime_minute.blanks

theorem readsTime_spacedSecond :
    ReadsTime (.blanks :: (secondsLayout ++ [.fraction])) WritesSecond :=
  readsTime_second.blanks

theorem readsTime_lettered :
    ReadsTime (.char 'T' :: (secondsLayout ++ [.fraction]))
      fun text f => ∃ rest, text = 'T' :: rest ∧ WritesSecond rest f :=
  readsTime_second.char 'T'

/-! ## Dates -/

/-- The bounds within which the fields of a date are read. -/
structure Date.Fields.InRange (f : Date.Fields) : Prop where
  month_bounds : 1 ≤ f.month ∧ f.month ≤ 12
  day_bounds : 1 ≤ f.day ∧ f.day ≤ 31

theorem monthLength_le (leap : Bool) (month : Nat) : monthLength leap month ≤ 31 := by
  rw [monthLength.eq_def]
  split_ifs <;> split <;> decide

theorem Date.fields_inRange (d : Date) : d.fields.InRange where
  month_bounds := d.month_bounds
  day_bounds := ⟨d.dayOfMonth_bounds.1, d.dayOfMonth_bounds.2.trans (monthLength_le _ _)⟩

/-- **A date is read as the grammar has it**, and what follows by the rest of the layout. -/
theorem readLayout_date_iff :
    readLayout r cs (dateLayout ++ layout) = some r' ↔
      ∃ k text rest f, cs = text ++ rest ∧ WritesDate k text f ∧
        (k = 2 ∨ ¬Begins Char.isDigit rest) ∧ f.InRange ∧
        readLayout (r.withDate f) rest layout = some r' := by
  rw [dateLayout]
  simp only [List.cons_append, List.nil_append]
  constructor
  · intro h
    obtain ⟨year, _, y, rfl, hyear, h⟩ := readLayout_year_iff.mp h
    obtain ⟨month, _, m, rfl, hmonth, hm, h⟩ :=
      (readLayout_field_char_iff not_isDigit_hyphen fun _ => rfl).mp h
    obtain ⟨k, day, rest, d, rfl, hday, hk, hend, hd, h⟩ :=
      (readLayout_field_iff fun _ => rfl).mp h
    exact ⟨k, year ++ '-' :: (month ++ '-' :: day), rest, ⟨y, m, d⟩, by simp,
      ⟨year, month, day, rfl, hyear, hmonth, hday, hk⟩, hend, ⟨hm, hd⟩, h⟩
  · rintro ⟨k, _, rest, ⟨y, m, d⟩, rfl, ⟨year, month, day, rfl, hyear, hmonth, hday, hk⟩, hend,
      hrange, h⟩
    refine readLayout_year_iff.mpr ⟨year, month ++ '-' :: (day ++ rest), y, by simp, hyear, ?_⟩
    refine (readLayout_field_char_iff not_isDigit_hyphen fun _ => rfl).mpr
      ⟨month, day ++ rest, m, rfl, hmonth, hrange.month_bounds, ?_⟩
    exact (readLayout_field_iff fun _ => rfl).mpr
      ⟨k, day, rest, d, rfl, hday, hk, hend, hrange.day_bounds, h⟩

/-! ## From fields to dates -/

/-- **A date alone** is read where its fields are written. -/
theorem bind_date?_iff {d : Date} :
    (readLayout {} cs dateLayout).bind Reading.date? = some d ↔ ∃ k, WritesDate k cs d.fields := by
  rw [Option.bind_eq_some_iff]
  constructor
  · rintro ⟨r, hread, hdate⟩
    rw [← List.append_nil dateLayout] at hread
    obtain ⟨k, text, rest, f, rfl, hwrites, -, -, hrest⟩ := readLayout_date_iff.mp hread
    obtain ⟨rfl, rfl⟩ := readLayout_nil_iff.mp hrest
    rw [List.append_nil, Reading.date?_eq_some_iff.mp hdate]
    exact ⟨k, hwrites⟩
  · rintro ⟨k, hwrites⟩
    refine ⟨Reading.withDate {} d.fields, ?_, Reading.date?_eq_some_iff.mpr rfl⟩
    rw [← List.append_nil dateLayout]
    exact readLayout_date_iff.mpr ⟨k, cs, [], d.fields, by rw [List.append_nil], hwrites,
      Or.inr not_begins_nil, d.fields_inRange, readLayout_nil_iff.mpr ⟨rfl, rfl⟩⟩

/-- **A time alone** is read where its fields are written. -/
theorem ReadsTime.bind_time?_iff (h : ReadsTime layout writes) {t : TimeOfDay} :
    (readLayout {} cs layout).bind Reading.time? = some t ↔ writes cs t.fields := by
  rw [Option.bind_eq_some_iff]
  constructor
  · rintro ⟨r, hread, htime⟩
    obtain ⟨f, hwrites, hrange, rfl⟩ := (h.read_iff rfl rfl).mp hread
    rwa [(Reading.time?_eq_some_iff hrange.nanos_lt).mp htime]
  · intro hwrites
    have hrange := (TimeOfDay.regular_of_fields (h.nanos_lt hwrites)).fields_inRange
    exact ⟨Reading.withTime {} t.fields, (h.read_iff rfl rfl).mpr ⟨t.fields, hwrites, hrange, rfl⟩,
      (Reading.time?_eq_some_iff hrange.nanos_lt).mpr rfl⟩

/-- **A date and a time** are read where one is written after the other. -/
theorem ReadsTime.bind_dateTime?_iff (h : ReadsTime layout writes) {x : DateTime} :
    (readLayout {} cs (dateLayout ++ layout)).bind Reading.dateTime? = some x ↔
      ∃ k a b, cs = a ++ b ∧ WritesDate k a x.date.fields ∧ (k = 2 ∨ ¬Begins Char.isDigit b) ∧
        writes b x.time.fields := by
  rw [Option.bind_eq_some_iff]
  constructor
  · rintro ⟨r, hread, hdateTime⟩
    obtain ⟨k, a, b, d, rfl, hdate, hday, -, hrest⟩ := readLayout_date_iff.mp hread
    obtain ⟨f, hwrites, hrange, rfl⟩ := (h.read_iff rfl rfl).mp hrest
    obtain ⟨hdate?, htime?⟩ := Reading.dateTime?_eq_some_iff.mp hdateTime
    rw [Reading.date?_eq_some_iff.mp hdate?,
      (Reading.time?_eq_some_iff hrange.nanos_lt).mp htime?]
    exact ⟨k, a, b, rfl, hdate, hday, hwrites⟩
  · rintro ⟨k, a, b, rfl, hdate, hday, hwrites⟩
    have hrange := (TimeOfDay.regular_of_fields (h.nanos_lt hwrites)).fields_inRange
    refine ⟨(Reading.withDate {} x.date.fields).withTime x.time.fields, ?_, ?_⟩
    · exact readLayout_date_iff.mpr ⟨k, a, b, x.date.fields, rfl, hdate, hday,
        x.date.fields_inRange, (h.read_iff rfl rfl).mpr ⟨x.time.fields, hwrites, hrange, rfl⟩⟩
    · exact Reading.dateTime?_eq_some_iff.mpr ⟨Reading.date?_eq_some_iff.mpr rfl,
        (Reading.time?_eq_some_iff hrange.nanos_lt).mpr rfl⟩

end Formula.Calendar
