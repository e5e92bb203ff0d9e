import Formula.Proofs.Calendar.Fields
import Formula.Value.Basic
import Mathlib.Algebra.Group.Nat.Defs
import Mathlib.Data.List.Basic
import Mathlib.Data.List.TakeWhile

/-!
# Proofs/Calendar/TextForm — dates survive the trip through their text

The canonical text of a date shows everything but the fraction of a second.
`DateTime.ofText?_text` says that reading it gives the date back without that fraction, over the
whole calendar: years with a sign and more than four digits, and leap seconds at the end of a
minute, included.  A leap second inside of a minute has no second of its own to be shown, and its
text is that of the second that follows.

The printer pads every field to the width at which the reader stops, so a field is read back
whatever follows it (`readDigits_padded`).  A year with a sign is the exception: it is read to its
last digit, and the hyphen after it is what ends it.  The first of the layouts that are tried is the
printer's own, so the others never matter.
-/

namespace Formula.Calendar

open Formula.Text (isBlank skipBlanks trimChars)

/-! ## Without the fraction of a second -/

/-- **A time without its fraction of a second.**  A leap second has one as well, and keeps its
beginning. -/
def TimeOfDay.wholeSecond (t : TimeOfDay) : TimeOfDay where
  seconds := t.seconds
  nanos := if t.isLeapSecond then nanosPerSecond else 0
  seconds_lt := t.seconds_lt
  nanos_lt := by split <;> decide

/-- A date with its time, without the fraction of a second. -/
def DateTime.wholeSecond (t : DateTime) : DateTime := ⟨t.date, t.time.wholeSecond⟩

/-- Where there is no fraction of a second, nothing is lost. -/
theorem TimeOfDay.wholeSecond_eq_self {t : TimeOfDay} (h : t.nanos % nanosPerSecond = 0) :
    t.wholeSecond = t := by
  have hlt := t.nanos_lt
  have hnanos : (if t.isLeapSecond then nanosPerSecond else 0) = t.nanos := by
    split
    · next hleap =>
      have hle : nanosPerSecond ≤ t.nanos := of_decide_eq_true hleap
      rw [nanosPerSecond] at h hlt hle ⊢
      omega
    · next hleap =>
      have hlt' : ¬nanosPerSecond ≤ t.nanos := mt decide_eq_true hleap
      rw [nanosPerSecond] at h hlt'
      omega
  obtain ⟨seconds, nanos, _, _⟩ := t
  exact (mk.injEq ..).mpr ⟨rfl, hnanos⟩

theorem DateTime.wholeSecond_eq_self {t : DateTime} (h : t.time.nanos % nanosPerSecond = 0) :
    t.wholeSecond = t :=
  congrArg (mk t.date) (TimeOfDay.wholeSecond_eq_self h)

/-! ## What is shown -/

/-- A leap second inside of a minute is followed by a second of the same day. -/
theorem TimeOfDay.succ_seconds_lt {t : TimeOfDay} (h : ¬t.Regular) :
    t.seconds + 1 < secondsPerDay := by
  have hlt := t.seconds_lt
  rw [Regular, second] at h
  rw [secondsPerDay] at hlt ⊢
  omega

/-- **The time that the text of a time shows**: its whole second, unless that is a leap second
inside of a minute.  Then it is the second that follows. -/
def TimeOfDay.shown (t : TimeOfDay) : TimeOfDay :=
  if h : t.Regular then t.wholeSecond
  else ⟨t.seconds + 1, 0, succ_seconds_lt h, Nat.zero_lt_of_lt t.nanos_lt⟩

/-- The date with the time that its text shows. -/
def DateTime.shown (t : DateTime) : DateTime := ⟨t.date, t.time.shown⟩

theorem DateTime.shown_of_regular {t : DateTime} (h : t.time.Regular) : t.shown = t.wholeSecond :=
  congrArg (mk t.date) (dif_pos h)

theorem TimeOfDay.shown_of_not_regular {t : TimeOfDay} (h : ¬t.Regular) :
    t.shown.seconds = t.seconds + 1 ∧ t.shown.nanos = 0 := by
  rw [shown, dif_neg h]
  exact ⟨rfl, rfl⟩

/-- The second shown for a leap second inside of a minute is one more, in the same minute. -/
theorem TimeOfDay.clock_shown {t : TimeOfDay} (h : ¬t.Regular) :
    t.shown.hour = t.hour ∧ t.shown.minute = t.minute ∧ t.shown.second = t.second + 1 := by
  obtain ⟨hseconds, -⟩ := shown_of_not_regular h
  rw [hour, minute, second, hseconds]
  rw [Regular] at h
  rw [hour, minute]
  rw [second] at h ⊢
  omega

/-- **What can be read off a date can be read off what its text shows**, but for the second of a
leap second inside of a minute. -/
theorem DateTime.component_shown (t : DateTime) {c : Component} (h : t.time.Regular ∨ c ≠ .second) :
    t.shown.component c = t.component c := by
  by_cases hregular : t.time.Regular
  · rw [shown_of_regular hregular]
    cases c <;> rfl
  · obtain ⟨hhour, hminute, -⟩ := TimeOfDay.clock_shown hregular
    cases c with
    | hour => exact congrArg Nat.cast hhour
    | minute => exact congrArg Nat.cast hminute
    | second => exact absurd rfl (h.resolve_left hregular)
    | _ => rfl

/-! ## Padded numbers -/

variable {w n : Nat} {rest : List Char}

theorem toList_padded :
    (padded w n).toList
      = List.replicate (w - (Nat.toDigits 10 n).length) '0' ++ Nat.toDigits 10 n := by
  rw [padded, String.toList_ofList]

theorem isDigit_of_mem_padded : ∀ c ∈ (padded w n).toList, c.isDigit := by
  intro c hc
  rw [toList_padded, List.mem_append] at hc
  rcases hc with hc | hc
  · rw [List.eq_of_mem_replicate hc]
    rfl
  · exact Nat.isDigit_of_mem_toDigits (by decide) (by decide) hc

theorem padded_ne_nil : (padded w n).toList ≠ [] := by
  rw [toList_padded]
  exact List.append_ne_nil_of_right_ne_nil _ Nat.toDigits_ne_nil

/-- Zeros in front count for nothing. -/
theorem ofDigitChars_padded : Nat.ofDigitChars 10 (padded w n).toList 0 = n := by
  rw [toList_padded, Nat.ofDigitChars_append, Nat.ofDigitChars_replicate_zero, Nat.mul_zero,
    Nat.ofDigitChars_ten_toDigits]

/-- A number that fits is padded to the width. -/
theorem length_padded (hw : 0 < w) (hn : n < 10 ^ w) : (padded w n).toList.length = w := by
  have hle : (Nat.toDigits 10 n).length ≤ w :=
    (Nat.length_toDigits_le_iff (by decide) hw).mpr hn
  rw [toList_padded, List.length_append, List.length_replicate]
  omega

/-- **A field of fixed width is read back**, whatever follows it. -/
theorem readDigits_padded (hw : 0 < w) (hn : n < 10 ^ w) :
    readDigits (some w) ((padded w n).toList ++ rest) = some (n, rest) := by
  have hrun : (((padded w n).toList ++ rest).takeWhile Char.isDigit).take w
      = (padded w n).toList := by
    rw [List.takeWhile_append_of_pos isDigit_of_mem_padded]
    exact List.take_left' (length_padded hw hn)
  rw [readDigits.eq_def]
  dsimp only
  rw [hrun, if_neg (by simpa using padded_ne_nil), ofDigitChars_padded, List.drop_left]

/-- A field of any width is read back up to what is no digit. -/
theorem readDigits_none_padded {c : Char} (hc : ¬c.isDigit) :
    readDigits none ((padded w n).toList ++ c :: rest) = some (n, c :: rest) := by
  have hrun : ((padded w n).toList ++ c :: rest).takeWhile Char.isDigit = (padded w n).toList := by
    rw [List.takeWhile_append_of_pos isDigit_of_mem_padded, List.takeWhile_cons_of_neg hc,
      List.append_nil]
  rw [readDigits.eq_def]
  dsimp only
  rw [hrun, if_neg (by simpa using padded_ne_nil), ofDigitChars_padded, List.drop_left]

/-! ## Fields -/

theorem not_isBlank_of_isDigit {c : Char} (hc : c.isDigit) : ¬isBlank c :=
  Text.not_isBlank_of_isAlphanum (Bool.or_eq_true_iff.mpr (Or.inr hc))

theorem exists_padded_eq_cons :
    ∃ c cs, (padded w n).toList = c :: cs ∧ c.isDigit := by
  obtain ⟨c, cs, hcons⟩ := List.exists_cons_of_ne_nil (@padded_ne_nil w n)
  exact ⟨c, cs, hcons, isDigit_of_mem_padded c (hcons ▸ List.mem_cons_self)⟩

/-- A padded number has no blank in front of it. -/
theorem skipBlanks_padded :
    skipBlanks ((padded w n).toList ++ rest) = (padded w n).toList ++ rest := by
  obtain ⟨c, cs, hcons, hc⟩ := @exists_padded_eq_cons w n
  rw [hcons]
  exact Text.skipBlanks_eq_self fun _ h => Option.some.inj h ▸ not_isBlank_of_isDigit hc

/-- **A field other than the year is read back**, if its number is within its bounds. -/
theorem readPart_padded {f : Field} {r : Reading} {low high : Nat} {store : Nat → Reading}
    (hf : ∀ cs, readField f r cs = readField.bounded cs low high store) (hhigh : high < 100)
    (hn : low ≤ n ∧ n ≤ high) :
    readPart r ((padded 2 n).toList ++ rest) (.field f) = some (store n, rest) := by
  have hdigits : readDigits (some 2) ((padded 2 n).toList ++ rest) = some (n, rest) :=
    readDigits_padded (by decide) (by omega)
  rw [readPart, skipBlanks_padded, hf, readField.bounded, hdigits]
  exact if_pos hn

/-- Without a sign four digits are read of a year. -/
theorem readYear_of_isDigit {c : Char} {cs : List Char} (hc : c.isDigit) :
    readYear (c :: cs)
      = (readDigits (some 4) (c :: cs)).map fun (n, rest) => ((n : Int), rest) := by
  rw [readYear.eq_def]
  split
  · next h =>
    obtain ⟨rfl, -⟩ := List.cons_eq_cons.mp h
    exact absurd hc (by decide)
  · next h =>
    obtain ⟨rfl, -⟩ := List.cons_eq_cons.mp h
    exact absurd hc (by decide)
  · rfl

/-- The hyphen that ends a year is no digit of it. -/
theorem not_isDigit_hyphen : ¬ '-'.isDigit := by decide

/-- **A year is read back**, whatever its sign and its size. -/
theorem readYear_yearText (year : Int) :
    readYear ((yearText year).toList ++ '-' :: rest) = some (year, '-' :: rest) := by
  have hminus : "-".toList = ['-'] := rfl
  have hplus : "+".toList = ['+'] := rfl
  rw [yearText]
  split_ifs with hneg hfour
  · have habs : -(year.natAbs : Int) = year := by omega
    rw [String.toList_append, hminus, List.cons_append, List.cons_append, List.nil_append,
      readYear, readDigits_none_padded not_isDigit_hyphen, Option.map_some]
    dsimp only
    rw [habs]
  · obtain ⟨c, cs, hcons, hc⟩ := @exists_padded_eq_cons 4 year.toNat
    have hread : readDigits (some 4) ((padded 4 year.toNat).toList ++ '-' :: rest)
        = some (year.toNat, '-' :: rest) := readDigits_padded (by decide) (by omega)
    rw [hcons, List.cons_append] at hread ⊢
    rw [readYear_of_isDigit hc, hread, Option.map_some]
    dsimp only
    rw [Int.toNat_of_nonneg (Int.not_lt.mp hneg)]
  · rw [String.toList_append, hplus, List.cons_append, List.cons_append, List.nil_append,
      readYear, readDigits_none_padded not_isDigit_hyphen, Option.map_some]
    dsimp only
    rw [Int.toNat_of_nonneg (Int.not_lt.mp hneg)]

/-- The text of a year begins with a sign or with a digit. -/
theorem exists_yearText_eq_cons (year : Int) :
    ∃ c cs, (yearText year).toList = c :: cs ∧ ¬isBlank c := by
  rw [yearText]
  split_ifs
  · rw [String.toList_append]
    exact ⟨'-', _, rfl, by decide⟩
  · obtain ⟨c, cs, hcons, hc⟩ := @exists_padded_eq_cons 4 year.toNat
    exact ⟨c, cs, hcons, not_isBlank_of_isDigit hc⟩
  · rw [String.toList_append]
    exact ⟨'+', _, rfl, by decide⟩

/-- The first field of a date is read back. -/
theorem readPart_year {r : Reading} (year : Int) :
    readPart r ((yearText year).toList ++ '-' :: rest) (.field .year)
      = some ({ r with year := year }, '-' :: rest) := by
  have hskip : skipBlanks ((yearText year).toList ++ '-' :: rest)
      = (yearText year).toList ++ '-' :: rest := by
    obtain ⟨c, cs, hcons, hc⟩ := exists_yearText_eq_cons year
    rw [hcons]
    exact Text.skipBlanks_eq_self fun _ h => Option.some.inj h ▸ hc
  rw [readPart, hskip, readField, readYear_yearText, Option.map_some]

/-! ## Layouts -/

variable {r r' : Reading} {layout : List Part}

/-- A layout goes on with what its first part has left. -/
theorem readLayout_cons {part : Part} {cs : List Char}
    (h : readPart r cs part = some (r', rest)) :
    readLayout r cs (part :: layout) = readLayout r' rest layout := by
  rw [readLayout, h]

/-- **A date is read back** by the layout of dates, and what follows it by what follows that. -/
theorem readLayout_date (d : Date) :
    readLayout r (d.text.toList ++ rest) (dateLayout ++ layout)
      = readLayout { r with year := d.year, month := d.month, day := d.dayOfMonth } rest
          layout := by
  have hday := d.dayOfMonth_bounds
  have hlength : monthLength (isLeap d.year) d.month ≤ 31 := by
    rw [monthLength.eq_def]
    split_ifs <;> split <;> decide
  have htext : d.text.toList ++ rest = (yearText d.year).toList ++ '-' :: ((padded 2 d.month).toList
      ++ '-' :: ((padded 2 d.dayOfMonth).toList ++ rest)) := by
    simp [Date.text]
  rw [htext, dateLayout]
  simp only [List.cons_append, List.nil_append]
  rw [readLayout_cons (readPart_year d.year), readLayout_cons rfl,
    readLayout_cons (readPart_padded (fun _ => rfl) (by decide) d.month_bounds),
    readLayout_cons rfl,
    readLayout_cons (readPart_padded (fun _ => rfl) (by decide) ⟨hday.1, by omega⟩)]

/-- The second that the text of a time shows: 60 for a leap second. -/
def TimeOfDay.shownSecond (t : TimeOfDay) : Nat := t.second + if t.isLeapSecond then 1 else 0

theorem TimeOfDay.shownSecond_le (t : TimeOfDay) : t.shownSecond ≤ 60 := by
  have hsecond := t.second_lt
  rw [shownSecond]
  split <;> omega

theorem toList_timeText (t : TimeOfDay) :
    t.text.toList = (padded 2 t.hour).toList ++ ':' :: ((padded 2 t.minute).toList
      ++ ':' :: (padded 2 t.shownSecond).toList) := by
  simp [TimeOfDay.text, TimeOfDay.shownSecond]

theorem toList_text (t : DateTime) :
    t.text.toList = t.date.text.toList ++ ' ' :: t.time.text.toList := by
  simp [DateTime.text]

/-- **A time is read back** by the layout of times with seconds. -/
theorem readLayout_time (t : TimeOfDay) :
    readLayout r t.text.toList secondsLayout
      = some { r with hour := t.hour, minute := t.minute, second := t.shownSecond } := by
  have hhour := t.hour_lt
  have hminute := t.minute_lt
  rw [toList_timeText, ← List.append_nil (padded 2 t.shownSecond).toList, secondsLayout,
    clockLayout]
  simp only [List.cons_append, List.nil_append]
  rw [readLayout_cons (readPart_padded (fun _ => rfl) (by decide) ⟨Nat.zero_le _, by omega⟩),
    readLayout_cons rfl,
    readLayout_cons (readPart_padded (fun _ => rfl) (by decide) ⟨Nat.zero_le _, by omega⟩),
    readLayout_cons rfl,
    readLayout_cons (readPart_padded (fun _ => rfl) (by decide)
      ⟨Nat.zero_le _, t.shownSecond_le⟩)]
  rfl

/-- The blank between a date and a time is skipped, and no more than that. -/
theorem readPart_blanks (t : TimeOfDay) :
    readPart r (' ' :: t.text.toList) .blanks = some (r, t.text.toList) := by
  have hskip : skipBlanks (' ' :: t.text.toList) = skipBlanks t.text.toList :=
    List.dropWhile_cons_of_pos (by decide)
  rw [readPart, hskip, toList_timeText, skipBlanks_padded]

/-- **A date with its time is read back** by the first of its layouts. -/
theorem readLayout_text (t : DateTime) :
    readLayout {} t.text.toList (dateLayout ++ [.blanks] ++ secondsLayout)
      = some { year := t.date.year, month := t.date.month, day := t.date.dayOfMonth,
               hour := t.time.hour, minute := t.time.minute, second := t.time.shownSecond } := by
  rw [toList_text, List.append_assoc, readLayout_date, List.singleton_append,
    readLayout_cons (readPart_blanks t.time), readLayout_time]

/-! ## From fields to dates -/

/-- **The second that is shown leads back to the time that the text shows**: 60 is the leap second
after second 59, and a leap second that is shown is nowhere else. -/
theorem time?_fields (t : TimeOfDay) {r : Reading} (hhour : r.hour = t.hour)
    (hminute : r.minute = t.minute) (hsecond : r.second = t.shownSecond) (hnanos : r.nanos = 0) :
    r.time? = some t.shown := by
  rw [Reading.time?, hhour, hminute, hsecond, hnanos, TimeOfDay.shownSecond]
  have hlt := t.second_lt
  by_cases hregular : t.Regular
  · rw [TimeOfDay.shown, dif_pos hregular]
    by_cases hleap : t.isLeapSecond
    · have hlast : t.second = 59 := hregular (of_decide_eq_true hleap)
      have hnanos' : t.wholeSecond.nanos = nanosPerSecond := if_pos hleap
      rw [if_pos hleap, if_pos (by omega), ← hlast, t.ofHMS?_fields fun _ => hlast, Nat.add_zero,
        ← hnanos']
      exact TimeOfDay.ofSeconds?_self t.wholeSecond
    · have hnanos' : t.wholeSecond.nanos = 0 := if_neg hleap
      rw [if_neg hleap, if_neg (by omega), Nat.add_zero,
        t.ofHMS?_fields fun h => absurd h (by decide), ← hnanos']
      exact TimeOfDay.ofSeconds?_self t.wholeSecond
  · obtain ⟨hhour, hminute, hsecond⟩ := TimeOfDay.clock_shown hregular
    obtain ⟨-, hzero⟩ := TimeOfDay.shown_of_not_regular hregular
    have hleap : t.isLeapSecond = true := by
      by_contra hleap
      exact hregular fun h => absurd (decide_eq_true h) hleap
    have hlast : t.second ≠ 59 := fun hlast => hregular fun _ => hlast
    have hshown : t.shown.Regular := fun h => by
      rw [hzero] at h
      exact absurd h (by decide)
    rw [if_pos hleap, if_neg (by omega)]
    exact TimeOfDay.ofHMS?_eq_some_iff.mpr ⟨hshown, hhour, hminute, hsecond, hzero⟩

/-! ## The trip -/

/-- The text of a date has no blanks at its ends: it begins with a sign or a digit, and ends with a
digit. -/
theorem trimChars_text (t : DateTime) : trimChars t.text.toList = t.text.toList := by
  obtain ⟨x, xs, hyear, hx⟩ := exists_yearText_eq_cons t.date.year
  obtain ⟨before, hbefore⟩ : ∃ before, t.text.toList
      = before ++ (padded 2 t.time.shownSecond).toList :=
    ⟨t.date.text.toList ++ ' ' :: ((padded 2 t.time.hour).toList ++ ':' ::
      ((padded 2 t.time.minute).toList ++ [':'])), by simp [toList_text, toList_timeText]⟩
  refine Text.trimChars_eq_self (fun c hc => ?_) fun c hc => ?_
  · rw [toList_text, Date.text] at hc
    simp only [String.toList_append, hyear, List.cons_append, List.head?_cons] at hc
    exact Option.some.inj hc ▸ hx
  · rw [hbefore, List.getLast?_append_of_ne_nil _ padded_ne_nil] at hc
    exact not_isBlank_of_isDigit (isDigit_of_mem_padded c (List.mem_of_getLast? hc))

/-- **Reading the text of a date gives what the text shows of it.** -/
theorem DateTime.ofText?_text (t : DateTime) : DateTime.ofText? t.text = some t.shown := by
  have hhyphen : t.text.toList.contains '-' = true := by
    simp [DateTime.text, Date.text]
  have hcolon : t.text.toList.contains ':' = true := by
    simp [DateTime.text, TimeOfDay.text]
  have hread : (readLayout {} t.text.toList (dateLayout ++ [.blanks] ++ secondsLayout)).bind
      Reading.dateTime? = some t.shown := by
    rw [readLayout_text, Option.bind_some, Reading.dateTime?, time?_fields t.time rfl rfl rfl rfl,
      Reading.date?, Date.ofYMD?_fields, DateTime.shown]
  rw [DateTime.ofText?, trimChars_text, hhyphen, hcolon]
  dsimp only
  rw [dateTimeLayouts, List.findSome?_cons, hread]

end Formula.Calendar

namespace Formula.Value

open Calendar

/-- **Dates survive the trip through their text.**  Reading the text of a date gives the date
without its fraction of a second, so all that can be asked of a date is answered alike by its text.
Only a leap second inside of a minute is read as the second that follows, and then the second is one
more.
-/
theorem toDate?_toText_date (t : DateTime) :
    (text (date t).toText).toDate? = some t.shown ∧
      (t.time.Regular → t.shown = t.wholeSecond) ∧
      (¬t.time.Regular → t.shown.date = t.date ∧ t.shown.time.seconds = t.time.seconds + 1 ∧
        t.shown.time.nanos = 0) ∧
      (∀ c, t.time.Regular ∨ c ≠ .second →
        (text (date t).toText).component c = (date t).component c) ∧
      (¬t.time.Regular → (date t).component .second = Float.ofInt t.time.second ∧
        (text (date t).toText).component .second = Float.ofInt (t.time.second + 1)) ∧
      ∀ p, (text (date t).toText).isBusinessDay p = (date t).isBusinessDay p := by
  have hread : (text (date t).toText).toDate? = some t.shown := DateTime.ofText?_text t
  refine ⟨hread, DateTime.shown_of_regular,
    fun h => ⟨rfl, TimeOfDay.shown_of_not_regular h⟩, fun c hc => ?_, fun h => ⟨rfl, ?_⟩,
    fun p => ?_⟩
  · rw [component, hread, component]
    dsimp only [toDate?]
    rw [t.component_shown hc]
  · obtain ⟨-, -, hsecond⟩ := TimeOfDay.clock_shown h
    rw [component, hread]
    dsimp only [DateTime.component, DateTime.shown]
    rw [hsecond, Int.natCast_add, Int.natCast_one]
  · rw [isBusinessDay, hread]
    rfl

/-- **A leap second inside of a minute is not read back**: half a second into one that follows
12:34:56 on 7 June 2024, the text shows 12:34:57. -/
theorem toDate?_toText_inside_minute :
    let friday : Date := ⟨739043, by decide, by decide⟩
    let t : DateTime := ⟨friday, 45296, 1500000000, by decide, by decide⟩
    (date t).toText = "2024-06-07 12:34:57" ∧
      (text (date t).toText).toDate? = some ⟨friday, 45297, 0, by decide, by decide⟩ ∧
      (text (date t).toText).toDate? ≠ some t.wholeSecond ∧
      (text (date t).toText).component .second ≠ (date t).component .second := by
  decide +kernel

end Formula.Value
