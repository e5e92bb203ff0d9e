import Formula.Proofs.Calendar.TextForm
import Formula.Proofs.Sheet.Grammar

/-!
# Proofs/Calendar/Grammar — which texts are dates and times

`WritesDate`, `WritesMinute` and `WritesSecond` are the grammar of a day and of a time of day.  They
split a text into its fields without scanning it, and `Denotes` says which date-time a text stands
for: the one that shows those fields.

What a date and a time show names them (`Date.fields_injective`, `TimeOfDay.fields_injective`), and
every day and time of the calendar is shown (`Date.exists_fields_iff`,
`TimeOfDay.exists_fields_iff`), so nothing but the calendar decides which fields a text may have.
-/

namespace Formula.Calendar

open Address (Word Begins)
open Formula.Text (isBlank)

/-! ## The fields of a date -/

variable {r : Reading}

/-- The fields of a date. -/
structure Date.Fields where
  year : Int
  month : Nat
  day : Nat
deriving DecidableEq

/-- What is shown of a date. -/
def Date.fields (d : Date) : Date.Fields := ⟨d.year, d.month, d.dayOfMonth⟩

/-- A reading with another date. -/
def Reading.withDate (r : Reading) (f : Date.Fields) : Reading :=
  { r with year := f.year, month := f.month, day := f.day }

/-- **A reading names the date whose fields it has.** -/
theorem Reading.date?_eq_some_iff {d : Date} :
    r.date? = some d ↔ d.fields = ⟨r.year, r.month, r.day⟩ := by
  rw [Reading.date?, Date.ofYMD?_eq_some_iff, Date.fields, Date.Fields.mk.injEq]

theorem Date.fields_injective {d e : Date} (h : d.fields = e.fields) : d = e :=
  have he : (Reading.withDate {} e.fields).date? = some e := Reading.date?_eq_some_iff.mpr rfl
  Option.some.inj ((Reading.date?_eq_some_iff.mpr h).symm.trans he)

/-- **Fields are those of a date if the calendar has the day**: a year of the calendar, a month, and
a day of that month. -/
theorem Date.exists_fields_iff {f : Date.Fields} :
    (∃ d : Date, d.fields = f) ↔ (firstYear ≤ f.year ∧ f.year ≤ lastYear) ∧
      (1 ≤ f.month ∧ f.month ≤ 12) ∧ 1 ≤ f.day ∧ f.day ≤ monthLength (isLeap f.year) f.month := by
  constructor
  · rintro ⟨d, rfl⟩
    exact ⟨⟨d.firstYear_le_year, d.year_le_lastYear⟩, d.month_bounds, d.dayOfMonth_bounds⟩
  · rintro ⟨⟨hfirst, hlast⟩, ⟨hone, htwelve⟩, hday, hlength⟩
    -- The day lies in its year, and the year in the calendar.
    have hbegin := daysBeforeYear_mono hfirst
    have hend := daysBeforeYear_mono (Int.add_le_add_right hlast 1)
    have hyear := daysBeforeMonth_add_le (isLeap f.year) hone (Nat.lt_succ_of_le htwelve)
    rw [daysBeforeMonth_thirteen] at hyear
    rw [daysBeforeYear_succ] at hend
    have hread : ∃ d, Date.ofYMD? f.year f.month f.day = some d := by
      rw [Date.ofYMD?, if_pos ⟨hfirst, hlast, hone, htwelve, hday, hlength⟩, Date.ofDay?, dif_pos]
      · exact ⟨_, rfl⟩
      · rw [firstDay, lastDay]
        omega
    exact hread.imp fun _ => (Reading.date?_eq_some_iff (r := .withDate {} f)).mp

/-! ## The fields of a time -/

/-- The fields of a time of day. -/
@[ext]
structure TimeOfDay.Fields where
  hour : Nat
  minute : Nat
  second : Nat
  nanos : Nat
deriving DecidableEq

/-- The bounds of the fields of a time. -/
structure TimeOfDay.Fields.InRange (f : TimeOfDay.Fields) : Prop where
  hour_le : f.hour ≤ 23
  minute_le : f.minute ≤ 59
  second_le : f.second ≤ 60
  nanos_lt : f.nanos < nanosPerSecond

/-- **The fields that name a time of day.**  A leap second at the end of a minute is second 60, and
the nanoseconds are those after it began.  A leap second anywhere else has no second of its own, and
its nanoseconds run on. -/
def TimeOfDay.fields (t : TimeOfDay) : TimeOfDay.Fields :=
  if nanosPerSecond ≤ t.nanos ∧ t.second = 59 then ⟨t.hour, t.minute, 60, t.nanos - nanosPerSecond⟩
  else ⟨t.hour, t.minute, t.second, t.nanos⟩

/-- What names a time of day, in a leap second at the end of a minute and elsewhere. -/
theorem TimeOfDay.fields_cases (t : TimeOfDay) :
    (nanosPerSecond ≤ t.nanos → t.second ≠ 59) ∧
        t.fields = ⟨t.hour, t.minute, t.second, t.nanos⟩ ∨
      t.second = 59 ∧ ∃ n < nanosPerSecond, t.nanos = nanosPerSecond + n ∧
        t.fields = ⟨t.hour, t.minute, 60, n⟩ := by
  rw [fields]
  split
  · next h =>
    obtain ⟨n, hn⟩ := Nat.exists_eq_add_of_le h.1
    have hnanos := t.nanos_lt
    exact Or.inr ⟨h.2, n, by omega, hn, by rw [hn, Nat.add_sub_cancel_left]⟩
  · next h => exact Or.inl ⟨fun hleap hlast => h ⟨hleap, hlast⟩, rfl⟩

/-- The fields of a regular time are within their bounds. -/
theorem TimeOfDay.Regular.fields_inRange {t : TimeOfDay} (h : t.Regular) : t.fields.InRange := by
  have hhour := Nat.le_of_lt_succ t.hour_lt
  have hminute := Nat.le_of_lt_succ t.minute_lt
  rcases t.fields_cases with ⟨hlast, hfields⟩ | ⟨-, n, hn, -, hfields⟩
  · have hordinary : t.nanos < nanosPerSecond :=
      Nat.not_le.mp fun hleap => hlast hleap (h hleap)
    rw [hfields]
    exact ⟨hhour, hminute, Nat.le_of_lt t.second_lt, hordinary⟩
  · rw [hfields]
    exact ⟨hhour, hminute, le_rfl, hn⟩

/-- **A time with less than a second of nanoseconds in its fields is regular.** -/
theorem TimeOfDay.regular_of_fields {t : TimeOfDay} (h : t.fields.nanos < nanosPerSecond) :
    t.Regular := by
  rcases t.fields_cases with ⟨-, hfields⟩ | ⟨hlast, -⟩
  · rw [hfields] at h
    exact fun hleap => absurd h (Nat.not_lt.mpr hleap)
  · exact fun _ => hlast

/-- A reading with another time. -/
def Reading.withTime (r : Reading) (f : TimeOfDay.Fields) : Reading :=
  { r with hour := f.hour, minute := f.minute, second := f.second, nanos := f.nanos }

/-- **A reading names the time whose fields it has**, and second 60 a leap second. -/
theorem Reading.time?_eq_some_iff {t : TimeOfDay} (hr : r.nanos < nanosPerSecond) :
    r.time? = some t ↔ t.fields = ⟨r.hour, r.minute, r.second, r.nanos⟩ := by
  have hsecond := t.second_lt
  rw [Reading.time?]
  rcases t.fields_cases with ⟨hlast, hfields⟩ | ⟨hlast, n, hn, hnanos, hfields⟩
  · rw [hfields, TimeOfDay.Fields.mk.injEq]
    split
    · rw [TimeOfDay.ofHMS?_eq_some_iff]
      omega
    · rw [TimeOfDay.ofHMS?_eq_some_iff, TimeOfDay.Regular]
      omega
  · rw [hfields, TimeOfDay.Fields.mk.injEq]
    split
    · rw [TimeOfDay.ofHMS?_eq_some_iff, TimeOfDay.Regular]
      omega
    · rw [TimeOfDay.ofHMS?_eq_some_iff]
      omega

theorem TimeOfDay.fields_injective {t u : TimeOfDay} (h : t.fields = u.fields) : t = u := by
  have ht := t.second_lt
  have hu := u.second_lt
  have hseconds :
      t.hour = u.hour ∧ t.minute = u.minute ∧ t.second = u.second ∧ t.nanos = u.nanos := by
    rcases t.fields_cases with ⟨-, hfields⟩ | ⟨hlast, n, -, hnanos, hfields⟩ <;>
      rcases u.fields_cases with ⟨-, hfields'⟩ | ⟨hlast', n', -, hnanos', hfields'⟩ <;>
      · rw [hfields, hfields', Fields.mk.injEq] at h
        omega
  obtain ⟨hhour, hminute, hsecond, hnanos⟩ := hseconds
  rw [← Option.some_inj, ← ofSeconds?_self, ← ofSeconds?_self, t.seconds_eq, u.seconds_eq, hhour,
    hminute, hsecond, hnanos]

theorem TimeOfDay.exists_ofHMS? {hour minute second nanos : Nat} (hhour : hour < 24)
    (hminute : minute < 60) (hsecond : second < 60) (hnanos : nanos < 2 * nanosPerSecond)
    (hleap : nanosPerSecond ≤ nanos → second = 59) :
    ∃ t, TimeOfDay.ofHMS? hour minute second nanos = some t := by
  rw [ofHMS?, if_pos ⟨hhour, hminute, hsecond, hleap⟩, ofSeconds?, dif_pos]
  · exact ⟨_, rfl⟩
  · rw [secondsPerDay]
    omega

/-- **Fields are those of a regular time if they are within their bounds**; any minute may have a
leap second. -/
theorem TimeOfDay.exists_fields_iff {f : TimeOfDay.Fields} :
    (∃ t : TimeOfDay, t.Regular ∧ t.fields = f) ↔ f.InRange := by
  constructor
  · rintro ⟨t, hregular, rfl⟩
    exact hregular.fields_inRange
  · rintro ⟨hhour, hminute, hsecond, hnanos⟩
    have hread : ∃ t, (Reading.withTime {} f).time? = some t := by
      rw [Reading.time?]
      split
      · exact TimeOfDay.exists_ofHMS? (Nat.lt_succ_of_le hhour) (Nat.lt_succ_of_le hminute)
          (by decide) (by rw [Nat.two_mul]; exact Nat.add_lt_add_left hnanos _) fun _ => rfl
      · next hsecond' =>
        exact TimeOfDay.exists_ofHMS? (Nat.lt_succ_of_le hhour) (Nat.lt_succ_of_le hminute)
          (Nat.lt_of_le_of_ne hsecond hsecond')
          (Nat.lt_of_lt_of_le hnanos (Nat.le_mul_of_pos_left _ (by decide)))
          fun hleap => absurd hnanos (Nat.not_lt.mpr hleap)
    obtain ⟨t, ht⟩ := hread
    have hfields : t.fields = f := (Reading.time?_eq_some_iff hnanos).mp ht
    exact ⟨t, t.regular_of_fields (hfields ▸ hnanos), hfields⟩

theorem Reading.dateTime?_eq_some_iff {x : DateTime} :
    r.dateTime? = some x ↔ r.date? = some x.date ∧ r.time? = some x.time := by
  obtain ⟨d, t⟩ := x
  rw [Reading.dateTime?]
  cases r.date? <;> cases r.time? <;> simp

/-! ## The grammar -/

/-- Blanks, or nothing. -/
def Blanks (text : List Char) : Prop := ∀ c ∈ text, isBlank c

instance (text : List Char) : Decidable (Blanks text) :=
  List.decidableBAll (fun c => isBlank c = true) text

/-- **A number of `k` digits**, with any blanks in front. -/
def Number (k : Nat) (text : List Char) (n : Nat) : Prop :=
  ∃ blanks digits, text = blanks ++ digits ∧ Blanks blanks ∧ Word Char.isDigit digits ∧
    digits.length = k ∧ Nat.ofDigitChars 10 digits 0 = n

/-- A number of at most `w` digits. -/
def Writes (w : Nat) (text : List Char) (n : Nat) : Prop := ∃ k ≤ w, Number k text n

/-- **A year**: at most four digits, or any number of them after a sign. -/
inductive WritesYear : List Char → Int → Prop where
  | plain {text : List Char} {n : Nat} (h : Writes 4 text n) : WritesYear text n
  | plus {blanks digits : List Char} (hblanks : Blanks blanks)
    (hdigits : Word Char.isDigit digits) :
    WritesYear (blanks ++ '+' :: digits) (Nat.ofDigitChars 10 digits 0)
  | minus {blanks digits : List Char} (hblanks : Blanks blanks)
    (hdigits : Word Char.isDigit digits) :
    WritesYear (blanks ++ '-' :: digits) (-(Nat.ofDigitChars 10 digits 0 : Nat))

/-- **A date**, `year-month-day`; the day has `k` digits. -/
def WritesDate (k : Nat) (text : List Char) (f : Date.Fields) : Prop :=
  ∃ year month day, text = year ++ '-' :: (month ++ '-' :: day) ∧ WritesYear year f.year ∧
    Writes 2 month f.month ∧ Number k day f.day ∧ k ≤ 2

/-- `hour:minute`. -/
def WritesClock (text : List Char) (f : TimeOfDay.Fields) : Prop :=
  ∃ hour minute, text = hour ++ ':' :: minute ∧ Writes 2 hour f.hour ∧ Writes 2 minute f.minute

/-- **A fraction of a second**, or none: a point and digits.  What is less than a nanosecond does
not count. -/
inductive WritesFraction : List Char → Nat → Prop where
  | none : WritesFraction [] 0
  | some {digits : List Char} (h : Word Char.isDigit digits) :
    WritesFraction ('.' :: digits)
      (Nat.ofDigitChars 10 digits 0 * nanosPerSecond / 10 ^ digits.length)

/-- **A time without seconds**, `hour:minute`: the minute has just begun. -/
def WritesMinute (text : List Char) (f : TimeOfDay.Fields) : Prop :=
  WritesClock text f ∧ f.second = 0 ∧ f.nanos = 0

/-- **A time with seconds**, `hour:minute:second`, and with a fraction or without. -/
def WritesSecond (text : List Char) (f : TimeOfDay.Fields) : Prop :=
  ∃ clock second fraction, text = clock ++ ':' :: (second ++ fraction) ∧ WritesClock clock f ∧
    Writes 2 second f.second ∧ WritesFraction fraction f.nanos

/-- A time of day. -/
def WritesTime (text : List Char) (f : TimeOfDay.Fields) : Prop :=
  WritesMinute text f ∨ WritesSecond text f

/-- **The text denotes a date with a time.**  Blanks between the two are those in front of the hour;
without any, the day needs both its digits, or the first digit of the hour would be taken for it. -/
inductive Denotes : List Char → DateTime → Prop where
  /-- A date, at midnight. -/
  | date {k : Nat} {text : List Char} {d : Date} (h : WritesDate k text d.fields) :
    Denotes text (.atMidnight d)
  /-- A time, on the day of the Unix epoch. -/
  | time {text : List Char} {t : TimeOfDay} (h : WritesTime text t.fields) :
    Denotes text ⟨Date.epoch, t⟩
  /-- A date and a time, with blanks between them or without. -/
  | spaced {k : Nat} {a b : List Char} {d : Date} {t : TimeOfDay} (hdate : WritesDate k a d.fields)
    (hday : k = 2 ∨ ¬Begins Char.isDigit b) (htime : WritesTime b t.fields) :
    Denotes (a ++ b) ⟨d, t⟩
  /-- A date and a time with seconds, with the letter `T` between them. -/
  | lettered {k : Nat} {a b : List Char} {d : Date} {t : TimeOfDay}
    (hdate : WritesDate k a d.fields) (htime : WritesSecond b t.fields) :
    Denotes (a ++ 'T' :: b) ⟨d, t⟩

/-- The epoch is 1 January 1970. -/
example : Date.epoch.fields = ⟨1970, 1, 1⟩ := by decide

/-! ## Where digits end -/

variable {cs rest text digits : List Char} {k n : Nat}

theorem not_begins_nil {kind : Char → Bool} : ¬Begins kind [] := by
  rintro ⟨c, cs, hcons, -⟩
  exact List.cons_ne_nil c cs hcons.symm

theorem not_begins_cons {kind : Char → Bool} {c : Char} (hc : ¬kind c) :
    ¬Begins kind (c :: rest) := by
  rintro ⟨d, ds, hcons, hd⟩
  obtain ⟨rfl, -⟩ := List.cons_eq_cons.mp hcons
  exact hc hd

theorem not_begins_fraction (h : WritesFraction text n) : ¬Begins Char.isDigit text := by
  cases h with
  | none => exact not_begins_nil
  | some _ => exact not_begins_cons (by decide)

/-! ## Values of fractions -/

theorem nanosPerSecond_pos : 0 < nanosPerSecond := by decide

/-- A number is less than the power of ten that its digits count up to. -/
theorem ofDigitChars_lt (h : ∀ c ∈ digits, c.isDigit) :
    Nat.ofDigitChars 10 digits 0 < 10 ^ digits.length := by
  induction digits using List.reverseRecOn with
  | nil => exact Nat.one_pos
  | append_singleton ds c ih =>
    have hds := ih fun d hd => h d (List.mem_append_left _ hd)
    have hc := Text.isDigit_iff_toNat.mp (h c (List.mem_append_right _ (List.mem_singleton_self c)))
    have hzero : '0'.toNat = 48 := rfl
    rw [Nat.ofDigitChars_append, Nat.ofDigitChars_cons, Nat.ofDigitChars_nil, hzero,
      List.length_append, List.length_singleton, Nat.pow_succ]
    omega

theorem WritesFraction.nanos_lt (h : WritesFraction text n) : n < nanosPerSecond := by
  cases h with
  | none => decide
  | some hdigits =>
    rw [Nat.div_lt_iff_lt_mul (Nat.pow_pos (by decide)), Nat.mul_comm]
    exact Nat.mul_lt_mul_of_pos_left (ofDigitChars_lt hdigits.2) (by decide)

/-! ## Separators -/

variable {c : Char}

/-- A character that can stand in no number. -/
def Separator (c : Char) : Prop := ¬isBlank c ∧ ¬c.isDigit

theorem separator_hyphen : Separator '-' := ⟨by decide, by decide⟩

theorem separator_colon : Separator ':' := ⟨by decide, by decide⟩

theorem separator_T : Separator 'T' := ⟨by decide, by decide⟩

theorem Separator.not_mem_digits (hc : Separator c) (hdigits : Word Char.isDigit digits) :
    c ∉ digits :=
  fun hmem => hc.2 (hdigits.2 c hmem)

/-- Only the sign of a signed number is a separator. -/
theorem Separator.not_mem_signed {blanks : List Char} {sign : Char} (hc : Separator c)
    (hblanks : Blanks blanks) (hdigits : Word Char.isDigit digits) (hsign : c ≠ sign) :
    c ∉ blanks ++ sign :: digits := by
  rw [List.mem_append, List.mem_cons]
  rintro (hmem | rfl | hmem)
  · exact hc.1 (hblanks c hmem)
  · exact hsign rfl
  · exact hc.not_mem_digits hdigits hmem

theorem Number.not_mem (h : Number k text n) (hc : Separator c) : c ∉ text := by
  obtain ⟨blanks, digits, rfl, hblanks, hdigits, -⟩ := h
  rw [List.mem_append]
  rintro (hmem | hmem)
  · exact hc.1 (hblanks c hmem)
  · exact hc.not_mem_digits hdigits hmem

theorem Writes.not_mem (h : Writes k text n) (hc : Separator c) : c ∉ text := by
  obtain ⟨_, -, hnumber⟩ := h
  exact hnumber.not_mem hc

theorem WritesYear.not_mem {y : Int} (h : WritesYear text y) (hc : Separator c)
    (hsign : c ≠ '+' ∧ c ≠ '-') : c ∉ text := by
  cases h with
  | plain htext => exact htext.not_mem hc
  | plus hblanks hdigits => exact hc.not_mem_signed hblanks hdigits hsign.1
  | minus hblanks hdigits => exact hc.not_mem_signed hblanks hdigits hsign.2

/-- A date has hyphens, and otherwise only the sign of its year. -/
theorem WritesDate.hyphen_mem {f : Date.Fields} (h : WritesDate k text f) : '-' ∈ text := by
  obtain ⟨year, month, day, rfl, -⟩ := h
  simp

theorem WritesDate.not_mem {f : Date.Fields} (h : WritesDate k text f) (hc : Separator c)
    (hsign : c ≠ '+' ∧ c ≠ '-') : c ∉ text := by
  obtain ⟨year, month, day, rfl, hyear, hmonth, hday, -⟩ := h
  simp [hyear.not_mem hc hsign, hmonth.not_mem hc, hday.not_mem hc, hsign.2]

theorem WritesDate.two_le_count_hyphen {f : Date.Fields} (h : WritesDate k text f) :
    2 ≤ text.count '-' := by
  obtain ⟨year, month, day, rfl, -⟩ := h
  simp only [List.count_append, List.count_cons_self]
  omega

theorem WritesFraction.not_mem (h : WritesFraction text n) (hc : Separator c) (hpoint : c ≠ '.') :
    c ∉ text := by
  cases h with
  | none => exact List.not_mem_nil
  | some hdigits =>
    rw [List.mem_cons]
    rintro (rfl | hmem)
    · exact hpoint rfl
    · exact hc.not_mem_digits hdigits hmem

section Time

variable {f : TimeOfDay.Fields}

theorem WritesClock.not_mem (h : WritesClock text f) (hc : Separator c) (hcolon : c ≠ ':') :
    c ∉ text := by
  obtain ⟨hour, minute, rfl, hhour, hminute⟩ := h
  simp [hhour.not_mem hc, hminute.not_mem hc, hcolon]

theorem WritesClock.count_colon (h : WritesClock text f) : text.count ':' = 1 := by
  obtain ⟨hour, minute, rfl, hhour, hminute⟩ := h
  rw [List.count_append, List.count_cons_self,
    List.count_eq_zero_of_not_mem (hhour.not_mem separator_colon),
    List.count_eq_zero_of_not_mem (hminute.not_mem separator_colon)]

theorem WritesSecond.not_mem (h : WritesSecond text f) (hc : Separator c)
    (hother : c ≠ ':' ∧ c ≠ '.') : c ∉ text := by
  obtain ⟨clock, second, fraction, rfl, hclock, hsecond, hfraction⟩ := h
  simp [hclock.not_mem hc hother.1, hsecond.not_mem hc, hfraction.not_mem hc hother.2, hother.1]

theorem WritesSecond.count_colon (h : WritesSecond text f) : text.count ':' = 2 := by
  obtain ⟨clock, second, fraction, rfl, hclock, hsecond, hfraction⟩ := h
  rw [List.count_append, List.count_cons_self, List.count_append, hclock.count_colon,
    List.count_eq_zero_of_not_mem (hsecond.not_mem separator_colon),
    List.count_eq_zero_of_not_mem (hfraction.not_mem separator_colon (by decide))]

theorem WritesTime.count_colon (h : WritesTime text f) : text.count ':' ≠ 0 := by
  rcases h with hminute | hsecond
  · rw [hminute.1.count_colon]
    decide
  · rw [hsecond.count_colon]
    decide

end Time

end Formula.Calendar
