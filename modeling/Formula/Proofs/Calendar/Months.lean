import Formula.Expr.Shift
import Formula.Proofs.Calendar.Grammar

/-!
# Proofs/Calendar/Months — moves by months and years are exact

The months of the calendar are numbered in a row, twelve to a year (`Date.monthNumber`), and a move
adds to that number.  The day of the month is then cut to the length of the month reached, which
loses at most its end: a move and its opposite come back to the month they left
(`moveByUnits_months_years`).

Steps are counted in 64 bits, their product with the length of the unit must fit there again, and
the magnitude goes through 32 bits.  No move is lost to these bounds (`addMonthSteps?_eq`,
`addUnits?_eq`), for what they refuse lies outside the calendar anyway
(`addMonths?_of_maxMonths_lt`).
-/

namespace Formula.Calendar

/-! ## Month numbers -/

theorem one_le_monthLength (leap : Bool) (month : Nat) : 1 ≤ monthLength leap month := by
  unfold monthLength
  split
  · cases leap <;> decide
  all_goals decide

/-- The calendar has a year. -/
def HasYear (year : Int) : Prop := firstYear ≤ year ∧ year ≤ lastYear

instance (year : Int) : Decidable (HasYear year) :=
  inferInstanceAs (Decidable (firstYear ≤ year ∧ year ≤ lastYear))

namespace Date

/-- **The number of the month of a date**: the months from January of year 0 to it. -/
def monthNumber (d : Date) : Int := 12 * d.year + (d.month - 1 : Nat)

theorem hasYear (d : Date) : HasYear d.year := ⟨d.firstYear_le_year, d.year_le_lastYear⟩

/-- **A month number is that of a year and a month.** -/
theorem monthNumber_eq_iff {d : Date} {number : Int} :
    d.monthNumber = number ↔ d.year = number / 12 ∧ d.month = (number % 12).toNat + 1 := by
  have hmonth := d.month_bounds
  rw [monthNumber]
  omega

/-- **A move by months** ends in the month whose number is that many on, on the same day or, if that
month is shorter, on its last. -/
theorem addMonths?_eq_some_iff {d e : Date} {k : Int} :
    d.addMonths? k = some e ↔ e.monthNumber = d.monthNumber + k ∧
      e.dayOfMonth = min d.dayOfMonth (monthLength (isLeap e.year) e.month) := by
  rw [addMonths?, ← monthNumber, ofYMD?_eq_some_iff, ← and_assoc, ← monthNumber_eq_iff]
  refine and_congr_right fun hnumber => ?_
  obtain ⟨hyear, hmonth⟩ := monthNumber_eq_iff.mp hnumber
  rw [hyear, hmonth]

theorem exists_ofYMD?_iff {year : Int} {month day : Nat} :
    (∃ e, ofYMD? year month day = some e) ↔ HasYear year ∧
      (1 ≤ month ∧ month ≤ 12) ∧ 1 ≤ day ∧ day ≤ monthLength (isLeap year) month := by
  rw [HasYear, ← exists_fields_iff (f := ⟨year, month, day⟩)]
  simp only [ofYMD?_eq_some_iff, fields, Fields.mk.injEq]

/-- **A move by months stays in the calendar if the year that it reaches does.** -/
theorem exists_addMonths?_iff {d : Date} {k : Int} :
    (∃ e, d.addMonths? k = some e) ↔ HasYear ((d.monthNumber + k) / 12) := by
  have hmonth : 1 ≤ ((d.monthNumber + k) % 12).toNat + 1 ∧
      ((d.monthNumber + k) % 12).toNat + 1 ≤ 12 := by omega
  rw [addMonths?, ← monthNumber, exists_ofYMD?_iff]
  exact and_iff_left
    ⟨hmonth, le_min d.dayOfMonth_bounds.1 (one_le_monthLength _ _), min_le_right _ _⟩

/-- There are fewer months in the calendar than a move may have. -/
theorem addMonths?_of_maxMonths_lt (d : Date) {k : Int} (hk : maxMonths < k.natAbs) :
    d.addMonths? k = none := by
  refine Option.eq_none_iff_forall_ne_some.mpr fun e he => ?_
  have hfrom := d.hasYear
  have hto := e.hasYear
  have hmonth := d.month_bounds
  have hnumber := (addMonths?_eq_some_iff.mp he).1
  obtain ⟨hyear, -⟩ := monthNumber_eq_iff.mp hnumber
  rw [monthNumber] at hyear
  simp only [maxMonths, HasYear, firstYear, lastYear] at hk hfrom hto
  omega

end Date

/-! ## Whole steps -/

/-- **A checked product is the exact one**, if 64 bits hold it. -/
theorem product?_eq_some_iff {a b c : Int64} :
    product? a b = some c ↔ c.toInt = a.toInt * b.toInt := by
  have hlower := c.minValue_le_toInt
  have hupper := c.toInt_le
  rw [product?]
  split
  · next hn =>
    rw [Option.some_inj, ← Int64.toInt_inj,
      Int64.toInt_ofInt_of_le hn.1 (Int.lt_add_one_of_le hn.2),
      eq_comm]
  · next hn =>
    refine iff_of_false (fun h => nomatch h) fun hc => hn ?_
    rw [← hc]
    exact ⟨hlower, hupper⟩

/-- A product that 64 bits do not hold is larger than any number that they hold. -/
theorem maxInt64_lt_of_product? {a b : Int64} (h : product? a b = none) :
    9223372036854775807 < (a.toInt * b.toInt).natAbs := by
  rw [product?, ite_eq_right_iff] at h
  have hbounds := mt h (Option.some_ne_none _)
  have hmin : Int64.minValue.toInt = -9223372036854775808 := rfl
  have hmax : Int64.maxValue.toInt = 9223372036854775807 := rfl
  rw [hmin, hmax] at hbounds
  omega

theorem maxMonths_lt_of_product? {a b : Int64} (h : product? a b = none) :
    maxMonths < (a.toInt * b.toInt).natAbs :=
  lt_trans (by decide) (maxInt64_lt_of_product? h)

/-- A direction and a magnitude make the number again. -/
theorem signed_natAbs (n : Int64) :
    (if decide (n < 0) = true then -(n.toInt.natAbs : Int) else n.toInt.natAbs) = n.toInt := by
  have hneg : decide (n < 0) = true ↔ n.toInt < 0 := by
    rw [decide_eq_true_iff, Int64.lt_iff_toInt_lt, Int64.toInt_zero]
  rw [if_congr hneg rfl rfl]
  split <;> omega

namespace DateTime

/-- **A later month**: `k` months on, on the same day of the month or, if that month is shorter, on
its last, and at the same time. -/
structure MonthsLater (t : DateTime) (k : Int) (u : DateTime) : Prop where
  monthNumber_eq : u.date.monthNumber = t.date.monthNumber + k
  dayOfMonth_eq :
    u.date.dayOfMonth = min t.date.dayOfMonth (monthLength (isLeap u.date.year) u.date.month)
  time_eq : u.time = t.time

variable {t u : DateTime} {k : Int}

theorem addMonths?_eq_some_iff : t.addMonths? k = some u ↔ t.MonthsLater k u := by
  rw [addMonths?, Option.map_eq_some_iff]
  constructor
  · rintro ⟨d, hd, rfl⟩
    obtain ⟨hnumber, hday⟩ := Date.addMonths?_eq_some_iff.mp hd
    exact ⟨hnumber, hday, rfl⟩
  · rintro ⟨hnumber, hday, htime⟩
    exact ⟨u.date, Date.addMonths?_eq_some_iff.mpr ⟨hnumber, hday⟩, by rw [← htime]⟩

theorem addMonths?_eq_none_iff :
    t.addMonths? k = none ↔ ¬HasYear ((t.date.monthNumber + k) / 12) := by
  rw [addMonths?, Option.map_eq_none_iff, ← Date.exists_addMonths?_iff,
    ← Option.isSome_iff_exists, Option.not_isSome_iff_eq_none]

theorem addMonths?_of_maxMonths_lt (hk : maxMonths < k.natAbs) : t.addMonths? k = none := by
  rw [addMonths?, t.date.addMonths?_of_maxMonths_lt hk, Option.map_none]

/-- **No move is lost for its magnitude.** -/
theorem addMonthSteps?_eq (t : DateTime) (months : Int64) :
    t.addMonthSteps? months = t.addMonths? months.toInt := by
  have hsize : maxMonths < UInt32.size := by decide
  rw [addMonthSteps?]
  split
  · next hlt =>
    have hmagnitude : (UInt32.ofNat months.toInt.natAbs).toNat = months.toInt.natAbs :=
      UInt32.toNat_ofNat_of_lt' hlt
    rw [moveMonths?, hmagnitude, signed_natAbs]
    split
    · next hlarge => exact (addMonths?_of_maxMonths_lt hlarge).symm
    · rfl
  · next hge => exact (addMonths?_of_maxMonths_lt (by omega)).symm

/-- **No move is lost for its product** with the length of the unit. -/
theorem addUnits?_eq (t : DateTime) {unit : TimeUnit} {months : Int64}
    (hunit : unit.months? = some months) (steps : Int64) :
    t.addUnits? unit steps = t.addMonths? (months.toInt * steps.toInt) := by
  rw [addUnits?, hunit, Int.mul_comm]
  change (product? steps months).bind t.addMonthSteps? = _
  cases hproduct : product? steps months with
  | some c => rw [Option.bind_some, addMonthSteps?_eq, product?_eq_some_iff.mp hproduct]
  | none => exact (addMonths?_of_maxMonths_lt (maxMonths_lt_of_product? hproduct)).symm

/-- **A move and its opposite** lead back to the month, and to no later day of it. -/
theorem MonthsLater.back {t mid u : DateTime} {k : Int} (hon : t.MonthsLater k mid)
    (hback : mid.MonthsLater (-k) u) :
    u.date.year = t.date.year ∧ u.date.month = t.date.month ∧
      u.date.dayOfMonth ≤ t.date.dayOfMonth ∧ u.time = t.time := by
  have hnumber : u.date.monthNumber = t.date.monthNumber := by
    rw [hback.monthNumber_eq, hon.monthNumber_eq, add_neg_cancel_right]
  obtain ⟨hyear, hmonth⟩ := Date.monthNumber_eq_iff.mp hnumber
  obtain ⟨hyear', hmonth'⟩ := Date.monthNumber_eq_iff.mp (rfl : t.date.monthNumber = _)
  refine ⟨hyear.trans hyear'.symm, hmonth.trans hmonth'.symm, ?_,
    hback.time_eq.trans hon.time_eq⟩
  rw [hback.dayOfMonth_eq, hon.dayOfMonth_eq]
  exact (min_le_left _ _).trans (min_le_left _ _)

end DateTime

end Formula.Calendar

namespace Formula

open Calendar

variable {t : DateTime} {unit : TimeUnit} {months n : Int64}

theorem moveByUnits_eq_ok_iff_addUnits? {u : DateTime} :
    moveByUnits t unit n = .ok u ↔ t.addUnits? unit n = some u := by
  rw [moveByUnits]
  cases t.addUnits? unit n <;> simp

theorem moveByUnits_eq_error_iff_addUnits? {e : EvalError} :
    moveByUnits t unit n = .error e ↔ e = .dateOutOfRange ∧ t.addUnits? unit n = none := by
  rw [moveByUnits]
  cases t.addUnits? unit n <;> simp [eq_comm]

theorem moveByUnits_eq_ok_iff (hunit : unit.months? = some months) {u : DateTime} :
    moveByUnits t unit n = .ok u ↔ t.MonthsLater (months.toInt * n.toInt) u := by
  rw [moveByUnits_eq_ok_iff_addUnits?, t.addUnits?_eq hunit, DateTime.addMonths?_eq_some_iff]

theorem moveByUnits_eq_error_iff (hunit : unit.months? = some months) {e : EvalError} :
    moveByUnits t unit n = .error e ↔ e = .dateOutOfRange ∧
      ¬HasYear ((t.date.monthNumber + months.toInt * n.toInt) / 12) := by
  rw [moveByUnits_eq_error_iff_addUnits?, t.addUnits?_eq hunit, DateTime.addMonths?_eq_none_iff]

/-- **Moves by months and by years are exact.**  Month numbers are added without overflow, whatever
the number of steps; the day is cut to the length of the month reached and the time stays.  The only
failure is to leave the calendar. -/
theorem moveByUnits_months_years (t : DateTime) (n : Int64) :
    (∀ unit k, unit = .month ∧ k = n.toInt ∨ unit = .year ∧ k = 12 * n.toInt →
      (∀ u, moveByUnits t unit n = .ok u ↔ t.MonthsLater k u) ∧
      (∀ e, moveByUnits t unit n = .error e ↔
        e = .dateOutOfRange ∧ ¬HasYear ((t.date.monthNumber + k) / 12))) ∧
    (∀ m : Int64, m.toInt = 12 * n.toInt → moveByUnits t .year n = moveByUnits t .month m) ∧
    (∀ (m : Int64) mid u, m.toInt = -n.toInt →
      moveByUnits t .month n = .ok mid → moveByUnits mid .month m = .ok u →
      u.date.year = t.date.year ∧ u.date.month = t.date.month ∧
        u.date.dayOfMonth ≤ t.date.dayOfMonth ∧ u.time = t.time) := by
  have hmonth : TimeUnit.month.months? = some 1 := rfl
  have hyear : TimeUnit.year.months? = some 12 := rfl
  have hone (m : Int64) : (1 : Int64).toInt * m.toInt = m.toInt := Int.one_mul _
  have htwelve : (12 : Int64).toInt * n.toInt = 12 * n.toInt := rfl
  refine ⟨?_, fun m hm => ?_, fun m mid u hm hmid hu => ?_⟩
  · rintro unit k (⟨rfl, rfl⟩ | ⟨rfl, rfl⟩)
    · rw [← hone]
      exact ⟨fun u => moveByUnits_eq_ok_iff hmonth, fun e => moveByUnits_eq_error_iff hmonth⟩
    · rw [← htwelve]
      exact ⟨fun u => moveByUnits_eq_ok_iff hyear, fun e => moveByUnits_eq_error_iff hyear⟩
  · rw [moveByUnits, moveByUnits, t.addUnits?_eq hyear, t.addUnits?_eq hmonth, htwelve, hone, hm]
  · rw [moveByUnits_eq_ok_iff hmonth, hone] at hmid hu
    rw [hm] at hu
    exact hmid.back hu

/-- From 31 January 2024, in a leap second, one month on is 29 February, and from there one month
back is 29 January; one year on is twelve months on; and the greatest number of years is too many.
-/
theorem moveByUnits_months_years_february :
    let leap : TimeOfDay := ⟨86399, 1500000000, by decide, by decide⟩
    let january : DateTime := ⟨⟨738915, by decide, by decide⟩, leap⟩
    let february : DateTime := ⟨⟨738944, by decide, by decide⟩, leap⟩
    let earlier : DateTime := ⟨⟨738913, by decide, by decide⟩, leap⟩
    (moveByUnits january .month 1 = .ok february ∧
        moveByUnits february .month (-1) = .ok earlier ∧
        earlier.date.month = january.date.month ∧
        earlier.date.dayOfMonth ≤ january.date.dayOfMonth ∧ earlier.time = january.time) ∧
      moveByUnits january .year 1 = moveByUnits january .month 12 ∧
      moveByUnits january .year Int64.maxValue = .error .dateOutOfRange := by
  intro leap january february earlier
  obtain ⟨hmoves, hyear, hback⟩ := moveByUnits_months_years january 1
  obtain ⟨hfrom, -, -⟩ := moveByUnits_months_years february (-1)
  obtain ⟨hlong, -, -⟩ := moveByUnits_months_years january Int64.maxValue
  have hon : moveByUnits january .month 1 = .ok february :=
    ((hmoves .month 1 (.inl ⟨rfl, rfl⟩)).1 february).mpr ⟨by decide, by decide, rfl⟩
  have hearlier : moveByUnits february .month (-1) = .ok earlier :=
    ((hfrom .month (-1) (.inl ⟨rfl, rfl⟩)).1 earlier).mpr ⟨by decide, by decide, rfl⟩
  refine ⟨⟨hon, hearlier, (hback (-1) february earlier rfl hon hearlier).2⟩, hyear 12 rfl, ?_⟩
  exact ((hlong .year _ (.inr ⟨rfl, rfl⟩)).2 _).mpr ⟨rfl, by decide⟩

end Formula
