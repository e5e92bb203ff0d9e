import Formula.Proofs.Calendar.BusinessDays
import Formula.Proofs.Calendar.Months

/-!
# Proofs/Calendar/TimeLine — moves by units of one length are exact

Away from leap seconds a date-time is an instant, a number of nanoseconds from the beginning of
day 0 (`DateTime.instant`), and the calendar has a date-time at every instant between its first and
its last (`exists_isAt_iff`).  To move is to add to the instant (`addNanos?_eq_some_iff`), so that
borrows and carries across midnight, months and years are those of one addition.

The seconds of a span are counted in 64 bits, and a span has a greatest length.  No move is lost to
these bounds (`addUnits?_of_length?`), for the calendar is shorter than any span that they refuse
(`addNanos?_of_longestSpan_lt`).
-/

namespace Formula.Calendar

/-! ## Instants

The nanoseconds of the day and the days are the digits of an instant, which a division takes apart
again. -/

namespace DateTime

/-- **The instant of a date-time**: the nanoseconds from the beginning of day 0 to it. -/
def instant (t : DateTime) : Int := t.date.day * dayLength + t.time.seconds * second + t.time.nanos

/-- **The date-time at an instant**, away from leap seconds. -/
structure IsAt (t : DateTime) (i : Int) : Prop where
  not_leap : t.time.isLeapSecond = false
  instant_eq : t.instant = i

/-- The first date-time of the calendar. -/
def first : DateTime := .atMidnight ⟨firstDay, by decide, by decide⟩

/-- The last date-time of the calendar. -/
def last : DateTime :=
  ⟨⟨lastDay, by decide, by decide⟩, ⟨86399, 999999999, by decide, by decide⟩⟩

end DateTime

/-- The calendar has an instant. -/
def HasInstant (i : Int) : Prop := DateTime.first.instant ≤ i ∧ i ≤ DateTime.last.instant

instance (i : Int) : Decidable (HasInstant i) := inferInstanceAs (Decidable (_ ∧ _))

theorem hasInstant_iff {i : Int} :
    HasInstant i ↔ firstDay ≤ i / dayLength ∧ i / dayLength ≤ lastDay := by
  have hfirst : DateTime.first.instant = firstDay * dayLength := by decide
  have hlast : DateTime.last.instant = lastDay * dayLength + (dayLength - 1) := by decide
  rw [HasInstant, hfirst, hlast, dayLength_eq]
  omega

namespace DateTime

variable {t u : DateTime} {i : Int}

theorem isAt_instant (ht : t.time.isLeapSecond = false) : t.IsAt t.instant := ⟨ht, rfl⟩

/-- **Day, second and nanosecond are the digits of the instant.** -/
theorem isAt_iff : t.IsAt i ↔ t.date.day = i / dayLength ∧
    t.time.seconds = (i % dayLength / second).toNat ∧ t.time.nanos = (i % second).toNat := by
  have hseconds := t.time.seconds_lt
  simp only [secondsPerDay] at hseconds
  constructor
  · rintro ⟨hleap, hinstant⟩
    have hnanos := TimeOfDay.nanos_lt_of_not_leap hleap
    simp only [instant, nanosPerSecond, dayLength_eq, second_eq] at hinstant hnanos ⊢
    omega
  · rintro ⟨hday, hsecond, hnano⟩
    simp only [dayLength_eq, second_eq] at hday hsecond hnano
    refine ⟨decide_eq_false ?_, ?_⟩
    · rw [nanosPerSecond]
      omega
    · rw [instant, dayLength_eq, second_eq]
      omega

/-- The digits are put together again by counting from any midnight. -/
theorem ofNanos?_eq_some_iff {day nanos : Int} :
    ofNanos? day nanos = some t ↔ t.IsAt (day * dayLength + nanos) := by
  have hquotient : (day * dayLength + nanos) / dayLength = day + nanos / dayLength := by
    rw [dayLength_eq]
    omega
  have hremainder : (day * dayLength + nanos) % dayLength = nanos % dayLength := by
    rw [dayLength_eq]
    omega
  have hfraction : (day * dayLength + nanos) % second = nanos % second := by
    rw [dayLength_eq, second_eq]
    omega
  rw [isAt_iff, hquotient, hremainder, hfraction, ofNanos?]
  constructor
  · intro h
    split at h
    · cases h
    · next d hd =>
      obtain ⟨time, htime, rfl⟩ := Option.map_eq_some_iff.mp h
      exact ⟨Date.day_of_ofDay? hd, TimeOfDay.eq_of_ofSeconds? htime⟩
  · rintro ⟨hday, hsecond, hnano⟩
    rw [← hday, ← hsecond, ← hnano, t.date.ofDay?_day, t.time.ofSeconds?_self]
    rfl

/-- **The calendar has an instant if and only if it has a date-time there.** -/
theorem exists_isAt_iff : (∃ t : DateTime, t.IsAt i) ↔ HasInstant i := by
  rw [hasInstant_iff]
  constructor
  · rintro ⟨t, ht⟩
    rw [← (isAt_iff.mp ht).1]
    exact ⟨t.date.first_le, t.date.le_last⟩
  · rintro ⟨hfirst, hlast⟩
    have hseconds : (i % dayLength / second).toNat < secondsPerDay := by
      rw [dayLength_eq, second_eq, secondsPerDay]
      omega
    have hnanos : (i % second).toNat < nanosPerSecond := by
      rw [second_eq, nanosPerSecond]
      omega
    exact ⟨⟨⟨i / dayLength, hfirst, hlast⟩, ⟨(i % dayLength / second).toNat, (i % second).toNat,
      hseconds, by omega⟩⟩, isAt_iff.mpr ⟨rfl, rfl, rfl⟩⟩

theorem hasInstant_instant (ht : t.time.isLeapSecond = false) : HasInstant t.instant :=
  exists_isAt_iff.mp ⟨t, isAt_instant ht⟩

/-! ## Spans -/

variable {span : Int}

/-- **To move along the time line is to add to the instant.** -/
theorem addNanos?_eq_some_iff (ht : t.time.isLeapSecond = false) :
    t.addNanos? span = some u ↔ u.IsAt (t.instant + span) := by
  have hsum : t.instant + span
      = t.date.day * dayLength + (t.time.seconds * second + t.time.nanos + span) := by
    rw [instant, add_assoc, add_assoc, add_assoc]
  rw [hsum, ← ofNanos?_eq_some_iff, addNanos?, if_neg (by rw [ht]; exact Bool.false_ne_true)]

theorem addNanos?_eq_none_iff (ht : t.time.isLeapSecond = false) :
    t.addNanos? span = none ↔ ¬HasInstant (t.instant + span) := by
  rw [← exists_isAt_iff, not_exists, Option.eq_none_iff_forall_ne_some]
  exact forall_congr' fun u => not_congr (addNanos?_eq_some_iff ht)

/-- **The calendar is shorter than the longest span.** -/
theorem addNanos?_of_longestSpan_lt (ht : t.time.isLeapSecond = false)
    (hspan : longestSpan < span.natAbs) : t.addNanos? span = none := by
  have hlength : last.instant - first.instant ≤ longestSpan := by decide
  obtain ⟨hfirst, hlast⟩ := hasInstant_instant ht
  refine (addNanos?_eq_none_iff ht).mpr fun hreached => ?_
  obtain ⟨hfirst', hlast'⟩ := hreached
  omega

end DateTime

/-! ## Units of one length -/

namespace TimeUnit

/-- **The length of a unit** in nanoseconds, for the units that always have the same. -/
def length? : TimeUnit → Option Int
  | week => some (7 * dayLength)
  | day => some dayLength
  | hour => some (3600 * Calendar.second)
  | minute => some (60 * Calendar.second)
  | second => some Calendar.second
  | millisecond => some nanosPerMilli
  | _ => none

variable {unit : TimeUnit} {length : Int}

/-- Such a unit is a number of milliseconds. -/
theorem exists_millis (hunit : unit.length? = some length) :
    ∃ k : Int, 1 ≤ k ∧ length = nanosPerMilli * k := by
  cases unit <;> cases hunit
  case week => exact ⟨604800000, by decide, by decide⟩
  case day => exact ⟨86400000, by decide, by decide⟩
  case hour => exact ⟨3600000, by decide, by decide⟩
  case minute => exact ⟨60000, by decide, by decide⟩
  case second => exact ⟨1000, by decide, by decide⟩
  case millisecond => exact ⟨1, by decide, by decide⟩

theorem months?_of_length? (hunit : unit.length? = some length) : unit.months? = none := by
  cases unit <;> cases hunit <;> rfl

/-- **What 64 bits of seconds do not hold is too long for a span.** -/
theorem bind_product?_span? (a b : Int64) :
    ((product? a b).bind fun n => Calendar.span? (n.toInt * Calendar.second))
      = Calendar.span? (a.toInt * b.toInt * Calendar.second) := by
  cases hproduct : product? a b with
  | some n => rw [Option.bind_some, product?_eq_some_iff.mp hproduct]
  | none =>
    have hlarge := maxInt64_lt_of_product? hproduct
    rw [Option.bind_none, Calendar.span?, if_neg]
    rw [longestSpan, nanosPerMilli, second_eq]
    omega

/-- **A span is the number of units times their length**, unless it is too long. -/
theorem span?_eq (hunit : unit.length? = some length) (n : Int64) :
    unit.span? n = Calendar.span? (length * n.toInt) := by
  have hseconds {seconds : Int64} (hlength : length = seconds.toInt * Calendar.second) :
      ((product? n seconds).bind fun m => Calendar.span? (m.toInt * Calendar.second))
        = Calendar.span? (length * n.toInt) := by
    rw [bind_product?_span?, hlength, mul_assoc, mul_comm]
  cases unit <;> cases hunit
  case millisecond => exact congrArg Calendar.span? (mul_comm _ _)
  all_goals exact hseconds (by decide)

end TimeUnit

namespace DateTime

variable {t u : DateTime} {unit : TimeUnit} {length : Int} {n : Int64}

/-- **No move is lost for its seconds or for its span.** -/
theorem addUnits?_of_length? (ht : t.time.isLeapSecond = false)
    (hunit : unit.length? = some length) (n : Int64) :
    t.addUnits? unit n = t.addNanos? (length * n.toInt) := by
  rw [addUnits?, TimeUnit.months?_of_length? hunit]
  change (unit.span? n).bind t.addNanos? = _
  rw [TimeUnit.span?_eq hunit, span?]
  split
  · rfl
  · next hlong => exact (addNanos?_of_longestSpan_lt ht (not_le.mp hlong)).symm

/-- A move does not reach into the milliseconds. -/
theorem nanos_emod_of_isAt (hunit : unit.length? = some length)
    (hu : u.IsAt (t.instant + length * n.toInt)) :
    u.time.nanos % nanosPerMilli = t.time.nanos % nanosPerMilli := by
  obtain ⟨k, -, rfl⟩ := TimeUnit.exists_millis hunit
  have hinstant := hu.instant_eq
  rw [mul_assoc] at hinstant
  simp only [instant, nanosPerMilli, dayLength_eq, second_eq] at hinstant ⊢
  omega

/-- The least step count has no opposite, and leads out of the calendar. -/
theorem toInt_neg_of_isAt (ht : t.time.isLeapSecond = false) (hunit : unit.length? = some length)
    (hu : u.IsAt (t.instant + length * n.toInt)) : (-n).toInt = -n.toInt := by
  -- `-2 ^ 63` milliseconds is one more than the longest span, and no unit is shorter.
  obtain ⟨k, hk, rfl⟩ := TimeUnit.exists_millis hunit
  have hspan : ¬longestSpan < ((nanosPerMilli * k : Int) * n.toInt).natAbs := fun hlong => by
    have hreached := (addNanos?_eq_some_iff ht).mpr hu
    rw [addNanos?_of_longestSpan_lt ht hlong] at hreached
    cases hreached
  have hleast : n.toInt ≠ -9223372036854775808 := fun hleast => by
    rw [hleast, longestSpan, nanosPerMilli] at hspan
    omega
  have hlower : -9223372036854775808 ≤ n.toInt := n.minValue_le_toInt
  have hupper : n.toInt ≤ 9223372036854775807 := n.toInt_le
  rw [Int64.toInt_neg]
  exact Int.bmod_eq_of_le (by omega) (by omega)

end DateTime

end Formula.Calendar

namespace Formula

open Calendar

variable {t : DateTime} {unit : TimeUnit} {length : Int}

theorem moveByUnits_eq_ok_iff_isAt (ht : t.time.isLeapSecond = false)
    (hunit : unit.length? = some length) (n : Int64) (u : DateTime) :
    moveByUnits t unit n = .ok u ↔ u.IsAt (t.instant + length * n.toInt) := by
  rw [moveByUnits_eq_ok_iff_addUnits?, DateTime.addUnits?_of_length? ht hunit,
    DateTime.addNanos?_eq_some_iff ht]

theorem moveByUnits_eq_error_iff_hasInstant (ht : t.time.isLeapSecond = false)
    (hunit : unit.length? = some length) (n : Int64) (e : EvalError) :
    moveByUnits t unit n = .error e ↔
      e = .dateOutOfRange ∧ ¬HasInstant (t.instant + length * n.toInt) := by
  rw [moveByUnits_eq_error_iff_addUnits?, DateTime.addUnits?_of_length? ht hunit,
    DateTime.addNanos?_eq_none_iff ht]

/-- Two moves to one instant are one move. -/
theorem moveByUnits_congr {t' : DateTime} {unit' : TimeUnit} {length' : Int} {n n' : Int64}
    (ht : t.time.isLeapSecond = false) (ht' : t'.time.isLeapSecond = false)
    (hunit : unit.length? = some length) (hunit' : unit'.length? = some length')
    (h : t.instant + length * n.toInt = t'.instant + length' * n'.toInt) :
    moveByUnits t unit n = moveByUnits t' unit' n' := by
  cases hmove : moveByUnits t' unit' n' with
  | ok u =>
    rw [moveByUnits_eq_ok_iff_isAt ht' hunit', ← h] at hmove
    exact (moveByUnits_eq_ok_iff_isAt ht hunit n u).mpr hmove
  | error e =>
    rw [moveByUnits_eq_error_iff_hasInstant ht' hunit', ← h] at hmove
    exact (moveByUnits_eq_error_iff_hasInstant ht hunit n e).mpr hmove

/-- **Moves by units of one length are exact on the time line.**  Away from leap seconds a move ends
at the instant that lies the number of units times their length away, with what is below a
millisecond kept, and fails if and only if the calendar does not have that instant.  So counts of
two units that make one length of time are one move, two moves by one unit are the move by the sum
of their counts, and the opposite count leads back. -/
theorem moveByUnits_exact {t : DateTime} (ht : t.time.isLeapSecond = false) {unit : TimeUnit}
    {length : Int} (hunit : unit.length? = some length) (n : Int64) :
    (∀ u, moveByUnits t unit n = .ok u ↔ u.IsAt (t.instant + length * n.toInt)) ∧
    (∀ e, moveByUnits t unit n = .error e ↔
      e = .dateOutOfRange ∧ ¬HasInstant (t.instant + length * n.toInt)) ∧
    (∀ unit' length' n', TimeUnit.length? unit' = some length' →
      length' * n'.toInt = length * n.toInt → moveByUnits t unit' n' = moveByUnits t unit n) ∧
    (∀ mid, moveByUnits t unit n = .ok mid →
      mid.time.nanos % nanosPerMilli = t.time.nanos % nanosPerMilli ∧
      (∀ m k : Int64, k.toInt = n.toInt + m.toInt →
        moveByUnits mid unit m = moveByUnits t unit k) ∧
      moveByUnits mid unit (-n) = .ok t) := by
  refine ⟨moveByUnits_eq_ok_iff_isAt ht hunit n, moveByUnits_eq_error_iff_hasInstant ht hunit n,
    fun unit' length' n' hunit' hlength => ?_, fun mid hmid => ?_⟩
  · exact moveByUnits_congr ht ht hunit' hunit (congrArg (t.instant + ·) hlength)
  · have hat := (moveByUnits_eq_ok_iff_isAt ht hunit n mid).mp hmid
    refine ⟨DateTime.nanos_emod_of_isAt hunit hat, fun m k hk => ?_, ?_⟩
    · refine moveByUnits_congr hat.not_leap ht hunit hunit ?_
      rw [hat.instant_eq, hk, mul_add, add_assoc]
    · refine (moveByUnits_eq_ok_iff_isAt hat.not_leap hunit (-n) t).mpr ⟨ht, ?_⟩
      rw [hat.instant_eq, DateTime.toInt_neg_of_isAt ht hunit hat, mul_neg, add_neg_cancel_right]

/-- From the last second of 28 February 2024, 24 hours on is the leap day, as is one day; 24 hours
more are 48 in all, 24 hours back lead back, and the greatest number of weeks is too many. -/
theorem moveByUnits_exact_leap_day :
    let time : TimeOfDay := ⟨86399, 123456789, by decide, by decide⟩
    let start : DateTime := ⟨⟨738943, by decide, by decide⟩, time⟩
    let leapDay : DateTime := ⟨⟨738944, by decide, by decide⟩, time⟩
    (start.time.isLeapSecond = false ∧ moveByUnits start .hour 24 = .ok leapDay) ∧
      moveByUnits start .day 1 = moveByUnits start .hour 24 ∧
      moveByUnits leapDay .hour 24 = moveByUnits start .hour 48 ∧
      moveByUnits leapDay .hour (-24) = .ok start ∧
      moveByUnits start .week Int64.maxValue = .error .dateOutOfRange := by
  intro time start leapDay
  obtain ⟨hok, -, hunits, hthen⟩ := @moveByUnits_exact start rfl .hour _ rfl 24
  obtain ⟨-, hfails, -⟩ := @moveByUnits_exact start rfl .week _ rfl Int64.maxValue
  have hmove : moveByUnits start .hour 24 = .ok leapDay := (hok leapDay).mpr ⟨rfl, by decide⟩
  obtain ⟨-, hadd, hback⟩ := hthen leapDay hmove
  exact ⟨⟨rfl, hmove⟩, hunits .day _ 1 rfl (by decide), hadd 24 48 rfl, hback,
    (hfails _).mpr ⟨rfl, by decide⟩⟩

end Formula
