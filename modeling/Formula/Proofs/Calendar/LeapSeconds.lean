import Formula.Proofs.Calendar.Moves

/-!
# Proofs/Calendar/LeapSeconds — what a move by business days makes of the time of day

A move by business days looks at the day of its start and carries the time of day along, unless the
time lies in a leap second.  Out of a leap second no step of whole days leads to a leap second: a
step forward goes on from the ordinary second before it, a step backward from the second after it.
The second after the leap second that ends a day belongs to the next day, so that the first step
backward stays on the day of its start.  A start on a business day is then counted twice, and the
move ends one business day short (`Policy.Lags`).

`advance_same_day` says all of this, for two starts on one day.
-/

namespace Formula.Calendar

/-! ## Out of a leap second -/

namespace TimeOfDay

variable {t : TimeOfDay}

theorem fraction_lt (t : TimeOfDay) : t.nanos % nanosPerSecond < nanosPerSecond :=
  Nat.mod_lt _ (by decide)

/-- The ordinary second that a leap second follows, at the same fraction. -/
def ordinary (t : TimeOfDay) : TimeOfDay where
  seconds := t.seconds
  nanos := t.nanos % nanosPerSecond
  seconds_lt := t.seconds_lt
  nanos_lt := by have := t.fraction_lt; omega

/-- The second that follows on the clock, at the same fraction. -/
def following (t : TimeOfDay) : TimeOfDay where
  seconds := (t.seconds + 1) % secondsPerDay
  nanos := t.nanos % nanosPerSecond
  seconds_lt := Nat.mod_lt _ (by decide)
  nanos_lt := by have := t.fraction_lt; omega

/-- **The leap second that ends a day**, 23:59:60. -/
def EndsDay (t : TimeOfDay) : Prop := t.isLeapSecond = true ∧ t.seconds + 1 = secondsPerDay

instance : Decidable t.EndsDay := inferInstanceAs (Decidable (_ ∧ _))

theorem isLeapSecond_ordinary (t : TimeOfDay) : t.ordinary.isLeapSecond = false :=
  decide_eq_false (Nat.not_le.mpr t.fraction_lt)

theorem isLeapSecond_following (t : TimeOfDay) : t.following.isLeapSecond = false :=
  decide_eq_false (Nat.not_le.mpr t.fraction_lt)

/-- The nanoseconds of a leap second begin with a whole second. -/
theorem fraction_of_isLeapSecond (ht : t.isLeapSecond = true) :
    ((t.nanos % nanosPerSecond : Nat) : Int) = t.nanos - Calendar.second := by
  have hle : nanosPerSecond ≤ t.nanos := of_decide_eq_true ht
  have hlt := t.nanos_lt
  simp only [nanosPerSecond, second_eq] at hle hlt ⊢
  omega

end TimeOfDay

namespace DateTime

variable {t : DateTime} {n : Int}

/-- A number of days is a number of whole seconds. -/
theorem days_in_seconds (n : Int) :
    (n * dayLength).tdiv second = n * 86400 ∧ (n * dayLength).tmod second = 0 := by
  rw [dayLength, ← mul_assoc]
  exact ⟨Int.mul_tdiv_cancel _ (by decide), Int.mul_tmod_left _ _⟩

/-- **Forward out of a leap second** the way goes on from the second before it. -/
theorem addDays?_of_leap_pos (ht : t.time.isLeapSecond = true) (hn : 0 < n) :
    t.addDays? n = (⟨t.date, t.time.ordinary⟩ : DateTime).addDays? n := by
  obtain ⟨hseconds, -⟩ := days_in_seconds n
  rw [addDays?, addDays?, addNanos?, addNanos?, hseconds, if_pos ht, if_pos (.inl (by omega)),
    if_neg (by rw [TimeOfDay.isLeapSecond_ordinary]; exact Bool.false_ne_true)]
  dsimp only [TimeOfDay.ordinary]
  rw [TimeOfDay.fraction_of_isLeapSecond ht]

/-- **Backward out of a leap second** the way goes on from the second after it, which may be the
first of the next day. -/
theorem addDays?_of_leap_neg (ht : t.time.isLeapSecond = true) (hn : n < 0) :
    t.addDays? n = (⟨t.date, t.time.following⟩ : DateTime).addDays?
      (n + if t.time.EndsDay then 1 else 0) := by
  obtain ⟨hseconds, hfraction⟩ := days_in_seconds n
  rw [addDays?, addDays?, addNanos?, addNanos?, hseconds, hfraction, if_pos ht, if_neg (by omega),
    if_pos (by omega), if_neg (by rw [TimeOfDay.isLeapSecond_following]; exact Bool.false_ne_true)]
  dsimp only [TimeOfDay.following]
  rw [TimeOfDay.fraction_of_isLeapSecond ht]
  have hlt := t.time.seconds_lt
  refine congrArg _ ?_
  by_cases hend : t.time.EndsDay
  · have hmidnight : (t.time.seconds + 1) % secondsPerDay = 0 := by rw [hend.2, Nat.mod_self]
    have hlast := hend.2
    rw [if_pos hend, hmidnight, dayLength_eq, second_eq]
    simp only [secondsPerDay] at hlast
    omega
  · have hnext : (t.time.seconds + 1) % secondsPerDay = t.time.seconds + 1 :=
      Nat.mod_eq_of_lt (Nat.lt_of_le_of_ne hlt fun h => hend ⟨ht, h⟩)
    rw [if_neg hend, hnext, dayLength_eq, second_eq]
    omega

end DateTime

namespace Policy

variable {t : DateTime}

/-! ## The first step -/

/-- The second from which the way out of a leap second goes on. -/
def Heading.outOf : Heading → TimeOfDay → TimeOfDay
  | .forward => TimeOfDay.ordinary
  | .backward => TimeOfDay.following

/-- **The time of day that a walk keeps** from its first step on. -/
def Heading.clock (h : Heading) (t : TimeOfDay) : TimeOfDay :=
  if t.isLeapSecond then h.outOf t else t

theorem Heading.clock_of_leap (h : Heading) {t : TimeOfDay} (ht : t.isLeapSecond = true) :
    h.clock t = h.outOf t :=
  if_pos ht

theorem Heading.clock_of_not_leap (h : Heading) {t : TimeOfDay} (ht : t.isLeapSecond = false) :
    h.clock t = t :=
  if_neg (by rw [ht]; exact Bool.false_ne_true)

theorem Heading.isLeapSecond_clock (h : Heading) (t : TimeOfDay) :
    (h.clock t).isLeapSecond = false := by
  cases ht : t.isLeapSecond with
  | false => rw [h.clock_of_not_leap ht, ht]
  | true =>
    rw [h.clock_of_leap ht]
    cases h with
    | forward => exact t.isLeapSecond_ordinary
    | backward => exact t.isLeapSecond_following

/-- The day of a start, at the time of day that a walk from it keeps. -/
def Heading.origin (h : Heading) (t : DateTime) : DateTime := ⟨t.date, h.clock t.time⟩

theorem Heading.isLeapSecond_origin (h : Heading) (t : DateTime) :
    (h.origin t).time.isLeapSecond = false :=
  h.isLeapSecond_clock t.time

/-- **The first step of a walk** goes on from the time of day that the walk keeps, unless it leads
backward from the end of a day. -/
theorem Heading.step?_origin (h : Heading) (hend : ¬(h = .backward ∧ t.time.EndsDay)) :
    h.step? t = h.step? (h.origin t) := by
  rw [origin]
  cases ht : t.time.isLeapSecond with
  | false => rw [h.clock_of_not_leap ht]
  | true =>
    rw [h.clock_of_leap ht]
    cases h with
    | forward => exact DateTime.addDays?_of_leap_pos ht (by decide)
    | backward =>
      have hstep := @DateTime.addDays?_of_leap_neg t (-1) ht (by decide)
      rw [if_neg fun hday => hend ⟨rfl, hday⟩] at hstep
      exact hstep

/-- From the end of a day the first step backward comes to the beginning of that day. -/
theorem step?_of_endsDay (hend : t.time.EndsDay) :
    Heading.backward.step? t = some (Heading.backward.origin t) := by
  have hstep := @DateTime.addDays?_of_leap_neg t (-1) hend.1 (by decide)
  have hfollowing : (⟨t.date, t.time.following⟩ : DateTime).time.isLeapSecond = false :=
    t.time.isLeapSecond_following
  have hsame : t.date.addDays? (-1 + 1) = some t.date :=
    Date.addDays?_eq_some_iff.mpr (add_zero _).symm
  rw [if_pos hend, DateTime.addDays?_of_not_leap hfollowing, hsame] at hstep
  rw [Heading.origin, Heading.clock_of_leap _ hend.1]
  exact hstep

/-! ## The rest of the way -/

/-- On a business day a move counts the day and steps. -/
theorem move?_of_isBusinessDay (p : Policy) (hb : p.isBusinessDay t.date = true) {count : Int}
    (hcount : count ≠ 0) :
    p.move? t count
      = ((headingOf count).step? t).bind (p.walk? (headingOf count) (count.natAbs - 1)) := by
  have hsnap : p.snap? (headingOf count) t = some t := if_pos hb
  obtain ⟨n, hn⟩ : ∃ n, count.natAbs = n + 1 := ⟨count.natAbs - 1, by omega⟩
  rw [move?, if_neg hcount, if_pos hb, hn, walk?, hsnap]
  dsimp only
  cases (headingOf count).step? t <;> rfl

/-- On a day of rest it goes on from where the snap ends. -/
theorem move?_of_not_isBusinessDay (p : Policy) (hb : ¬p.isBusinessDay t.date = true)
    (count : Int) :
    p.move? t count = (((headingOf count).step? t).bind (p.snapWithin (headingOf count) 6)).bind
      (if count = 0 then some else p.walk? (headingOf count) (count.natAbs - 1)) := by
  have hsnap : p.snap? (headingOf count) t
      = ((headingOf count).step? t).bind (p.snapWithin (headingOf count) 6) := if_neg hb
  rw [move?, if_neg hb, ← hsnap]
  split
  · exact (Option.bind_fun_some _).symm
  · rfl

/-- **A move that ends a business day short**: it goes back from the leap second that ends a
business day, and counts that day twice. -/
def Lags (p : Policy) (start : DateTime) (count : Int) : Prop :=
  count < 0 ∧ start.time.EndsDay ∧ p.isBusinessDay start.date = true

instance (p : Policy) (start : DateTime) (count : Int) : Decidable (p.Lags start count) :=
  inferInstanceAs (Decidable (_ ∧ _ ∧ _))

/-- The first step backward from the end of a day is a step for nothing. -/
theorem move?_of_endsDay (p : Policy) (hend : t.time.EndsDay) {count : Int} (hneg : count < 0) :
    p.move? t count = p.move? (Heading.backward.origin t)
      (if p.isBusinessDay t.date = true then count + 1 else count) := by
  have hback : headingOf count = .backward := if_pos hneg
  have horigin := Heading.backward.isLeapSecond_origin t
  by_cases hb : p.isBusinessDay t.date = true
  · have hb' : p.isBusinessDay (Heading.backward.origin t).date = true := hb
    rw [if_pos hb, p.move?_of_isBusinessDay hb hneg.ne, hback, step?_of_endsDay hend,
      Option.bind_some]
    by_cases hone : count + 1 = 0
    · rw [hone, move?_zero horigin hb', show count.natAbs - 1 = 0 by omega]
      exact if_pos hb
    · rw [move?, if_neg hone, if_pos hb', headingOf, if_pos (by omega),
        show (count + 1).natAbs = count.natAbs - 1 by omega]
  · have hb' : ¬p.isBusinessDay (Heading.backward.origin t).date = true := hb
    rw [if_neg hb, p.move?_of_not_isBusinessDay hb, hback, step?_of_endsDay hend, Option.bind_some,
      p.snapWithin_eq_snap? .backward horigin (by decide), move?, if_neg hneg.ne, if_neg hneg.ne,
      if_neg hb', hback]

/-- **A move that steps is the move from the time of day that it keeps**, by one day less if it
lags. -/
theorem move?_origin (p : Policy) (t : DateTime) {count : Int}
    (hsteps : ¬(count = 0 ∧ p.isBusinessDay t.date = true)) :
    p.move? t count = p.move? ((headingOf count).origin t)
      (if p.Lags t count then count + 1 else count) := by
  by_cases hend : count < 0 ∧ t.time.EndsDay
  · rw [p.move?_of_endsDay hend.2 hend.1, headingOf, if_pos hend.1]
    exact congrArg _ (if_congr ⟨fun hb => ⟨hend.1, hend.2, hb⟩, fun h => h.2.2⟩ rfl rfl)
  · have hstep :
        (headingOf count).step? t = (headingOf count).step? ((headingOf count).origin t) := by
      refine (headingOf count).step?_origin fun hback => hend ⟨?_, hback.2⟩
      by_contra hneg
      have hforward : headingOf count = .forward := if_neg hneg
      exact absurd (hback.1.symm.trans hforward) (by decide)
    rw [if_neg fun h => hend ⟨h.1, h.2.1⟩]
    by_cases hb : p.isBusinessDay t.date = true
    · have hb' : p.isBusinessDay ((headingOf count).origin t).date = true := hb
      have hcount : count ≠ 0 := fun h => hsteps ⟨h, hb⟩
      rw [p.move?_of_isBusinessDay hb hcount, p.move?_of_isBusinessDay hb' hcount, hstep]
    · have hb' : ¬p.isBusinessDay ((headingOf count).origin t).date = true := hb
      rw [p.move?_of_not_isBusinessDay hb, p.move?_of_not_isBusinessDay hb', hstep]

/-! ## Day and time apart -/

/-- The day on which a move from a date ends, away from leap seconds. -/
def endDay? (p : Policy) (d : Date) (count : Int) : Option Date :=
  (p.move? (.atMidnight d) count).map DateTime.date

/-- Away from leap seconds a move is a move of the date, and carries the time of day along. -/
theorem move?_of_not_leap (p : Policy) (ht : t.time.isLeapSecond = false) (count : Int) :
    p.move? t count = (p.endDay? t.date count).map fun d => ⟨d, t.time⟩ := by
  refine Option.ext fun u => ?_
  rw [endDay?, Option.map_map, Option.map_eq_some_iff, p.move?_eq_some_iff_rank ht]
  constructor
  · rintro ⟨htime, hb, hrank⟩
    refine ⟨⟨u.date, .midnight⟩, (p.move?_eq_some_iff_rank rfl _ _).mpr ⟨rfl, hb, hrank⟩, ?_⟩
    rw [Function.comp_apply, ← htime]
  · rintro ⟨v, hv, rfl⟩
    obtain ⟨-, hb, hrank⟩ := (p.move?_eq_some_iff_rank rfl _ _).mp hv
    exact ⟨rfl, hb, hrank⟩

/-- **The time of day at which a move ends**: that of its start if it takes no step, and else the
one that a walk keeps. -/
def kept (p : Policy) (start : DateTime) (count : Int) : TimeOfDay :=
  if count = 0 ∧ p.isBusinessDay start.date = true then start.time
  else (headingOf count).clock start.time

theorem kept_of_not_leap (p : Policy) (ht : t.time.isLeapSecond = false) (count : Int) :
    p.kept t count = t.time := by
  rw [kept, Heading.clock_of_not_leap _ ht, ite_self]

/-- **A move is a move of the date and a change of the time of day**, apart from each other but for
the day that it may lag. -/
theorem move?_eq_endDay? (p : Policy) (t : DateTime) (count : Int) :
    p.move? t count = (p.endDay? t.date (if p.Lags t count then count + 1 else count)).map
      fun d => ⟨d, p.kept t count⟩ := by
  by_cases hsteps : count = 0 ∧ p.isBusinessDay t.date = true
  · have hstay (u : DateTime) (hu : p.isBusinessDay u.date = true) : p.move? u 0 = some u :=
      if_pos hu
    obtain ⟨rfl, hb⟩ := hsteps
    rw [if_neg fun h => absurd h.1 (lt_irrefl 0), endDay?, hstay t hb,
      hstay (.atMidnight t.date) hb, kept, if_pos ⟨rfl, hb⟩]
    rfl
  · rw [p.move?_origin t hsteps, p.move?_of_not_leap (Heading.isLeapSecond_origin _ t), kept,
      if_neg hsteps]
    rfl

/-! ## Two starts on one day -/

/-- A move that is not within the bound is refused whatever its start. -/
theorem advance_of_bound_lt (p : Policy) (t u : DateTime) {count : Int64}
    (hc : maxSteps < count.toInt.natAbs) : p.advance t count = p.advance u count := by
  rw [advance, advance, if_pos hc, if_pos hc]

/-- The day on which a move within the bound ends. -/
theorem map_date_advance (p : Policy) (t : DateTime) {count : Int64}
    (hc : count.toInt.natAbs ≤ maxSteps) :
    (p.advance t count).map DateTime.date
      = match p.endDay? t.date (if p.Lags t count.toInt then count.toInt + 1 else count.toInt) with
        | some d => .ok d
        | none => .error .outOfRange := by
  rw [p.advance_eq_move? t hc, p.move?_eq_endDay?]
  cases p.endDay? t.date (if p.Lags t count.toInt then count.toInt + 1 else count.toInt) <;> rfl

/-- **Moves from two starts on one day.**  Away from leap seconds they end on one day, or both fail,
and each at the time of day of its start.  A start in a leap second makes no difference to the day
unless the move lags; then it ends where a move by one business day less does.  The time at which a
move ends is the one that it keeps. -/
theorem advance_same_day (p : Policy) {t u : DateTime} (hdate : t.date = u.date) (count : Int64) :
    (t.time.isLeapSecond = false → u.time.isLeapSecond = false →
      (p.advance t count).map DateTime.date = (p.advance u count).map DateTime.date ∧
        ∀ r, p.advance t count = .ok r → r.time = t.time) ∧
    (¬p.Lags t count.toInt → ¬p.Lags u count.toInt →
      (p.advance t count).map DateTime.date = (p.advance u count).map DateTime.date) ∧
    (p.Lags t count.toInt → ¬u.time.EndsDay → count.toInt.natAbs ≤ maxSteps →
      (p.advance t count).map DateTime.date = (p.advance u (count + 1)).map DateTime.date) ∧
    ∀ r, p.advance t count = .ok r → r.time = p.kept t count.toInt := by
  have hday (ht : ¬p.Lags t count.toInt) (hu : ¬p.Lags u count.toInt) :
      (p.advance t count).map DateTime.date = (p.advance u count).map DateTime.date := by
    by_cases hc : count.toInt.natAbs ≤ maxSteps
    · rw [p.map_date_advance t hc, p.map_date_advance u hc, if_neg ht, if_neg hu, hdate]
    · rw [p.advance_of_bound_lt t u (not_le.mp hc)]
  have htime (r : DateTime) (hr : p.advance t count = .ok r) : r.time = p.kept t count.toInt := by
    have hmove := move?_of_advance hr
    rw [p.move?_eq_endDay?, Option.map_eq_some_iff] at hmove
    obtain ⟨d, -, rfl⟩ := hmove
    rfl
  have hordinary {s : DateTime} (hs : s.time.isLeapSecond = false) : ¬p.Lags s count.toInt :=
    fun h => absurd h.2.1.1 (by rw [hs]; exact Bool.false_ne_true)
  refine ⟨fun ht hu => ⟨hday (hordinary ht) (hordinary hu), fun r hr => ?_⟩, hday,
    fun ht hu hc => ?_, htime⟩
  · rw [htime r hr, p.kept_of_not_leap ht]
  · have hneg := ht.1
    have hone : (1 : Int64).toInt = 1 := rfl
    have hadd : (count + 1).toInt = count.toInt + 1 := by
      have h := @toInt_add_of_natAbs_le count 1 (by rw [hone]; omega)
      rwa [hone] at h
    rw [p.map_date_advance t hc, p.map_date_advance u (by rw [hadd]; omega), if_pos ht,
      if_neg fun h => hu h.2.1, hadd, hdate]

/-- One business day back from noon of Friday, 7 June 2024, ends on the day on which one back from
its midnight ends, and one back from the leap second that ends the Friday on the day on which a move
from noon by none ends. -/
theorem advance_same_day_friday :
    let friday : Date := ⟨739043, by decide, by decide⟩
    let noon : DateTime := ⟨friday, 43200, 0, by decide, by decide⟩
    let leap : DateTime := ⟨friday, 86399, 1000000000, by decide, by decide⟩
    let move := mondayToFriday.advance
    (noon.date = leap.date ∧ noon.time.isLeapSecond = false ∧ mondayToFriday.Lags leap (-1) ∧
        ¬noon.time.EndsDay) ∧
      (move noon (-1)).map DateTime.date = (move (.atMidnight friday) (-1)).map DateTime.date ∧
      (move leap (-1)).map DateTime.date = (move noon 0).map DateTime.date := by
  intro friday noon leap move
  have hlags : mondayToFriday.Lags leap (-1) := ⟨by decide, ⟨rfl, rfl⟩, by decide⟩
  have hnoon : ¬noon.time.EndsDay := fun h => absurd h.2 (by decide)
  obtain ⟨hordinary, -⟩ := @advance_same_day mondayToFriday noon (.atMidnight friday) rfl (-1)
  obtain ⟨-, -, hleap, -⟩ := @advance_same_day mondayToFriday leap noon rfl (-1)
  exact ⟨⟨rfl, rfl, hlags, hnoon⟩, (hordinary rfl rfl).1, hleap hlags hnoon (by decide)⟩

/-- **A leap second makes a difference.**  One business day back from noon of Friday, 7 June 2024,
is noon of Thursday, and from the leap second that ends the Friday it is the beginning of the
Friday; one business day on from the leap second of the Thursday is the second before the leap
second. -/
theorem advance_leap_second :
    let thursday : Date := ⟨739042, by decide, by decide⟩
    let friday : Date := ⟨739043, by decide, by decide⟩
    let noon : TimeOfDay := ⟨43200, 0, by decide, by decide⟩
    let leap : TimeOfDay := ⟨86399, 1000000000, by decide, by decide⟩
    let before : TimeOfDay := ⟨86399, 0, by decide, by decide⟩
    (mondayToFriday.advance ⟨friday, noon⟩ (-1) = .ok ⟨thursday, noon⟩ ∧
        mondayToFriday.advance ⟨friday, leap⟩ (-1) = .ok (.atMidnight friday) ∧
        friday ≠ thursday) ∧
      mondayToFriday.advance ⟨thursday, leap⟩ 1 = .ok ⟨friday, before⟩ ∧ before ≠ leap := by
  decide

end Policy

end Formula.Calendar
