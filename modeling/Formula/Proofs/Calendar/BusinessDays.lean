import Formula.Calendar.Business
import Mathlib

/-!
# Proofs/Calendar/BusinessDays — a move by business days ends on the day that it counts

`Policy.advance` leaves business days behind one at a time.  `advance_ok_iff_reaches` says where it
ends without walking: on the business day for which an interval of days holds exactly `count`
business days, and nowhere exactly when the calendar has no such day.

Both directions of travel are one argument.  The day `i` days ahead of `a` is `a + h.sign * i`, so
that a walk is a search along the natural numbers, and the business days it leaves behind are a
`Nat.count`.  `Stops` is the invariant: `n` business days lie between the start of the walk, the
start included, and its end, the end excluded.
-/

namespace Formula.Calendar

open Finset

/-! ## One day ahead

Away from leap seconds a day has one length, so that a step changes the day and nothing else. -/

theorem second_eq : second = 1000000000 := rfl

theorem dayLength_eq : dayLength = 86400000000000 := rfl

namespace TimeOfDay

theorem nanos_lt_of_not_leap {t : TimeOfDay} (ht : t.isLeapSecond = false) :
    t.nanos < nanosPerSecond :=
  not_le.mp (of_decide_eq_false ht)

/-- **The nanoseconds of a time of day and of whole days do not mix**: a division by the length of
a day, and then of a second, takes them apart again. -/
theorem split_nanos {t : TimeOfDay} (ht : t.isLeapSecond = false) (n : Int) :
    ((t.seconds : Int) * Calendar.second + t.nanos + n * dayLength) / dayLength = n ∧
      ((t.seconds : Int) * Calendar.second + t.nanos + n * dayLength) % dayLength / Calendar.second
        = t.seconds ∧
      ((t.seconds : Int) * Calendar.second + t.nanos + n * dayLength) % Calendar.second
        = t.nanos := by
  have hnanos := nanos_lt_of_not_leap ht
  have hseconds := t.seconds_lt
  simp only [nanosPerSecond, secondsPerDay] at hnanos hseconds
  rw [second_eq, dayLength_eq]
  omega

end TimeOfDay

/-- **Away from leap seconds a move by whole days keeps the time of day.** -/
theorem DateTime.addDays?_of_not_leap {t : DateTime} (ht : t.time.isLeapSecond = false) (n : Int) :
    t.addDays? n = (t.date.addDays? n).map fun d => ⟨d, t.time⟩ := by
  obtain ⟨hday, hseconds, hnanos⟩ := TimeOfDay.split_nanos ht n
  rw [addDays?, addNanos?, if_neg (by rw [ht]; exact Bool.false_ne_true), ofNanos?, hday, hseconds,
    hnanos, Int.toNat_natCast, Int.toNat_natCast, TimeOfDay.ofSeconds?_self, Date.addDays?]
  cases Date.ofDay? (t.date.day + n) <;> rfl

theorem Date.addDays?_eq_some_iff {a d : Date} {n : Int} :
    a.addDays? n = some d ↔ d.day = a.day + n := by
  rw [addDays?, ofDay?]
  split
  · rw [Option.some.injEq]
    exact ⟨fun h => by rw [← h], fun h => by obtain ⟨day, _, _⟩ := d; cases h; rfl⟩
  · next hout =>
    refine ⟨nofun, fun h => absurd ?_ hout⟩
    rw [← h]
    exact ⟨d.first_le, d.le_last⟩

namespace Policy

/-- The step from one day to the next, in day numbers. -/
def Heading.sign : Heading → Int
  | .forward => 1
  | .backward => -1

theorem Heading.step?_eq_some_iff (h : Heading) {t u : DateTime}
    (ht : t.time.isLeapSecond = false) :
    h.step? t = some u ↔ u.date.day = t.date.day + h.sign ∧ u.time = t.time := by
  have hstep : h.step? t = (t.date.addDays? h.sign).map fun d => ⟨d, t.time⟩ := by
    cases h <;> exact DateTime.addDays?_of_not_leap ht _
  rw [hstep, Option.map_eq_some_iff]
  constructor
  · rintro ⟨d, hd, rfl⟩
    exact ⟨Date.addDays?_eq_some_iff.mp hd, rfl⟩
  · rintro ⟨hday, htime⟩
    exact ⟨u.date, Date.addDays?_eq_some_iff.mpr hday, by rw [← htime]⟩

/-- Between two days of the calendar there are no gaps. -/
theorem Heading.exists_date (h : Heading) {a d : Date} {i j : Nat}
    (hd : d.day = a.day + h.sign * j) (hij : i ≤ j) : ∃ b : Date, b.day = a.day + h.sign * i := by
  have ha := a.first_le
  have ha' := a.le_last
  have hd' := d.first_le
  have hd'' := d.le_last
  refine ⟨⟨a.day + h.sign * i, ?_, ?_⟩, rfl⟩ <;> cases h <;> simp only [sign] at hd ⊢ <;> omega

/-! ## The days ahead -/

/-- The business days of a policy, as days of the week from Monday on. -/
def workdays : Policy → List Nat
  | mondayToFriday => [0, 1, 2, 3, 4]
  | mondayToSaturday => [0, 1, 2, 3, 4, 5]
  | sundayToThursday => [6, 0, 1, 2, 3]
  | sundayToFriday => [6, 0, 1, 2, 3, 4]

/-- **The mask of a policy has the bits of its business days.** -/
theorem worksOn_iff (p : Policy) {weekday : Nat} (h : weekday < 7) :
    p.worksOn weekday = true ↔ weekday ∈ p.workdays := by
  revert weekday h
  cases p <;> decide

/-- Whether the day with a given number is a business day. -/
def worksAt (p : Policy) (day : Int) : Bool := p.worksOn (day % 7).toNat

theorem weekday_lt (day : Int) : (day % 7).toNat < 7 := by omega

theorem isBusinessDay_eq_worksAt (p : Policy) (d : Date) : p.isBusinessDay d = p.worksAt d.day :=
  rfl

/-- The day `i` days ahead of `a` is a business day. -/
def WorksAhead (p : Policy) (h : Heading) (a : Int) (i : Nat) : Prop :=
  p.worksAt (a + h.sign * i) = true

instance (p : Policy) (h : Heading) (a : Int) : DecidablePred (p.WorksAhead h a) :=
  fun _ => inferInstanceAs (Decidable (_ = true))

/-- The start of a walk is day 0 of the days ahead. -/
theorem worksAhead_zero (p : Policy) (h : Heading) (d : Date) :
    p.WorksAhead h d.day 0 ↔ p.isBusinessDay d = true := by
  rw [WorksAhead, Nat.cast_zero, mul_zero, add_zero, isBusinessDay_eq_worksAt]

/-- What lies ahead of a day on the way lies further ahead of the start. -/
theorem worksAhead_add (p : Policy) (h : Heading) {a b : Int} {j : Nat} (hb : b = a + h.sign * j)
    (i : Nat) : p.WorksAhead h a (j + i) ↔ p.WorksAhead h b i := by
  rw [WorksAhead, WorksAhead, hb, Nat.cast_add, mul_add, add_assoc]

/-- A count of business days ahead may be interrupted on the way. -/
theorem count_worksAhead_add (p : Policy) (h : Heading) {a b : Int} {j : Nat}
    (hb : b = a + h.sign * j) (i : Nat) :
    Nat.count (p.WorksAhead h a) (j + i)
      = Nat.count (p.WorksAhead h a) j + Nat.count (p.WorksAhead h b) i := by
  rw [Nat.count_add]
  exact congrArg _ (le_antisymm
    (Nat.count_mono_left fun k _ => (p.worksAhead_add h hb k).mp)
    (Nat.count_mono_left fun k _ => (p.worksAhead_add h hb k).mpr))

/-- **No policy rests for more than two days**: of any three days ahead one is a business day. -/
theorem exists_worksAhead (p : Policy) (h : Heading) (a : Int) : ∃ i ≤ 2, p.WorksAhead h a i := by
  have key : p.worksAt (a + h.sign * (0 : Nat)) ∨ p.worksAt (a + h.sign * (1 : Nat)) ∨
      p.worksAt (a + h.sign * (2 : Nat)) := by
    simp only [worksAt, p.worksOn_iff (weekday_lt _)]
    cases p <;> cases h <;> simp [workdays, Heading.sign] <;> omega
  rcases key with h₀ | h₁ | h₂
  · exact ⟨0, by omega, h₀⟩
  · exact ⟨1, by omega, h₁⟩
  · exact ⟨2, by omega, h₂⟩

/-! ## The invariant of a walk -/

/-- **Where a walk stops** that leaves `n` business days behind: on a business day, `n` business
days after `t` with `t` itself counted, at the time of day of `t`. -/
def Stops (p : Policy) (h : Heading) (n : Nat) (t u : DateTime) : Prop :=
  u.time = t.time ∧ ∃ j : Nat, u.date.day = t.date.day + h.sign * j ∧
    p.WorksAhead h t.date.day j ∧ Nat.count (p.WorksAhead h t.date.day) j = n

/-- The business days that are left behind when a day is left: the day itself, if it is one. -/
def leaving (p : Policy) (d : Date) : Nat := if p.isBusinessDay d then 1 else 0

theorem count_one_eq_leaving (p : Policy) (h : Heading) (d : Date) :
    Nat.count (p.WorksAhead h d.day) 1 = p.leaving d := by
  rw [Nat.count_one, leaving]
  exact if_congr (p.worksAhead_zero h d) rfl rfl

/-- **One step of a walk**: a walk that leaves its start stops where the walk from the next day
does. -/
theorem stops_leaving_iff (p : Policy) (h : Heading) (n : Nat) {t : DateTime}
    (ht : t.time.isLeapSecond = false) (u : DateTime) :
    p.Stops h (n + p.leaving t.date) t u ↔ ∃ s, h.step? t = some s ∧ p.Stops h n s u := by
  constructor
  · rintro ⟨htime, j, hday, hj, hcount⟩
    -- The start is no place to stop: it is a day of rest, or it has to be counted.
    have hj0 : j ≠ 0 := by
      rintro rfl
      rw [worksAhead_zero] at hj
      rw [Nat.count_zero, leaving, if_pos hj] at hcount
      omega
    obtain ⟨i, rfl⟩ : ∃ i, j = 1 + i := ⟨j - 1, by omega⟩
    obtain ⟨b, hb⟩ := h.exists_date hday (Nat.le_add_right 1 i)
    rw [p.count_worksAhead_add h hb, count_one_eq_leaving] at hcount
    refine ⟨⟨b, t.time⟩, (h.step?_eq_some_iff ht).mpr ⟨?_, rfl⟩, htime, i, ?_,
      (p.worksAhead_add h hb i).mp hj, ?_⟩
    · rw [hb, Nat.cast_one, mul_one]
    · rw [hday, hb, Nat.cast_add, mul_add, add_assoc]
    · exact Nat.add_left_cancel (hcount.trans (Nat.add_comm n _))
  · rintro ⟨s, hs, htime, i, hday, hi, hcount⟩
    obtain ⟨hsday, hstime⟩ := (h.step?_eq_some_iff ht).mp hs
    have hb : s.date.day = t.date.day + h.sign * (1 : Nat) := by
      rw [hsday, Nat.cast_one, mul_one]
    refine ⟨htime.trans hstime, 1 + i, ?_, (p.worksAhead_add h hb i).mpr hi, ?_⟩
    · rw [hday, hb, Nat.cast_add, mul_add, add_assoc]
    · rw [p.count_worksAhead_add h hb, count_one_eq_leaving, hcount, Nat.add_comm]

/-- A walk goes on from the first business day that it meets. -/
theorem stops_of_first (p : Policy) (h : Heading) {t b : DateTime} (hb : p.Stops h 0 t b) (n : Nat)
    (u : DateTime) : p.Stops h n b u ↔ p.Stops h n t u := by
  obtain ⟨hbtime, j, hbday, hj, hnone⟩ := hb
  constructor
  · rintro ⟨htime, i, hday, hi, hcount⟩
    refine ⟨htime.trans hbtime, j + i, ?_, (p.worksAhead_add h hbday i).mpr hi, ?_⟩
    · rw [hday, hbday, Nat.cast_add, mul_add, add_assoc]
    · rw [p.count_worksAhead_add h hbday, hnone, hcount, Nat.zero_add]
  · rintro ⟨htime, k, hday, hk, hcount⟩
    have hjk : j ≤ k :=
      Nat.le_of_not_lt fun hkj => Nat.count_iff_forall_not.mp hnone k hkj hk
    obtain ⟨i, rfl⟩ := Nat.exists_eq_add_of_le hjk
    rw [p.count_worksAhead_add h hbday, hnone, Nat.zero_add] at hcount
    refine ⟨htime.trans hbtime.symm, i, ?_, (p.worksAhead_add h hbday i).mp hk, hcount⟩
    rw [hday, hbday, Nat.cast_add, mul_add, add_assoc]

/-- A walk that stops meets a first business day. -/
theorem exists_first_of_stops (p : Policy) (h : Heading) {n : Nat} {t u : DateTime}
    (hu : p.Stops h n t u) : ∃ b, p.Stops h 0 t b := by
  obtain ⟨-, j, hday, hj, -⟩ := hu
  have hex : ∃ i, p.WorksAhead h t.date.day i := ⟨j, hj⟩
  obtain ⟨b, hb⟩ := h.exists_date hday (Nat.find_min' hex hj)
  exact ⟨⟨b, t.time⟩, rfl, Nat.find hex, hb, Nat.find_spec hex,
    Nat.count_iff_forall_not.mpr fun _ hi => Nat.find_min hex hi⟩

/-- A walk stops on a business day. -/
theorem Stops.isBusinessDay {p : Policy} {h : Heading} {n : Nat} {t u : DateTime}
    (hu : p.Stops h n t u) : p.isBusinessDay u.date = true := by
  obtain ⟨-, j, hday, hj, -⟩ := hu
  rw [isBusinessDay_eq_worksAt, hday]
  exact hj

/-- A walk that has nothing to count stops on a business day at once. -/
theorem stops_zero_self_iff (p : Policy) (h : Heading) {t : DateTime}
    (hb : p.isBusinessDay t.date = true) (u : DateTime) : p.Stops h 0 t u ↔ t = u := by
  have hself : p.Stops h 0 t t :=
    ⟨rfl, 0, by rw [Nat.cast_zero, mul_zero, add_zero], (p.worksAhead_zero h t.date).mpr hb,
      Nat.count_zero _⟩
  refine ⟨?_, fun htu => htu ▸ hself⟩
  rintro ⟨htime, j, hday, hj, hcount⟩
  obtain rfl : j = 0 := by
    by_contra hj0
    exact Nat.count_iff_forall_not.mp hcount 0 (Nat.pos_of_ne_zero hj0)
      ((p.worksAhead_zero h t.date).mpr hb)
  rw [Nat.cast_zero, mul_zero, add_zero] at hday
  obtain ⟨⟨day, _, _⟩, time⟩ := t
  obtain ⟨⟨day', _, _⟩, time'⟩ := u
  cases hday
  cases htime
  rfl

/-! ## Snapping and walking -/

/-- A step keeps the time of day, and so keeps out of leap seconds. -/
theorem not_leap_of_step? {h : Heading} {t s : DateTime} (ht : t.time.isLeapSecond = false)
    (hs : h.step? t = some s) : s.time.isLeapSecond = false := by
  rw [((h.step?_eq_some_iff ht).mp hs).2]
  exact ht

/-- **A snap with enough steps for the next business day stops there.** -/
theorem snapWithin_eq_some_iff (p : Policy) (h : Heading) {fuel : Nat} {t : DateTime}
    (ht : t.time.isLeapSecond = false) (hfuel : ∃ i < fuel, p.WorksAhead h t.date.day i)
    (u : DateTime) : p.snapWithin h fuel t = some u ↔ p.Stops h 0 t u := by
  induction fuel generalizing t with
  | zero =>
    obtain ⟨i, hi, -⟩ := hfuel
    exact absurd hi (Nat.not_lt_zero i)
  | succ fuel ih =>
    rw [snapWithin]
    by_cases hb : p.isBusinessDay t.date = true
    · rw [if_pos hb, Option.some.injEq, p.stops_zero_self_iff h hb]
    · have hrest : p.Stops h 0 t u ↔ p.Stops h (0 + p.leaving t.date) t u := by
        rw [leaving, if_neg hb]
      rw [if_neg hb, Option.bind_eq_some_iff, hrest, p.stops_leaving_iff h 0 ht]
      refine exists_congr fun s => and_congr_right fun hs => ?_
      refine ih (not_leap_of_step? ht hs) ?_
      -- The business day within reach is not today, so that one step less reaches it from `s`.
      obtain ⟨i, hi, hworks⟩ := hfuel
      have hi0 : i ≠ 0 := by
        rintro rfl
        exact hb ((p.worksAhead_zero h t.date).mp hworks)
      obtain ⟨k, rfl⟩ : ∃ k, i = 1 + k := ⟨i - 1, by omega⟩
      have hsday : s.date.day = t.date.day + h.sign * (1 : Nat) := by
        rw [((h.step?_eq_some_iff ht).mp hs).1, Nat.cast_one, mul_one]
      exact ⟨k, by omega, (p.worksAhead_add h hsday k).mp hworks⟩

/-- The steps of a snap always suffice. -/
theorem snap?_eq_some_iff (p : Policy) (h : Heading) {t : DateTime}
    (ht : t.time.isLeapSecond = false) (u : DateTime) :
    p.snap? h t = some u ↔ p.Stops h 0 t u := by
  obtain ⟨i, hi, hworks⟩ := p.exists_worksAhead h t.date.day
  exact p.snapWithin_eq_some_iff h ht ⟨i, by omega, hworks⟩ u

/-- **A snap is a search without a bound**: more steps do not change what it finds. -/
theorem snapWithin_eq_snap? (p : Policy) (h : Heading) {fuel : Nat} {t : DateTime}
    (ht : t.time.isLeapSecond = false) (hfuel : 3 ≤ fuel) :
    p.snapWithin h fuel t = p.snap? h t := by
  obtain ⟨i, hi, hworks⟩ := p.exists_worksAhead h t.date.day
  refine Option.ext fun u => ?_
  rw [p.snapWithin_eq_some_iff h ht ⟨i, by omega, hworks⟩, p.snap?_eq_some_iff h ht]

/-- **A walk stops where the invariant says**, for every number of days to be left behind. -/
theorem walk?_eq_some_iff (p : Policy) (h : Heading) (n : Nat) {t : DateTime}
    (ht : t.time.isLeapSecond = false) (u : DateTime) :
    p.walk? h n t = some u ↔ p.Stops h n t u := by
  induction n generalizing t with
  | zero => exact p.snap?_eq_some_iff h ht u
  | succ n ih =>
    have hwalk : p.walk? h (n + 1) t = some u
        ↔ ∃ b, p.snap? h t = some b ∧ ∃ s, h.step? b = some s ∧ p.walk? h n s = some u := by
      rw [walk?]
      cases p.snap? h t with
      | none => simp
      | some b => cases hs : h.step? b <;> simp [hs]
    rw [hwalk]
    constructor
    · rintro ⟨b, hb, s, hs, hu⟩
      have hfirst := (p.snap?_eq_some_iff h ht b).mp hb
      have hbt : b.time.isLeapSecond = false := by rw [hfirst.1]; exact ht
      have hrun := (ih (not_leap_of_step? hbt hs)).mp hu
      have hstops := (p.stops_leaving_iff h n hbt u).mpr ⟨s, hs, hrun⟩
      rw [leaving, if_pos hfirst.isBusinessDay] at hstops
      exact (p.stops_of_first h hfirst (n + 1) u).mp hstops
    · intro hu
      obtain ⟨b, hfirst⟩ := p.exists_first_of_stops h hu
      have hbt : b.time.isLeapSecond = false := by rw [hfirst.1]; exact ht
      have hstops := (p.stops_of_first h hfirst (n + 1) u).mpr hu
      have hone : n + 1 = n + p.leaving b.date := by rw [leaving, if_pos hfirst.isBusinessDay]
      rw [hone] at hstops
      obtain ⟨s, hs, hrun⟩ := (p.stops_leaving_iff h n hbt u).mp hstops
      exact ⟨b, (p.snap?_eq_some_iff h ht b).mpr hfirst, s, hs,
        (ih (not_leap_of_step? hbt hs)).mpr hrun⟩

/-- A walk may begin with a snap. -/
theorem snap?_bind_walk?_eq_some_iff (p : Policy) (h : Heading) (n : Nat) {t : DateTime}
    (ht : t.time.isLeapSecond = false) (u : DateTime) :
    (p.snap? h t).bind (p.walk? h n) = some u ↔ p.Stops h n t u := by
  rw [Option.bind_eq_some_iff]
  constructor
  · rintro ⟨b, hb, hu⟩
    have hfirst := (p.snap?_eq_some_iff h ht b).mp hb
    have hbt : b.time.isLeapSecond = false := by rw [hfirst.1]; exact ht
    exact (p.stops_of_first h hfirst n u).mp ((p.walk?_eq_some_iff h n hbt u).mp hu)
  · intro hu
    obtain ⟨b, hfirst⟩ := p.exists_first_of_stops h hu
    have hbt : b.time.isLeapSecond = false := by rw [hfirst.1]; exact ht
    exact ⟨b, (p.snap?_eq_some_iff h ht b).mpr hfirst,
      (p.walk?_eq_some_iff h n hbt u).mpr ((p.stops_of_first h hfirst n u).mpr hu)⟩

/-! ## Moves -/

/-- The direction of a move. -/
def headingOf (count : Int) : Heading := if count < 0 then .backward else .forward

/-- The business days that a move leaves behind.  A start on a day of rest is not one of them, and
the way to the first business day then uses up one of the days to be counted. -/
def daysBehind (p : Policy) (start : Date) (count : Int) : Nat :=
  if count = 0 then 0 else count.natAbs - 1 + p.leaving start

/-- The walk of a move, whatever the number of days. -/
def move? (p : Policy) (start : DateTime) (count : Int) : Option DateTime :=
  if count = 0 then p.snap? (headingOf count) start
  else if p.isBusinessDay start.date then p.walk? (headingOf count) count.natAbs start
  else (p.snap? (headingOf count) start).bind (p.walk? (headingOf count) (count.natAbs - 1))

theorem move?_eq_some_iff (p : Policy) {start : DateTime} (hs : start.time.isLeapSecond = false)
    (count : Int) (t : DateTime) :
    p.move? start count = some t
      ↔ p.Stops (headingOf count) (p.daysBehind start.date count) start t := by
  rw [move?, daysBehind]
  by_cases hzero : count = 0
  · rw [if_pos hzero, if_pos hzero]
    exact p.snap?_eq_some_iff _ hs t
  · rw [if_neg hzero, if_neg hzero, leaving]
    by_cases hb : p.isBusinessDay start.date = true
    · rw [if_pos hb, if_pos hb, Nat.sub_add_cancel (by omega)]
      exact p.walk?_eq_some_iff _ _ hs t
    · rw [if_neg hb, if_neg hb]
      exact p.snap?_bind_walk?_eq_some_iff _ _ hs t

/-- **Within the bound a move is its walk**, and leaving the calendar is its only failure. -/
theorem advance_eq_move? (p : Policy) (start : DateTime) {count : Int64}
    (hc : count.toInt.natAbs ≤ maxSteps) :
    p.advance start count
      = match p.move? start count.toInt with
        | some day => .ok day
        | none => .error .outOfRange := by
  have hmin : count ≠ Int64.minValue := by
    rintro rfl
    exact absurd hc (by decide)
  have hneg : count < 0 ↔ count.toInt < 0 := Int64.lt_iff_toInt_lt
  have hzero : count = 0 ↔ count.toInt = 0 := Int64.toInt_inj.symm
  have hheading : (if count < 0 then Heading.backward else .forward) = headingOf count.toInt :=
    if_congr hneg rfl rfl
  rw [advance, if_neg hmin, if_neg (Nat.not_lt.mpr hc), hheading]
  exact congrArg (fun walk : Option DateTime => match walk with
    | some day => Except.ok day
    | none => Except.error Halt.outOfRange) (if_congr hzero rfl rfl)

/-! ## Intervals of days -/

/-- The number of business days in a set of days. -/
def countIn (p : Policy) (days : Finset Int) : Nat := #{day ∈ days | p.worksAt day}

/-- The days that a walk enters on its way from one day to another, the last included. -/
noncomputable def Heading.entered : Heading → Int → Int → Finset Int
  | .forward, a, b => Ioc a b
  | .backward, a, b => Ico b a

theorem countIn_insert (p : Policy) {days : Finset Int} {day : Int} (hday : day ∉ days) :
    p.countIn (insert day days) = p.countIn days + if p.worksAt day then 1 else 0 := by
  rw [countIn, countIn, filter_insert]
  split
  · exact card_insert_of_notMem fun hmem => hday (mem_filter.mp hmem).1
  · rfl

theorem Heading.entered_succ (h : Heading) (a : Int) (j : Nat) :
    h.entered a (a + h.sign * (j + 1 : Nat))
      = insert (a + h.sign * (j + 1 : Nat)) (h.entered a (a + h.sign * j)) := by
  ext day
  cases h <;> simp only [entered, sign, mem_insert, mem_Ioc, mem_Ico] <;> omega

/-- **Counting ahead is counting in an interval.** -/
theorem countIn_entered (p : Policy) (h : Heading) (a : Int) (j : Nat) :
    p.countIn (h.entered a (a + h.sign * j))
      = Nat.count (fun i => p.WorksAhead h a (i + 1)) j := by
  induction j with
  | zero =>
    rw [Nat.cast_zero, mul_zero, add_zero, Nat.count_zero]
    cases h <;> simp [Heading.entered, countIn]
  | succ j ih =>
    have hnew : a + h.sign * (j + 1 : Nat) ∉ h.entered a (a + h.sign * j) := by
      cases h <;> simp only [Heading.entered, Heading.sign, mem_Ioc, mem_Ico] <;> omega
    rw [h.entered_succ, p.countIn_insert hnew, ih, Nat.count_succ]
    rfl

/-- **The days entered and the days left differ by the two ends of the way**: where a walk that
leaves `n` business days behind stops on a business day, it has entered as many as there were to
count. -/
theorem countIn_entered_add_leaving (p : Policy) (h : Heading) (a : Date) {j : Nat}
    (hj : p.WorksAhead h a.day j) :
    p.countIn (h.entered a.day (a.day + h.sign * j)) + p.leaving a
      = Nat.count (p.WorksAhead h a.day) j + 1 := by
  rw [← Nat.count_succ_eq_succ_count hj, countIn_entered, Nat.count_succ', leaving]
  exact congrArg _ (if_congr (p.worksAhead_zero h a).symm rfl rfl)

/-- A day with business days on the way to it lies ahead. -/
theorem Heading.pos_of_countIn_pos (h : Heading) (p : Policy) {a b : Int} {j : Nat}
    (hb : b = a + h.sign * j) (hpos : 0 < p.countIn (h.entered a b)) : 0 < h.sign * (b - a) := by
  have hne : b ≠ a := by
    rintro rfl
    have hempty : h.entered b b = ∅ := by cases h <;> simp [entered]
    rw [hempty, countIn, filter_empty, card_empty] at hpos
    exact Nat.lt_irrefl 0 hpos
  cases h <;> simp only [sign] at hb ⊢ <;> omega

/-- **Where a move stops, without a walk**: on a business day ahead that has `n` business days
between the start and itself, the start not counted. -/
theorem stops_iff_countIn (p : Policy) (h : Heading) {n : Nat} (hn : 0 < n) (t u : DateTime) :
    p.Stops h (n - 1 + p.leaving t.date) t u
      ↔ u.time = t.time ∧ p.isBusinessDay u.date = true ∧
        0 < h.sign * (u.date.day - t.date.day) ∧
        p.countIn (h.entered t.date.day u.date.day) = n := by
  constructor
  · intro hu
    obtain ⟨htime, j, hday, hj, hcount⟩ := id hu
    have hends := p.countIn_entered_add_leaving h t.date hj
    rw [← hday] at hends
    have hn' : p.countIn (h.entered t.date.day u.date.day) = n := by omega
    exact ⟨htime, hu.isBusinessDay, h.pos_of_countIn_pos p hday (hn' ▸ hn), hn'⟩
  · rintro ⟨htime, hb, hahead, hcount⟩
    obtain ⟨j, hday⟩ : ∃ j : Nat, u.date.day = t.date.day + h.sign * j := by
      refine ⟨(h.sign * (u.date.day - t.date.day)).toNat, ?_⟩
      cases h <;> simp only [Heading.sign] at hahead ⊢ <;> omega
    have hj : p.WorksAhead h t.date.day j := by
      rw [WorksAhead, ← hday, ← isBusinessDay_eq_worksAt]
      exact hb
    have hends := p.countIn_entered_add_leaving h t.date hj
    rw [← hday, hcount] at hends
    exact ⟨htime, j, hday, hj, by omega⟩

/-- A move by no days stops on the first business day from the start on. -/
theorem stops_forward_zero_iff (p : Policy) (t u : DateTime) :
    p.Stops .forward 0 t u
      ↔ u.time = t.time ∧ p.isBusinessDay u.date = true ∧ t.date.day ≤ u.date.day ∧
        ∀ b : Date, p.isBusinessDay b = true → t.date.day ≤ b.day → u.date.day ≤ b.day := by
  have hsign : Heading.forward.sign = 1 := rfl
  constructor
  · intro hu
    obtain ⟨htime, j, hday, -, hnone⟩ := id hu
    rw [hsign, one_mul] at hday
    refine ⟨htime, hu.isBusinessDay, by omega, fun b hb hle => Int.le_of_not_gt fun hlt => ?_⟩
    refine Nat.count_iff_forall_not.mp hnone (b.day - t.date.day).toNat (by omega) ?_
    rw [WorksAhead, hsign, one_mul, Int.toNat_of_nonneg (by omega), add_sub_cancel]
    exact hb
  · rintro ⟨htime, hb, hle, hfirst⟩
    have hday :
        u.date.day = t.date.day + Heading.forward.sign * (u.date.day - t.date.day).toNat := by
      rw [hsign, one_mul, Int.toNat_of_nonneg (by omega), add_sub_cancel]
    refine ⟨htime, _, hday, ?_, Nat.count_iff_forall_not.mpr fun i hi hworks => ?_⟩
    · rw [WorksAhead, ← hday, ← isBusinessDay_eq_worksAt]
      exact hb
    · obtain ⟨b, hbday⟩ := Heading.forward.exists_date hday hi.le
      have hbb : p.isBusinessDay b = true := by
        rw [isBusinessDay_eq_worksAt, hbday]
        exact hworks
      have hub := hfirst b hbb
      rw [hbday, hsign, one_mul] at hub
      omega

/-- **The day that a move by business days asks for.**  For a count above zero, exactly that many
business days lie after the start and not after the day; for a count below zero, they lie before the
start and not before the day; for a count of zero it is the first business day from the start on. -/
structure Reaches (p : Policy) (start : Date) (count : Int) (d : Date) : Prop where
  business : p.isBusinessDay d = true
  after : 0 < count → start.day < d.day ∧ (p.countIn (Ioc start.day d.day) : Int) = count
  before : count < 0 → d.day < start.day ∧ (p.countIn (Ico d.day start.day) : Int) = -count
  first : count = 0 →
    start.day ≤ d.day ∧ ∀ b : Date, p.isBusinessDay b = true → start.day ≤ b.day → d.day ≤ b.day

/-- **The walk of a move stops on the day that the move asks for**, at the time of its start. -/
theorem stops_iff_reaches (p : Policy) (count : Int) (t u : DateTime) :
    p.Stops (headingOf count) (p.daysBehind t.date count) t u
      ↔ u.time = t.time ∧ p.Reaches t.date count u.date := by
  rw [headingOf, daysBehind]
  rcases lt_trichotomy count 0 with hneg | rfl | hpos
  · rw [if_pos hneg, if_neg hneg.ne, p.stops_iff_countIn _ (Int.natAbs_pos.mpr hneg.ne)]
    refine and_congr_right fun _ => ⟨fun ⟨hb, hahead, hcount⟩ => ?_, fun hreach => ?_⟩
    · simp only [Heading.sign, Heading.entered] at hahead hcount
      exact ⟨hb, fun h => absurd h hneg.asymm, fun _ => ⟨by omega, by omega⟩,
        fun h => absurd h hneg.ne⟩
    · obtain ⟨hlt, hcount⟩ := hreach.before hneg
      refine ⟨hreach.business, ?_, ?_⟩ <;> simp only [Heading.sign, Heading.entered] <;> omega
  · rw [if_neg (by decide), if_pos rfl, p.stops_forward_zero_iff]
    refine and_congr_right fun _ => ⟨fun ⟨hb, hle, hfirst⟩ => ?_, fun hreach => ?_⟩
    · exact ⟨hb, fun h => absurd h (by decide), fun h => absurd h (by decide),
        fun _ => ⟨hle, hfirst⟩⟩
    · obtain ⟨hle, hfirst⟩ := hreach.first rfl
      exact ⟨hreach.business, hle, hfirst⟩
  · rw [if_neg hpos.asymm, if_neg hpos.ne', p.stops_iff_countIn _ (Int.natAbs_pos.mpr hpos.ne')]
    refine and_congr_right fun _ => ⟨fun ⟨hb, hahead, hcount⟩ => ?_, fun hreach => ?_⟩
    · simp only [Heading.sign, Heading.entered] at hahead hcount
      exact ⟨hb, fun _ => ⟨by omega, by omega⟩, fun h => absurd h hpos.asymm,
        fun h => absurd h hpos.ne'⟩
    · obtain ⟨hlt, hcount⟩ := hreach.after hpos
      refine ⟨hreach.business, ?_, ?_⟩ <;> simp only [Heading.sign, Heading.entered] <;> omega

/-- **A move by business days reaches the day that it asks for.**  It ends, since no snap on its way
needs the last of its steps; it gives that day, at the time of day of its start, if the calendar has
it, and is out of range exactly if the calendar does not. -/
theorem advance_ok_iff_reaches (p : Policy) (start : DateTime) (count : Int64)
    (hs : start.time.isLeapSecond = false) (hc : count.toInt.natAbs ≤ maxSteps) :
    (∀ h t fuel, t.time.isLeapSecond = false → 3 ≤ fuel → p.snapWithin h fuel t = p.snap? h t) ∧
      (∀ t, p.advance start count = .ok t
        ↔ t.time = start.time ∧ p.Reaches start.date count.toInt t.date) ∧
      (p.advance start count = .error .outOfRange
        ↔ ¬ ∃ d, p.Reaches start.date count.toInt d) ∧
      p.advance start count ≠ .error .overflow := by
  have hok : ∀ t, p.move? start count.toInt = some t
      ↔ t.time = start.time ∧ p.Reaches start.date count.toInt t.date := fun t =>
    (p.move?_eq_some_iff hs count.toInt t).trans (p.stops_iff_reaches count.toInt start t)
  refine ⟨fun h t fuel => p.snapWithin_eq_snap? h, ?_⟩
  rw [p.advance_eq_move? start hc]
  cases hmove : p.move? start count.toInt with
  | some day =>
    have hday := (hok day).mp hmove
    refine ⟨fun t => ?_, ⟨nofun, fun hnone => absurd ⟨day.date, hday.2⟩ hnone⟩, nofun⟩
    rw [← hok, hmove, Option.some.injEq, Except.ok.injEq]
  | none =>
    refine ⟨fun t => ?_, ⟨fun _ => ?_, fun _ => rfl⟩, nofun⟩
    · rw [← hok, hmove]
      exact ⟨nofun, nofun⟩
    · rintro ⟨d, hd⟩
      have hsome := (hok ⟨d, start.time⟩).mpr ⟨rfl, hd⟩
      rw [hmove] at hsome
      exact absurd hsome nofun

/-- Two business days before Sunday, 4 January 1970, comes Thursday the 1st. -/
theorem advance_sunday_two_back :
    (TimeOfDay.midnight.isLeapSecond = false ∧ (-2 : Int64).toInt.natAbs ≤ maxSteps) ∧
      mondayToFriday.advance (.atMidnight ⟨719165, by decide, by decide⟩) (-2)
        = .ok (.atMidnight .epoch) := by
  refine ⟨⟨rfl, by decide⟩, ((advance_ok_iff_reaches _ _ _ rfl (by decide)).2.1 _).mpr ⟨rfl, ?_⟩⟩
  exact ⟨by decide, fun h => absurd h (by decide), fun _ => ⟨by decide, by decide⟩,
    fun h => absurd h (by decide)⟩

end Policy

end Formula.Calendar
