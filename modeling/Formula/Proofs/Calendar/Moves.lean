import Formula.Proofs.Calendar.BusinessDays

/-!
# Proofs/Calendar/Moves — moves by business days add up

The business days of a policy stand in a row, and `Policy.rank` says how many of them lie before a
day.  A move asks for the business day of a certain rank (`move?_eq_some_iff_rank`), so that what
moves do to each other is arithmetic of ranks: two moves in one direction make one, a move back
undoes a move from a business day, and of two moves by one count neither overtakes the other
(`advance_compose_invert_order`).

The row has no end and the calendar has two.  An answer within the calendar is the same day either
way, and no answer means that the day of that rank lies outside.
-/

namespace Formula.Calendar.Policy

/-! ## Ranks

A week has a fixed number of business days, and what is left of the week is counted day by day. -/

/-- The business days among the first days of a week, which begins on Monday. -/
def inWeek (p : Policy) (days : Nat) : Nat := Nat.count (fun w => p.worksOn w = true) days

/-- **The rank of a day**: the number of business days before it, from day 0 on.  Before day 0 it is
negative. -/
def rank (p : Policy) (day : Int) : Int := p.inWeek 7 * (day / 7) + p.inWeek (day % 7).toNat

theorem inWeek_succ (p : Policy) (w : Nat) :
    p.inWeek (w + 1) = p.inWeek w + if p.worksOn w = true then 1 else 0 :=
  Nat.count_succ _ _

/-- **A day that is left behind counts if it is a business day.** -/
theorem rank_succ (p : Policy) (day : Int) :
    p.rank (day + 1) = p.rank day + if p.worksAt day = true then 1 else 0 := by
  rw [rank, rank, worksAt]
  by_cases hsunday : day % 7 = 6
  · -- Sunday ends the week, which leaves one more week and no day of the next.
    have hnext : (day + 1) / 7 = day / 7 + 1 ∧ ((day + 1) % 7).toNat = 0 := by omega
    have hzero : p.inWeek 0 = 0 := Nat.count_zero _
    have hweek : (p.inWeek 7 : Int) = p.inWeek 6 + if p.worksOn 6 = true then 1 else 0 := by
      exact_mod_cast p.inWeek_succ 6
    have hsix : (day % 7).toNat = 6 := by omega
    rw [hnext.1, hnext.2, hzero, hsix, mul_add, mul_one, Nat.cast_zero, add_zero, add_assoc,
      ← hweek]
  · have hnext : (day + 1) / 7 = day / 7 ∧ ((day + 1) % 7).toNat = (day % 7).toNat + 1 := by omega
    rw [hnext.1, hnext.2, (p.inWeek_succ _ : p.inWeek ((day % 7).toNat + 1) = _), add_assoc,
      Nat.cast_add, Nat.cast_ite]
    rfl

/-- The rank of the day after a date. -/
theorem rank_day_succ (p : Policy) (d : Date) :
    p.rank (d.day + 1) = p.rank d.day + p.leaving d := by
  rw [rank_succ, leaving, isBusinessDay_eq_worksAt]
  split <;> rfl

variable {p : Policy} {a b : Int}

theorem rank_mono (h : a ≤ b) : p.rank a ≤ p.rank b := by
  induction b, h using Int.leInduction with
  | base => exact le_refl _
  | succ b _ ih =>
    rw [rank_succ]
    split <;> omega

/-- Behind a business day the ranks are higher. -/
theorem rank_lt_of_worksAt (ha : p.worksAt a = true) (h : a < b) : p.rank a < p.rank b := by
  have hsucc := p.rank_succ a
  rw [if_pos ha] at hsucc
  have hmono : p.rank (a + 1) ≤ p.rank b := rank_mono h
  omega

/-- **Business days stand in the order of their ranks.** -/
theorem le_of_rank_le (hb : p.worksAt b = true) (h : p.rank a ≤ p.rank b) : a ≤ b :=
  not_lt.mp fun hlt => not_lt.mpr h (rank_lt_of_worksAt hb hlt)

/-! ## Where a walk stops -/

theorem count_worksAhead_succ (p : Policy) (h : Heading) (a : Int) (j : Nat) :
    (Nat.count (p.WorksAhead h a) (j + 1) : Int)
      = Nat.count (p.WorksAhead h a) j + if p.worksAt (a + h.sign * j) = true then 1 else 0 := by
  rw [Nat.count_succ, Nat.cast_add, Nat.cast_ite]
  rfl

/-- **The business days that a walk forward leaves behind.** -/
theorem rank_ahead (p : Policy) (a : Int) (j : Nat) :
    p.rank (a + Heading.forward.sign * j) = p.rank a + Nat.count (p.WorksAhead .forward a) j := by
  induction j with
  | zero => rw [Nat.count_zero, Nat.cast_zero, mul_zero, add_zero, add_zero]
  | succ j ih =>
    have hday : a + Heading.forward.sign * (j + 1 : Nat) = a + Heading.forward.sign * j + 1 := by
      simp only [Heading.sign]
      omega
    rw [hday, rank_succ, ih, count_worksAhead_succ, add_assoc]

/-- **The business days that a walk backward leaves behind**, each of them at its beginning. -/
theorem rank_back (p : Policy) (a : Int) (j : Nat) :
    p.rank (a + Heading.backward.sign * j + 1) + Nat.count (p.WorksAhead .backward a) j
      = p.rank (a + 1) := by
  induction j with
  | zero => rw [Nat.count_zero, Nat.cast_zero, mul_zero, add_zero, add_zero]
  | succ j ih =>
    have hday : a + Heading.backward.sign * (j + 1 : Nat) + 1 = a + Heading.backward.sign * j := by
      simp only [Heading.sign]
      omega
    rw [hday, count_worksAhead_succ, ← ih, rank_succ]
    omega

/-- A walk forward stops on the business day that is `n` ranks on. -/
theorem stops_forward_iff_rank (p : Policy) (n : Nat) (t u : DateTime) :
    p.Stops .forward n t u
      ↔ u.time = t.time ∧ p.isBusinessDay u.date = true ∧
        p.rank u.date.day = p.rank t.date.day + n := by
  constructor
  · intro hu
    obtain ⟨htime, j, hday, -, hcount⟩ := id hu
    exact ⟨htime, hu.isBusinessDay, by rw [hday, rank_ahead, hcount]⟩
  · rintro ⟨htime, hb, hrank⟩
    have hle : t.date.day ≤ u.date.day := le_of_rank_le hb (by omega)
    obtain ⟨j, hday⟩ : ∃ j : Nat, u.date.day = t.date.day + Heading.forward.sign * j :=
      ⟨(u.date.day - t.date.day).toNat, by simp only [Heading.sign]; omega⟩
    refine ⟨htime, j, hday, ?_, ?_⟩
    · rw [WorksAhead, ← hday, ← isBusinessDay_eq_worksAt]
      exact hb
    · rw [hday, rank_ahead] at hrank
      omega

/-- A walk backward stops on the business day at whose end there are `n` ranks left. -/
theorem stops_backward_iff_rank (p : Policy) (n : Nat) (t u : DateTime) :
    p.Stops .backward n t u
      ↔ u.time = t.time ∧ p.isBusinessDay u.date = true ∧
        p.rank (u.date.day + 1) + n = p.rank (t.date.day + 1) := by
  constructor
  · intro hu
    obtain ⟨htime, j, hday, -, hcount⟩ := id hu
    exact ⟨htime, hu.isBusinessDay, by rw [hday, ← hcount, rank_back]⟩
  · rintro ⟨htime, hb, hrank⟩
    have hle : u.date.day ≤ t.date.day := by
      by_contra hlt
      have hmono : p.rank (t.date.day + 1) ≤ p.rank u.date.day := rank_mono (by omega)
      have hleft : p.rank u.date.day < p.rank (u.date.day + 1) := rank_lt_of_worksAt hb (by omega)
      omega
    obtain ⟨j, hday⟩ : ∃ j : Nat, u.date.day = t.date.day + Heading.backward.sign * j :=
      ⟨(t.date.day - u.date.day).toNat, by simp only [Heading.sign]; omega⟩
    refine ⟨htime, j, hday, ?_, ?_⟩
    · rw [WorksAhead, ← hday, ← isBusinessDay_eq_worksAt]
      exact hb
    · have hback := p.rank_back t.date.day j
      rw [hday] at hrank
      omega

/-! ## Where a move stops -/

/-- **The rank of the day that a move asks for.**  A move ahead counts from the end of its start,
and any other from its beginning. -/
def goal (p : Policy) (start count : Int) : Int :=
  if 0 < count then p.rank (start + 1) + (count - 1) else p.rank start + count

/-- **A move stops on the business day of the rank that it asks for.** -/
theorem move?_eq_some_iff_rank (p : Policy) {start : DateTime}
    (hs : start.time.isLeapSecond = false) (count : Int) (t : DateTime) :
    p.move? start count = some t
      ↔ t.time = start.time ∧ p.isBusinessDay t.date = true ∧
        p.rank t.date.day = p.goal start.date.day count := by
  rw [p.move?_eq_some_iff hs, headingOf, daysBehind, goal]
  have hstart := p.rank_day_succ start.date
  rcases lt_trichotomy count 0 with hneg | rfl | hpos
  · rw [if_pos hneg, if_neg hneg.ne, if_neg hneg.asymm, stops_backward_iff_rank]
    refine and_congr_right fun _ => and_congr_right fun hb => ?_
    have hend := p.rank_day_succ t.date
    rw [leaving, if_pos hb] at hend
    omega
  · rw [if_neg (lt_irrefl 0), if_pos rfl, if_neg (lt_irrefl 0), stops_forward_iff_rank]
    rfl
  · rw [if_neg hpos.asymm, if_neg hpos.ne', if_pos hpos, stops_forward_iff_rank]
    refine and_congr_right fun _ => and_congr_right fun _ => ?_
    omega

/-- From a business day on a move is counted in ranks. -/
theorem goal_of_isBusinessDay {d : Date} (hd : p.isBusinessDay d = true) (count : Int) :
    p.goal d.day count = p.rank d.day + count := by
  have hend := p.rank_day_succ d
  rw [leaving, if_pos hd] at hend
  rw [goal]
  split <;> omega

theorem goal_mono (count : Int) (h : a ≤ b) : p.goal a count ≤ p.goal b count := by
  have hbegin : p.rank a ≤ p.rank b := rank_mono h
  have hend : p.rank (a + 1) ≤ p.rank (b + 1) := rank_mono (by omega)
  rw [goal, goal]
  split <;> omega

/-- **A move that is made in two parts** asks for the day that the whole asks for. -/
theorem goal_add {m n : Int} (hmn : 0 < m ∧ 0 < n ∨ m < 0 ∧ n < 0) (start : Int) :
    p.goal start m + n = p.goal start (m + n) := by
  rw [goal, goal]
  rcases hmn with ⟨hm, hn⟩ | ⟨hm, hn⟩
  · rw [if_pos hm, if_pos (add_pos hm hn)]
    omega
  · rw [if_neg hm.asymm, if_neg (add_neg hm hn).asymm]
    omega

/-! ## Moves after each other -/

section Moves

variable {start mid stop : DateTime}

/-- **Two moves in one direction make one.** -/
theorem move?_of_move? (hs : start.time.isLeapSecond = false) {m n : Int}
    (hmn : 0 < m ∧ 0 < n ∨ m < 0 ∧ n < 0) (hmid : p.move? start m = some mid) :
    p.move? mid n = p.move? start (m + n) := by
  obtain ⟨htime, hb, hrank⟩ := (p.move?_eq_some_iff_rank hs m mid).mp hmid
  have hmidtime : mid.time.isLeapSecond = false := by rw [htime]; exact hs
  refine Option.ext fun t => ?_
  rw [p.move?_eq_some_iff_rank hmidtime, p.move?_eq_some_iff_rank hs, htime,
    goal_of_isBusinessDay hb, hrank, goal_add hmn]

/-- **A move back undoes a move** from a business day. -/
theorem move?_neg_of_move? (hs : start.time.isLeapSecond = false)
    (hb : p.isBusinessDay start.date = true) {n : Int} (hmid : p.move? start n = some mid) :
    p.move? mid (-n) = some start := by
  obtain ⟨htime, hbmid, hrank⟩ := (p.move?_eq_some_iff_rank hs n mid).mp hmid
  have hmidtime : mid.time.isLeapSecond = false := by rw [htime]; exact hs
  rw [p.move?_eq_some_iff_rank hmidtime, htime, goal_of_isBusinessDay hbmid, hrank,
    goal_of_isBusinessDay hb]
  exact ⟨rfl, hb, by omega⟩

/-- **No move overtakes another** by the same count. -/
theorem day_le_of_move? {start' stop' : DateTime} (hs : start.time.isLeapSecond = false)
    (hs' : start'.time.isLeapSecond = false) (hle : start.date.day ≤ start'.date.day) {n : Int}
    (hstop : p.move? start n = some stop) (hstop' : p.move? start' n = some stop') :
    stop.date.day ≤ stop'.date.day := by
  obtain ⟨-, -, hrank⟩ := (p.move?_eq_some_iff_rank hs n stop).mp hstop
  obtain ⟨-, hb, hrank'⟩ := (p.move?_eq_some_iff_rank hs' n stop').mp hstop'
  refine le_of_rank_le hb ?_
  rw [hrank, hrank']
  exact goal_mono n hle

/-- A business day is where a move by no days stops. -/
theorem move?_zero (hs : start.time.isLeapSecond = false)
    (hb : p.isBusinessDay start.date = true) : p.move? start 0 = some start := by
  rw [p.move?_eq_some_iff_rank hs, goal_of_isBusinessDay hb, add_zero]
  exact ⟨rfl, hb, rfl⟩

end Moves

/-! ## Counts of 64 bits -/

/-- A move within the bound gives the day that its walk gives. -/
theorem advance_eq_ok_iff (p : Policy) (start : DateTime) {count : Int64}
    (hc : count.toInt.natAbs ≤ maxSteps) (t : DateTime) :
    p.advance start count = .ok t ↔ p.move? start count.toInt = some t := by
  rw [p.advance_eq_move? start hc]
  cases p.move? start count.toInt <;> simp

/-- A move that gives a day is within the bound. -/
theorem natAbs_le_of_advance {start t : DateTime} {count : Int64}
    (h : p.advance start count = .ok t) : count.toInt.natAbs ≤ maxSteps := by
  by_contra hlarge
  rw [advance, if_pos (not_le.mp hlarge)] at h
  split at h <;> cases h

theorem move?_of_advance {start t : DateTime} {count : Int64}
    (h : p.advance start count = .ok t) : p.move? start count.toInt = some t :=
  (p.advance_eq_ok_iff start (natAbs_le_of_advance h) t).mp h

/-- Counts that are bounded together are added without overflow. -/
theorem toInt_add_of_natAbs_le {m n : Int64} (h : (m.toInt + n.toInt).natAbs ≤ maxSteps) :
    (m + n).toInt = m.toInt + n.toInt := by
  rw [maxSteps] at h
  rw [Int64.toInt_add]
  exact Int.bmod_eq_of_le (by omega) (by omega)

theorem toInt_neg_of_natAbs_le {n : Int64} (h : n.toInt.natAbs ≤ maxSteps) :
    (-n).toInt = -n.toInt := by
  rw [maxSteps] at h
  rw [Int64.toInt_neg]
  exact Int.bmod_eq_of_le (by omega) (by omega)

/-- **Moves by business days compose, can be undone and keep the order of days.**  Two moves in one
direction are one move by the sum of their counts, failures included; from a business day a move by
the opposite count leads back; a start that is not later never ends up later; and a second move by
no days changes nothing. -/
theorem advance_compose_invert_order (p : Policy) {start : DateTime}
    (hs : start.time.isLeapSecond = false) :
    (∀ m n mid, 0 < m ∧ 0 < n ∨ m < 0 ∧ n < 0 → (m.toInt + n.toInt).natAbs ≤ maxSteps →
      p.advance start m = .ok mid → p.advance mid n = p.advance start (m + n)) ∧
    (∀ n mid, p.isBusinessDay start.date = true → p.advance start n = .ok mid →
      p.advance mid (-n) = .ok start) ∧
    (∀ n other stop stop', other.time.isLeapSecond = false → start.date.day ≤ other.date.day →
      p.advance start n = .ok stop → p.advance other n = .ok stop' →
      stop.date.day ≤ stop'.date.day) ∧
    ((p.advance start 0).bind fun mid => p.advance mid 0) = p.advance start 0 := by
  refine ⟨fun m n mid hsign hbound hmid => ?_, fun n mid hb hmid => ?_,
    fun n other stop stop' hother hle hstop hstop' => ?_, ?_⟩
  · simp only [Int64.lt_iff_toInt_lt, Int64.toInt_zero] at hsign
    have hadd := toInt_add_of_natAbs_le hbound
    rw [p.advance_eq_move? mid (by omega), p.advance_eq_move? start (by rw [hadd]; exact hbound),
      hadd, move?_of_move? hs hsign (move?_of_advance hmid)]
  · have hbound := natAbs_le_of_advance hmid
    have hneg := toInt_neg_of_natAbs_le hbound
    rw [p.advance_eq_ok_iff mid (by rw [hneg, Int.natAbs_neg]; exact hbound), hneg]
    exact move?_neg_of_move? hs hb (move?_of_advance hmid)
  · exact day_le_of_move? hs hother hle (move?_of_advance hstop) (move?_of_advance hstop')
  · cases hmid : p.advance start 0 with
    | error e => rfl
    | ok mid =>
      obtain ⟨htime, hb, -⟩ := (p.move?_eq_some_iff_rank hs _ mid).mp (move?_of_advance hmid)
      refine (p.advance_eq_ok_iff mid (by decide) mid).mpr (move?_zero ?_ hb)
      rw [htime]
      exact hs

/-- From Sunday, 4 January 1970, two business days back is Thursday the 1st, and one more is three
back in all; from that Thursday two on is Monday the 5th, and from the Sunday it is Tuesday. -/
theorem advance_compose_invert_order_new_year :
    let thursday : DateTime := .atMidnight .epoch
    let sunday : DateTime := .atMidnight ⟨719165, by decide, by decide⟩
    let monday : DateTime := .atMidnight ⟨719166, by decide, by decide⟩
    let tuesday : DateTime := .atMidnight ⟨719167, by decide, by decide⟩
    let move := mondayToFriday.advance
    (sunday.time.isLeapSecond = false ∧ thursday.time.isLeapSecond = false) ∧
      (move sunday (-2) = .ok thursday ∧ move thursday (-1) = move sunday (-3)) ∧
      (move thursday 2 = .ok monday ∧ move monday (-2) = .ok thursday) ∧
      (thursday.date.day ≤ sunday.date.day ∧ move sunday 2 = .ok tuesday ∧
        monday.date.day ≤ tuesday.date.day) ∧
      ((move sunday 0).bind fun mid => move mid 0) = move sunday 0 := by
  intro thursday sunday monday tuesday move
  have hback : move sunday (-2) = .ok thursday := by decide
  have hon : move thursday 2 = .ok monday := by decide
  have hlater : move sunday 2 = .ok tuesday := by decide
  obtain ⟨hcompose, -, -, hzero⟩ :=
    @advance_compose_invert_order mondayToFriday sunday (by decide)
  obtain ⟨-, hinvert, horder, -⟩ :=
    @advance_compose_invert_order mondayToFriday thursday (by decide)
  exact ⟨⟨by decide, by decide⟩,
    ⟨hback, hcompose (-2) (-1) thursday (.inr (by decide)) (by decide) hback⟩,
    ⟨hon, hinvert 2 monday (by decide) hon⟩,
    ⟨by decide, hlater,
      horder 2 sunday monday tuesday (by decide) (by decide) hon hlater⟩, hzero⟩

end Formula.Calendar.Policy
