import Formula.Proofs.Calendar.LeapSeconds

/-!
# Proofs/Calendar/Countdown — the counter of a move by business days fits 64 bits

`Policy.advance` is a recursion on the number of days to be left behind.  Here is the same move
taken one day at a time, as three loops with a signed counter of 64 bits that goes down to zero
(`Policy.next`): the way to the first business day, the way on which every business day takes one
unit off the counter, and the way to the business day on which the move ends.

**The counter.**  One step of a loop leaves the counter between zero and the count
(`Stage.Within.next`), and so does every run, so that no unit taken off it is ever lost.
**The walk.**  The loops end where the recursion does, whatever the start
(`leads_opening`).

Before the loops the magnitude of the count is compared with the bound.  The least integer has no
magnitude; any other count beyond the bound is refused before the first step
(`advance_counts_down`).
-/

namespace Formula.Calendar

/-! ## Integers of 64 bits -/

/-- The integer, if 64 bits hold it. -/
def fit? (n : Int) : Option Int64 :=
  if Int64.minValue.toInt ≤ n ∧ n ≤ Int64.maxValue.toInt then some (.ofInt n) else none

/-- **What fits is kept exactly**, and whatever 64 bits can say fits. -/
theorem fit?_eq_some_iff {n : Int} {a : Int64} : fit? n = some a ↔ a.toInt = n := by
  have hlower := a.minValue_le_toInt
  have hupper := a.toInt_le
  rw [fit?]
  split
  · next hn =>
    rw [Option.some_inj, ← Int64.toInt_inj,
      Int64.toInt_ofInt_of_le hn.1 (Int.lt_add_one_of_le hn.2),
      eq_comm]
  · next hn =>
    refine iff_of_false nofun fun ha => hn ?_
    rw [← ha]
    exact ⟨hlower, hupper⟩

theorem exists_fit? {n : Int} (h : n.natAbs < 2 ^ 63) : ∃ a, fit? n = some a := by
  have hmin : Int64.minValue.toInt = -9223372036854775808 := rfl
  have hmax : Int64.maxValue.toInt = 9223372036854775807 := rfl
  refine ⟨_, if_pos ?_⟩
  rw [hmin, hmax]
  omega

/-- **Only the least integer has no magnitude.** -/
theorem fit?_natAbs_eq_none_iff {a : Int64} :
    fit? a.toInt.natAbs = none ↔ a = Int64.minValue := by
  have hmin : Int64.minValue.toInt = -9223372036854775808 := rfl
  have hmax : Int64.maxValue.toInt = 9223372036854775807 := rfl
  have hlower := a.minValue_le_toInt
  have hupper := a.toInt_le
  rw [fit?, ite_eq_right_iff, imp_iff_not (Option.some_ne_none _), ← Int64.toInt_inj]
  rw [hmin] at hlower ⊢
  rw [hmax] at hupper ⊢
  omega

namespace Policy

/-! ## The loops of a move -/

/-- **Where a move stands** between two steps of its loops. -/
inductive Stage where
  /-- On the way to the first business day, with or without a step taken. -/
  | setting (snapped : Bool) (day : DateTime)
  /-- On the way that is counted. -/
  | counting (remaining : Int64) (day : DateTime)
  /-- On the way to the business day on which the move ends. -/
  | settling (day : DateTime)
  /-- At the end. -/
  | ended (result : Except Halt DateTime)
deriving DecidableEq

/-- Step by a day and go on from there. -/
def stepTo (h : Heading) (day : DateTime) (next : DateTime → Stage) : Stage :=
  match h.step? day with
  | some day' => next day'
  | none => .ended (.error .outOfRange)

/-- Take one unit off the counter and go on with the rest. -/
def countOff (h : Heading) (remaining : Int64) (next : Int64 → Stage) : Stage :=
  match fit? (remaining.toInt - h.sign) with
  | some rest => next rest
  | none => .ended (.error .overflow)

/-- **The stage in which a move begins**, if its count is within the bound. -/
def opening (start : DateTime) (count : Int64) : Stage :=
  match fit? count.toInt.natAbs with
  | none => .ended (.error .overflow)
  | some magnitude =>
    if (maxSteps : Int) < magnitude.toInt then .ended (.error .outOfRange) else .setting false start

/-- **The next stage of a move** by a given count. -/
def next (p : Policy) (count : Int64) : Stage → Stage
  | .setting snapped day =>
    if p.isBusinessDay day.date then
      if count = 0 then .ended (.ok day)
      else if snapped then countOff (headingOf count.toInt) count fun rest => .counting rest day
      else .counting count day
    else stepTo (headingOf count.toInt) day (.setting true)
  | .counting remaining day =>
    if remaining = 0 then .settling day
    else if p.isBusinessDay day.date then
      countOff (headingOf count.toInt) remaining fun rest =>
        stepTo (headingOf count.toInt) day (.counting rest)
    else stepTo (headingOf count.toInt) day (.counting remaining)
  | .settling day =>
    if p.isBusinessDay day.date then .ended (.ok day)
    else stepTo (headingOf count.toInt) day .settling
  | .ended result => .ended result

/-! ## The counter -/

variable {p : Policy} {count : Int64} {stage : Stage}

/-- An integer lies between zero and a count. -/
def Stage.Remains (count remaining : Int64) : Prop :=
  0 ≤ remaining.toInt ∧ remaining.toInt ≤ count.toInt ∨
    count.toInt ≤ remaining.toInt ∧ remaining.toInt ≤ 0

/-- **The counter is within the count**, and no unit taken off it was lost. -/
def Stage.Within (count : Int64) : Stage → Prop
  | .counting remaining _ => Remains count remaining
  | .ended result => result ≠ .error .overflow
  | _ => True

theorem within_stepTo {h : Heading} {day : DateTime} {next : DateTime → Stage}
    (hnext : ∀ day', (next day').Within count) : (stepTo h day next).Within count := by
  rw [stepTo]
  cases h.step? day with
  | some day' => exact hnext day'
  | none => exact nofun

/-- **A unit can be taken off** a counter that is not zero. -/
theorem exists_countOff {remaining : Int64} (hr : Stage.Remains count remaining)
    (hne : remaining ≠ 0) : ∃ rest : Int64,
      rest.toInt = remaining.toInt - (headingOf count.toInt).sign ∧ Stage.Remains count rest ∧
      ∀ next, countOff (headingOf count.toInt) remaining next = next rest := by
  have hne' : remaining.toInt ≠ 0 := fun h => hne (Int64.toInt_inj.mp h)
  have hlower := count.minValue_le_toInt
  have hupper := count.toInt_le
  have hmin : Int64.minValue.toInt = -9223372036854775808 := rfl
  have hmax : Int64.maxValue.toInt = 9223372036854775807 := rfl
  rw [hmin] at hlower
  rw [hmax] at hupper
  rw [Stage.Remains] at hr
  obtain ⟨rest, hrest⟩ :
      ∃ rest, fit? (remaining.toInt - (headingOf count.toInt).sign) = some rest := by
    refine exists_fit? ?_
    rw [headingOf]
    split <;> simp only [Heading.sign] <;> omega
  have hexact := fit?_eq_some_iff.mp hrest
  refine ⟨rest, hexact, ?_, fun next => by rw [countOff, hrest]⟩
  rw [Stage.Remains, hexact, headingOf]
  split <;> simp only [Heading.sign] <;> omega

/-- **A step of a loop keeps the counter within the count.** -/
theorem Stage.Within.next (h : stage.Within count) : (p.next count stage).Within count := by
  have hself : Stage.Remains count count := by
    rw [Stage.Remains]
    omega
  cases stage with
  | setting snapped day =>
    rw [Policy.next]
    split
    · split
      · exact nofun
      · next hne =>
        split
        · obtain ⟨rest, -, hrest, hnext⟩ := exists_countOff hself hne
          rw [hnext]
          exact hrest
        · exact hself
    · exact within_stepTo fun _ => trivial
  | counting remaining day =>
    rw [Policy.next]
    split
    · trivial
    · next hne =>
      split
      · obtain ⟨rest, -, hrest, hnext⟩ := exists_countOff h hne
        rw [hnext]
        exact within_stepTo fun _ => hrest
      · exact within_stepTo fun _ => h
  | settling day =>
    rw [Policy.next]
    split
    · exact nofun
    · exact within_stepTo fun _ => trivial
  | ended result => exact h

/-- **So does every run.** -/
theorem Stage.Within.iterate (h : stage.Within count) (k : Nat) :
    ((p.next count)^[k] stage).Within count := by
  induction k with
  | zero => exact h
  | succ k ih =>
    rw [Function.iterate_succ_apply']
    exact ih.next

/-! ## The walk -/

/-- **One stage leads to another** by some number of steps. -/
def Leads (p : Policy) (count : Int64) (first last : Stage) : Prop :=
  ∃ k, (p.next count)^[k] first = last

theorem Leads.refl (stage : Stage) : p.Leads count stage stage := ⟨0, rfl⟩

theorem Leads.trans {first mid last : Stage} (h : p.Leads count first mid)
    (h' : p.Leads count mid last) : p.Leads count first last := by
  obtain ⟨k, hk⟩ := h
  obtain ⟨l, hl⟩ := h'
  refine ⟨l + k, ?_⟩
  rw [Function.iterate_add_apply, hk, hl]

/-- The first step apart. -/
theorem Leads.of_next {last : Stage} (h : p.Leads count (p.next count stage) last) :
    p.Leads count stage last :=
  Leads.trans ⟨1, rfl⟩ h

/-- The end of a move that is a walk. -/
def Stage.ofWalk : Option DateTime → Stage
  | some day => .ended (.ok day)
  | none => .ended (.error .outOfRange)

/-- **A loop that steps over days of rest** goes as far as a snap does. -/
theorem leads_snapWithin {loop : DateTime → Stage}
    (hloop : ∀ day, ¬p.isBusinessDay day.date = true →
      p.next count (loop day) = stepTo (headingOf count.toInt) day loop) (fuel : Nat)
    (day : DateTime) :
    p.Leads count (loop day) (match p.snapWithin (headingOf count.toInt) fuel day with
      | some day' => loop day'
      | none => .ended (.error .outOfRange)) := by
  induction fuel generalizing day with
  | zero => exact .refl _
  | succ fuel ih =>
    rw [snapWithin]
    by_cases hb : p.isBusinessDay day.date = true
    · rw [if_pos hb]
      exact .refl _
    · rw [if_neg hb]
      refine .of_next ?_
      rw [hloop day hb, stepTo]
      cases (headingOf count.toInt).step? day with
      | none => exact .refl _
      | some day' => exact ih day'

/-- No step leads into a leap second. -/
theorem isLeapSecond_of_step? {h : Heading} {t u : DateTime} (hu : h.step? t = some u) :
    u.time.isLeapSecond = false := by
  have horigin := h.isLeapSecond_origin t
  by_cases hend : h = .backward ∧ t.time.EndsDay
  · obtain ⟨rfl, hend⟩ := hend
    rw [step?_of_endsDay hend, Option.some_inj] at hu
    rwa [← hu]
  · rw [h.step?_origin hend] at hu
    exact not_leap_of_step? horigin hu

/-- **A snap ends on a business day**, also from a leap second. -/
theorem isBusinessDay_of_snap? {h : Heading} {t u : DateTime} (hu : p.snap? h t = some u) :
    p.isBusinessDay u.date = true := by
  by_cases hb : p.isBusinessDay t.date = true
  · have hstay : p.snap? h t = some t := if_pos hb
    rw [hstay, Option.some_inj] at hu
    rwa [← hu]
  · have hstep : p.snap? h t = (h.step? t).bind (p.snapWithin h 6) := if_neg hb
    rw [hstep, Option.bind_eq_some_iff] at hu
    obtain ⟨s, hs, hu⟩ := hu
    have hleap := isLeapSecond_of_step? hs
    rw [p.snapWithin_eq_snap? h hleap (by decide), p.snap?_eq_some_iff h hleap] at hu
    exact hu.isBusinessDay

/-- The last loop ends the move on the business day that it reaches. -/
theorem leads_settling (day : DateTime) :
    p.Leads count (.settling day) (.ofWalk (p.snap? (headingOf count.toInt) day)) := by
  have hloop (day : DateTime) (hb : ¬p.isBusinessDay day.date = true) :
      p.next count (.settling day) = stepTo (headingOf count.toInt) day .settling := if_neg hb
  have hsnap := leads_snapWithin hloop 7 day
  rw [← snap?] at hsnap
  refine hsnap.trans ?_
  cases hu : p.snap? (headingOf count.toInt) day with
  | none => exact .refl _
  | some u =>
    refine .of_next ?_
    rw [next, if_pos (isBusinessDay_of_snap? hu)]
    exact .refl _

/-- **The counting loop leaves behind as many business days as the counter says.** -/
theorem leads_counting (n : Nat) {remaining : Int64} (hr : Stage.Remains count remaining)
    (hn : remaining.toInt.natAbs = n) (day : DateTime) :
    p.Leads count (.counting remaining day)
      (.ofWalk (p.walk? (headingOf count.toInt) n day)) := by
  induction n generalizing remaining day with
  | zero =>
    have hzero : remaining = 0 := Int64.toInt_inj.mp (Int.natAbs_eq_zero.mp hn)
    refine .of_next ?_
    rw [next, if_pos hzero]
    exact leads_settling day
  | succ n ih =>
    have hne : remaining ≠ 0 := by
      rintro rfl
      exact absurd hn (Nat.succ_ne_zero n).symm
    have hloop (day : DateTime) (hb : ¬p.isBusinessDay day.date = true) :
        p.next count (.counting remaining day)
          = stepTo (headingOf count.toInt) day (.counting remaining) := by
      rw [next, if_neg hne, if_neg hb]
    have hsnap := leads_snapWithin hloop 7 day
    rw [← snap?] at hsnap
    refine hsnap.trans ?_
    rw [walk?]
    cases hu : p.snap? (headingOf count.toInt) day with
    | none => exact .refl _
    | some u =>
      obtain ⟨rest, hrest, hbetween, hnext⟩ := exists_countOff hr hne
      have hrest' : rest.toInt.natAbs = n := by
        rw [Stage.Remains] at hr
        rw [hrest, headingOf]
        split <;> simp only [Heading.sign] <;> omega
      refine .of_next ?_
      rw [next, if_neg hne, if_pos (isBusinessDay_of_snap? hu), hnext, stepTo]
      dsimp only
      cases (headingOf count.toInt).step? u with
      | none => exact .refl _
      | some day' => exact ih hbetween hrest' day'

/-- The first loop goes to the first business day, and knows whether it has stepped. -/
theorem leads_setting (day : DateTime) :
    p.Leads count (.setting false day) (match p.snap? (headingOf count.toInt) day with
      | some day' => .setting (!p.isBusinessDay day.date) day'
      | none => .ended (.error .outOfRange)) := by
  have hloop (snapped : Bool) (day : DateTime) (hb : ¬p.isBusinessDay day.date = true) :
      p.next count (.setting snapped day)
        = stepTo (headingOf count.toInt) day (.setting true) := if_neg hb
  by_cases hb : p.isBusinessDay day.date = true
  · have hstay : p.snap? (headingOf count.toInt) day = some day := if_pos hb
    rw [hstay, hb]
    exact .refl _
  · have hstep : p.snap? (headingOf count.toInt) day
        = ((headingOf count.toInt).step? day).bind (p.snapWithin (headingOf count.toInt) 6) :=
      if_neg hb
    rw [hstep, Bool.eq_false_iff.mpr hb]
    refine .of_next ?_
    rw [hloop false day hb, stepTo]
    cases (headingOf count.toInt).step? day with
    | none => exact .refl _
    | some day' => exact leads_snapWithin (hloop true) 6 day'

/-- **The loops end where the move does.** -/
theorem leads_move? (day : DateTime) :
    p.Leads count (.setting false day) (.ofWalk (p.move? day count.toInt)) := by
  have hzero : count = 0 ↔ count.toInt = 0 := Int64.toInt_inj.symm
  have hself : Stage.Remains count count := by
    rw [Stage.Remains]
    omega
  refine leads_setting day |>.trans ?_
  rw [move?]
  by_cases hcount : count.toInt = 0
  · rw [if_pos hcount]
    cases hu : p.snap? (headingOf count.toInt) day with
    | none => exact .refl _
    | some u =>
      refine .of_next ?_
      rw [next, if_pos (isBusinessDay_of_snap? hu), if_pos (hzero.mpr hcount)]
      exact .refl _
  · rw [if_neg hcount]
    have hne : count ≠ 0 := fun h => hcount (hzero.mp h)
    by_cases hb : p.isBusinessDay day.date = true
    · have hstay : p.snap? (headingOf count.toInt) day = some day := if_pos hb
      rw [if_pos hb, hstay, hb]
      refine .of_next ?_
      rw [next, if_pos hb, if_neg hne, if_neg (by decide)]
      exact leads_counting _ hself rfl day
    · rw [if_neg hb, Bool.eq_false_iff.mpr hb]
      cases hu : p.snap? (headingOf count.toInt) day with
      | none => exact .refl _
      | some u =>
        obtain ⟨rest, hrest, hbetween, hnext⟩ := exists_countOff hself hne
        have hrest' : rest.toInt.natAbs = count.toInt.natAbs - 1 := by
          rw [hrest, headingOf]
          split <;> simp only [Heading.sign] <;> omega
        refine .of_next ?_
        rw [next, if_pos (isBusinessDay_of_snap? hu), if_neg hne, if_pos (by decide), hnext]
        exact leads_counting _ hbetween hrest' u

/-! ## The guard -/

/-- **The magnitude of a count is compared before the first step.** -/
theorem opening_eq (start : DateTime) (count : Int64) :
    opening start count = if count = Int64.minValue then .ended (.error .overflow)
      else if maxSteps < count.toInt.natAbs then .ended (.error .outOfRange)
      else .setting false start := by
  rw [opening]
  cases hmagnitude : fit? count.toInt.natAbs with
  | none => exact (if_pos (fit?_natAbs_eq_none_iff.mp hmagnitude)).symm
  | some magnitude =>
    have hne : count ≠ Int64.minValue := fun h => by
      rw [fit?_natAbs_eq_none_iff.mpr h] at hmagnitude
      cases hmagnitude
    rw [if_neg hne]
    dsimp only
    rw [fit?_eq_some_iff.mp hmagnitude]
    exact if_congr Int.ofNat_lt rfl rfl

/-- **A move ends as its loops do.** -/
theorem leads_opening (p : Policy) (start : DateTime) (count : Int64) :
    p.Leads count (opening start count) (.ended (p.advance start count)) := by
  rw [opening_eq]
  by_cases hmin : count = Int64.minValue
  · rw [if_pos hmin, advance, if_pos hmin]
    exact .refl _
  · rw [if_neg hmin]
    by_cases hbound : maxSteps < count.toInt.natAbs
    · rw [if_pos hbound, advance, if_neg hmin, if_pos hbound]
      exact .refl _
    · rw [if_neg hbound, p.advance_eq_move? start (Nat.not_lt.mp hbound)]
      have hmove := @leads_move? p count start
      cases hresult : p.move? start count.toInt <;> rwa [hresult] at hmove

/-- What has ended stays as it is. -/
theorem iterate_ended (p : Policy) (count : Int64) (result : Except Halt DateTime) (k : Nat) :
    (p.next count)^[k] (.ended result) = .ended result :=
  Function.iterate_fixed rfl k

/-- **There is one end.** -/
theorem Leads.ended_unique {result result' : Except Halt DateTime}
    (h : p.Leads count stage (.ended result)) (h' : p.Leads count stage (.ended result')) :
    result = result' := by
  obtain ⟨k, hk⟩ := h
  obtain ⟨l, hl⟩ := h'
  have hlater : (p.next count)^[l + k] stage = .ended result := by
    rw [Function.iterate_add_apply, hk, iterate_ended]
  have hlater' : (p.next count)^[l + k] stage = .ended result' := by
    rw [Nat.add_comm, Function.iterate_add_apply, hl, iterate_ended]
  exact Stage.ended.inj (hlater.symm.trans hlater')

/-- The counter of a move is within its count from the beginning, unless the count has no
magnitude. -/
theorem within_opening (start : DateTime) (hmin : count ≠ Int64.minValue) :
    (opening start count).Within count := by
  rw [opening_eq, if_neg hmin]
  split
  · exact nofun
  · trivial

/-- **The bound on a move covers every count but one.**  A count beyond the bound is refused before
the first step, unless it is the least integer of 64 bits.  Of that the magnitude overflows; nothing
else in a move does, from any start: its loops end with the result of the move, and their counter
stays between zero and the count. -/
theorem advance_counts_down (p : Policy) (start : DateTime) (count : Int64) :
    (maxSteps < count.toInt.natAbs → count ≠ Int64.minValue →
      opening start count = .ended (.error .outOfRange) ∧
        p.advance start count = .error .outOfRange) ∧
    (∀ result, p.Leads count (opening start count) (.ended result) ↔
      p.advance start count = result) ∧
    (p.Leads count (opening start count) (.ended (.error .overflow)) ↔ count = Int64.minValue) ∧
    ∀ k remaining day, (p.next count)^[k] (opening start count) = .counting remaining day →
      Stage.Remains count remaining := by
  have hend := p.leads_opening start count
  refine ⟨fun hbound hmin => ?_, fun result => ⟨hend.ended_unique, fun h => h ▸ hend⟩,
    ⟨fun hoverflow => ?_, fun hmin => ⟨0, ?_⟩⟩, fun k remaining day hk => ?_⟩
  · have hopening : opening start count = .ended (.error .outOfRange) := by
      rw [opening_eq, if_neg hmin, if_pos hbound]
    refine ⟨hopening, ?_⟩
    rw [hopening] at hend
    exact hend.ended_unique (.refl _)
  · by_contra hmin
    obtain ⟨k, hk⟩ := hoverflow
    have hwithin := (within_opening start hmin).iterate (p := p) k
    rw [hk] at hwithin
    exact hwithin rfl
  · exact (opening_eq start count).trans (if_pos hmin)
  · by_cases hmin : count = Int64.minValue
    · rw [opening_eq, if_pos hmin, iterate_ended] at hk
      cases hk
    · have hwithin := (within_opening start hmin).iterate (p := p) k
      rwa [hk] at hwithin

/-- Two business days before Sunday, 4 January 1970: two steps back to the Friday, which takes one
unit off the counter, and the loops end on Thursday the 1st.  One business day more than the bound
is refused at once. -/
theorem advance_counts_down_sunday :
    let sunday : DateTime := .atMidnight ⟨719165, by decide, by decide⟩
    let friday : DateTime := .atMidnight ⟨719163, by decide, by decide⟩
    ((mondayToFriday.next (-2))^[3] (opening sunday (-2)) = .counting (-1) friday ∧
      Stage.Remains (-2) (-1) ∧
      mondayToFriday.Leads (-2) (opening sunday (-2)) (.ended (.ok (.atMidnight .epoch)))) ∧
    (maxSteps < (3000001 : Int64).toInt.natAbs ∧ (3000001 : Int64) ≠ Int64.minValue) ∧
      mondayToFriday.advance sunday 3000001 = .error .outOfRange := by
  intro sunday friday
  obtain ⟨-, hend, -, hcounter⟩ := advance_counts_down mondayToFriday sunday (-2)
  obtain ⟨hrefused, -⟩ := advance_counts_down mondayToFriday sunday 3000001
  have hthird : (mondayToFriday.next (-2))^[3] (opening sunday (-2)) = .counting (-1) friday := by
    decide
  have hbound : maxSteps < (3000001 : Int64).toInt.natAbs := by decide
  have hmin : (3000001 : Int64) ≠ Int64.minValue := by decide
  exact ⟨⟨hthird, hcounter 3 _ _ hthird, (hend _).mpr (by decide)⟩, ⟨hbound, hmin⟩,
    (hrefused hbound hmin).2⟩

/-- **The least count is not refused** as the counts beyond the bound are. -/
theorem advance_least_count :
    maxSteps < Int64.minValue.toInt.natAbs ∧
      mondayToFriday.advance (.atMidnight ⟨739043, by decide, by decide⟩) Int64.minValue
        = .error .overflow := by
  decide

end Policy

end Formula.Calendar
