import Formula.Calendar.Shift

/-!
# Calendar/Business — business days

A **policy** says which days of the week are business days.  `Policy.advance` walks the calendar one
day at a time, counting the business days it leaves behind, and ends on a business day.
-/

namespace Formula.Calendar

/-- **Which days of the week are business days.** -/
inductive Policy where
  | mondayToFriday
  | mondayToSaturday
  | sundayToThursday
  | sundayToFriday
deriving DecidableEq, Inhabited

namespace Policy

/-- Every policy, in the order in which they are listed to users. -/
def all : List Policy := [mondayToFriday, mondayToSaturday, sundayToThursday, sundayToFriday]

/-- The name under which a policy is stored. -/
def name : Policy → String
  | mondayToFriday => "monday_to_friday"
  | mondayToSaturday => "monday_to_saturday"
  | sundayToThursday => "sunday_to_thursday"
  | sundayToFriday => "sunday_to_friday"

/-! ### Days of the week

A set of days of the week is a mask of bits, from Monday at bit 0 to Sunday at bit 6. -/

/-- The mask of one day of the week, 0 for Monday to 6 for Sunday. -/
def weekdayMask (weekday : Nat) : UInt8 := (1 : UInt8) <<< UInt8.ofNat weekday

def monday : UInt8 := weekdayMask 0
def tuesday : UInt8 := weekdayMask 1
def wednesday : UInt8 := weekdayMask 2
def thursday : UInt8 := weekdayMask 3
def friday : UInt8 := weekdayMask 4
def saturday : UInt8 := weekdayMask 5
def sunday : UInt8 := weekdayMask 6

/-- The mask of the business days. -/
def workingMask : Policy → UInt8
  | mondayToFriday => monday ||| tuesday ||| wednesday ||| thursday ||| friday
  | mondayToSaturday => monday ||| tuesday ||| wednesday ||| thursday ||| friday ||| saturday
  | sundayToThursday => sunday ||| monday ||| tuesday ||| wednesday ||| thursday
  | sundayToFriday => sunday ||| monday ||| tuesday ||| wednesday ||| thursday ||| friday

/-- Whether a day of the week is a business day. -/
def worksOn (p : Policy) (weekday : Nat) : Bool := p.workingMask &&& weekdayMask weekday != 0

/-- Whether a date is a business day. -/
def isBusinessDay (p : Policy) (d : Date) : Bool := p.worksOn d.weekday

/-! ## The walk -/

/-- The direction of a walk. -/
inductive Heading where
  | forward
  | backward
deriving DecidableEq

/-- One day ahead in the direction of travel. -/
def Heading.step? (h : Heading) (t : DateTime) : Option DateTime :=
  t.addDays? (match h with | .forward => 1 | .backward => -1)

/-- **Snap**: step until a business day is reached.  No policy rests for more than two days and the
first step out of a leap second may end on the same day, so 7 steps are more than enough. -/
def snapWithin (p : Policy) (h : Heading) : Nat → DateTime → Option DateTime
  | 0, t => some t
  | fuel + 1, t =>
    if p.isBusinessDay t.date then some t
    else (h.step? t).bind (p.snapWithin h fuel)

/-- The nearest business day in the direction of travel, the start itself included. -/
def snap? (p : Policy) (h : Heading) (t : DateTime) : Option DateTime := p.snapWithin h 7 t

/-- Leave `n` business days behind and stop on the next one. -/
def walk? (p : Policy) (h : Heading) : Nat → DateTime → Option DateTime
  | 0, t => p.snap? h t
  | n + 1, t =>
    match p.snap? h t with
    | none => none
    | some day =>
      match h.step? day with
      | none => none
      | some next => p.walk? h n next

/-- The largest number of business days of one walk. -/
def maxSteps : Nat := 3000000

/-- Why a walk gave no date. -/
inductive Halt where
  /-- The count is above `maxSteps`, or the walk left the calendar. -/
  | outOfRange
  /-- The count is the least 64-bit integer, which has no 64-bit magnitude. -/
  | overflow
deriving DecidableEq

/-- **Move `count` business days from `start`.**  A start on a day of rest first snaps to a business
day in the direction of travel, forward for a count of zero, and that snap uses up one step. -/
def advance (p : Policy) (start : DateTime) (count : Int64) : Except Halt DateTime :=
  if count = Int64.minValue then .error .overflow
  else if maxSteps < count.toInt.natAbs then .error .outOfRange
  else
    let heading := if count < 0 then Heading.backward else Heading.forward
    let result :=
      if count = 0 then p.snap? heading start
      else if p.isBusinessDay start.date then p.walk? heading count.toInt.natAbs start
      else (p.snap? heading start).bind (p.walk? heading (count.toInt.natAbs - 1))
    match result with
    | some day => .ok day
    | none => .error .outOfRange

end Policy

end Formula.Calendar
