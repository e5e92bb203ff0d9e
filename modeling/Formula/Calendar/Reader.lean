import Formula.Calendar.DateTime
import Formula.Text.Chars

/-!
# Calendar/Reader — reading dates and times

A **layout** is a list of parts: numeric fields, fixed characters, optional blanks.  Reading a text
by a layout consumes it from left to right and must use it up; the fields found must then name an
existing day and time.  `DateTime.ofText?` trims its text and chooses the layouts to try by the
separators in it.
-/

namespace Formula.Calendar

open Formula.Text (isBlank skipBlanks trimChars)

/-! ## Layouts -/

/-- A numeric field of a layout. -/
inductive Field where
  | year
  | month
  | day
  | hour
  | minute
  | second
deriving DecidableEq

/-- **One part of a layout.** -/
inductive Part where
  /-- A number, after any blanks. -/
  | field (f : Field)
  /-- A character that must be there. -/
  | char (c : Char)
  /-- Any number of blanks, also none. -/
  | blanks
  /-- An optional fraction of a second: a point and at least one digit. -/
  | fraction
deriving DecidableEq

/-- The fields found so far; the ones not yet met are zero. -/
structure Reading where
  year : Int := 0
  month : Nat := 0
  day : Nat := 0
  hour : Nat := 0
  minute : Nat := 0
  second : Nat := 0
  nanos : Nat := 0
deriving DecidableEq

/-- Read between one and `width` decimal digits, as many as there are; `none` for no limit. -/
def readDigits (width : Option Nat) (cs : List Char) : Option (Nat × List Char) :=
  let run := cs.takeWhile Char.isDigit
  let digits := match width with
    | some w => run.take w
    | none => run
  if digits.isEmpty then none else some (Nat.ofDigitChars 10 digits 0, cs.drop digits.length)

/-- Read a year: four digits at most, any number of them after an explicit sign. -/
def readYear : List Char → Option (Int × List Char)
  | '-' :: cs => (readDigits none cs).map fun (n, rest) => (-(n : Int), rest)
  | '+' :: cs => (readDigits none cs).map fun (n, rest) => ((n : Int), rest)
  | cs => (readDigits (some 4) cs).map fun (n, rest) => ((n : Int), rest)

/-- Read a field other than the year: at most two digits, within the bounds of the field.  Second
60 is a leap second. -/
def readField (f : Field) (r : Reading) (cs : List Char) : Option (Reading × List Char) :=
  match f with
  | .year => (readYear cs).map fun (y, rest) => ({ r with year := y }, rest)
  | .month => bounded 1 12 fun n => { r with month := n }
  | .day => bounded 1 31 fun n => { r with day := n }
  | .hour => bounded 0 23 fun n => { r with hour := n }
  | .minute => bounded 0 59 fun n => { r with minute := n }
  | .second => bounded 0 60 fun n => { r with second := n }
where
  /-- Two digits at most whose value lies between the bounds. -/
  bounded (low high : Nat) (store : Nat → Reading) : Option (Reading × List Char) :=
    match readDigits (some 2) cs with
    | some (n, rest) => if low ≤ n ∧ n ≤ high then some (store n, rest) else none
    | none => none

/-- Nanoseconds from the digits after the point; those after the ninth are dropped. -/
def nanosOfDigits (digits : List Char) : Nat :=
  let kept := digits.take 9
  Nat.ofDigitChars 10 kept 0 * Nat.pow 10 (9 - kept.length)

/-- Read one part of a layout. -/
def readPart (r : Reading) (cs : List Char) : Part → Option (Reading × List Char)
  | .field f => readField f r (skipBlanks cs)
  | .char c => match cs with
    | d :: rest => if d = c then some (r, rest) else none
    | [] => none
  | .blanks => some (r, skipBlanks cs)
  | .fraction => match cs with
    | '.' :: rest =>
      let digits := rest.takeWhile Char.isDigit
      if digits.isEmpty then none
      else some ({ r with nanos := nanosOfDigits digits }, rest.dropWhile Char.isDigit)
    | _ => some (r, cs)

/-- **Read a text by a layout**, which must use it up; `r` holds the fields already found. -/
def readLayout (r : Reading) (cs : List Char) : List Part → Option Reading
  | [] => if cs.isEmpty then some r else none
  | part :: layout =>
    match readPart r cs part with
    | some (r, rest) => readLayout r rest layout
    | none => none

/-! ## From fields to dates -/

/-- The day that the fields name, if there is one. -/
def Reading.date? (r : Reading) : Option Date := Date.ofYMD? r.year r.month r.day

/-- The time that the fields name; second 60 is the leap second after second 59. -/
def Reading.time? (r : Reading) : Option TimeOfDay :=
  if r.second = 60 then TimeOfDay.ofHMS? r.hour r.minute 59 (nanosPerSecond + r.nanos)
  else TimeOfDay.ofHMS? r.hour r.minute r.second r.nanos

/-- The day and time that the fields name. -/
def Reading.dateTime? (r : Reading) : Option DateTime :=
  match r.date?, r.time? with
  | some d, some t => some ⟨d, t⟩
  | _, _ => none

/-! ## The layouts of the language -/

/-- `year-month-day`. -/
def dateLayout : List Part :=
  [.field .year, .char '-', .field .month, .char '-', .field .day]

/-- `hour:minute`. -/
def clockLayout : List Part := [.field .hour, .char ':', .field .minute]

/-- `hour:minute:second`. -/
def secondsLayout : List Part := clockLayout ++ [.char ':', .field .second]

/-- The layouts of a time of day. -/
def timeLayouts : List (List Part) :=
  [secondsLayout, secondsLayout ++ [.fraction], clockLayout]

/-- The layouts of a date with a time, parted by blanks or by the letter `T`; the latter needs the
seconds. -/
def dateTimeLayouts : List (List Part) :=
  [dateLayout ++ [.blanks] ++ secondsLayout,
   dateLayout ++ [.blanks] ++ secondsLayout ++ [.fraction],
   dateLayout ++ [.char 'T'] ++ secondsLayout,
   dateLayout ++ [.char 'T'] ++ secondsLayout ++ [.fraction],
   dateLayout ++ [.blanks] ++ clockLayout]

/-- **Read a date, a time, or a date with a time.**  A text with `-` has a date and one with `:` a
time; a bare date is read at midnight and a bare time on the day of the Unix epoch. -/
def DateTime.ofText? (s : String) : Option DateTime :=
  let cs := trimChars s.toList
  match cs.contains '-', cs.contains ':' with
  | true, true => dateTimeLayouts.findSome? fun layout =>
      (readLayout {} cs layout).bind Reading.dateTime?
  | true, false => ((readLayout {} cs dateLayout).bind Reading.date?).map .atMidnight
  | false, true => (timeLayouts.findSome? fun layout =>
      (readLayout {} cs layout).bind Reading.time?).map fun t => ⟨Date.epoch, t⟩
  | false, false => none

/-- The layout of a stored date: `year-month-dayThour:minute:second` with an optional fraction,
blanks before the separators and at the end. -/
def storedLayout : List Part :=
  [.field .year, .blanks, .char '-', .field .month, .blanks, .char '-', .field .day, .blanks,
   .char 'T', .field .hour, .blanks, .char ':', .field .minute, .blanks, .char ':',
   .field .second, .fraction, .blanks]

/-- Read a stored date. -/
def DateTime.ofStored? (s : String) : Option DateTime :=
  (readLayout {} s.toList storedLayout).bind Reading.dateTime?

end Formula.Calendar
