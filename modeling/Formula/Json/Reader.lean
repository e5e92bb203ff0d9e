import Formula.Json.Basic
import Formula.Text.Chars

/-!
# Json/Reader — reading JSON text

Reading goes from left to right over the characters; each step returns what is left of the text.
The **number** rule: digits are gathered into an integer as long as that fits 64 bits, the rest of
them only move the decimal point; an integer without point, exponent or minus zero is kept as such,
and any other number is that integer times a power of ten in floating point.
-/

namespace Formula.Json

open Formula.Text (hexValue?)

/-! ## Numbers -/

/-- The largest integer that gathered digits may make. -/
def maxGathered : Nat := UInt64.size - 1

/-- The size of the least 64-bit integer. -/
def maxNegated : Nat := Int64.minValue.toInt.natAbs

/-- Digits gathered so far, and the power of ten they are to be multiplied by. -/
structure Gathered where
  significand : Nat := 0
  exponent : Int := 0

/-- Take in digits before the point. -/
def Gathered.addWhole (g : Gathered) : List Char → Gathered
  | [] => g
  | c :: cs =>
    let next := 10 * g.significand + (c.toNat - '0'.toNat)
    if maxGathered < next then ⟨g.significand, g.exponent + (c :: cs).length⟩
    else Gathered.addWhole ⟨next, g.exponent⟩ cs

/-- Take in digits after the point. -/
def Gathered.addFraction (g : Gathered) : List Char → Gathered
  | [] => g
  | c :: cs =>
    let next := 10 * g.significand + (c.toNat - '0'.toNat)
    if maxGathered < next then g
    else Gathered.addFraction ⟨next, g.exponent - 1⟩ cs

/-- The largest power of ten that is multiplied in one step. -/
def maxPower : Nat := 308

/-- A number times a power of ten, in steps of at most `maxPower`; none if it is too large. -/
def scale : Nat → Float → Int → Option Float
  | 0, _, _ => none
  | fuel + 1, x, exponent =>
    if exponent.natAbs ≤ maxPower then
      let power := Float.ofScientific 1 false exponent.natAbs
      if 0 ≤ exponent then
        let y := x * power
        if y.isInf then none else some y
      else some (x / power)
    else if x == 0 then some x
    else if 0 ≤ exponent then none
    else scale fuel (x / Float.ofScientific 1 false maxPower) (exponent + maxPower)

/-- The floating-point number that gathered digits write.  Three steps make every number zero. -/
def Gathered.toFloat? (g : Gathered) (negative : Bool) : Option Float :=
  (scale 8 (Float.ofNat g.significand) (max g.exponent (-2000))).map fun x =>
    if negative then -x else x

/-- Read an exponent after its letter. -/
def readPower (cs : List Char) : Option (Int × List Char) :=
  let (negative, cs) := match cs with
    | '-' :: rest => (true, rest)
    | '+' :: rest => (false, rest)
    | rest => (false, rest)
  let digits := cs.takeWhile Char.isDigit
  if digits.isEmpty then none
  else
    let n : Int := Nat.ofDigitChars 10 digits 0
    some (if negative then -n else n, cs.dropWhile Char.isDigit)

/-- Read a number after its sign. -/
def readNumber (negative : Bool) (cs : List Char) : Option (Json × List Char) := do
  let whole := cs.takeWhile Char.isDigit
  let rest := cs.dropWhile Char.isDigit
  if whole.isEmpty || (whole.head? == some '0' && 1 < whole.length) then none
  let gathered := Gathered.addWhole {} whole
  let (fraction, rest, pointed) := match rest with
    | '.' :: more => (more.takeWhile Char.isDigit, more.dropWhile Char.isDigit, true)
    | more => ([], more, false)
  if pointed && fraction.isEmpty then none
  let gathered := gathered.addFraction fraction
  let (power, rest, raised) ← match rest with
    | 'e' :: more | 'E' :: more => (readPower more).map fun (n, rest) => (n, rest, true)
    | more => some (0, more, false)
  let value := Nat.ofDigitChars 10 whole 0
  if !pointed && !raised && gathered.exponent == 0 &&
      (if negative then 0 < value && value ≤ maxNegated else true) then
    return (.int (if negative then -(value : Int) else value), rest)
  let x ← Gathered.toFloat? { gathered with exponent := gathered.exponent + power } negative
  return (.float x, rest)

/-! ## Strings -/

/-- Read four hexadecimal digits. -/
def readHex4 : List Char → Option (Nat × List Char)
  | a :: b :: c :: d :: rest => do
    let a ← hexValue? a
    let b ← hexValue? b
    let c ← hexValue? c
    let d ← hexValue? d
    return (((a * 16 + b) * 16 + c) * 16 + d, rest)
  | _ => none

/-- Read an escape after its backslash; two halves of a surrogate pair make one character. -/
def readEscape : List Char → Option (Char × List Char)
  | '"' :: rest => some ('"', rest)
  | '\\' :: rest => some ('\\', rest)
  | '/' :: rest => some ('/', rest)
  | 'b' :: rest => some ('\x08', rest)
  | 'f' :: rest => some ('\x0c', rest)
  | 'n' :: rest => some ('\n', rest)
  | 'r' :: rest => some ('\r', rest)
  | 't' :: rest => some ('\t', rest)
  | 'u' :: rest => do
    let (unit, rest) ← readHex4 rest
    if 0xD800 ≤ unit && unit < 0xDC00 then
      match rest with
      | '\\' :: 'u' :: more =>
        let (low, more) ← readHex4 more
        if 0xDC00 ≤ low && low < 0xE000 then
          return (Char.ofNat (0x10000 + (unit - 0xD800) * 0x400 + (low - 0xDC00)), more)
        else none
      | _ => none
    else if 0xDC00 ≤ unit && unit < 0xE000 then none
    else return (Char.ofNat unit, rest)
  | _ => none

/-- Read the rest of a string after its opening quote; `acc` holds what was read, in reverse. -/
def readString : Nat → List Char → List Char → Option (String × List Char)
  | 0, _, _ => none
  | _, _, [] => none
  | fuel + 1, acc, c :: rest =>
    if c = '"' then some (String.ofList acc.reverse, rest)
    else if c = '\\' then
      match readEscape rest with
      | some (d, rest) => readString fuel (d :: acc) rest
      | none => none
    else if c.toNat < 0x20 then none
    else readString fuel (c :: acc) rest

/-! ## Values -/

/-- The text from the first character on that is not JSON white space. -/
def skipSpace (cs : List Char) : List Char :=
  cs.dropWhile fun c => c = ' ' ∨ c = '\t' ∨ c = '\n' ∨ c = '\r'

mutual

/-- Read one value. -/
def readValue : Nat → List Char → Option (Json × List Char)
  | 0, _ => none
  | fuel + 1, cs =>
    match skipSpace cs with
    | 'n' :: 'u' :: 'l' :: 'l' :: rest => some (.null, rest)
    | 't' :: 'r' :: 'u' :: 'e' :: rest => some (.bool true, rest)
    | 'f' :: 'a' :: 'l' :: 's' :: 'e' :: rest => some (.bool false, rest)
    | '"' :: rest => (readString (rest.length + 1) [] rest).map fun (s, rest) => (.string s, rest)
    | '[' :: rest =>
      match skipSpace rest with
      | ']' :: rest => some (.array [], rest)
      | rest => readItems fuel [] rest
    | '{' :: rest =>
      match skipSpace rest with
      | '}' :: rest => some (.fields [], rest)
      | rest => readFields fuel [] rest
    | '-' :: rest => readNumber true rest
    | rest => readNumber false rest

/-- Read the items of an array from one of them on; `acc` holds those before it, in reverse. -/
def readItems : Nat → List Json → List Char → Option (Json × List Char)
  | 0, _, _ => none
  | fuel + 1, acc, cs =>
    match readValue fuel cs with
    | none => none
    | some (item, rest) =>
      match skipSpace rest with
      | ',' :: rest => readItems fuel (item :: acc) rest
      | ']' :: rest => some (.array (item :: acc).reverse, rest)
      | _ => none

/-- Read the fields of an object from one of them on; `acc` holds those before it, in reverse. -/
def readFields : Nat → List (String × Json) → List Char → Option (Json × List Char)
  | 0, _, _ => none
  | fuel + 1, acc, cs =>
    match skipSpace cs with
    | '"' :: rest =>
      match readString (rest.length + 1) [] rest with
      | none => none
      | some (name, rest) =>
        match skipSpace rest with
        | ':' :: rest =>
          match readValue fuel rest with
          | none => none
          | some (value, rest) =>
            match skipSpace rest with
            | ',' :: rest => readFields fuel ((name, value) :: acc) rest
            | '}' :: rest => some (.object ((name, value) :: acc).reverse, rest)
            | _ => none
        | _ => none
    | _ => none

end

/-- **Read a JSON text**, which must use it up.  Every step of reading consumes a character or ends
a value, so twice the length of the text bounds their number. -/
def ofText? (s : String) : Option Json :=
  let cs := s.toList
  match readValue (2 * cs.length + 2) cs with
  | some (j, rest) => if (skipSpace rest).isEmpty then some j else none
  | none => none

end Formula.Json
