/-!
# Decimal/Reader — reading a number

A number is an optional sign and then `inf`, `infinity` or `nan` in any case, or decimal digits with
an optional point among, before or after them and an optional exponent.  Nothing else may stand in
the text.  The result is the floating-point number nearest to the decimal one.
-/

namespace Formula.Decimal

/-- The parts of a number as written: all its digits, how many of them follow the point, and the
exponent. -/
structure Numeral where
  digits : List Char
  places : Nat
  exponent : Int
deriving DecidableEq

/-- Read an exponent part, which must use up the text; no text is exponent zero. -/
def readExponent : List Char → Option Int
  | [] => some 0
  | e :: cs =>
    if e = 'e' ∨ e = 'E' then
      let (negative, digits) := match cs with
        | '-' :: ds => (true, ds)
        | '+' :: ds => (false, ds)
        | ds => (false, ds)
      if digits.isEmpty || !digits.all Char.isDigit then none
      else
        let n : Int := Nat.ofDigitChars 10 digits 0
        some (if negative then -n else n)
    else none

/-- Read digits with an optional point and an optional exponent. -/
def readNumeral (cs : List Char) : Option Numeral :=
  let whole := cs.takeWhile Char.isDigit
  let (fraction, rest) := match cs.dropWhile Char.isDigit with
    | '.' :: more => (more.takeWhile Char.isDigit, more.dropWhile Char.isDigit)
    | more => ([], more)
  if whole.isEmpty && fraction.isEmpty then none
  else (readExponent rest).map fun exponent => ⟨whole ++ fraction, fraction.length, exponent⟩

/-- **The number nearest to a numeral.**  A numeral whose leading digit stands beyond the four
hundredth place is infinite, or zero, without more ado. -/
def Numeral.value (n : Numeral) : Float :=
  let coefficient := Nat.ofDigitChars 10 n.digits 0
  let exponent := n.exponent - n.places
  let lead := exponent + (Nat.toDigits 10 coefficient).length
  if coefficient = 0 ∨ lead < -400 then 0
  else if 400 < lead then 1 / 0
  else if 0 ≤ exponent then Float.ofScientific coefficient false exponent.toNat
  else Float.ofScientific coefficient true (-exponent).toNat

/-- Read a number without a sign. -/
def readUnsigned (cs : List Char) : Option Float :=
  match String.ofList (cs.map Char.toLower) with
  | "inf" | "infinity" => some (1 / 0)
  | "nan" => some (0 / 0)
  | _ => (readNumeral cs).map Numeral.value

/-- **Read a number**, which must use up the text. -/
def ofText? (s : String) : Option Float :=
  match s.toList with
  | '-' :: cs => (readUnsigned cs).map fun x => -x
  | '+' :: cs => readUnsigned cs
  | cs => readUnsigned cs

end Formula.Decimal
