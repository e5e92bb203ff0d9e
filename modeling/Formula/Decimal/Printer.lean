import Formula.Decimal.Shortest

/-!
# Decimal/Printer — numbers as text

Two forms.  The **positional** form has the shortest digits that read back and never an exponent; it
is the text of a number inside the language.  The **scientific** form has a fixed number of
significant digits.  Either writes `NaN`, `inf` and `-inf` for what is not finite.
-/

namespace Formula.Decimal

/-- The decimal digits of a natural number. -/
def digitsText (n : Nat) : String := String.ofList (Nat.toDigits 10 n)

/-- An integer in decimal. -/
def integerText (n : Int) : String := (if n < 0 then "-" else "") ++ digitsText n.natAbs

/-- A decimal without exponent. -/
def Scaled.positional (d : Scaled) : String :=
  let digits := Nat.toDigits 10 d.coefficient
  if 0 ≤ d.exponent then
    String.ofList (digits ++ List.replicate d.exponent.toNat '0')
  else
    let places := (-d.exponent).toNat
    let padded := List.replicate (places + 1 - digits.length) '0' ++ digits
    let whole := padded.length - places
    String.ofList (padded.take whole ++ '.' :: padded.drop whole)

/-- A decimal as one digit, a point, the other digits if there are any, and the exponent. -/
def Scaled.scientific (d : Scaled) : String :=
  let digits := Nat.toDigits 10 d.coefficient
  let exponent : Int := d.exponent + (digits.length - 1 : Nat)
  let mantissa := digits.take 1 ++ (if digits.length ≤ 1 then [] else '.' :: digits.drop 1)
  String.ofList mantissa ++ "e" ++ integerText exponent

/-- The text of a number, given the texts of zero and of a positive number. -/
def render (zero : String) (positive : Magnitude → String) (x : Float) : String :=
  match Shape.of x with
  | .nan => "NaN"
  | .infinite negative => signed negative "inf"
  | .finite negative size =>
    signed negative (if size.mantissa = 0 then zero else positive size)
where
  /-- A minus sign before the text of a negative number. -/
  signed (negative : Bool) (text : String) : String := if negative then "-" ++ text else text

/-- **The text of a number**: shortest digits, no exponent. -/
def toText (x : Float) : String := render "0" (fun size => size.shortest.positional) x

/-- **A number with `digits` significant digits** and an exponent. -/
def toScientific (digits : Nat) (x : Float) : String :=
  let zero : Scaled := ⟨0, 0⟩
  let zeroText := if digits ≤ 1 then zero.scientific
    else "0." ++ String.ofList (List.replicate (digits - 1) '0') ++ "e0"
  render zeroText (fun size => (size.rounded digits).scientific) x

end Formula.Decimal
