import Formula.Decimal.Printer
import Formula.Json.Basic
import Formula.Text.Chars

/-!
# Json/Printer — JSON text

The text of a JSON value has no white space between its parts.  Of the characters in a string the
quote, the backslash and the control characters are escaped, and nothing else.
-/

namespace Formula.Json

open Formula.Text (hexDigit)

/-- **The characters that stand for a character in a string.** -/
def escape (c : Char) : List Char :=
  if c = '"' then ['\\', '"']
  else if c = '\\' then ['\\', '\\']
  else if c.toNat < 0x20 then
    match c with
    | '\x08' => ['\\', 'b']
    | '\x0c' => ['\\', 'f']
    | '\n' => ['\\', 'n']
    | '\r' => ['\\', 'r']
    | '\t' => ['\\', 't']
    | _ => ['\\', 'u', '0', '0', hexDigit (c.toNat / 16), hexDigit (c.toNat % 16)]
  else [c]

/-- A string with its quotes. -/
def quoted (s : String) : String := "\"" ++ String.ofList (s.toList.flatMap escape) ++ "\""

/-- The text of a floating-point number, which has a point; what is not finite is null. -/
def floatText (x : Float) : String :=
  if x.isNaN || x.isInf then "null"
  else
    let text := Decimal.toText x
    if text.toList.contains '.' then text else text ++ ".0"

mutual

/-- **The text of a JSON value.** -/
def text : Json → String
  | .null => "null"
  | .bool b => if b then "true" else "false"
  | .int n => Decimal.integerText n
  | .float x => floatText x
  | .string s => quoted s
  | .array items => "[" ++ ",".intercalate (itemTexts items) ++ "]"
  | .fields entries => "\x7b" ++ ",".intercalate (fieldTexts entries) ++ "\x7d"

/-- The texts of the items of an array. -/
def itemTexts : List Json → List String
  | [] => []
  | item :: rest => item.text :: itemTexts rest

/-- The texts of the fields of an object. -/
def fieldTexts : List (String × Json) → List String
  | [] => []
  | (name, value) :: rest => (quoted name ++ ":" ++ value.text) :: fieldTexts rest

end

end Formula.Json
