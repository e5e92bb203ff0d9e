import Formula.Sheet.Range
import Formula.Value.Basic

/-!
# Error — why an evaluation fails

Every failure is a cause with what is needed to name it; `EvalError.message` words it.  Readings of
values never fail, so no cause speaks of one.
-/

namespace Formula

open Decimal (digitsText integerText)

/-- **What is wrong with the arguments** of a function or procedure. -/
inductive Fault where
  /-- There are `got` arguments, and there should be between `least` and `most`. -/
  | arity (least most got : Nat)
  /-- A value of this kind stands where an integer should. -/
  | notInteger (kind : String)
  /-- A count is negative. -/
  | negativeCount (n : Int)
  /-- A position is below one. -/
  | positionBelowOne (n : Int)
  /-- A repeated text would be larger than this many bytes. -/
  | textTooLong (bytes : Nat)
  /-- The characters to be replaced are not all there. -/
  | outsideText (count position : Nat)
  /-- The pattern is not well formed. -/
  | badPattern
  /-- A value of this kind stands where a range should. -/
  | notRange (kind : String)
  /-- Two ranges that are walked together differ in size. -/
  | sizesDiffer (criterion sum : Range)
  /-- Two ranges that are walked together hold different numbers of numbers. -/
  | unpaired (ys xs : Nat)
  /-- Something other than a variable stands where a variable should. -/
  | notVariable
  /-- A factor times an amount of time is no finite number. -/
  | notFinite (factor : Float) (magnitude : Int)
  /-- Symbols are not given as an object. -/
  | notObject
  /-- A field of the symbols is a list or an object. -/
  | notScalar (field : String)
deriving DecidableEq

/-- The number of arguments from which on a function takes any number of them. -/
def anyArguments : Nat := 255

/-- The message for faulty arguments. -/
def Fault.message : Fault → String
  | arity least most got =>
    let expected :=
      if least = most then digitsText least
      else if most = anyArguments then "at least " ++ digitsText least
      else digitsText least ++ " to " ++ digitsText most
    "expected " ++ expected ++ " argument(s), got " ++ digitsText got
  | notInteger kind => "expected an integer, found " ++ kind
  | negativeCount n => "expected a non-negative count, got " ++ integerText n
  | positionBelowOne n => "position must be at least 1, got " ++ integerText n
  | textTooLong bytes => "result exceeds " ++ digitsText bytes ++ " bytes"
  | outsideText count position =>
    digitsText count ++ " character(s) at position " ++ digitsText position ++ " exceed the string"
  | badPattern => "invalid pattern"
  | notRange kind => "expected a cell range, found " ++ kind
  | sizesDiffer criterion sum =>
    "criterion range " ++ criterion.text ++ " and sum range " ++ sum.text ++ " differ in size"
  | unpaired ys xs =>
    digitsText ys ++ " numeric y value(s) but " ++ digitsText xs ++ " numeric x value(s)"
  | notVariable => "first argument must be a variable"
  | notFinite factor magnitude =>
    "amount " ++ Decimal.toText factor ++ " x " ++ integerText magnitude ++
      " is not a finite number"
  | notObject => "expected a JSON object of fields"
  | notScalar field => "field '" ++ field ++ "' is not a scalar"

/-- **Why an evaluation fails.** -/
inductive EvalError where
  /-- The text of an expression cannot be read; `offset` counts bytes. -/
  | parse (message : String) (offset : Nat)
  | missingSymbol (name : String)
  | unknownFunction (name : String)
  | unknownProcedure (name : String)
  /-- The arguments of what is called `name` are at fault. -/
  | invalidArguments (name : String) (fault : Fault)
  | typeMismatch (expected found : String)
  | dateOutOfRange
  | depthExceeded (limit : Nat)
  | noSheet
  | address (e : AddressError)
deriving DecidableEq

/-- The message for a failed evaluation. -/
def EvalError.message : EvalError → String
  | parse message offset =>
    "failed to parse expression: " ++ message ++ " (at offset " ++ digitsText offset ++ ")"
  | missingSymbol name => "symbol '" ++ name ++ "' is not defined"
  | unknownFunction name => "Function '" ++ name ++ "' not available!"
  | unknownProcedure name => "Procedure '" ++ name ++ "' not available!"
  | invalidArguments name fault => name ++ ": " ++ fault.message
  | typeMismatch expected found => "type mismatch: expected " ++ expected ++ ", found " ++ found
  | dateOutOfRange => "date arithmetic left the supported calendar range"
  | depthExceeded limit =>
    "expression nesting exceeds the maximum depth of " ++ digitsText limit
  | noSheet => "cell references require a sheet"
  | address e => e.message

end Formula
