import Std.Data.ExtTreeMap
import Formula.Decimal.Reader
import Formula.Error
import Formula.Json.Basic
import Formula.Text.Chars

/-!
# Symbols — the variables of an evaluation

A **symbol table** binds names to values; names differ when their letters differ in case.  Tables
are read from `name=value` texts and from JSON objects.
-/

namespace Formula

open Text (trim)

/-- **Values by name.** -/
structure Symbols where
  bindings : Std.ExtTreeMap String Value

namespace Symbols

/-- The table that binds nothing. -/
def empty : Symbols := ⟨∅⟩

instance : Inhabited Symbols := ⟨empty⟩

/-- The value bound to a name. -/
def get? (s : Symbols) (name : String) : Option Value := s.bindings[name]?

/-- Bind a name; an older binding of it is lost. -/
def insert (s : Symbols) (name : String) (v : Value) : Symbols := ⟨s.bindings.insert name v⟩

/-- Bind names one after the other. -/
def insertMany (s : Symbols) (entries : List (String × Value)) : Symbols :=
  entries.foldl (fun s (name, v) => s.insert name v) s

/-- The table of given bindings; of two bindings of one name the later counts. -/
def ofList (entries : List (String × Value)) : Symbols := empty.insertMany entries

/-- Whether a name is bound. -/
def contains (s : Symbols) (name : String) : Bool := s.bindings.contains name

/-- The value bound to a name that must be bound. -/
def require (s : Symbols) (name : String) : Except EvalError Value :=
  match s.get? name with
  | some v => .ok v
  | none => .error (.missingSymbol name)

/-- The number of names bound. -/
def size (s : Symbols) : Nat := s.bindings.size

/-- Whether nothing is bound. -/
def isEmpty (s : Symbols) : Bool := s.bindings.isEmpty

/-- The bindings in the order of their names. -/
def toList (s : Symbols) : List (String × Value) := s.bindings.toList

/-! ## What a table binds -/

@[simp] theorem get?_empty (name : String) : empty.get? name = none :=
  Std.ExtTreeMap.getElem?_empty

theorem get?_insert (s : Symbols) (name other : String) (v : Value) :
    (s.insert name v).get? other = if name = other then some v else s.get? other := by
  simp [get?, insert, Std.ExtTreeMap.getElem?_insert]

/-! ## From texts -/

/-- **The value that a text writes**: a number, a truth value or a date, blanks around it not
counted, or else the text itself, blanks and all. -/
def readValue (raw : String) : Value :=
  let trimmed := trim raw
  match Decimal.ofText? trimmed with
  | some x => .number x
  | none =>
    if trimmed = "true" then .bool true
    else if trimmed = "false" then .bool false
    else
      match Calendar.DateTime.ofText? trimmed with
      | some t => .date t
      | none => .text raw

/-- The binding that a `name=value` text writes; none without an equals sign or without a name. -/
def readPair (pair : String) : Option (String × Value) :=
  let cs := pair.toList
  match cs.dropWhile (· != '=') with
  | _ :: raw =>
    let name := trim (String.ofList (cs.takeWhile (· != '=')))
    if name.isEmpty then none else some (name, readValue (String.ofList raw))
  | [] => none

/-- **The table that `name=value` texts write.**  Texts that write no binding are passed over. -/
def ofPairs (pairs : List String) : Symbols := ofList (pairs.filterMap readPair)

/-! ## From JSON -/

/-- The value of a field; a null field has none. -/
def fieldValue (name : String) : Json → Except EvalError (Option Value)
  | .null => .ok none
  | .bool b => .ok (some (.bool b))
  | .int n => .ok (some (.number (Float.ofInt n)))
  | .float x => .ok (some (.number x))
  | .string s => .ok (some (.text s))
  | .array _ | .fields _ => .error (.invalidArguments "symbols" (.notScalar name))

/-- Bind one field. -/
def insertField (s : Symbols) (entry : String × Json) : Except EvalError Symbols :=
  (fieldValue entry.1 entry.2).map fun
    | some v => s.insert entry.1 v
    | none => s

/-- **The table of the fields of a JSON object.**  The first field, by name, that is a list or an
object is reported. -/
def ofJson : Json → Except EvalError Symbols
  | .fields entries => entries.foldlM insertField empty
  | _ => .error (.invalidArguments "symbols" .notObject)

end Symbols

end Formula
