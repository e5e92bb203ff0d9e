import Formula.Json.Basic
import Formula.Sheet.Basic

/-!
# Sheet/Stored — sheets and cells from JSON

A sheet may be stored as a list of rows of plain values.  A single cell is stored as an object with
its `type` and `value`, the value of an empty cell being left out.
-/

namespace Formula

/-! ## Rows -/

/-- What a plain JSON value puts into a cell, or the name of its kind if it cannot stand there. -/
def Cell.ofPlainJson : Json → Except String Cell
  | .null => .ok empty
  | .bool b => .ok (bool b)
  | .int n => .ok (number (Float.ofInt n))
  | .float x => .ok (number x)
  | .string s => .ok (text s)
  | .array _ => .error "array"
  | .fields _ => .error "object"

namespace Sheet

/-- Store a plain JSON value. -/
def setJson (s : Sheet) (row column : Nat) (j : Json) : Except SheetError Sheet :=
  let a : Address := ⟨.ofNat row, .ofNat column⟩
  match Cell.ofPlainJson j with
  | .ok c => s.set a c
  | .error kind => .error (.unsupportedCell a.row.toNat a.column.toNat kind)

/-- Store a row of plain JSON values. -/
def setJsonRow (s : Sheet) (row : Nat) : Json → Except SheetError Sheet
  | .array items => items.zipIdx.foldlM (fun s (j, column) => s.setJson row column j) s
  | _ => .error .notRows

/-- **The sheet stored as a list of rows.**  The first entry that cannot be stored, row by row, is
reported. -/
def ofJsonRows : Json → Except SheetError Sheet
  | .array rows => rows.zipIdx.foldlM (fun s (j, row) => s.setJsonRow row j) empty
  | _ => .error .notRows

end Sheet

/-! ## Single cells -/

namespace Cell

/-- The name under which the kind of a cell is stored. -/
def typeName : Cell → String
  | empty => "empty"
  | number _ => "number"
  | text _ => "text"
  | bool _ => "bool"
  | date _ => "date"

/-- The cell of a stored kind and value; an empty cell has no value or the value null. -/
def ofTypeAndValue (type : String) (value : Option Json) : Option Cell :=
  match type, value with
  | "empty", none | "empty", some .null => some empty
  | "number", some (.int n) => some (number (Float.ofInt n))
  | "number", some (.float x) => some (number x)
  | "text", some (.string s) => some (text s)
  | "bool", some (.bool b) => some (bool b)
  | "date", some (.string s) => (Calendar.DateTime.ofStored? s).map date
  | _, _ => none

/-- **Read a stored cell**: an object, or an array of the type and the value. -/
def ofJson? : Json → Option Cell
  | .array [type, value] => do ofTypeAndValue (← type.choice?) (some value)
  | .array _ => none
  | j => do ofTypeAndValue (← (← j.field? "type").choice?) (j.field? "value")

end Cell

end Formula
