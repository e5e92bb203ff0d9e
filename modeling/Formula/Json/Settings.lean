import Formula.Config
import Formula.Json.Basic

/-!
# Json/Settings — stored forms of amounts, settings, addresses and ranges

Each is stored as an object with one field for each part; choices are stored by name.  What reads
back from a stored form is what was stored.
-/

namespace Formula

open Calendar (Policy TimeUnit Counting Amount)

/-- The choice of a list that has a given name. -/
def Json.namedChoice? {α : Type} (all : List α) (name : α → String) (j : Json) : Option α :=
  j.choice?.bind fun s => all.find? fun a => name a == s

/-! ## Amounts of time -/

/-- A stored 64-bit integer. -/
def Json.int64? (j : Json) : Option Int64 :=
  (j.intBetween? Int64.minValue.toInt Int64.maxValue.toInt).map Int64.ofInt

/-- The stored form of an amount. -/
def Calendar.Amount.toJson (a : Amount) : Json :=
  .object [("unit", .string a.unit.name), ("magnitude", .int a.magnitude.toInt),
    ("note", .string a.counting.name)]

/-- Read an amount; one without a note is counted in units. -/
def Calendar.Amount.ofJson? (j : Json) : Option Amount :=
  match j.record? ["unit", "magnitude", "note"] with
  | some [unit, magnitude, note] => do
    let unit ← Json.required (Json.namedChoice? TimeUnit.all TimeUnit.name) unit
    let magnitude ← Json.required Json.int64? magnitude
    let counting ← Json.optional .plain (Json.namedChoice? Counting.all Counting.name) note
    return ⟨unit, magnitude, counting⟩
  | _ => none

/-! ## Settings -/

/-- A stored 64-bit natural number. -/
def Json.uint64? (j : Json) : Option UInt64 :=
  (j.intBetween? 0 (UInt64.size - 1 : Nat)).map fun n => .ofNat n.toNat

/-- The stored form of the settings. -/
def Config.toJson (c : Config) : Json :=
  .object [("business_days", .string c.businessDays.name), ("max_depth", .int c.maxDepth.toNat)]

/-- Read settings; what is missing has its default. -/
def Config.ofJson? (j : Json) : Option Config :=
  match j.record? ["business_days", "max_depth"] with
  | some [policy, depth] => do
    let default : Config := {}
    let readPolicy := Json.namedChoice? Policy.all Policy.name
    let policy ← Json.optional default.businessDays readPolicy policy
    let depth ← Json.optional default.maxDepth Json.uint64? depth
    return ⟨policy, depth⟩
  | _ => none

/-! ## Addresses and ranges -/

/-- A stored 32-bit natural number. -/
def Json.uint32? (j : Json) : Option UInt32 :=
  (j.intBetween? 0 (UInt32.size - 1 : Nat)).map fun n => .ofNat n.toNat

/-- The stored form of an address. -/
def Address.toJson (a : Address) : Json :=
  .object [("row", .int a.row.toNat), ("col", .int a.column.toNat)]

/-- Read an address. -/
def Address.ofJson? (j : Json) : Option Address :=
  match j.record? ["row", "col"] with
  | some [row, column] => do
    let row ← Json.required Json.uint32? row
    let column ← Json.required Json.uint32? column
    return ⟨row, column⟩
  | _ => none

/-- The stored form of a range. -/
def Range.toJson (r : Range) : Json :=
  .object [("start", r.start.toJson), ("end", r.finish.toJson)]

/-- Read a range, its corners as they are stored. -/
def Range.ofJson? (j : Json) : Option Range :=
  match j.record? ["start", "end"] with
  | some [start, finish] => do
    let start ← Json.required Address.ofJson? start
    let finish ← Json.required Address.ofJson? finish
    return ⟨start, finish⟩
  | _ => none

end Formula
