/-!
# Json/Basic — JSON values

A JSON number without point and exponent is an **integer** as long as it fits 64 bits, signed or
not; every other number is a floating-point one.  The fields of an object stand in the order of
their names and each name occurs once, `Json.object` seeing to both.
-/

namespace Formula

/-- **A JSON value.** -/
inductive Json where
  | null
  | bool (b : Bool)
  | int (n : Int)
  | float (x : Float)
  | string (s : String)
  | array (items : List Json)
  | fields (entries : List (String × Json))

namespace Json

/-- Put a field in its place; a field of the same name is replaced. -/
def insertField (name : String) (value : Json) : List (String × Json) → List (String × Json)
  | [] => [(name, value)]
  | (n, v) :: rest =>
    match compare name n with
    | .lt => (name, value) :: (n, v) :: rest
    | .eq => (name, value) :: rest
    | .gt => (n, v) :: insertField name value rest

/-- **The object with given fields**; of two fields of one name the later counts. -/
def object (entries : List (String × Json)) : Json :=
  .fields (entries.foldl (fun acc (n, v) => insertField n v acc) [])

/-- The field of an object with a given name. -/
def field? (name : String) : Json → Option Json
  | .fields entries => (entries.find? fun (n, _) => n == name).map Prod.snd
  | _ => none

/-! ## Reading records -/

/-- **The fields of a record**, in the order of `names`: by name from an object, which may have
others, and by position from an array, which may leave out the last but have none too many. -/
def record? (names : List String) : Json → Option (List (Option Json))
  | .fields entries => some (names.map fun name => (Json.fields entries).field? name)
  | .array items =>
    if names.length < items.length then none
    else some (items.map some ++ List.replicate (names.length - items.length) none)
  | _ => none

/-- The integer, if it lies between the bounds. -/
def intBetween? (low high : Int) : Json → Option Int
  | .int n => if low ≤ n ∧ n ≤ high then some n else none
  | _ => none

/-- **The name of a choice**: a text, or an object whose only field has that name and no value. -/
def choice? : Json → Option String
  | .string s => some s
  | .fields [(s, .null)] => some s
  | _ => none

/-- A field that may be missing, but not be wrong. -/
def optional {α : Type} (default : α) (read : Json → Option α) : Option Json → Option α
  | none => some default
  | some j => read j

/-- A field that must be there. -/
def required {α : Type} (read : Json → Option α) : Option Json → Option α
  | none => none
  | some j => read j

end Json

end Formula
