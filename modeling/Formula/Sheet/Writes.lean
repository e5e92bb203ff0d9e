import Formula.Sheet.Basic

/-!
# Sheet/Writes — a sheet that is written to

A **write** is an attempt to store something in a cell.  The sheet takes it or refuses it, and a
sheet that refuses is left as it was.  Sheets are compared by what they list: the same addresses, in
the order of addresses, with cells that compare as equal.
-/

namespace Formula

/-- **A write**: what is to be stored, and where. -/
structure Write where
  address : Address
  content : Cell
deriving DecidableEq

namespace Sheet

/-- **Attempt a write.**  The answer is the refusal if there is one; the sheet is the one after the
attempt. -/
def write (s : Sheet) (w : Write) : Except SheetError Unit × Sheet :=
  match s.set w.address w.content with
  | .ok t => (.ok (), t)
  | .error e => (.error e, s)

/-- The sheet after attempts that were made one after the other. -/
def writeAll (s : Sheet) (ws : List Write) : Sheet := ws.foldl (fun s w => (s.write w).2) s

/-- The writes that a sheet takes, of those attempted one after the other. -/
def taken (s : Sheet) : List Write → List Write
  | [] => []
  | w :: ws =>
    match s.write w with
    | (.ok (), t) => w :: t.taken ws
    | (.error _, t) => t.taken ws

end Sheet

/-! ## Comparison -/

/-- **Whether two sheets are equal**: they list as many cells, in pairs of one address with equal
contents. -/
def Sheet.equals (s t : Sheet) : Bool :=
  s.cells.size == t.cells.size &&
    (s.cells.toList.zip t.cells.toList).all fun (p, q) => p.1 == q.1 && p.2.equals q.2

end Formula
