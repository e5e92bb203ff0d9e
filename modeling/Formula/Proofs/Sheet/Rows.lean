import Formula.Proofs.Sheet.Writes
import Formula.Sheet.Stored

/-!
# Proofs/Sheet/Rows — a sheet loaded from rows

Rows are loaded **entry** by entry, row by row.  An entry is stored at its place, or something is
wrong with it there (`Entry.offence?`): it lies outside the grid, it is no scalar, or it stands
where a row should.  `loadAll_eq` says that loading fails with what is wrong with the first such
entry and otherwise stores them all, so that the sheet keeps at each address what the rows have at
that place.

An address keeps its row and column in 32 bits, so that far behind the last row of the grid the rows
would begin again.  In rows that 32 bits can number none of that shows (`firstOffence_narrow_iff`):
the first entry past the last column comes long before the columns begin again.
-/

namespace Formula

/-! ## Places -/

section Places

variable {α β : Type}

/-- **What rows have at a place**, the first row and the first column being 0. -/
def entryAt (rows : List (List α)) (r c : Nat) : Option α := rows[r]?.bind (·[c]?)

/-- **One place comes before another**: in an earlier row, or in the same row further left. -/
def Before (r c r' c' : Nat) : Prop := r < r' ∨ r = r' ∧ c < c'

/-- An entry with its place. -/
structure Placed (α : Type) where
  row : Nat
  column : Nat
  entry : α

/-- The entries of rows with their places, row by row. -/
def placed (rows : List (List α)) : List (Placed α) :=
  rows.zipIdx.flatMap fun p => p.1.zipIdx.map fun q => ⟨p.2, q.2, q.1⟩

variable {rows : List (List α)} {r c : Nat}

theorem mem_placed_iff {p : Placed α} :
    p ∈ placed rows ↔ entryAt rows p.row p.column = some p.entry := by
  obtain ⟨r, c, x⟩ := p
  simp only [placed, entryAt, List.mem_flatMap, List.mem_map, List.mem_zipIdx_iff_getElem?,
    Option.bind_eq_some_iff]
  constructor
  · rintro ⟨⟨row, r'⟩, hrow, ⟨y, c'⟩, hy, heq⟩
    cases heq
    exact ⟨row, hrow, hy⟩
  · rintro ⟨row, hrow, hx⟩
    exact ⟨(row, r), hrow, (x, c), hx, rfl⟩

/-- The numbers of a list go up. -/
theorem pairwise_zipIdx (xs : List α) : xs.zipIdx.Pairwise fun p q => p.2 < q.2 := by
  rw [← List.pairwise_map (f := Prod.snd), List.zipIdx_map_snd]
  exact List.pairwise_lt_range'

/-- **The walk over rows goes from each place to a later one.** -/
theorem pairwise_placed (rows : List (List α)) :
    (placed rows).Pairwise fun p q => Before p.row p.column q.row q.column := by
  refine List.pairwise_flatMap.mpr ⟨fun p _ => ?_, (pairwise_zipIdx rows).imp fun {p q} hpq => ?_⟩
  · exact List.pairwise_map.mpr ((pairwise_zipIdx p.1).imp fun h => Or.inr ⟨rfl, h⟩)
  · intro x hx y hy
    obtain ⟨_, -, rfl⟩ := List.mem_map.mp hx
    obtain ⟨_, -, rfl⟩ := List.mem_map.mp hy
    exact Or.inl hpq

/-- **The first result along a walk** is that of the first place that has one. -/
theorem findSome?_placed_eq_some_iff {f : Placed α → Option β} {b : β} :
    (placed rows).findSome? f = some b ↔
      ∃ r c x, entryAt rows r c = some x ∧ f ⟨r, c, x⟩ = some b ∧
        ∀ r' c' x', Before r' c' r c → entryAt rows r' c' = some x' → f ⟨r', c', x'⟩ = none := by
  rw [List.findSome?_eq_some_iff]
  have hpairwise := pairwise_placed rows
  constructor
  · rintro ⟨before, p, after, hsplit, hb, hbefore⟩
    refine ⟨p.row, p.column, p.entry, mem_placed_iff.mp (by simp [hsplit]), hb, ?_⟩
    intro r' c' x' hlt hx'
    have hmem := mem_placed_iff (p := ⟨r', c', x'⟩).mpr hx'
    rw [hsplit, List.pairwise_append, List.pairwise_cons] at hpairwise
    rw [hsplit, List.mem_append, List.mem_cons] at hmem
    rcases hmem with hmem | rfl | hmem
    · exact hbefore _ hmem
    · simp only [Before] at hlt
      omega
    · have := hpairwise.2.1.1 _ hmem
      simp only [Before] at this hlt
      omega
  · rintro ⟨r, c, x, hx, hb, hfirst⟩
    obtain ⟨before, after, hsplit⟩ :=
      List.mem_iff_append.mp (mem_placed_iff (p := ⟨r, c, x⟩).mpr hx)
    refine ⟨before, _, after, hsplit, hb, fun q hq => ?_⟩
    rw [hsplit, List.pairwise_append] at hpairwise
    have hmem : q ∈ placed rows := by rw [hsplit]; exact List.mem_append_left _ hq
    exact hfirst _ _ _ (hpairwise.2.2 q hq _ List.mem_cons_self) (mem_placed_iff.mp hmem)

end Places

/-! ## Entries -/

/-- **An entry of rows that are loaded.** -/
inductive Entry where
  /-- What is to be stored in a cell. -/
  | cell (c : Cell)
  /-- A list or an object, by the name of its kind. -/
  | nested (kind : String)
  /-- What stands where a row should. -/
  | noRow

/-- **What is wrong with an entry at its place**, `kept` being what is kept of the numbers of its
row and column. -/
def Entry.offence? (kept : Nat → Nat) (r c : Nat) : Entry → Option SheetError
  | cell _ =>
    if kept r < maxRows ∧ kept c < maxColumns then none else some (.outOfBounds (kept r) (kept c))
  | nested kind => some (.unsupportedCell (kept r) (kept c) kind)
  | noRow => some .notRows

/-- What is stored for an entry. -/
def Entry.content : Entry → Cell
  | cell c => c
  | _ => .empty

/-- **The first offence** in rows: nothing is wrong with the entries before it. -/
def FirstOffence (kept : Nat → Nat) (rows : List (List Entry)) (e : SheetError) : Prop :=
  ∃ r c x, entryAt rows r c = some x ∧ x.offence? kept r c = some e ∧
    ∀ r' c' x', Before r' c' r c → entryAt rows r' c' = some x' → x'.offence? kept r' c' = none

/-- The entry that a JSON value is. -/
def Json.entry : Json → Entry
  | .null => .cell .empty
  | .bool b => .cell (.bool b)
  | .int n => .cell (.number (Float.ofInt n))
  | .float x => .cell (.number x)
  | .string s => .cell (.text s)
  | .array _ => .nested "array"
  | .fields _ => .nested "object"

/-- The entries of a JSON value that should be a row. -/
def Json.rowEntries : Json → List Entry
  | .array items => items.map Json.entry
  | _ => [.noRow]

/-- **The entries of a JSON value that should be a list of rows.** -/
def Json.entries : Json → List (List Entry)
  | .array rows => rows.map Json.rowEntries
  | _ => [[.noRow]]

/-- What 32 bits keep of a number. -/
def narrow (n : Nat) : Nat := n % UInt32.size

section Entries

variable {kept kept' : Nat → Nat} {rows : List (List Entry)} {e : SheetError}

theorem entryAt_map {α β : Type} (f : α → β) (rows : List (List α)) (r c : Nat) :
    entryAt (rows.map (·.map f)) r c = (entryAt rows r c).map f := by
  rw [entryAt, entryAt, List.getElem?_map]
  cases rows[r]? with
  | none => rfl
  | some row => exact List.getElem?_map

theorem narrow_eq_self {n : Nat} (h : n < UInt32.size) : narrow n = n := Nat.mod_eq_of_lt h

theorem narrow_maxColumns : narrow maxColumns = maxColumns := narrow_eq_self (by decide)

/-- A row with an entry past the last column has an entry next to the last column. -/
theorem exists_entryAt_of_le {α : Type} {rows : List (List α)} {r c c' : Nat} {x : α}
    (hx : entryAt rows r c = some x) (hc : c' ≤ c) : ∃ y, entryAt rows r c' = some y := by
  obtain ⟨row, hrow, hx⟩ := Option.bind_eq_some_iff.mp hx
  have hlt : c' < row.length := by
    have := (List.getElem?_eq_some_iff.mp hx).1
    omega
  exact ⟨row[c'], Option.bind_eq_some_iff.mpr ⟨row, hrow, List.getElem?_eq_getElem hlt⟩⟩

/-- Something is wrong with whatever stands next to the last column. -/
theorem offence?_maxColumns_ne_none (hkept : kept maxColumns = maxColumns) (x : Entry) (r : Nat) :
    x.offence? kept r maxColumns ≠ none := by
  cases x <;> simp [Entry.offence?, hkept]

/-- **The first offence is the same** for two ways to keep numbers that agree up to the column next
to the last one: no entry further right comes first. -/
theorem FirstOffence.of_agree (hkept : kept maxColumns = maxColumns)
    (hagree : ∀ r c x, entryAt rows r c = some x → c ≤ maxColumns →
      x.offence? kept r c = x.offence? kept' r c)
    (h : FirstOffence kept rows e) : FirstOffence kept' rows e := by
  obtain ⟨r, c, x, hx, he, hfirst⟩ := h
  have hnone : ∀ r' c' x', Before r' c' r c → entryAt rows r' c' = some x' → c' ≤ maxColumns := by
    intro r' c' x' hlt hx'
    by_contra hc
    obtain ⟨y, hy⟩ := exists_entryAt_of_le hx' (Nat.le_of_not_le hc)
    refine offence?_maxColumns_ne_none hkept y r' (hfirst r' maxColumns y ?_ hy)
    simp only [Before] at hlt ⊢
    omega
  have hc : c ≤ maxColumns := by
    by_contra hc
    obtain ⟨y, hy⟩ := exists_entryAt_of_le hx (Nat.le_of_not_le hc)
    exact offence?_maxColumns_ne_none hkept y r
      (hfirst r maxColumns y (Or.inr ⟨rfl, Nat.lt_of_not_le hc⟩) hy)
  refine ⟨r, c, x, hx, (hagree r c x hx hc).symm.trans he, fun r' c' x' hlt hx' => ?_⟩
  rw [← hagree r' c' x' hx' (hnone r' c' x' hlt hx'), hfirst r' c' x' hlt hx']

/-- **What 32 bits keep is enough for rows that 32 bits can number.** -/
theorem firstOffence_narrow_iff (hrows : rows.length ≤ UInt32.size) :
    FirstOffence narrow rows e ↔ FirstOffence id rows e := by
  have hagree : ∀ r c x, entryAt rows r c = some x → c ≤ maxColumns →
      x.offence? narrow r c = x.offence? id r c := by
    intro r c x hx hc
    obtain ⟨row, hrow, -⟩ := Option.bind_eq_some_iff.mp hx
    have hr : r < UInt32.size := lt_of_lt_of_le (List.getElem?_eq_some_iff.mp hrow).1 hrows
    have hc' : c < UInt32.size := lt_of_le_of_lt hc (by decide)
    cases x <;> simp only [Entry.offence?, narrow_eq_self hr, narrow_eq_self hc', id]
  exact ⟨.of_agree narrow_maxColumns hagree,
    .of_agree rfl fun r c x hx hc => (hagree r c x hx hc).symm⟩

theorem findSome?_offence?_eq_some_iff :
    (placed rows).findSome? (fun p => p.entry.offence? kept p.row p.column) = some e ↔
      FirstOffence kept rows e :=
  findSome?_placed_eq_some_iff

/-- The first offence in rows of cells is the first entry outside the grid. -/
theorem firstOffence_cells_iff {rows : List (List Cell)} :
    FirstOffence id (rows.map (·.map .cell)) e ↔
      ∃ r c x, entryAt rows r c = some x ∧ ¬(r < maxRows ∧ c < maxColumns) ∧
        e = .outOfBounds r c ∧
        ∀ r' c' x', Before r' c' r c → entryAt rows r' c' = some x' →
          r' < maxRows ∧ c' < maxColumns := by
  simp only [FirstOffence, entryAt_map, Option.map_eq_some_iff]
  constructor
  · rintro ⟨r, c, _, ⟨x, hx, rfl⟩, he, hfirst⟩
    obtain ⟨hout, he⟩ := Option.ite_none_left_eq_some.mp he
    refine ⟨r, c, x, hx, hout, (Option.some.inj he).symm, fun r' c' x' hlt hx' => ?_⟩
    have hnone := hfirst r' c' _ hlt ⟨x', hx', rfl⟩
    by_contra hout'
    rw [Entry.offence?, id, id, if_neg hout'] at hnone
    cases hnone
  · rintro ⟨r, c, x, hx, hout, rfl, hfirst⟩
    refine ⟨r, c, _, ⟨x, hx, rfl⟩, if_neg hout, ?_⟩
    rintro r' c' _ hlt ⟨x', hx', rfl⟩
    exact if_pos (hfirst r' c' x' hlt hx')

end Entries

namespace Sheet

/-! ## Loading -/

/-- To go through a list of parts is to go through each part in turn. -/
theorem foldlM_flatMap {α β γ ε : Type} (f : α → List β) (g : γ → β → Except ε γ) (xs : List α)
    (b : γ) : (xs.flatMap f).foldlM g b = xs.foldlM (fun b x => (f x).foldlM g b) b := by
  induction xs generalizing b with
  | nil => rfl
  | cons x xs ih =>
    rw [List.flatMap_cons, List.foldlM_append, List.foldlM_cons]
    exact bind_congr fun b => ih b

/-- The write of an entry at its place. -/
def writeOf (p : Placed Entry) : Write := ⟨⟨.ofNat p.row, .ofNat p.column⟩, p.entry.content⟩

/-- Store an entry, unless something is wrong with it. -/
def load (s : Sheet) (p : Placed Entry) : Except SheetError Sheet :=
  match p.entry.offence? narrow p.row p.column with
  | some e => .error e
  | none => .ok (s.write (writeOf p)).2

/-- **Store entries row by row**, up to the first with which something is wrong. -/
def loadAll (rows : List (List Entry)) : Except SheetError Sheet :=
  (placed rows).foldlM load empty

variable {s : Sheet} {rows : List (List Entry)} {e : SheetError}

/-- **Loading stores all entries** or gives what is wrong with the first that cannot be stored. -/
theorem foldlM_load (s : Sheet) (ps : List (Placed Entry)) :
    ps.foldlM load s =
      match ps.findSome? fun p => p.entry.offence? narrow p.row p.column with
      | some e => .error e
      | none => .ok (s.writeAll (ps.map writeOf)) := by
  induction ps generalizing s with
  | nil => rfl
  | cons p ps ih =>
    rw [List.foldlM_cons, List.findSome?_cons, load]
    cases p.entry.offence? narrow p.row p.column with
    | some e => rfl
    | none => exact ih _

theorem loadAll_eq (rows : List (List Entry)) :
    loadAll rows =
      match (placed rows).findSome? fun p => p.entry.offence? narrow p.row p.column with
      | some e => .error e
      | none => .ok (empty.writeAll ((placed rows).map writeOf)) :=
  foldlM_load empty _

theorem loadAll_eq_error_iff : loadAll rows = .error e ↔ FirstOffence narrow rows e := by
  rw [loadAll_eq, ← findSome?_offence?_eq_some_iff]
  cases (placed rows).findSome? fun p => p.entry.offence? narrow p.row p.column <;> simp

/-- **Loading succeeds exactly if nothing is wrong with any entry.** -/
theorem exists_loadAll_iff (hrows : rows.length ≤ UInt32.size) :
    (∃ s, loadAll rows = .ok s) ↔
      ∀ r c x, entryAt rows r c = some x → x.offence? id r c = none := by
  have hok : (∃ s, loadAll rows = .ok s) ↔ ¬∃ e, loadAll rows = .error e := by
    cases loadAll rows <;> simp
  have hnone : (∀ r c x, entryAt rows r c = some x → x.offence? id r c = none) ↔
      ¬∃ e, FirstOffence id rows e := by
    simp only [← findSome?_offence?_eq_some_iff, ← Option.isSome_iff_exists,
      Option.not_isSome_iff_eq_none, List.findSome?_eq_none_iff]
    exact ⟨fun h p hp => h _ _ _ (mem_placed_iff.mp hp),
      fun h r c x hx => h ⟨r, c, x⟩ (mem_placed_iff.mpr hx)⟩
  rw [hok, hnone]
  simp only [loadAll_eq_error_iff, firstOffence_narrow_iff hrows]

/-- A sheet takes all writes to the grid. -/
theorem taken_eq_self {ws : List Write} (h : ∀ w ∈ ws, w.address.inGrid) : s.taken ws = ws := by
  induction ws generalizing s with
  | nil => rfl
  | cons w ws ih =>
    obtain ⟨t, -, hwrite⟩ := write_of_inGrid (s := s) (h w List.mem_cons_self)
    rw [taken, hwrite]
    exact congrArg _ (ih fun w' hw' => h w' (List.mem_cons_of_mem w hw'))

/-- **A loaded sheet keeps at each address what the rows have at that place**, unless that is empty,
and nothing where they have nothing. -/
theorem cell?_of_loadAll (hrows : rows.length ≤ UInt32.size) (h : loadAll rows = .ok s)
    (a : Address) :
    s.cell? a =
      ((entryAt rows a.row.toNat a.column.toNat).map Entry.content).filter (!·.isEmpty) := by
  have hfine := (exists_loadAll_iff hrows).mp ⟨s, h⟩
  have hplace : ∀ p ∈ placed rows,
      (writeOf p).address.row.toNat = p.row ∧ (writeOf p).address.column.toNat = p.column ∧
        (writeOf p).address.inGrid := by
    intro p hp
    have hbounds : p.row < maxRows ∧ p.column < maxColumns := by
      have := hfine _ _ _ (mem_placed_iff.mp hp)
      cases hx : p.entry <;> simp_all [Entry.offence?]
    have hrow : (UInt32.ofNat p.row).toNat = p.row :=
      UInt32.toNat_ofNat_of_lt' (hbounds.1.trans (by decide))
    have hcolumn : (UInt32.ofNat p.column).toNat = p.column :=
      UInt32.toNat_ofNat_of_lt' (hbounds.2.trans (by decide))
    refine ⟨hrow, hcolumn, inGrid_iff.mpr ?_⟩
    rw [writeOf, hrow, hcolumn]
    exact hbounds
  have hs : empty.writeAll ((placed rows).map writeOf) = s := by
    rw [loadAll_eq] at h
    split at h
    · cases h
    · exact Except.ok.inj h
  have hgrid : ∀ w ∈ (placed rows).map writeOf, w.address.inGrid := by
    intro w hw
    obtain ⟨p, hp, rfl⟩ := List.mem_map.mp hw
    exact (hplace p hp).2.2
  rw [← hs, cell?_writeAll, taken_eq_self hgrid]
  cases hlast : (((placed rows).map writeOf).filter fun w => w.address = a).getLast? with
  | some w =>
    obtain ⟨hw, ha⟩ := List.mem_filter.mp (List.mem_of_getLast? hlast)
    obtain ⟨p, hp, rfl⟩ := List.mem_map.mp hw
    obtain ⟨hrow, hcolumn, -⟩ := hplace p hp
    rw [← of_decide_eq_true ha, hrow, hcolumn, mem_placed_iff.mp hp]
    rfl
  | none =>
    cases hx : entryAt rows a.row.toNat a.column.toNat with
    | none => exact cell?_empty a
    | some x =>
      have hmem : writeOf ⟨a.row.toNat, a.column.toNat, x⟩ ∈ (placed rows).map writeOf :=
        List.mem_map_of_mem (mem_placed_iff.mpr hx)
      rw [List.getLast?_eq_none_iff, List.filter_eq_nil_iff] at hlast
      refine absurd ?_ (hlast _ hmem)
      simp [writeOf]

/-! ## Rows of cells and JSON rows -/

/-- An address keeps its numbers in 32 bits. -/
theorem toNat_ofNat_eq_narrow (n : Nat) : (UInt32.ofNat n).toNat = narrow n := UInt32.toNat_ofNat'

/-- To load what is to be stored in a cell is to store it. -/
theorem load_cell (s : Sheet) (r c : Nat) (x : Cell) :
    s.load ⟨r, c, .cell x⟩ = s.set ⟨.ofNat r, .ofNat c⟩ x := by
  rw [load, Entry.offence?, ← toNat_ofNat_eq_narrow, ← toNat_ofNat_eq_narrow]
  by_cases h : (⟨.ofNat r, .ofNat c⟩ : Address).inGrid
  · obtain ⟨t, hset, hwrite⟩ := write_of_inGrid (s := s) (w := ⟨⟨.ofNat r, .ofNat c⟩, x⟩) h
    rw [if_pos (inGrid_iff.mp h), hset]
    exact congrArg (fun p => Except.ok p.2) hwrite
  · rw [if_neg fun h' => h (inGrid_iff.mpr h')]
    unfold set
    rw [if_neg h]

theorem load_json (s : Sheet) (r c : Nat) (j : Json) :
    s.load ⟨r, c, j.entry⟩ = s.setJson r c j := by
  cases j with
  | null | bool | int | float | string => exact load_cell s r c _
  | array | fields =>
    simp only [load, Json.entry, Entry.offence?, setJson, Cell.ofPlainJson, toNat_ofNat_eq_narrow]

theorem ofRows_eq_loadAll (rows : List (List Cell)) :
    ofRows rows = loadAll (rows.map (·.map .cell)) := by
  rw [ofRows, loadAll, placed, foldlM_flatMap, foldlM_flatMap, List.zipIdx_map, List.foldlM_map]
  congr 1
  funext s p
  simp only [addressed, Prod.map, List.zipIdx_map, List.foldlM_map, load_cell, id]

theorem setJsonRow_eq (s : Sheet) (r : Nat) (j : Json) :
    s.setJsonRow r j = (j.rowEntries.zipIdx.map fun q => ⟨r, q.2, q.1⟩).foldlM load s := by
  cases j with
  | array items =>
    simp only [setJsonRow, Json.rowEntries, Prod.map, List.zipIdx_map, List.foldlM_map, load_json,
      id]
  | null | bool | int | float | string | fields => rfl

theorem ofJsonRows_eq_loadAll (j : Json) : ofJsonRows j = loadAll j.entries := by
  cases j with
  | array rows =>
    simp only [ofJsonRows, Json.entries, loadAll, placed, foldlM_flatMap, List.zipIdx_map,
      List.foldlM_map, Prod.map, setJsonRow_eq, id]
  | null | bool | int | float | string | fields => rfl

/-! ## The headline -/

/-- **Rows are stored entry by entry, each at its own place.**  Rows that 32 bits can number make a
sheet exactly if every entry, also an empty one, lies in the grid; each address then keeps what the
rows have there, unless that is empty, and otherwise the first entry outside the grid is reported.
JSON makes the sheet of the cells that its scalars are, if it is a list of lists of scalars; in
general it fails exactly with the first offence, the numbers of rows and columns being kept in 32
bits, which makes no difference for rows that these can number. -/
theorem rows_fill_places :
    (∀ rows : List (List Cell), rows.length ≤ UInt32.size →
      ((∃ s, ofRows rows = .ok s) ↔
        ∀ r c x, entryAt rows r c = some x → r < maxRows ∧ c < maxColumns) ∧
      (∀ s, ofRows rows = .ok s → ∀ a : Address,
        s.cell? a = (entryAt rows a.row.toNat a.column.toNat).filter (!·.isEmpty)) ∧
      ∀ e, ofRows rows = .error e ↔
        ∃ r c x, entryAt rows r c = some x ∧ ¬(r < maxRows ∧ c < maxColumns) ∧
          e = .outOfBounds r c ∧
          ∀ r' c' x', Before r' c' r c → entryAt rows r' c' = some x' →
            r' < maxRows ∧ c' < maxColumns) ∧
    (∀ (j : Json) (rows : List (List Cell)), j.entries = rows.map (·.map .cell) →
      ofJsonRows j = ofRows rows) ∧
    (∀ (j : Json) (e : SheetError), ofJsonRows j = .error e ↔ FirstOffence narrow j.entries e) ∧
    ∀ (j : Json) (e : SheetError), j.entries.length ≤ UInt32.size →
      (ofJsonRows j = .error e ↔ FirstOffence id j.entries e) := by
  refine ⟨fun rows hrows => ?_, fun j rows h => ?_, fun j e => ?_, fun j e hj => ?_⟩
  · have hrows' : (rows.map (·.map Entry.cell)).length ≤ UInt32.size := by rwa [List.length_map]
    rw [ofRows_eq_loadAll]
    refine ⟨?_, fun s hs a => ?_, fun e => ?_⟩
    · rw [exists_loadAll_iff hrows']
      simp [entryAt_map, Entry.offence?]
    · rw [cell?_of_loadAll hrows' hs, entryAt_map]
      cases entryAt rows a.row.toNat a.column.toNat <;> rfl
    · rw [loadAll_eq_error_iff, firstOffence_narrow_iff hrows', firstOffence_cells_iff]
  · rw [ofJsonRows_eq_loadAll, ofRows_eq_loadAll, h]
  · rw [ofJsonRows_eq_loadAll, loadAll_eq_error_iff]
  · rw [ofJsonRows_eq_loadAll, loadAll_eq_error_iff, firstOffence_narrow_iff hj]

/-- Ragged rows with an empty entry make a sheet, from cells as from JSON.  An entry past the last
column is reported although there is nothing to store, and a list there is reported as a list; what
stands in the place of the next row is not reached. -/
theorem rows_fill_places_ragged :
    let rows : List (List Cell) := [[.bool true, .empty], [], [.text ""]]
    let json : Json := .array [.array [.bool true, .null], .array [], .array [.string ""]]
    let past (j : Json) : Json :=
      .array [.array [], .array (List.replicate maxColumns .null ++ [j]), .null]
    (∃ s, ofRows rows = .ok s ∧ s.cell? ⟨2, 0⟩ = some (.text "") ∧ s.cell? ⟨0, 1⟩ = none) ∧
      ofJsonRows json = ofRows rows ∧
      ofJsonRows (past .null) = .error (.outOfBounds 1 maxColumns) ∧
      ofJsonRows (past (.array [])) = .error (.unsupportedCell 1 maxColumns "array") := by
  intro rows json past
  obtain ⟨hcells, hscalars, -, hjson⟩ := rows_fill_places
  obtain ⟨hok, hcell, -⟩ := hcells rows (by decide)
  have hinside : ∀ r c x, entryAt rows r c = some x → r < maxRows ∧ c < maxColumns := by
    intro r c x hx
    obtain ⟨row, hrow, hx⟩ := Option.bind_eq_some_iff.mp hx
    have hr : r < 3 := (List.getElem?_eq_some_iff.mp hrow).1
    have hlength : ∀ row ∈ rows, row.length ≤ 2 := by decide
    have hc := (List.getElem?_eq_some_iff.mp hx).1.trans_le
      (hlength row (List.mem_of_getElem? hrow))
    exact ⟨hr.trans (by decide), hc.trans (by decide)⟩
  have hpast : ∀ (j : Json) (e : SheetError), j.entry.offence? id 1 maxColumns = some e →
      ofJsonRows (past j) = .error e := by
    intro j e he
    have hlength : (past j).entries.length ≤ UInt32.size := show 3 ≤ UInt32.size by decide
    refine (hjson (past j) e hlength).mpr ⟨1, maxColumns, j.entry, ?_, he, ?_⟩
    · simp [past, Json.entries, Json.rowEntries, entryAt]
    · rintro r c x (hr | ⟨rfl, hc⟩) hx
      · obtain rfl : r = 0 := by omega
        simp [past, Json.entries, Json.rowEntries, entryAt] at hx
      · have hnull : entryAt (past j).entries 1 c = some (.cell .empty) := by
          simp [past, Json.entries, Json.rowEntries, entryAt, hc, List.getElem?_append, Json.entry]
        rw [← Option.some.inj (hnull.symm.trans hx)]
        exact if_pos ⟨by decide, hc⟩
  obtain ⟨s, hs⟩ := hok.mpr hinside
  exact ⟨⟨s, hs, hcell s hs _, hcell s hs _⟩, hscalars json rows rfl,
    hpast .null _ rfl, hpast (.array []) _ rfl⟩

end Sheet

end Formula
