import Formula.Proofs.Expr.Steps
import Formula.Proofs.Sheet.Rows

/-!
# Proofs/Json/Records — one record, read as symbols and as a row

A record of plain values can be read into a symbol table, as the fields of an object, and into a
sheet, as its only row.  The two readings are written apart, and they agree (`readings_agree`): one
fails where the other does, a name is bound to what the cell in its place holds, and a field that is
null makes neither a binding nor a cell.

An object keeps its fields in the order of their names (`Json.object_perm`), whereas a row keeps the
order in which they were given; so the table is read from a rearrangement of what the sheet is read
from.  As long as no name occurs twice, no binding is lost and their order does not matter.
-/

namespace Formula

/-! ## The fields of an object -/

namespace Json

variable {name : String} {value : Json} {entries acc : List (String × Json)}

/-- **A new field is put somewhere among the others.** -/
theorem insertField_perm (h : name ∉ entries.map Prod.fst) :
    (insertField name value entries).Perm ((name, value) :: entries) := by
  induction entries with
  | nil => exact .refl _
  | cons entry rest ih =>
    obtain ⟨n, v⟩ := entry
    rw [List.map_cons, List.mem_cons, not_or] at h
    rw [insertField]
    cases hcompare : compare name n with
    | lt => exact .refl _
    | eq => exact absurd (Std.LawfulEqOrd.eq_of_compare hcompare) h.1
    | gt => exact ((ih h.2).cons (n, v)).trans (.swap (name, value) (n, v) rest)

/-- **Fields with different names are all kept.** -/
theorem foldl_insertField_perm (h : ((entries ++ acc).map Prod.fst).Nodup) :
    (entries.foldl (fun acc (n, v) => insertField n v acc) acc).Perm (entries ++ acc) := by
  induction entries generalizing acc with
  | nil => exact .refl _
  | cons entry rest ih =>
    obtain ⟨n, v⟩ := entry
    rw [List.cons_append, List.map_cons, List.nodup_cons] at h
    have hnew : n ∉ acc.map Prod.fst := fun hmem => by
      rw [List.map_append] at h
      exact h.1 (List.mem_append_right _ hmem)
    have hinsert : (rest ++ insertField n v acc).Perm ((n, v) :: (rest ++ acc)) :=
      ((insertField_perm hnew).append_left rest).trans List.perm_middle
    have hnodup : ((rest ++ insertField n v acc).map Prod.fst).Nodup :=
      (hinsert.map Prod.fst).nodup_iff.mpr (List.nodup_cons.mpr h)
    rw [List.foldl_cons]
    exact (ih hnodup).trans hinsert

/-- **An object has the fields that it is given**, in another order. -/
theorem object_perm (h : (entries.map Prod.fst).Nodup) :
    ∃ fields, object entries = .fields fields ∧ fields.Perm entries := by
  have h' : ((entries ++ []).map Prod.fst).Nodup := by rwa [List.append_nil]
  have hperm := foldl_insertField_perm h'
  rw [List.append_nil] at hperm
  exact ⟨_, rfl, hperm⟩

end Json

/-! ## The two readings of a value -/

namespace Symbols

variable {name : String} {j : Json} {o : Option Value} {s t : Symbols}
  {fields : List (String × Json)}

/-- **A field has the value of the cell** that is read from it: both have the same scalars, and
neither has anything else. -/
theorem fieldValue_eq_ok_iff :
    fieldValue name j = .ok o ↔ ∃ c, j.entry = .cell c ∧ Value.ofCell? c = o := by
  cases j <;> simp [fieldValue, Json.entry, Value.ofCell?]

/-! ## The table of an object -/

/-- A field whose value is read is bound to it, unless it is null. -/
theorem get?_of_insertField {entry : String × Json} (h : insertField s entry = .ok t) :
    ∃ o, fieldValue entry.1 entry.2 = .ok o ∧
      ∀ name, t.get? name = if entry.1 = name then o.or (s.get? name) else s.get? name := by
  rw [insertField] at h
  cases ho : fieldValue entry.1 entry.2 with
  | error err => rw [ho] at h; cases h
  | ok o =>
    rw [ho] at h
    refine ⟨o, rfl, fun name => ?_⟩
    cases o with
    | none =>
      cases h
      rw [Option.none_or, ite_self]
    | some v =>
      cases h
      rw [get?_insert, Option.some_or]

/-- **A table is read from fields that are all scalars.** -/
theorem exists_foldlM_insertField_iff :
    (∃ t, fields.foldlM insertField s = .ok t) ↔
      ∀ field ∈ fields, ∃ c, field.2.entry = .cell c := by
  induction fields generalizing s with
  | nil => exact iff_of_true ⟨s, rfl⟩ nofun
  | cons field rest ih =>
    rw [List.foldlM_cons, List.forall_mem_cons, insertField]
    cases ho : fieldValue field.1 field.2 with
    | error err =>
      refine iff_of_false (fun h => ?_) fun h => ?_
      · obtain ⟨t, ht⟩ := h
        cases ht
      · obtain ⟨⟨c, hentry⟩, -⟩ := h
        rw [fieldValue_eq_ok_iff.mpr ⟨c, hentry, rfl⟩] at ho
        cases ho
    | ok o =>
      obtain ⟨c, hentry, -⟩ := fieldValue_eq_ok_iff.mp ho
      rw [and_iff_right ⟨c, hentry⟩]
      exact ih

/-- **What a table of fields binds**: each name once, to the value of its field. -/
theorem get?_of_foldlM_insertField (hnames : (fields.map Prod.fst).Nodup)
    (h : fields.foldlM insertField s = .ok t) :
    (∀ field ∈ fields, ∃ c, field.2.entry = .cell c ∧
        t.get? field.1 = (Value.ofCell? c).or (s.get? field.1)) ∧
      ∀ name, name ∉ fields.map Prod.fst → t.get? name = s.get? name := by
  induction fields generalizing s with
  | nil =>
    cases h
    exact ⟨nofun, fun _ _ => rfl⟩
  | cons field rest ih =>
    rw [List.foldlM_cons] at h
    rw [List.map_cons, List.nodup_cons] at hnames
    cases hu : insertField s field with
    | error err => rw [hu] at h; cases h
    | ok u =>
      rw [hu] at h
      obtain ⟨o, ho, hget⟩ := get?_of_insertField hu
      obtain ⟨c, hc, rfl⟩ := fieldValue_eq_ok_iff.mp ho
      obtain ⟨hrest, hothers⟩ := ih hnames.2 h
      have hne : ∀ field' ∈ rest, field.1 ≠ field'.1 := fun field' hmem heq =>
        hnames.1 (heq ▸ List.mem_map_of_mem hmem)
      refine ⟨List.forall_mem_cons.mpr ⟨?_, fun field' hmem => ?_⟩, fun name hname => ?_⟩
      · refine ⟨c, hc, ?_⟩
        rw [hothers _ hnames.1, hget, if_pos rfl]
      · obtain ⟨c', hc', hget'⟩ := hrest field' hmem
        refine ⟨c', hc', ?_⟩
        rw [hget', hget, if_neg (hne field' hmem)]
      · rw [List.map_cons, List.mem_cons, not_or] at hname
        rw [hothers name hname.2, hget, if_neg fun heq => hname.1 heq.symm]

end Symbols

/-! ## The sheet of a row -/

namespace Sheet

variable {items : List Json} {s : Sheet} {i : Nat} {j : Json} {c : Cell}

theorem entryAt_row {α : Type} (row : List α) (i : Nat) : entryAt [row] 0 i = row[i]? := rfl

theorem length_row_le {α : Type} (row : List α) : [row].length ≤ UInt32.size := by
  rw [List.length_singleton]
  decide

theorem ofJsonRows_row (items : List Json) :
    ofJsonRows (.array [.array items]) = loadAll [items.map Json.entry] :=
  ofJsonRows_eq_loadAll _

/-- **A sheet is read from a row of scalars**, as long as the grid has room for it. -/
theorem exists_ofJsonRows_row_iff (hlen : items.length ≤ maxColumns) :
    (∃ s, ofJsonRows (.array [.array items]) = .ok s) ↔ ∀ j ∈ items, ∃ c, j.entry = .cell c := by
  rw [ofJsonRows_row, exists_loadAll_iff (length_row_le _)]
  constructor
  · intro h j hj
    obtain ⟨i, hi, rfl⟩ := List.getElem_of_mem hj
    have hentry : entryAt [items.map Json.entry] 0 i = some items[i].entry := by
      rw [entryAt_row, List.getElem?_map, List.getElem?_eq_getElem hi, Option.map_some]
    have hnone := h 0 i _ hentry
    cases hitem : items[i].entry with
    | cell c => exact ⟨c, rfl⟩
    | nested kind => rw [hitem] at hnone; cases hnone
    | noRow => rw [hitem] at hnone; cases hnone
  · intro h r i x hx
    obtain _ | r := r
    · rw [entryAt_row, List.getElem?_map, Option.map_eq_some_iff] at hx
      obtain ⟨j, hj, rfl⟩ := hx
      obtain ⟨c, hc⟩ := h j (List.mem_of_getElem? hj)
      have hi := (List.getElem?_eq_some_iff.mp hj).1
      rw [hc]
      exact if_pos ⟨by decide, hi.trans_le hlen⟩
    · cases hx

/-- **Each value of a row stands in its column**, unless it is null. -/
theorem cell?_of_ofJsonRows_row (hlen : items.length ≤ maxColumns)
    (h : ofJsonRows (.array [.array items]) = .ok s) (hj : items[i]? = some j)
    (hc : j.entry = .cell c) : s.cell? ⟨0, .ofNat i⟩ = (some c).filter (!·.isEmpty) := by
  have hi : i < UInt32.size :=
    (List.getElem?_eq_some_iff.mp hj).1.trans_le (hlen.trans (by decide))
  have hcolumn : (UInt32.ofNat i).toNat = i := UInt32.toNat_ofNat_of_lt' hi
  rw [ofJsonRows_row] at h
  rw [cell?_of_loadAll (length_row_le _) h, hcolumn]
  change ((entryAt [items.map Json.entry] 0 i).map Entry.content).filter _ = _
  rw [entryAt_row, List.getElem?_map, hj, Option.map_some, hc]
  rfl

/-- What is kept of a cell has the value of the cell. -/
theorem value?_of_cell? {a : Address} (h : s.cell? a = (some c).filter (!·.isEmpty)) :
    s.value? a = Value.ofCell? c := by
  rw [value?, h]
  cases c <;> rfl

end Sheet

/-! ## The two readings -/

/-- A variable has the value that is bound to its name, if a level is left for it. -/
theorem Environment.evaluate_variable_eq_ok_iff {env : Environment} (hdepth : 0 < env.depth)
    {name : String} {v : Value} :
    env.evaluate (.variable name) = .ok v ↔ env.symbols.get? name = some v := by
  obtain ⟨n, hn⟩ := Nat.exists_eq_succ_of_ne_zero hdepth.ne'
  rw [evaluate, hn, Expr.eval_variable, Symbols.require]
  cases env.symbols.get? name <;> simp

/-- **The two readings of a record agree.**  Fields with different names, no more than the grid has
columns, are read into a table exactly if their values are read into a row.  Then each name is bound
to the value of the cell in its place, with neither a binding nor a cell for null; a variable of
that name has just that value; and no other name is bound. -/
theorem Json.readings_agree (fields : List (String × Json)) (hnames : (fields.map Prod.fst).Nodup)
    (hlen : fields.length ≤ maxColumns) :
    let row : Json := .array [.array (fields.map Prod.snd)]
    ((∃ t, Symbols.ofJson (object fields) = .ok t) ↔ ∃ s, Sheet.ofJsonRows row = .ok s) ∧
    ∀ t s, Symbols.ofJson (object fields) = .ok t → Sheet.ofJsonRows row = .ok s →
      (∀ (i : Nat) name j, fields[i]? = some (name, j) →
        t.get? name = (s.cell? ⟨0, .ofNat i⟩).bind Value.ofCell? ∧
        (s.cell? ⟨0, .ofNat i⟩ = none ↔ j = .null) ∧
        ∀ (env : Environment) (v : Value), env.symbols = t → 0 < env.depth →
          (env.evaluate (.variable name) = .ok v ↔
            ∃ c, s.cell? ⟨0, .ofNat i⟩ = some c ∧ Value.ofCell? c = some v)) ∧
      ∀ name, name ∉ fields.map Prod.fst → t.get? name = none := by
  intro row
  obtain ⟨sorted, hobject, hperm⟩ := object_perm hnames
  have htable : Symbols.ofJson (object fields) = sorted.foldlM Symbols.insertField .empty := by
    rw [hobject]
    rfl
  have hlen' : (fields.map Prod.snd).length ≤ maxColumns := by rwa [List.length_map]
  refine ⟨?_, fun t s ht hs => ?_⟩
  · rw [htable, Symbols.exists_foldlM_insertField_iff, Sheet.exists_ofJsonRows_row_iff hlen',
      List.forall_mem_map]
    exact forall_congr' fun field => by rw [hperm.mem_iff]
  · rw [htable] at ht
    have hsorted : (sorted.map Prod.fst).Nodup := (hperm.map Prod.fst).nodup_iff.mpr hnames
    obtain ⟨hbound, hothers⟩ := Symbols.get?_of_foldlM_insertField hsorted ht
    refine ⟨fun i name j hj => ?_, fun name hname => ?_⟩
    · obtain ⟨c, hc, hget⟩ := hbound _ (hperm.mem_iff.mpr (List.mem_of_getElem? hj))
      have hitem : (fields.map Prod.snd)[i]? = some j := by
        rw [List.getElem?_map, hj, Option.map_some]
      have hcell : s.cell? ⟨0, .ofNat i⟩ = (some c).filter (!·.isEmpty) :=
        Sheet.cell?_of_ofJsonRows_row hlen' hs hitem hc
      have hvalue : (s.cell? ⟨0, .ofNat i⟩).bind Value.ofCell? = Value.ofCell? c :=
        Sheet.value?_of_cell? hcell
      rw [Symbols.get?_empty, Option.or_none] at hget
      dsimp only at hc hget
      refine ⟨hget.trans hvalue.symm, ?_, fun env v henv hdepth => ?_⟩
      · rw [hcell]
        cases j <;> cases hc <;> simp [Option.filter, Cell.isEmpty]
      · rw [Environment.evaluate_variable_eq_ok_iff hdepth, henv, hget, ← hvalue,
          Option.bind_eq_some_iff]
    · rw [hothers name fun hmem => hname ((hperm.map Prod.fst).mem_iff.mp hmem),
        Symbols.get?_empty]

/-- A record out of order with an empty text and a null in it, and one with a list in it, which is
read in neither way. -/
theorem Json.readings_agree_record :
    let fields : List (String × Json) := [("x", .string ""), ("n", .null), ("a", .int 3)]
    let nested : List (String × Json) := [("b", .bool true), ("a", .array [])]
    let row (fields : List (String × Json)) : Json := .array [.array (fields.map Prod.snd)]
    ((fields.map Prod.fst).Nodup ∧ fields.length ≤ maxColumns) ∧
    (∃ t s, Symbols.ofJson (object fields) = .ok t ∧ Sheet.ofJsonRows (row fields) = .ok s ∧
      t.get? "x" = some (.text "") ∧ s.cell? ⟨0, 0⟩ = some (.text "") ∧
      t.get? "n" = none ∧ s.cell? ⟨0, 1⟩ = none ∧ t.get? "y" = none ∧
      ∀ env : Environment, env.symbols = t → 0 < env.depth →
        env.evaluate (.variable "a") = .ok (.number (Float.ofInt 3))) ∧
    ¬ ∃ t, Symbols.ofJson (object nested) = .ok t := by
  intro fields nested row
  have hnames : (fields.map Prod.fst).Nodup := by decide
  have hlen : fields.length ≤ maxColumns := by decide
  have hlen' : (fields.map Prod.snd).length ≤ maxColumns := by decide
  obtain ⟨hboth, hvalues⟩ := readings_agree fields hnames hlen
  obtain ⟨hnested, -⟩ := readings_agree nested (by decide) (by decide)
  obtain ⟨s, hs⟩ : ∃ s, Sheet.ofJsonRows (row fields) = .ok s := by
    refine (Sheet.exists_ofJsonRows_row_iff hlen').mpr ?_
    simp only [fields, List.map_cons, List.map_nil, List.forall_mem_cons]
    exact ⟨⟨_, rfl⟩, ⟨_, rfl⟩, ⟨_, rfl⟩, nofun⟩
  obtain ⟨t, ht⟩ := hboth.mpr ⟨s, hs⟩
  obtain ⟨hfields, hothers⟩ := hvalues t s ht hs
  have hx : s.cell? ⟨0, 0⟩ = some (.text "") :=
    Sheet.cell?_of_ofJsonRows_row (i := 0) hlen' hs rfl rfl
  have ha : s.cell? ⟨0, 2⟩ = some (.number (Float.ofInt 3)) :=
    Sheet.cell?_of_ofJsonRows_row (i := 2) hlen' hs rfl rfl
  obtain ⟨hgetx, -, -⟩ := hfields 0 "x" _ rfl
  obtain ⟨hgetn, hnull, -⟩ := hfields 1 "n" _ rfl
  obtain ⟨-, -, hvariable⟩ := hfields 2 "a" _ rfl
  have hn : s.cell? ⟨0, 1⟩ = none := hnull.mpr rfl
  have hgetx' : t.get? "x" = some (.text "") := hgetx.trans (congrArg (Option.bind · _) hx)
  have hgetn' : t.get? "n" = none := hgetn.trans (congrArg (Option.bind · _) hn)
  refine ⟨⟨hnames, hlen⟩, ⟨t, s, ht, hs, hgetx', hx, hgetn', hn, hothers "y" (by decide),
    fun env henv hdepth => (hvariable env _ henv hdepth).mpr ⟨_, ha, rfl⟩⟩, ?_⟩
  rw [hnested, Sheet.exists_ofJsonRows_row_iff (by decide)]
  intro hscalars
  obtain ⟨c, hc⟩ := hscalars (.array []) (by simp [nested])
  cases hc

end Formula
