import Formula.Json.Settings
import Formula.Proofs.Json.Text

/-!
# Proofs/Json/Settings — stored forms are read back

Amounts, settings, addresses and ranges are stored as records.  A record is an object or an array,
and nothing counts in it but its parts (`Json.part?`): an object may have others, and its fields may
come in any order.  What each reading accepts is said by an equivalence (`ofJson?_eq_some_iff`), in
which a choice is its name and an integer is itself, so that none is lost or wrapped around.

Reading a stored form is then a matter of finding its parts (`stored_forms_faithful`).  The stored
forms are exact, so their texts are read back as well.
-/

namespace Formula

open Calendar (Policy TimeUnit Counting Amount)

namespace Json

variable {α : Type} {j : Json} {name : String} {names : List String}

/-! ## Records -/

/-- **A record** with a number of fields: an object, or an array with no more items. -/
def IsRecord (count : Nat) : Json → Prop
  | .fields _ => True
  | .array items => items.length ≤ count
  | _ => False

/-- **A part of a record**: by name in an object, by position in an array. -/
def part? (i : Nat) (name : String) : Json → Option Json
  | .array items => items[i]?
  | j => j.field? name

/-- **The fields of a record are its parts.** -/
theorem record?_of_isRecord (h : j.IsRecord names.length) :
    j.record? names = some (names.mapIdx fun i name => j.part? i name) := by
  cases j with
  | fields entries =>
    rw [record?, Option.some_inj]
    exact List.ext_getElem? fun i => by simp [part?]
  | array items =>
    have hlen : items.length ≤ names.length := h
    rw [record?, if_neg (Nat.not_lt.mpr hlen), Option.some_inj]
    refine List.ext_getElem (by simp; omega) fun i hi hi' => ?_
    rw [List.getElem_mapIdx, part?]
    by_cases hitem : i < (items.map some).length
    · rw [List.getElem_append_left hitem, List.getElem_map, List.getElem?_eq_getElem]
    · have hout := Nat.not_lt.mp hitem
      rw [List.getElem_append_right hout, List.getElem_replicate]
      rw [List.length_map] at hout
      exact (List.getElem?_eq_none hout).symm
  | _ => exact absurd h id

theorem record?_of_not_isRecord (h : ¬j.IsRecord names.length) : j.record? names = none := by
  cases j with
  | fields entries => exact absurd trivial h
  | array items => exact if_pos (Nat.not_le.mp h)
  | _ => rfl

/-- A record has its parts as fields, and anything else has none. -/
theorem record?_cases (names : List String) (j : Json) :
    j.IsRecord names.length ∧ j.record? names = some (names.mapIdx fun i name => j.part? i name) ∨
      ¬j.IsRecord names.length ∧ j.record? names = none :=
  (em _).imp (fun h => ⟨h, record?_of_isRecord h⟩) fun h => ⟨h, record?_of_not_isRecord h⟩

theorem field?_cons (entry : String × Json) (entries : List (String × Json)) (name : String) :
    (fields (entry :: entries)).field? name
      = if entry.1 = name then some entry.2 else (fields entries).field? name := by
  by_cases h : entry.1 = name <;> simp [field?, h]

/-- **A field that is put into an object** is there, and the others stay. -/
theorem field?_insertField (value : Json) (entries : List (String × Json)) (name' : String) :
    (fields (insertField name value entries)).field? name'
      = if name = name' then some value else (fields entries).field? name' := by
  induction entries with
  | nil => exact field?_cons _ _ _
  | cons first rest ih =>
    rw [insertField]
    cases hcompare : compare name first.1 with
    | lt => exact field?_cons _ _ _
    | eq =>
      obtain rfl : name = first.1 := Std.LawfulEqOrd.eq_of_compare hcompare
      dsimp only
      rw [field?_cons, field?_cons]
      split <;> rfl
    | gt =>
      have hne : name ≠ first.1 := by
        rintro rfl
        rw [Std.ReflOrd.compare_self] at hcompare
        cases hcompare
      dsimp only
      rw [field?_cons, field?_cons, ih]
      split
      · next hfirst => rw [if_neg fun hname => hne (hname.trans hfirst.symm)]
      · rfl

/-- **Of two fields of one name the later counts**, whatever the order of the others. -/
theorem part?_object (i : Nat) (name : String) (entries : List (String × Json)) :
    (object entries).part? i name = (fields entries.reverse).field? name := by
  change (object entries).field? name = _
  induction entries using List.reverseRecOn with
  | nil => rfl
  | append_singleton entries entry ih =>
    rw [List.reverse_append, List.reverse_singleton, List.singleton_append, field?_cons, ← ih,
      object, List.foldl_append]
    exact field?_insertField _ _ _

theorem isRecord_object (count : Nat) (entries : List (String × Json)) :
    (object entries).IsRecord count := trivial

/-! ## Parts -/

theorem required_eq_some_iff {read? : Json → Option α} {part : Option Json} {x : α} :
    required read? part = some x ↔ ∃ j ∈ part, read? j = some x := by
  cases part <;> simp [required]

theorem optional_eq_some_iff {default : α} {read? : Json → Option α} {part : Option Json} {x : α} :
    optional default read? part = some x ↔ part.elim (x = default) fun j => read? j = some x := by
  cases part <;> simp [optional, eq_comm]

/-- **A choice is read by its name.** -/
theorem namedChoice?_eq_some_iff {all : List α} {nameOf : α → String} {x : α}
    (hall : ∀ x, x ∈ all) (hnames : (all.map nameOf).Nodup) :
    j.namedChoice? all nameOf = some x ↔ j.choice? = some (nameOf x) := by
  rw [namedChoice?, Option.bind_eq_some_iff]
  constructor
  · rintro ⟨s, hs, hx⟩
    have hfound := List.find?_some hx
    rw [hs, Option.some_inj]
    exact (beq_iff_eq.mp hfound).symm
  · intro h
    refine ⟨_, h, ?_⟩
    have hsome : (all.find? fun y => nameOf y == nameOf x).isSome :=
      List.find?_isSome.mpr ⟨x, hall x, beq_iff_eq.mpr rfl⟩
    obtain ⟨y, hy⟩ := Option.isSome_iff_exists.mp hsome
    have hname := beq_iff_eq.mp (List.find?_some (p := fun y => nameOf y == nameOf x) hy)
    rwa [List.inj_on_of_nodup_map hnames (hall y) (hall x) hname] at hy

theorem intBetween?_eq_some_iff {low high n : Int} :
    j.intBetween? low high = some n ↔ j = .int n ∧ low ≤ n ∧ n ≤ high := by
  cases j with
  | int m =>
    rw [intBetween?, Option.ite_none_right_eq_some, Option.some_inj, int.injEq]
    constructor
    · rintro ⟨h, rfl⟩
      exact ⟨rfl, h⟩
    · rintro ⟨rfl, h⟩
      exact ⟨h, rfl⟩
  | _ => exact iff_of_false nofun nofun

/-- **An integer is read as it stands.** -/
theorem int64?_eq_some_iff {n : Int64} : j.int64? = some n ↔ j = .int n.toInt := by
  simp only [int64?, Option.map_eq_some_iff, intBetween?_eq_some_iff]
  constructor
  · rintro ⟨m, ⟨rfl, hlow, hhigh⟩, rfl⟩
    rw [Int64.toInt_ofInt_of_le hlow (Int.lt_add_one_of_le hhigh)]
  · rintro rfl
    exact ⟨n.toInt, ⟨rfl, n.minValue_le_toInt, n.toInt_le⟩, Int64.ofInt_toInt n⟩

/-- Natural numbers below a bound are read as they stand. -/
theorem map_intBetween?_eq_some_iff {size : Nat} {ofNat : Nat → α} {toNat : α → Nat} {x : α}
    (hlt : ∀ x, toNat x < size) (hto : ∀ n < size, toNat (ofNat n) = n)
    (hof : ∀ x, ofNat (toNat x) = x) :
    ((j.intBetween? 0 (size - 1 : Nat)).map fun n => ofNat n.toNat) = some x
      ↔ j = .int (toNat x) := by
  have hsize : 0 < size := Nat.zero_lt_of_lt (hlt x)
  simp only [Option.map_eq_some_iff, intBetween?_eq_some_iff]
  constructor
  · rintro ⟨n, ⟨rfl, hlow, hhigh⟩, rfl⟩
    rw [hto _ (by omega), Int.toNat_of_nonneg hlow]
  · rintro rfl
    have hx := hlt x
    exact ⟨(toNat x : Int), ⟨rfl, by omega, by omega⟩, hof x⟩

theorem uint64?_eq_some_iff {n : UInt64} : j.uint64? = some n ↔ j = .int n.toNat :=
  map_intBetween?_eq_some_iff UInt64.toNat_lt_size (fun _ => UInt64.toNat_ofNat_of_lt')
    fun _ => UInt64.ofNat_toNat

theorem uint32?_eq_some_iff {n : UInt32} : j.uint32? = some n ↔ j = .int n.toNat :=
  map_intBetween?_eq_some_iff UInt32.toNat_lt_size (fun _ => UInt32.toNat_ofNat_of_lt')
    fun _ => UInt32.ofNat_toNat

end Json

namespace Calendar

variable {j : Json}

theorem TimeUnit.namedChoice?_iff {unit : TimeUnit} :
    j.namedChoice? TimeUnit.all TimeUnit.name = some unit ↔ j.choice? = some unit.name :=
  Json.namedChoice?_eq_some_iff (fun unit => by cases unit <;> decide) (by decide)

theorem Counting.namedChoice?_iff {counting : Counting} :
    j.namedChoice? Counting.all Counting.name = some counting ↔ j.choice? = some counting.name :=
  Json.namedChoice?_eq_some_iff (fun counting => by cases counting <;> decide) (by decide)

theorem Policy.namedChoice?_iff {p : Policy} :
    j.namedChoice? Policy.all Policy.name = some p ↔ j.choice? = some p.name :=
  Json.namedChoice?_eq_some_iff (fun p => by cases p <;> decide) (by decide)

end Calendar

/-! ## What is read -/

section Read

variable {j : Json}

theorem Calendar.Amount.ofJson?_eq_some_iff {a : Amount} :
    Amount.ofJson? j = some a ↔ j.IsRecord 3 ∧
      (∃ unit ∈ j.part? 0 "unit", unit.choice? = some a.unit.name) ∧
      j.part? 1 "magnitude" = some (.int a.magnitude.toInt) ∧
      (j.part? 2 "note").elim (a.counting = .plain) fun note =>
        note.choice? = some a.counting.name := by
  obtain ⟨unit, magnitude, counting⟩ := a
  rw [Amount.ofJson?]
  obtain ⟨h, hrecord⟩ | ⟨h, hrecord⟩ := j.record?_cases ["unit", "magnitude", "note"]
  · refine .trans ?_ (and_iff_right h).symm
    simp [hrecord, Option.bind_eq_some_iff, Json.required_eq_some_iff, Json.optional_eq_some_iff,
      Json.int64?_eq_some_iff, TimeUnit.namedChoice?_iff, Counting.namedChoice?_iff]
  · rw [hrecord]
    exact iff_of_false nofun fun hj => h hj.1

theorem Config.ofJson?_eq_some_iff {c : Config} :
    Config.ofJson? j = some c ↔ j.IsRecord 2 ∧
      ((j.part? 0 "business_days").elim (c.businessDays = ({} : Config).businessDays) fun policy =>
        policy.choice? = some c.businessDays.name) ∧
      (j.part? 1 "max_depth").elim (c.maxDepth = ({} : Config).maxDepth) fun depth =>
        depth = .int c.maxDepth.toNat := by
  obtain ⟨policy, depth⟩ := c
  rw [Config.ofJson?]
  obtain ⟨h, hrecord⟩ | ⟨h, hrecord⟩ := j.record?_cases ["business_days", "max_depth"]
  · refine .trans ?_ (and_iff_right h).symm
    simp [hrecord, Option.bind_eq_some_iff, Json.optional_eq_some_iff, Json.uint64?_eq_some_iff,
      Policy.namedChoice?_iff]
  · rw [hrecord]
    exact iff_of_false nofun fun hj => h hj.1

theorem Address.ofJson?_eq_some_iff {a : Address} :
    Address.ofJson? j = some a ↔ j.IsRecord 2 ∧
      j.part? 0 "row" = some (.int a.row.toNat) ∧
      j.part? 1 "col" = some (.int a.column.toNat) := by
  obtain ⟨row, column⟩ := a
  rw [Address.ofJson?]
  obtain ⟨h, hrecord⟩ | ⟨h, hrecord⟩ := j.record?_cases ["row", "col"]
  · refine .trans ?_ (and_iff_right h).symm
    simp [hrecord, Option.bind_eq_some_iff, Json.required_eq_some_iff, Json.uint32?_eq_some_iff]
  · rw [hrecord]
    exact iff_of_false nofun fun hj => h hj.1

theorem Range.ofJson?_eq_some_iff {r : Range} :
    Range.ofJson? j = some r ↔ j.IsRecord 2 ∧
      (∃ start ∈ j.part? 0 "start", Address.ofJson? start = some r.start) ∧
      ∃ finish ∈ j.part? 1 "end", Address.ofJson? finish = some r.finish := by
  obtain ⟨start, finish⟩ := r
  rw [Range.ofJson?]
  obtain ⟨h, hrecord⟩ | ⟨h, hrecord⟩ := j.record?_cases ["start", "end"]
  · refine .trans ?_ (and_iff_right h).symm
    simp [hrecord, Option.bind_eq_some_iff, Json.required_eq_some_iff]
  · rw [hrecord]
    exact iff_of_false nofun fun hj => h hj.1

end Read

/-! ## What is stored -/

section Store

open Json

theorem Calendar.Amount.exact_toJson (a : Amount) : a.toJson.Exact := by
  refine exact_object fun entry h => ?_
  simp only [List.mem_cons, List.not_mem_nil, or_false] at h
  obtain rfl | rfl | rfl := h
  · exact .string _
  · exact .int a.magnitude.minValue_le_toInt (a.magnitude.toInt_lt.trans (by decide))
  · exact .string _

theorem exact_natural {n : Nat} (h : n < UInt64.size) : (Json.int n).Exact :=
  .int (le_trans (by decide) (Int.natCast_nonneg n)) (Int.ofNat_lt.mpr h)

theorem Config.exact_toJson (c : Config) : c.toJson.Exact := by
  refine exact_object fun entry h => ?_
  simp only [List.mem_cons, List.not_mem_nil, or_false] at h
  obtain rfl | rfl := h
  · exact .string _
  · exact exact_natural c.maxDepth.toNat_lt_size

theorem Address.exact_toJson (a : Address) : a.toJson.Exact := by
  refine exact_object fun entry h => ?_
  simp only [List.mem_cons, List.not_mem_nil, or_false] at h
  obtain rfl | rfl := h
  · exact exact_natural (a.row.toNat_lt_size.trans (by decide))
  · exact exact_natural (a.column.toNat_lt_size.trans (by decide))

theorem Range.exact_toJson (r : Range) : r.toJson.Exact := by
  refine exact_object fun entry h => ?_
  simp only [List.mem_cons, List.not_mem_nil, or_false] at h
  obtain rfl | rfl := h
  · exact r.start.exact_toJson
  · exact r.finish.exact_toJson

theorem Calendar.Amount.ofJson?_toJson (a : Amount) : Amount.ofJson? a.toJson = some a := by
  rw [ofJson?_eq_some_iff]
  simp [toJson, isRecord_object, part?_object, field?, choice?]

theorem Config.ofJson?_toJson (c : Config) : Config.ofJson? c.toJson = some c := by
  rw [ofJson?_eq_some_iff]
  simp [toJson, isRecord_object, part?_object, field?, choice?]

theorem Address.ofJson?_toJson (a : Address) : Address.ofJson? a.toJson = some a := by
  rw [ofJson?_eq_some_iff]
  simp [toJson, isRecord_object, part?_object, field?]

theorem Range.ofJson?_toJson (r : Range) : Range.ofJson? r.toJson = some r := by
  rw [ofJson?_eq_some_iff]
  simp [toJson, isRecord_object, part?_object, field?, Address.ofJson?_toJson]

end Store

/-! ## Faithful stored forms -/

namespace Json

variable {α : Type} {j k : Json} {names : List String}

/-- **Two values with the same parts**, as far as a record with these fields goes. -/
def SameParts (names : List String) (j k : Json) : Prop :=
  (j.IsRecord names.length ↔ k.IsRecord names.length) ∧
    ∀ i name, names[i]? = some name → j.part? i name = k.part? i name

/-- **A record is read by its parts** and by nothing else. -/
theorem SameParts.record?_eq (h : SameParts names j k) : j.record? names = k.record? names := by
  obtain ⟨hj, hrecord⟩ | ⟨hj, hrecord⟩ := j.record?_cases names
  · rw [hrecord, record?_of_isRecord (h.1.mp hj), Option.some_inj]
    refine List.ext_getElem (by simp) fun i hi _ => ?_
    have hname := List.getElem?_eq_getElem (l := names) (by simpa using hi)
    rw [List.getElem_mapIdx, List.getElem_mapIdx]
    exact h.2 i _ hname
  · rw [hrecord, record?_of_not_isRecord fun hk => hj (h.1.mpr hk)]

/-- **A stored form that is faithful**, as a record with the fields of these names. -/
structure Faithful (names : List String) (store : α → Json) (read? : Json → Option α) : Prop where
  /-- What was stored is read back. -/
  read_store (x : α) : read? (store x) = some x
  /-- What was stored as a text is read back. -/
  read_text (x : α) : (ofText? (store x).text).bind read? = some x
  /-- What was read and stored is stored as it stands when it is read again. -/
  stable {j k : Json} : (read? j).map store = some k → (read? k).map store = some k
  /-- Nothing else is read than the parts of a record. -/
  congr_parts {j k : Json} : SameParts names j k → read? j = read? k

/-- A stored form that is exact is faithful if it is read back. -/
theorem faithful_of_exact {store : α → Json} {read? : Json → Option α}
    (hexact : ∀ x, (store x).Exact) (hread : ∀ x, read? (store x) = some x)
    (hcongr : ∀ j k, SameParts names j k → read? j = read? k) : Faithful names store read? where
  read_store := hread
  read_text x := by rw [ofText?_text (hexact x), Option.bind_some, hread x]
  stable h := by
    obtain ⟨x, -, rfl⟩ := Option.map_eq_some_iff.mp h
    rw [hread x, Option.map_some]
  congr_parts := hcongr _ _

end Json

/-- **What is stored is read back**: every amount, all settings, every address and every range, as a
value and as a text.  What was read from a value and stored again is read and stored as it stands.
Only the parts of a record are read, and a part that is omitted is the default: an amount without a
note is counted in units, and settings are what they are where nothing is said of them. -/
theorem stored_forms_faithful :
    (Json.Faithful ["unit", "magnitude", "note"] Amount.toJson Amount.ofJson? ∧
      Json.Faithful ["business_days", "max_depth"] Config.toJson Config.ofJson? ∧
      Json.Faithful ["row", "col"] Address.toJson Address.ofJson? ∧
      Json.Faithful ["start", "end"] Range.toJson Range.ofJson?) ∧
    (∀ j a, Amount.ofJson? j = some a → j.part? 2 "note" = none → a.counting = .plain) ∧
    ∀ j c, Config.ofJson? j = some c →
      (j.part? 0 "business_days" = none → c.businessDays = ({} : Config).businessDays) ∧
      (j.part? 1 "max_depth" = none → c.maxDepth = ({} : Config).maxDepth) := by
  refine ⟨⟨Json.faithful_of_exact Amount.exact_toJson Amount.ofJson?_toJson fun j k h => ?_,
    Json.faithful_of_exact Config.exact_toJson Config.ofJson?_toJson fun j k h => ?_,
    Json.faithful_of_exact Address.exact_toJson Address.ofJson?_toJson fun j k h => ?_,
    Json.faithful_of_exact Range.exact_toJson Range.ofJson?_toJson fun j k h => ?_⟩,
    fun j a ha hnote => ?_, fun j c hc => ⟨fun hpolicy => ?_, fun hdepth => ?_⟩⟩
  · rw [Amount.ofJson?, Amount.ofJson?, h.record?_eq]
  · rw [Config.ofJson?, Config.ofJson?, h.record?_eq]
  · rw [Address.ofJson?, Address.ofJson?, h.record?_eq]
  · rw [Range.ofJson?, Range.ofJson?, h.record?_eq]
  · obtain ⟨-, -, -, hcounting⟩ := Amount.ofJson?_eq_some_iff.mp ha
    rwa [hnote] at hcounting
  · obtain ⟨-, hbusiness, -⟩ := Config.ofJson?_eq_some_iff.mp hc
    rwa [hpolicy] at hbusiness
  · obtain ⟨-, -, hmax⟩ := Config.ofJson?_eq_some_iff.mp hc
    rwa [hdepth] at hmax

/-- An amount without a note, its fields out of order and with another among them, and settings of
which nothing is said; the largest numbers are read back from their texts. -/
theorem stored_forms_faithful_largest :
    let j : Json := .object [("x", .null), ("magnitude", .int (-5)), ("unit", .string "day")]
    let k : Json := .array [.string "day", .int (-5)]
    let c : Config := ⟨.sundayToThursday, 18446744073709551615⟩
    let a : Amount := ⟨.week, Int64.minValue, .businessDays⟩
    (Amount.ofJson? j = some ⟨.day, -5, .plain⟩ ∧ j.part? 2 "note" = none ∧
        (∀ b, Amount.ofJson? j = some b → b.counting = .plain) ∧
        Amount.ofJson? k = Amount.ofJson? j) ∧
      (Config.ofJson? (.array []) = some {} ∧
        ∀ d, Config.ofJson? (.array []) = some d →
          d.businessDays = .mondayToFriday ∧ d.maxDepth = 256) ∧
      (Json.ofText? c.toJson.text).bind Config.ofJson? = some c ∧
      (Json.ofText? a.toJson.text).bind Amount.ofJson? = some a := by
  intro j k c a
  obtain ⟨⟨hamount, hconfig, -, -⟩, hplain, hdefault⟩ := stored_forms_faithful
  have hsame : Json.SameParts ["unit", "magnitude", "note"] k j := by
    refine ⟨iff_of_true (by decide : 2 ≤ 3) trivial, fun i name h => ?_⟩
    obtain _ | _ | _ | i := i <;> cases h <;> rfl
  refine ⟨⟨by decide, rfl, fun b hb => hplain j b hb rfl, hamount.congr_parts hsame⟩,
    ⟨by decide, fun d hd => ?_⟩, hconfig.read_text c, hamount.read_text a⟩
  obtain ⟨hpolicy, hdepth⟩ := hdefault _ d hd
  exact ⟨hpolicy rfl, hdepth rfl⟩

end Formula
