import Formula.Symbols
import Formula.Proofs.Calendar.Formats
import Formula.Proofs.Decimal.Characters
import Formula.Proofs.Value.Criterion

/-!
# Proofs/Symbols — tables from `name=value` texts

A text assigns what follows its first equals sign to the name in front of it (`Assigns`).  A table
binds a name to what the last of its texts that assign to it assigns, and the others do not matter
(`Symbols.get?_ofPairs_eq_some_iff`).

What is assigned is read as a number, a truth value or a date.  A date has two hyphens or a colon; a
number has no colon, and two hyphens only with the letter of an exponent, which no date has.  So at
most one of the three readings applies to a text (`Attempt.eq_of_read?`), the order of the attempts
does not matter, and a value is read back from its own text.
-/

namespace Formula

open Text (trim trimChars)

/-! ## Dates are no numbers -/

namespace Calendar

/-- **What is read as a number is not read as a date.** -/
theorem DateTime.ofText?_eq_none_of_number {s : String} {y : Float}
    (h : Decimal.ofText? s = some y) : DateTime.ofText? s = none := by
  by_contra hne
  obtain ⟨x, hx⟩ := Option.ne_none_iff_exists'.mp hne
  rw [ofText?_eq_findSome?, Decimal.trimChars_of_ofText? h] at hx
  have hdenotes : Denotes s.toList x :=
    (findSome?_formats_eq_some_iff (List.Subset.refl _) (admitted_subset_formats _)).mp hx
  have hcolon : ':' ∉ s.toList := fun hmem => absurd (Decimal.mem_of_ofText? h ':' hmem) (by decide)
  obtain ⟨k, f, hdate⟩ := hdenotes.exists_date (List.count_eq_zero_of_not_mem hcolon)
  rcases Decimal.exponent_of_ofText? h hdate.two_le_count_hyphen with hmem | hmem
  · exact hdate.not_mem ⟨by decide, by decide⟩ (by decide) hmem
  · exact hdate.not_mem ⟨by decide, by decide⟩ (by decide) hmem

end Calendar

namespace Symbols

/-! ## The readings of a text -/

/-- **An attempt** to read a text as something else than a text. -/
inductive Attempt where
  | number
  | bool
  | date
deriving DecidableEq

namespace Attempt

/-- Every attempt, in the order in which they are made. -/
def all : List Attempt := [number, bool, date]

theorem mem_all (a : Attempt) : a ∈ all := by cases a <;> decide

/-- What an attempt makes of a trimmed text. -/
def read? : Attempt → String → Option Value
  | number, s => (Decimal.ofText? s).map .number
  | bool, s =>
    if s = "true" then some (.bool true) else if s = "false" then some (.bool false) else none
  | date, s => (Calendar.DateTime.ofText? s).map .date

variable {a b : Attempt} {s : String} {v w : Value}

theorem exists_of_read?_bool (h : bool.read? s = some v) :
    ∃ b, s = (Value.bool b).toText ∧ v = .bool b := by
  rw [read?] at h
  split_ifs at h with htrue hfalse
  · exact ⟨true, htrue, (Option.some.inj h).symm⟩
  · exact ⟨false, hfalse, (Option.some.inj h).symm⟩

/-- The text of a truth value is nothing else. -/
theorem read?_toText_bool (b : Bool) : number.read? (Value.bool b).toText = none ∧
    bool.read? (Value.bool b).toText = some (.bool b) ∧
    date.read? (Value.bool b).toText = none := by
  cases b <;> decide +kernel

theorem read?_date_eq_none_of_number (h : number.read? s = some v) : date.read? s = none := by
  obtain ⟨x, hx, -⟩ := Option.map_eq_some_iff.mp h
  rw [read?, Calendar.DateTime.ofText?_eq_none_of_number hx, Option.map_none]

theorem read?_ne_text {t : String} (h : a.read? s = some v) : v ≠ .text t := by
  rintro rfl
  cases a with
  | number =>
    obtain ⟨x, -, hx⟩ := Option.map_eq_some_iff.mp h
    cases hx
  | bool =>
    obtain ⟨b, -, hb⟩ := exists_of_read?_bool h
    cases hb
  | date =>
    obtain ⟨x, -, hx⟩ := Option.map_eq_some_iff.mp h
    cases hx

/-- **At most one attempt succeeds.** -/
theorem eq_of_read? (hv : a.read? s = some v) (hw : b.read? s = some w) : a = b := by
  have hbool {v : Value} (h : bool.read? s = some v) :
      number.read? s = none ∧ date.read? s = none := by
    obtain ⟨b, rfl, -⟩ := exists_of_read?_bool h
    exact ⟨(read?_toText_bool b).1, (read?_toText_bool b).2.2⟩
  cases a <;> cases b
  case number.number | bool.bool | date.date => rfl
  case number.bool => cases hv.symm.trans (hbool hw).1
  case number.date => cases hw.symm.trans (read?_date_eq_none_of_number hv)
  case bool.number => cases hw.symm.trans (hbool hv).1
  case bool.date => cases hw.symm.trans (hbool hv).2
  case date.number => cases hv.symm.trans (read?_date_eq_none_of_number hw)
  case date.bool => cases hv.symm.trans (hbool hw).2

/-- **The order of the attempts does not matter**, as long as each is made. -/
theorem findSome?_eq_some_iff {order : List Attempt} (horder : ∀ a, a ∈ order) :
    order.findSome? (·.read? s) = some v ↔ ∃ a : Attempt, a.read? s = some v := by
  constructor
  · intro h
    obtain ⟨a, -, ha⟩ := List.exists_of_findSome?_eq_some h
    exact ⟨a, ha⟩
  · rintro ⟨a, ha⟩
    have hsome : (order.findSome? (·.read? s)).isSome := by
      rw [List.findSome?_isSome_iff]
      exact ⟨a, horder a, ha ▸ rfl⟩
    obtain ⟨w, hw⟩ := Option.isSome_iff_exists.mp hsome
    obtain ⟨b, -, hb⟩ := List.exists_of_findSome?_eq_some hw
    obtain rfl := eq_of_read? ha hb
    rw [hw, ← hb, ha]

end Attempt

variable {raw : String} {v : Value}

/-- A value is read by attempts at a number, a truth value and a date, in this order. -/
theorem readValue_eq_findSome? (raw : String) :
    readValue raw = (Attempt.all.findSome? (·.read? (trim raw))).getD (.text raw) := by
  rw [readValue]
  dsimp only [Attempt.all, List.findSome?, Attempt.read?]
  cases Decimal.ofText? (trim raw) with
  | some x => rfl
  | none =>
    dsimp only [Option.map]
    split_ifs
    · rfl
    · rfl
    · cases Calendar.DateTime.ofText? (trim raw) <;> rfl

/-- **Attempts may be made in any order.** -/
theorem readValue_eq_of_order {order : List Attempt} (horder : ∀ a, a ∈ order) (raw : String) :
    readValue raw = (order.findSome? (·.read? (trim raw))).getD (.text raw) := by
  rw [readValue_eq_findSome?]
  refine congrArg (Option.getD · _) (Option.ext fun v => ?_)
  rw [Attempt.findSome?_eq_some_iff Attempt.mem_all, Attempt.findSome?_eq_some_iff horder]

/-- **What an attempt finds is the value**, whichever attempt it is. -/
theorem readValue_of_read? {a : Attempt} (h : a.read? (trim raw) = some v) : readValue raw = v := by
  rw [readValue_eq_findSome?, (Attempt.findSome?_eq_some_iff Attempt.mem_all).mpr ⟨a, h⟩,
    Option.getD_some]

/-- **A text remains as it stands if no attempt succeeds**, and only then. -/
theorem readValue_eq_text_iff :
    readValue raw = .text raw ↔ ∀ a : Attempt, a.read? (trim raw) = none := by
  constructor
  · intro h a
    by_contra hne
    obtain ⟨v, hv⟩ := Option.ne_none_iff_exists'.mp hne
    exact Attempt.read?_ne_text hv ((readValue_of_read? hv).symm.trans h)
  · intro h
    rw [readValue_eq_findSome?, List.findSome?_eq_none_iff.mpr fun a _ => h a, Option.getD_none]

/-! ## Values and their texts -/

theorem readValue_toText_bool (b : Bool) : readValue (Value.bool b).toText = .bool b := by
  refine readValue_of_read? (a := .bool) ?_
  cases b <;> decide

/-- A number is read back as far as numbers are. -/
theorem readValue_toText_number {x : Float} (h : Decimal.ofText? (Decimal.toText x) = some x) :
    readValue (Value.number x).toText = .number x := by
  refine readValue_of_read? (a := .number) ?_
  rw [Attempt.read?, Value.toText, trim, Decimal.trimChars_of_ofText? h, String.ofList_toList, h,
    Option.map_some]

/-- **A date is read back** if it has no fraction of a second and no leap second inside of a minute.
-/
theorem readValue_toText_date {t : Calendar.DateTime} (hregular : t.time.Regular)
    (h : t.time.nanos % Calendar.nanosPerSecond = 0) :
    readValue (Value.date t).toText = .date t := by
  refine readValue_of_read? (a := .date) ?_
  rw [Attempt.read?, Value.toText, trim, Calendar.trimChars_text, String.ofList_toList,
    Calendar.DateTime.ofText?_text, Option.map_some, t.shown_of_regular hregular,
    t.wholeSecond_eq_self h]

/-! ## Texts that assign -/

/-- **The text assigns to a name**: the name stands in front of its first equals sign, with any
blanks around it, and what the name is assigned stands behind. -/
def Assigns (pair name raw : String) : Prop :=
  ∃ left : String, pair = left ++ "=" ++ raw ∧ '=' ∉ left.toList ∧ trim left = name ∧ name ≠ ""

variable {pair name : String} {pairs : List String}

theorem readPair_of_not_mem (h : '=' ∉ pair.toList) : readPair pair = none := by
  have hnil : pair.toList.dropWhile (· != '=') = [] := by
    rw [List.dropWhile_eq_nil_iff]
    intro c hc
    exact bne_iff_ne.mpr fun heq => h (heq ▸ hc)
  rw [readPair, hnil]

theorem readPair_append {left raw : String} (h : '=' ∉ left.toList) :
    readPair (left ++ "=" ++ raw)
      = if (trim left).isEmpty then none else some (trim left, readValue raw) := by
  have hleft : ∀ c ∈ left.toList, (c != '=') = true := fun c hc =>
    bne_iff_ne.mpr fun heq => h (heq ▸ hc)
  have hchars : (left ++ "=" ++ raw).toList = left.toList ++ '=' :: raw.toList := by simp
  rw [readPair, hchars, List.dropWhile_append_of_pos hleft, List.takeWhile_append_of_pos hleft,
    List.dropWhile_cons_of_neg (by decide), List.takeWhile_cons_of_neg (by decide)]
  dsimp only
  rw [List.append_nil, String.ofList_toList, String.ofList_toList]

/-- **A binding is read from a text that assigns**, and from no other. -/
theorem readPair_eq_some_iff :
    readPair pair = some (name, v) ↔ ∃ raw, Assigns pair name raw ∧ readValue raw = v := by
  constructor
  · intro h
    by_cases hmem : '=' ∈ pair.toList
    · obtain ⟨left, raw, hpair, hleft⟩ := List.eq_append_cons_of_mem hmem
      have hpair' : pair = String.ofList left ++ "=" ++ String.ofList raw :=
        String.toList_inj.mp (by simp [hpair])
      have hleft' : '=' ∉ (String.ofList left).toList := by rwa [String.toList_ofList]
      rw [hpair', readPair_append hleft'] at h
      split at h
      · cases h
      · next hne =>
        obtain ⟨rfl, rfl⟩ := Prod.mk.inj (Option.some.inj h)
        refine ⟨String.ofList raw, ⟨String.ofList left, hpair', hleft', rfl, ?_⟩, rfl⟩
        exact mt String.isEmpty_iff.mpr hne
    · cases h.symm.trans (readPair_of_not_mem hmem)
  · rintro ⟨raw, ⟨left, rfl, hleft, rfl, hne⟩, rfl⟩
    rw [readPair_append hleft, if_neg (mt String.isEmpty_iff.mp hne)]

/-- What a text binds a name to. -/
def bound? (name pair : String) : Option Value :=
  (readPair pair).bind fun entry => if entry.1 = name then some entry.2 else none

theorem bound?_eq_some_iff :
    bound? name pair = some v ↔ ∃ raw, Assigns pair name raw ∧ readValue raw = v := by
  rw [← readPair_eq_some_iff, bound?]
  cases readPair pair with
  | none => exact ⟨nofun, nofun⟩
  | some entry => simp [Prod.ext_iff]

theorem bound?_eq_none_iff : bound? name pair = none ↔ ∀ raw, ¬Assigns pair name raw := by
  rw [Option.eq_none_iff_forall_ne_some]
  constructor
  · exact fun h raw hraw => h _ (bound?_eq_some_iff.mpr ⟨raw, hraw, rfl⟩)
  · intro h v hv
    obtain ⟨raw, hraw, -⟩ := bound?_eq_some_iff.mp hv
    exact h raw hraw

/-- A text adds the binding that it writes, if it writes one. -/
theorem get?_ofPairs_append_singleton (pairs : List String) (pair name : String) :
    (ofPairs (pairs ++ [pair])).get? name = (bound? name pair).or ((ofPairs pairs).get? name) := by
  rw [ofPairs, List.filterMap_append, ofList, insertMany, List.foldl_append, bound?]
  change (List.foldl _ (ofPairs pairs) _).get? name = _
  rw [List.filterMap_cons, List.filterMap_nil]
  cases readPair pair with
  | none => rfl
  | some entry =>
    rw [List.foldl_cons, List.foldl_nil, get?_insert, Option.bind_some]
    split <;> rfl

/-- **A table binds a name to what its last text for the name binds it to.** -/
theorem get?_ofPairs (pairs : List String) (name : String) :
    (ofPairs pairs).get? name = pairs.reverse.findSome? (bound? name) := by
  induction pairs using List.reverseRecOn with
  | nil => exact get?_empty name
  | append_singleton pairs pair ih =>
    rw [get?_ofPairs_append_singleton, ih, List.reverse_append, List.reverse_singleton,
      List.singleton_append, List.findSome?_cons]
    cases bound? name pair <;> rfl

/-- **A name is bound to what the last text that assigns to it assigns.** -/
theorem get?_ofPairs_eq_some_iff : (ofPairs pairs).get? name = some v ↔
    ∃ before pair after, pairs = before ++ pair :: after ∧
      (∃ raw, Assigns pair name raw ∧ readValue raw = v) ∧
      ∀ later ∈ after, ∀ raw, ¬Assigns later name raw := by
  rw [get?_ofPairs, List.findSome?_eq_some_iff]
  constructor
  · rintro ⟨after, pair, before, hpairs, hpair, hafter⟩
    refine ⟨before.reverse, pair, after.reverse, ?_, bound?_eq_some_iff.mp hpair,
      fun later hlater => bound?_eq_none_iff.mp (hafter later (List.mem_reverse.mp hlater))⟩
    rw [← List.reverse_reverse pairs, hpairs, List.reverse_append, List.reverse_cons,
      List.append_assoc, List.singleton_append]
  · rintro ⟨before, pair, after, rfl, hpair, hafter⟩
    refine ⟨after.reverse, pair, before.reverse, ?_, bound?_eq_some_iff.mpr hpair,
      fun later hlater => bound?_eq_none_iff.mpr (hafter later (List.mem_reverse.mp hlater))⟩
    rw [List.reverse_append, List.reverse_cons, List.append_assoc, List.singleton_append]

/-- A name is bound if some text assigns to it. -/
theorem isSome_get?_ofPairs_iff : ((ofPairs pairs).get? name).isSome ↔
    ∃ pair ∈ pairs, ∃ raw, Assigns pair name raw := by
  rw [get?_ofPairs, List.findSome?_isSome_iff]
  refine exists_congr fun pair => and_congr List.mem_reverse ?_
  rw [← Option.ne_none_iff_isSome, Ne, bound?_eq_none_iff, not_forall_not]

/-! ## One assignment -/

/-- **A name** is not empty, has no equals sign, and no blanks at its ends. -/
structure IsName (name : String) : Prop where
  ne_empty : name ≠ ""
  no_equals : '=' ∉ name.toList
  trimmed : trim name = name

instance (name : String) : Decidable (IsName name) :=
  decidable_of_iff (name ≠ "" ∧ '=' ∉ name.toList ∧ trim name = name)
    ⟨fun ⟨h, h', h''⟩ => ⟨h, h', h''⟩, fun ⟨h, h', h''⟩ => ⟨h, h', h''⟩⟩

/-- A text that assigns to a name binds it. -/
theorem get?_ofPairs_singleton (h : IsName name) (raw : String) :
    (ofPairs [name ++ "=" ++ raw]).get? name = some (readValue raw) :=
  get?_ofPairs_eq_some_iff.mpr ⟨[], _, [], rfl,
    ⟨raw, ⟨name, rfl, h.no_equals, h.trimmed, h.ne_empty⟩, rfl⟩,
    fun _ hlater => absurd hlater List.not_mem_nil⟩

/-! ## Tables of texts -/

end Symbols

end Formula
