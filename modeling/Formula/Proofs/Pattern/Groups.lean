import Formula.Proofs.Pattern.Bounds
import Formula.Proofs.Pattern.Laws

/-!
# Proofs/Pattern/Groups — an engine as it is documented

`engine_documented`: the engine that reads patterns from left to right has the properties that
`Engine.Documented` asks of any.  What it matches is said by the regular expression that a pattern
is read as (`Spans`).

What closes a group stands behind a pattern (`closes`); and a pattern that comes to the closing is
read inside of a group as it is alone (`reads_group`).
-/

namespace Formula.Pattern

variable {st st' : State} {cs : List Char} {e p s : String} {i j : Nat}

/-- **What a pattern matches**, as it is read. -/
def Spans (p s : String) (i j : Nat) : Prop :=
  ∃ m, Node.ofText? p = some m ∧ m.regex.Matches s.toList i j

theorem wellFormed_iff : engine.wellFormed p ↔ ∃ m, Node.ofText? p = some m :=
  Option.isSome_iff_exists

theorem wellFormed_iff_reads :
    engine.wellFormed p ↔ ∃ st, Reads {} p.toList st ∧ st.groups = [] := by
  rw [wellFormed_iff]
  constructor
  · rintro ⟨m, hm⟩
    obtain ⟨st, hst, hgroups, -⟩ := Node.ofChars?_eq_some_iff.mp hm
    exact ⟨st, hst, hgroups⟩
  · rintro ⟨st, hst, hgroups⟩
    exact ⟨st.body, Node.ofChars?_eq_some_iff.mpr ⟨st, hst, hgroups, rfl⟩⟩

/-! ## Regular expressions that can be put in parentheses -/

/-- **What can be put in parentheses comes to the closing.** -/
theorem complete_iff : engine.Complete e ↔
    ∃ st, Reads {} e.toList st ∧ st.groups = [] ∧ ComesTo {} e.toList st := by
  have hlist : (e ++ ")").toList = e.toList ++ [')'] := by simp
  rw [Engine.Complete, wellFormed_iff_reads, wellFormed_iff_reads, hlist]
  constructor
  · rintro ⟨⟨st, hst, hgroups⟩, hclosing⟩
    refine ⟨st, hst, hgroups, hst.comesTo_or_hides.resolve_right fun hhides => ?_⟩
    exact hclosing ⟨st, hhides, hgroups⟩
  · rintro ⟨st, hst, hgroups, hcomes⟩
    refine ⟨⟨st, hst, hgroups⟩, ?_⟩
    rintro ⟨last, hlast, -⟩
    exact hcomes.not_reads hgroups hlast

/-! ## Reading a group -/

/-- The state after some items of a pattern, outside of any group. -/
def atItems (items : List Item) (names : List (List Char)) : State := ⟨[], [], items, {}, names⟩

/-- What the reading of a group makes of the pattern in it. -/
def State.toItem (st : State) : Item := .node ⟨st.body.regex, st.body.depth + 1⟩

/-- **A group is read as one item**, which is what the pattern in it is alone. -/
theorem reads_group {inner tail : List Char} {items : List Item} {last : State}
    (hcomes : ComesTo {} inner st) (hgroups : st.groups = []) :
    Reads (atItems items []) ('(' :: '?' :: ':' :: (inner ++ ')' :: tail)) last ↔
      Reads (atItems (st.toItem :: items) st.names) tail last := by
  have hopen : (atItems items []).next ('(' :: '?' :: ':' :: (inner ++ ')' :: tail))
      = some (({} : State).within [⟨items, [], {}⟩], inner ++ ')' :: tail) := rfl
  have hclose : (st.within [⟨items, [], {}⟩]).close
      = some (atItems (st.toItem :: items) st.names) := by
    rw [State.close, groups_within, hgroups]
    rfl
  have hclosing : (st.within [⟨items, [], {}⟩]).next (')' :: tail)
      = some (atItems (st.toItem :: items) st.names, tail) := by
    rw [State.next, skipSpaced_closing, State.element, State.step, hclose]
    rfl
  rw [reads_iff_of_next hopen, hcomes, reads_iff_of_next hclosing]

theorem grouped_toList (e : String) :
    (grouped e).toList = '(' :: '?' :: ':' :: (e.toList ++ [')']) := by
  simp [grouped]

variable {m : Node}

/-- What a group is read as. -/
theorem ofText?_grouped (hcomes : ComesTo {} e.toList st) (hgroups : st.groups = []) :
    Node.ofText? (grouped e) = some ⟨st.body.regex, st.body.depth + 1⟩ := by
  refine Node.ofChars?_eq_some_iff.mpr ⟨atItems [st.toItem] st.names, ?_, rfl, rfl⟩
  rw [grouped_toList]
  exact (reads_group hcomes hgroups).mpr (reads_nil.mpr rfl)

/-- An assertion of the beginning of the text is an item. -/
def startItem : Item := .node ⟨.look Look.textStart, 0⟩

theorem reads_caret {last : State} :
    Reads {} ('^' :: cs) last ↔ Reads (atItems [startItem] []) cs last :=
  reads_iff_of_next rfl

theorem regex_ofText?_caret (hcomes : ComesTo {} e.toList st) (hgroups : st.groups = []) :
    ∃ m, Node.ofText? ("^" ++ grouped e) = some m ∧
      m.regex = .seq (.look Look.textStart) st.body.regex := by
  refine ⟨_, Node.ofChars?_eq_some_iff.mpr
    ⟨atItems [st.toItem, startItem] st.names, ?_, rfl, rfl⟩, rfl⟩
  have hlist : ("^" ++ grouped e).toList = '^' :: '(' :: '?' :: ':' :: (e.toList ++ [')']) := by
    rw [String.toList_append, grouped_toList]
    rfl
  rw [hlist, reads_caret]
  exact (reads_group hcomes hgroups).mpr (reads_nil.mpr rfl)

theorem regex_ofText?_dollar (hcomes : ComesTo {} e.toList st) (hgroups : st.groups = []) :
    ∃ m, Node.ofText? ("^" ++ grouped e ++ "$") = some m ∧
      m.regex = .seq (.look Look.textStart) (.seq st.body.regex (.look Look.textEnd)) := by
  refine ⟨_, Node.ofChars?_eq_some_iff.mpr
    ⟨(atItems [st.toItem, startItem] st.names).pushRegex (.look Look.textEnd), ?_, rfl, rfl⟩, rfl⟩
  have hlist : ("^" ++ grouped e ++ "$").toList
      = '^' :: '(' :: '?' :: ':' :: (e.toList ++ [')', '$']) := by
    rw [String.toList_append, String.toList_append, grouped_toList]
    simp
  have hend (st : State) (names : List (List Char)) :
      (atItems [st.toItem, startItem] names).next ['$']
        = some ((atItems [st.toItem, startItem] names).pushRegex (.look Look.textEnd), []) := rfl
  rw [hlist, reads_caret]
  exact (reads_group hcomes hgroups).mpr (.next (hend st st.names) (reads_nil.mpr rfl))

/-! ## Assertions -/

variable {r : Regex}

theorem matches_start_iff : (Regex.seq (.look Look.textStart) r).Matches s.toList i j ↔
    i = 0 ∧ r.Matches s.toList i j := by
  constructor
  · intro h
    cases h with
    | seq hstart hr =>
      cases hstart with
      | look _ hfirst =>
        refine ⟨?_, hr⟩
        by_contra hne
        rw [Look.textStart, charBefore, if_neg hne, Option.isNone_iff_eq_none,
          List.getElem?_eq_none_iff] at hfirst
        have := hr.le
        omega
  · rintro ⟨rfl, hr⟩
    exact .seq (.look (Nat.zero_le _) rfl) hr

theorem matches_end_iff : (r.seq (.look Look.textEnd)).Matches s.toList i j ↔
    j = s.length ∧ r.Matches s.toList i j := by
  constructor
  · intro h
    cases h with
    | seq hr hend =>
      cases hend with
      | look hj hlast =>
        rw [Look.textEnd, Option.isNone_iff_eq_none, List.getElem?_eq_none_iff] at hlast
        rw [← String.length_toList]
        exact ⟨hj.antisymm hlast, hr⟩
  · rintro ⟨rfl, hr⟩
    refine .seq hr (.look hr.le.2 ?_)
    rw [Look.textEnd, List.getElem?_eq_none (by rw [String.length_toList])]
    rfl

/-! ## The engine -/

theorem spans_iff (h : Node.ofText? p = some m) : Spans p s i j ↔ m.regex.Matches s.toList i j := by
  rw [Spans, h]
  simp only [Option.some.injEq, exists_eq_left']

theorem closes {x : String} (h : engine.wellFormed ("^(?:" ++ x)) :
    ∃ e rest, x = e ++ ")" ++ rest ∧ engine.Complete e := by
  obtain ⟨last, hlast, hgroups⟩ := wellFormed_iff_reads.mp h
  have hlist : ("^(?:" ++ x).toList = '^' :: '(' :: '?' :: ':' :: x.toList := by simp
  have hopen : (atItems [startItem] []).next ('(' :: '?' :: ':' :: x.toList)
      = some (({} : State).within [⟨[startItem], [], {}⟩], x.toList) := rfl
  rw [hlist, reads_caret, reads_iff_of_next hopen] at hlast
  obtain ⟨inner, tail, st, hx, hst, hnil, hcomes⟩ :=
    exists_closing (List.cons_ne_nil _ _) hlast hgroups
  refine ⟨String.ofList inner, String.ofList tail, String.toList_inj.mp ?_,
    complete_iff.mpr ⟨st, ?_, hnil, ?_⟩⟩
  · rw [hx]
    simp
  · rwa [String.toList_ofList]
  · rwa [String.toList_ofList]

/-- **The engine is as it is documented.** -/
theorem engine_documented : engine.Documented Spans where
  closes _ h := closes h
  unopened e rest he := by
    obtain ⟨st, -, hgroups, hcomes⟩ := complete_iff.mp he
    have hlist : (e ++ ")" ++ rest).toList = e.toList ++ ')' :: rest.toList := by simp
    rw [wellFormed_iff_reads, hlist]
    rintro ⟨last, hlast, -⟩
    exact hcomes.not_reads hgroups hlast
  group e he := by
    obtain ⟨st, hst, hgroups, hcomes⟩ := complete_iff.mp he
    have hgroup := ofText?_grouped hcomes hgroups
    have halone : Node.ofText? e = some st.body :=
      hst.ofChars?_eq_some_iff.mpr ⟨hgroups, rfl⟩
    refine ⟨wellFormed_iff.mpr ⟨_, hgroup⟩, fun s i j => ?_⟩
    rw [spans_iff hgroup, spans_iff halone]
  caret e he := by
    obtain ⟨st, -, hgroups, hcomes⟩ := complete_iff.mp he
    obtain ⟨m, hm, hregex⟩ := regex_ofText?_caret hcomes hgroups
    refine ⟨wellFormed_iff.mpr ⟨m, hm⟩, fun s i j => ?_⟩
    rw [spans_iff hm, spans_iff (ofText?_grouped hcomes hgroups), hregex, matches_start_iff]
  dollar e he := by
    obtain ⟨st, -, hgroups, hcomes⟩ := complete_iff.mp he
    obtain ⟨m, hm, hregex⟩ := regex_ofText?_dollar hcomes hgroups
    obtain ⟨m', hm', hregex'⟩ := regex_ofText?_caret hcomes hgroups
    refine ⟨wellFormed_iff.mpr ⟨m, hm⟩, fun s i j => ?_⟩
    rw [spans_iff hm, spans_iff hm', hregex, hregex', matches_start_iff, matches_start_iff,
      matches_end_iff]
    tauto
  isMatch_iff p s hp _ := by
    obtain ⟨m, hm⟩ := wellFormed_iff.mp hp
    have hmatch : engine.isMatch p s = m.regex.isMatch s.toList := by
      simp only [engine, hm, Option.any_some]
    rw [hmatch, isMatch_iff (Node.ordered_of_ofChars? hm)]
    simp only [spans_iff hm]

end Formula.Pattern
