import Formula.Proofs.Pattern.Steps

/-!
# Proofs/Pattern/Wrapping — a pattern inside of a group

Reading a group is reading the pattern in it, up to the parenthesis that closes the group.

**What is open outside does not matter** (`next_within`): an element is read in the same way inside
of other groups, unless it closes one of them.

**The reading comes to the closing** (`Reads.comesTo_or_hides`): with a parenthesis behind it a text
is read element by element as it is alone, since each is read locally; only a comment takes the
parenthesis in.

**What closes a group stands behind a pattern** (`exists_closing`): where the reading of a text
closes a group that was open before, the text begins with what is a pattern alone.
-/

namespace Formula.Pattern

variable {st st' : State} {outer : List Group} {cs : List Char}

/-! ## Inside of other groups -/

/-- The same state inside of other groups. -/
def State.within (st : State) (outer : List Group) : State :=
  { st with groups := st.groups ++ outer }

@[simp] theorem groups_within : (st.within outer).groups = st.groups ++ outer := rfl

@[simp] theorem flags_within : (st.within outer).flags = st.flags := rfl

theorem openNamed_within (cs : List Char) : (st.within outer).openNamed cs
    = (st.openNamed cs).map (Prod.map (·.within outer) id) := by
  rw [State.openNamed, State.openNamed]
  rcases readName [] cs with _ | ⟨name, rest⟩
  · rfl
  · change (if st.names.contains name then _ else _) = _
    dsimp only
    split_ifs <;> rfl

theorem readOpen_within (cs : List Char) : (st.within outer).readOpen cs
    = (st.readOpen cs).map (Prod.map (·.within outer) id) := by
  rw [State.readOpen, State.readOpen, flags_within]
  split
  · rfl
  · rfl
  · rfl
  · rfl
  · exact openNamed_within _
  · exact openNamed_within _
  · split
    · split_ifs <;> rfl
    · rfl
    · rfl
  · rfl

theorem repeat_within (least : Nat) (most : Option Nat) : (st.within outer).repeat least most
    = (st.repeat least most).map (·.within outer) := by
  have hitems : (st.within outer).items = st.items := rfl
  rw [State.repeat, State.repeat, hitems]
  rcases st.items with _ | ⟨_ | _, _⟩ <;> rfl

theorem close_within (h : st.groups ≠ []) :
    (st.within outer).close = st.close.map (·.within outer) := by
  rw [State.close, State.close, groups_within]
  cases hgroups : st.groups with
  | nil => exact absurd hgroups h
  | cons g groups => rfl

theorem pushAtom_within (a : Atom) :
    (st.within outer).pushAtom a = (st.pushAtom a).map (·.within outer) := by
  cases a with
  | literal c byte =>
    rw [State.pushAtom, State.pushAtom, flags_within]
    cases literalChar? st.flags c byte <;> rfl
  | set s => rfl
  | look l => rfl

/-- **An element is read in the same way inside of other groups**, but for a closing parenthesis
where no group of the state is open. -/
theorem step_within {c : Char} (h : ¬ (c = ')' ∧ st.groups = [])) (cs : List Char) :
    (st.within outer).step c cs = (st.step c cs).map (Prod.map (·.within outer) id) := by
  induction c using element_cases with
  | opening => exact readOpen_within cs
  | closing =>
    have hclose : (st.within outer).close = st.close.map (·.within outer) :=
      close_within fun hnil => h ⟨rfl, hnil⟩
    rw [State.step, State.step, hclose]
    cases st.close <;> rfl
  | bar => rfl
  | bracket =>
    rw [State.step, State.step, flags_within]
    cases readBracket st.flags cs <;> rfl
  | question =>
    rw [State.step, State.step, repeat_within]
    cases st.repeat 0 (some 1) <;> rfl
  | star =>
    rw [State.step, State.step, repeat_within]
    cases st.repeat 0 none <;> rfl
  | plus =>
    rw [State.step, State.step, repeat_within]
    cases st.repeat 1 none <;> rfl
  | brace =>
    rw [step_brace, step_brace, State.readRepeat, State.readRepeat, andThen, andThen,
      flags_within]
    rcases readRange st.flags.spaced (skipSpaced st.flags.spaced cs) with _ | ⟨bounds, rest⟩
    · rfl
    · dsimp only [Option.bind_some]
      rw [repeat_within]
      cases st.repeat bounds.1 bounds.2 <;> rfl
  | backslash =>
    rw [State.step, State.step, flags_within]
    rcases readEscape st.flags cs with _ | ⟨a, rest⟩
    · rfl
    · dsimp only [Option.bind_eq_bind, Option.bind_some]
      rw [pushAtom_within]
      cases st.pushAtom a <;> rfl
  | dot =>
    rw [State.step, State.step, flags_within]
    split_ifs <;> rfl
  | caret => rfl
  | dollar => rfl
  | plain c hplain =>
    rw [step_of_plain hplain, step_of_plain hplain]
    rfl

theorem next_within
    (h : ¬ ((skipSpaced st.flags.spaced cs).head? = some ')' ∧ st.groups = [])) :
    (st.within outer).next cs = (st.next cs).map (Prod.map (·.within outer) id) := by
  rw [State.next, State.next, flags_within]
  cases hcs : skipSpaced st.flags.spaced cs with
  | nil => rfl
  | cons c cs =>
    rw [hcs, List.head?_cons, Option.some.injEq] at h
    exact step_within h cs

/-! ## Whole texts -/

/-- **What is read of a whole text**: element by element from the state `st` to the state at the
end. -/
inductive Reads : State → List Char → State → Prop
  | done {st : State} {cs : List Char} : skipSpaced st.flags.spaced cs = [] → Reads st cs st
  | next {st st₁ st₂ : State} {cs rest : List Char} :
      st.next cs = some (st₁, rest) → Reads st₁ rest st₂ → Reads st cs st₂

theorem next_eq_none_of_skipSpaced (h : skipSpaced st.flags.spaced cs = []) :
    st.next cs = none := by
  rw [State.next, h]
  rfl

theorem reads_iff_of_next {st₁ : State} {rest : List Char} (h : st.next cs = some (st₁, rest)) :
    Reads st cs st' ↔ Reads st₁ rest st' := by
  refine ⟨fun hreads => ?_, .next h⟩
  cases hreads with
  | done hcs =>
    rw [next_eq_none_of_skipSpaced hcs] at h
    cases h
  | next hnext hreads =>
    rw [hnext] at h
    cases h
    exact hreads

theorem reads_nil : Reads st [] st' ↔ st' = st := by
  have hskip : skipSpaced st.flags.spaced [] = [] := by cases st.flags.spaced <;> rfl
  constructor
  · intro h
    cases h with
    | done => rfl
    | next hnext =>
      rw [next_eq_none_of_skipSpaced hskip] at hnext
      cases hnext
  · rintro rfl
    exact .done hskip

theorem length_lt_of_next {st₁ : State} {rest : List Char} (h : st.next cs = some (st₁, rest)) :
    rest.length < cs.length := by
  have hle := length_skipSpaced_le st.flags.spaced cs
  rw [State.next] at h
  cases hcs : skipSpaced st.flags.spaced cs with
  | nil => rw [hcs] at h; cases h
  | cons c more =>
    rw [hcs] at h hle
    exact (Nat.lt_succ_of_le ((local_step st c).shortens h).length_le).trans_le hle

theorem run_eq_some_iff {fuel : Nat} (hfuel : cs.length ≤ fuel) :
    State.run fuel st cs = some st' ↔ Reads st cs st' := by
  induction fuel generalizing st cs with
  | zero =>
    obtain rfl := List.length_eq_zero_iff.mp (Nat.le_zero.mp hfuel)
    rw [State.run, Option.some.injEq, reads_nil, eq_comm]
  | succ fuel ih =>
    have hrun : State.run (fuel + 1) st cs =
        if skipSpaced st.flags.spaced cs = [] then some st
        else (st.next cs).bind fun p => State.run fuel p.1 p.2 := by
      rw [State.run, State.next]
      rcases skipSpaced st.flags.spaced cs with _ | ⟨c, more⟩
      · rfl
      · rw [if_neg (List.cons_ne_nil c more), State.element]
        dsimp only
        cases st.step c more <;> rfl
    rw [hrun]
    split_ifs with hcs
    · rw [Option.some.injEq]
      refine ⟨fun h => h ▸ .done hcs, fun h => ?_⟩
      cases h with
      | done => rfl
      | next hnext =>
        rw [next_eq_none_of_skipSpaced hcs] at hnext
        cases hnext
    · cases hnext : st.next cs with
      | none =>
        refine ⟨fun h => absurd h (Option.some_ne_none st').symm, fun h => ?_⟩
        cases h with
        | done h => exact absurd h hcs
        | next h =>
          rw [hnext] at h
          cases h
      | some p =>
        have hlt := length_lt_of_next hnext
        rw [Option.bind_some, ih (by omega), reads_iff_of_next hnext]

theorem Node.ofChars?_eq_some_iff {n : Node} :
    Node.ofChars? cs = some n ↔ ∃ st, Reads {} cs st ∧ st.groups = [] ∧ st.body = n := by
  rw [Node.ofChars?, Option.bind_eq_some_iff]
  refine exists_congr fun st => and_congr (run_eq_some_iff le_rfl) ?_
  rw [Option.ite_none_right_eq_some, Option.some.injEq, List.isEmpty_iff]

/-- A text is read in one way. -/
theorem Reads.unique {st₁ st₂ : State} (h₁ : Reads st cs st₁) (h₂ : Reads st cs st₂) :
    st₁ = st₂ := by
  rw [← run_eq_some_iff le_rfl] at h₁ h₂
  exact Option.some.inj (h₁.symm.trans h₂)

theorem Reads.ofChars?_eq_some_iff {m : Node} (hreads : Reads {} cs st) :
    Node.ofChars? cs = some m ↔ st.groups = [] ∧ st.body = m := by
  rw [Node.ofChars?_eq_some_iff]
  constructor
  · rintro ⟨st', hst', h⟩
    rwa [← hst'.unique hreads]
  · exact fun h => ⟨st, hreads, h⟩

/-! ## With the closing behind -/

/-- Skipping leaves the closing, unless that is in a comment. -/
theorem skipSpaced_append (spaced : Bool) (cs : List Char) :
    (∀ tail, skipSpaced spaced (cs ++ ')' :: tail) = skipSpaced spaced cs ++ ')' :: tail) ∨
      skipSpaced spaced cs = [] ∧ ∀ tail, skipSpaced spaced (cs ++ ')' :: tail) <:+ tail :=
  follows_skipSpaced spaced cs

theorem skipSpaced_closing (spaced : Bool) (tail : List Char) :
    skipSpaced spaced (')' :: tail) = ')' :: tail := by
  cases spaced <;> rfl

/-- The reading goes on with what is left after blanks and comments. -/
theorem reads_congr {cs' : List Char}
    (h : skipSpaced st.flags.spaced cs = skipSpaced st.flags.spaced cs') :
    Reads st cs st' ↔ Reads st cs' st' := by
  have hnext : st.next cs = st.next cs' := by rw [State.next, h, State.next]
  constructor
  · intro hreads
    cases hreads with
    | done hcs => exact .done (h.symm.trans hcs)
    | next hn hreads => exact .next (hnext.symm.trans hn) hreads
  · intro hreads
    cases hreads with
    | done hcs => exact .done (h.trans hcs)
    | next hn hreads => exact .next (hnext.trans hn) hreads

/-- The closing parenthesis of no group is not read. -/
theorem next_eq_none_of_closing (hhead : (skipSpaced st.flags.spaced cs).head? = some ')')
    (hgroups : st.groups = []) : st.next cs = none := by
  obtain ⟨rest, hcs⟩ := List.head?_eq_some_iff.mp hhead
  have hclose : st.close = none := by rw [State.close, hgroups]
  rw [State.next, hcs, State.element, State.step, hclose]
  rfl

theorem not_reads_closing {tail : List Char} (hgroups : st.groups = []) :
    ¬ Reads st (')' :: tail) st' := by
  have hskip := skipSpaced_closing st.flags.spaced tail
  intro h
  cases h with
  | done hcs =>
    rw [hskip] at hcs
    cases hcs
  | next hnext =>
    rw [next_eq_none_of_closing (by rw [hskip, List.head?_cons]) hgroups] at hnext
    cases hnext

/-- Inside of other groups an element that is read at all is read in the same way. -/
theorem next_within_of_some {st₁ : State} {rest : List Char} (h : st.next cs = some (st₁, rest))
    (outer : List Group) : (st.within outer).next cs = some (st₁.within outer, rest) := by
  rw [next_within, h]
  · rfl
  · rintro ⟨hhead, hgroups⟩
    rw [next_eq_none_of_closing hhead hgroups] at h
    cases h

/-- **The reading comes to the closing**: with a parenthesis behind it, a text is read to the state
`st'` and then the parenthesis, whatever follows and inside of any groups. -/
def ComesTo (st : State) (cs : List Char) (st' : State) : Prop :=
  ∀ outer tail last, Reads (st.within outer) (cs ++ ')' :: tail) last ↔
    Reads (st'.within outer) (')' :: tail) last

/-- **The parenthesis is in a comment.** -/
def Hides (st : State) (cs : List Char) (st' : State) : Prop := Reads st (cs ++ [')']) st'

theorem comesTo_of_skipSpaced
    (h : ∀ tail, skipSpaced st.flags.spaced (cs ++ ')' :: tail) = ')' :: tail) :
    ComesTo st cs st := by
  intro outer tail last
  refine reads_congr ?_
  rw [flags_within, h, skipSpaced_closing]

/-- The reading comes to the closing after an element if it does so after the rest. -/
theorem ComesTo.next {st₁ : State} {rest : List Char} (h : ComesTo st₁ rest st')
    (hnext : ∀ tail, st.next (cs ++ ')' :: tail) = some (st₁, rest ++ ')' :: tail)) :
    ComesTo st cs st' := by
  intro outer tail last
  rw [reads_iff_of_next (next_within_of_some (hnext tail) outer)]
  exact h outer tail last

/-- **A text that can be read is read in the same way with the closing behind it**, up to that. -/
theorem Reads.comesTo_or_hides (h : Reads st cs st') : ComesTo st cs st' ∨ Hides st cs st' := by
  induction h with
  | @done st cs hcs =>
    rcases skipSpaced_append st.flags.spaced cs with hskip | ⟨-, hskip⟩
    · refine .inl (comesTo_of_skipSpaced fun tail => ?_)
      rw [hskip, hcs, List.nil_append]
    · exact .inr (.done (List.suffix_nil.mp (hskip [])))
  | @next st st₁ st₂ cs rest hnext hreads ih =>
    rcases (local_next st).follows cs with hlonger | hover
    · simp only [hnext, Option.map_some, Prod.map_apply, id] at hlonger
      exact ih.imp (fun h => h.next hlonger) fun h => .next (hlonger []) h
    · obtain ⟨rfl, hlonger⟩ := hover.ended _ _ hnext
      obtain rfl := reads_nil.mp hreads
      exact .inr (.next hlonger (reads_nil.mpr rfl))

/-- **What comes to the closing of no group cannot be read on.** -/
theorem ComesTo.not_reads {tail : List Char} {last : State} (h : ComesTo st cs st')
    (hgroups : st'.groups = []) : ¬ Reads st (cs ++ ')' :: tail) last := by
  have hnil (st : State) : st.within [] = st := by
    rw [State.within, List.append_nil]
  have hcloses := h [] tail last
  rw [hnil, hnil] at hcloses
  exact fun hreads => not_reads_closing hgroups (hcloses.mp hreads)

/-! ## What closes a group -/

theorem skipIgnored_eq_cons {comment : Bool} {c : Char} {rest : List Char}
    (h : skipIgnored comment cs = c :: rest) :
    ∃ before, cs = before ++ c :: rest ∧ skipIgnored comment before = [] := by
  induction cs generalizing comment with
  | nil => cases h
  | cons d cs ih =>
    rw [skipIgnored] at h
    split_ifs at h with hcomment hblank hsign
    · obtain ⟨before, rfl, hbefore⟩ := ih h
      exact ⟨d :: before, rfl, by rw [skipIgnored, if_pos hcomment, hbefore]⟩
    · obtain ⟨before, rfl, hbefore⟩ := ih h
      exact ⟨d :: before, rfl, by rw [skipIgnored, if_neg hcomment, if_pos hblank, hbefore]⟩
    · obtain ⟨before, rfl, hbefore⟩ := ih h
      exact ⟨d :: before, rfl,
        by rw [skipIgnored, if_neg hcomment, if_neg hblank, if_pos hsign, hbefore]⟩
    · cases h
      exact ⟨[], rfl, rfl⟩

/-- What is skipped before a character is skipped without it, too. -/
theorem skipSpaced_eq_cons {spaced : Bool} {c : Char} {rest : List Char}
    (h : skipSpaced spaced cs = c :: rest) :
    ∃ before, cs = before ++ c :: rest ∧ skipSpaced spaced before = [] := by
  cases spaced with
  | false => exact ⟨[], h, rfl⟩
  | true => exact skipIgnored_eq_cons h

/-- A parenthesis that is not skipped is not skipped whatever follows it. -/
theorem skipSpaced_append_closing {spaced : Bool} {tail : List Char}
    (hcs : skipSpaced spaced cs = [])
    (h : skipSpaced spaced (cs ++ ')' :: tail) = ')' :: tail) (tail' : List Char) :
    skipSpaced spaced (cs ++ ')' :: tail') = ')' :: tail' := by
  rcases skipSpaced_append spaced cs with hskip | ⟨-, hskip⟩
  · rw [hskip, hcs, List.nil_append]
  · have hle := (hskip tail).length_le
    rw [h] at hle
    exact absurd hle (Nat.not_succ_le_self _)

/-- A text that can be read does not begin with a brace that begins no repetition. -/
theorem Reads.not_stuck {tail : List Char} (h : Reads st cs st') :
    ¬ Stuck st.flags.spaced tail (cs ++ ')' :: tail) := by
  rintro ⟨rest, hcs, hrest⟩
  rcases cs with _ | ⟨c, cs⟩
  · cases hcs
  obtain ⟨rfl, rfl⟩ := List.cons.inj hcs
  have hnil : skipSpaced st.flags.spaced cs = [] := by
    rcases skipSpaced_append st.flags.spaced cs with hskip | ⟨hnil, -⟩
    · have hle := hrest.length_le
      rw [List.append_eq, hskip, List.length_append] at hle
      exact List.eq_nil_of_length_eq_zero (by omega)
    · exact hnil
  have hskip : skipSpaced st.flags.spaced ('{' :: cs) = '{' :: cs := by
    cases st.flags.spaced <;> rfl
  have hnone : st.next ('{' :: cs) = none := by
    have hbound : readBound st.flags.spaced [] = none := by cases st.flags.spaced <;> rfl
    rw [State.next, hskip, State.element, step_brace, State.readRepeat, andThen, hnil, readRange,
      andThen, hbound]
    rfl
  cases h with
  | done hdone =>
    rw [hskip] at hdone
    cases hdone
  | next hnext =>
    rw [hnone] at hnext
    cases hnext

/-- An element that is read before a closing is read without it, and with any other. -/
theorem next_of_append {st₁ : State} {rest tail : List Char}
    (h : st.next (cs ++ ')' :: tail) = some (st₁, rest ++ ')' :: tail))
    (hstuck : ¬ Stuck st₁.flags.spaced tail (rest ++ ')' :: tail)) :
    st.next cs = some (st₁, rest) ∧
      ∀ tail, st.next (cs ++ ')' :: tail) = some (st₁, rest ++ ')' :: tail) := by
  rcases (local_next st).follows cs with hsame | hover
  · have hshort := (hsame tail).symm.trans h
    obtain ⟨⟨st₂, rest₂⟩, hcs, hp⟩ := Option.map_eq_some_iff.mp hshort
    obtain ⟨rfl, hrest⟩ := Prod.mk.inj hp
    obtain rfl := List.append_cancel_right hrest
    refine ⟨hcs, fun tail' => (hsame tail').trans ?_⟩
    rw [hcs]
    rfl
  · rcases hover.beyond tail _ _ h with hsuffix | hlate
    · have hle := hsuffix.length_le
      rw [List.length_append, List.length_cons] at hle
      omega
    · exact absurd hlate hstuck

/-- **What closes a group stands behind a pattern.**  Where the reading of a text from inside of
other groups closes all of them, the text begins with one that is read alone and leaves no group
open, and comes to the parenthesis behind it. -/
theorem exists_closing {last : State} (houter : outer ≠ []) (h : Reads (st.within outer) cs last)
    (hlast : last.groups = []) : ∃ inner tail st', cs = inner ++ ')' :: tail ∧
      Reads st inner st' ∧ st'.groups = [] ∧ ComesTo st inner st' := by
  generalize hinside : st.within outer = inside at h
  induction h generalizing st with
  | done =>
    rw [← hinside, groups_within] at hlast
    exact absurd (List.append_eq_nil_iff.mp hlast).2 houter
  | @next inside inside₁ last cs rest hnext hrest ih =>
    subst hinside
    by_cases hstray : (skipSpaced st.flags.spaced cs).head? = some ')' ∧ st.groups = []
    · obtain ⟨hhead, hgroups⟩ := hstray
      obtain ⟨tail, htail⟩ := List.head?_eq_some_iff.mp hhead
      obtain ⟨inner, rfl, hinner⟩ := skipSpaced_eq_cons htail
      exact ⟨inner, tail, st, rfl, .done hinner, hgroups,
        comesTo_of_skipSpaced (skipSpaced_append_closing hinner htail)⟩
    · rw [next_within hstray] at hnext
      obtain ⟨⟨st₁, rest₁⟩, hstep, hp⟩ := Option.map_eq_some_iff.mp hnext
      cases hp
      obtain ⟨inner, tail, st', rfl, hreads, hgroups, hcomes⟩ := ih hlast rfl
      obtain ⟨taken, rfl⟩ := (local_next st).shortens hstep
      rw [← List.append_assoc] at hstep
      obtain ⟨hshort, hlonger⟩ := next_of_append hstep hreads.not_stuck
      exact ⟨taken ++ inner, tail, st', (List.append_assoc _ _ _).symm, .next hshort hreads,
        hgroups, hcomes.next hlonger⟩

end Formula.Pattern
