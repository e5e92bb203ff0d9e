import Formula.Proofs.Pattern.Classes

/-!
# Proofs/Pattern/Steps — the elements of a pattern are read locally

`local_next`: one element of a pattern is read the same with the closing behind the text, or it is
read beyond the closing parenthesis, or the brace that is left begins no repetition before it
(`Stuck`).
-/

namespace Formula.Pattern

variable {spaced : Bool} {st : State}

open Text (isBlank)

/-! ## Groups -/

/-- The flags of a group or a setting, and the letters seen. -/
def readSetting (flags : Flags) (seen : List Char) : Reader (Flags × List Char) := fun cs =>
  (readFlags flags seen cs).map fun p => ((p.1, p.2.1), p.2.2)

theorem readSetting_cons (flags : Flags) (seen : List Char) (c : Char) (cs : List Char) :
    readSetting flags seen (c :: cs) =
      if c = ':' ∨ c = ')' then
        if seen.head? = some '-' then none else some ((flags, seen), c :: cs)
      else if seen.contains c then none
      else if c = '-' then readSetting flags (c :: seen) cs
      else if flagLetters.contains c then
        readSetting (flags.set c (!seen.contains '-')) (c :: seen) cs
      else none := by
  rw [readSetting, readFlags]
  split_ifs <;> first | rfl | simp_all

theorem shortens_readSetting (flags : Flags) (seen : List Char) :
    Shortens (readSetting flags seen) := by
  intro cs x rest h
  induction cs generalizing flags seen with
  | nil => cases h
  | cons c cs ih =>
    rw [readSetting_cons] at h
    split_ifs at h
    · cases h
      exact List.suffix_rfl
    · exact (ih _ _ h).trans (List.suffix_cons c cs)
    · exact (ih _ _ h).trans (List.suffix_cons c cs)

theorem local_readSetting (flags : Flags) (seen : List Char) :
    Local AtClosing (readSetting flags seen) := by
  refine ⟨shortens_readSetting flags seen, fun cs => ?_⟩
  induction cs generalizing flags seen with
  | nil =>
    refine .inr ⟨fun tail x rest h => .inr ?_, fun x rest h => by cases h⟩
    rw [List.nil_append, readSetting_cons, if_pos (.inr rfl)] at h
    split_ifs at h
    cases h
    rfl
  | cons c cs ih =>
    simp only [List.cons_append, readSetting_cons]
    split_ifs
    · exact .inl fun _ => rfl
    · exact .inl fun _ => rfl
    · exact .inl fun _ => rfl
    · exact ih _ _
    · exact ih _ _
    · exact .inl fun _ => rfl

theorem shortens_readName (acc : List Char) : Shortens (readName acc) := by
  intro cs x rest h
  induction cs generalizing acc with
  | nil => cases h
  | cons c cs ih =>
    rw [readName] at h
    split_ifs at h
    · cases h
      exact List.suffix_cons _ _
    · exact (ih _ h).trans (List.suffix_cons c cs)

theorem local_readName (acc : List Char) : Local Never (readName acc) := by
  refine ⟨shortens_readName acc, fun cs => ?_⟩
  induction cs generalizing acc with
  | nil =>
    refine .inr ⟨fun tail x rest h => .inl ?_, fun x rest h => by cases h⟩
    rw [List.nil_append, readName, if_neg (by decide)] at h
    split_ifs at h
    exact shortens_readName _ h
  | cons c cs ih =>
    simp only [List.cons_append, readName]
    split_ifs
    · exact .inl fun _ => rfl
    · exact .inl fun _ => rfl
    · exact ih _
    · exact .inl fun _ => rfl

/-- A group with a name that is not taken. -/
theorem openNamed_eq : st.openNamed =
    made (fun name => if st.names.contains name then none else some name)
      (fun name => { st.open st.flags with names := name :: st.names }) (readName []) := by
  funext cs
  rw [State.openNamed, made]
  cases readName [] cs with
  | none => rfl
  | some p =>
    dsimp only [Option.bind_some]
    split_ifs <;> rfl

theorem local_openNamed : Local Never st.openNamed := by
  rw [openNamed_eq]
  exact (local_readName []).made fun _ _ _ _ h => h.elim

/-- The end of a setting or of the flags of a group. -/
def State.endSetting (st : State) (setting : Flags × List Char) : Reader State
  | [] => none
  | c :: cs =>
    if c = ')' then
      if setting.2.isEmpty then none
      else some ({ st with items := .setting :: st.items, flags := setting.1 }, cs)
    else some (st.open setting.1, cs)

theorem local_endSetting (setting : Flags × List Char) :
    Local Never (st.endSetting setting) := by
  refine .of_cons rfl fun c => ?_
  simp only [State.endSetting]
  split_ifs
  · exact .fail
  · exact .take_nothing _
  · exact .take_nothing _

/-- What follows an opening parenthesis and what does not count after it. -/
def State.readGroup (st : State) : Reader State :=
  after '?'
    (after '=' (fun _ => none) <| after '!' (fun _ => none) <|
      after '<' (after '=' (fun _ => none) <| after '!' (fun _ => none) st.openNamed) <|
      after 'P' (after '<' st.openNamed fun _ => none) <|
      andThen (readSetting st.flags []) st.endSetting)
    fun cs => some (st.open st.flags, cs)

theorem readOpen_eq : st.readOpen = fun cs => st.readGroup (skipSpaced st.flags.spaced cs) := by
  funext cs
  rw [State.readOpen]
  generalize skipSpaced st.flags.spaced cs = cs
  rw [State.readGroup]
  split
  · rfl
  · rfl
  · rfl
  · rfl
  · rfl
  · next heq hbang =>
    rw [after_self, after_of_ne (by decide), after_of_ne (by decide), after_self,
      after_of_forall_ne heq, after_of_forall_ne hbang]
  · next rest heq hbang _ _ hnamed hname =>
    rw [after_self, after_of_forall_ne heq, after_of_forall_ne hbang, after_of_forall_ne hname]
    by_cases hP : ∃ more, rest = 'P' :: more
    · obtain ⟨more, rfl⟩ := hP
      rw [after_self, after_of_forall_ne fun more h => hnamed more (congrArg _ h)]
      rfl
    · rw [after_of_forall_ne fun more h => hP ⟨more, h⟩, andThen, readSetting]
      rcases readFlags st.flags [] rest with _ | ⟨flags, seen, _ | ⟨c, more⟩⟩
      · rfl
      · rfl
      · dsimp only [Option.map_some, Option.bind_some]
        rw [State.endSetting]
        by_cases hc : c = ')'
        · subst hc
          rfl
        · rw [if_neg hc]
          split
          · next h => cases h; exact absurd rfl hc
          · next h => cases h; rfl
          · next _ h => exact (h _ _ _ _ rfl).elim
  · next h => rw [after_of_forall_ne h]

theorem local_readOpen : Local Never st.readOpen := by
  have hsetting : Local Never (andThen (readSetting st.flags []) st.endSetting) := by
    refine (local_readSetting _ _).andThen (fun _ => local_endSetting _) ?_
    rintro tail setting rest y out rfl h
    rw [State.endSetting, if_pos rfl] at h
    split_ifs at h
    cases h
    exact .inl List.suffix_rfl
  have hnamed : Local Never st.openNamed := local_openNamed
  rw [readOpen_eq]
  exact .skip <| .after (by decide) (.after (by decide) .fail <| .after (by decide) .fail <|
    .after (by decide) (.after (by decide) .fail <| .after (by decide) .fail hnamed) <|
    .after (by decide) (.after (by decide) hnamed .fail) hsetting) (.take_nothing _)

/-! ## Repetition -/

theorem local_readDigits (fuel : Nat) (acc : List Char) :
    Local Never fun cs => some (readDigits spaced fuel acc cs) := by
  induction fuel generalizing acc with
  | zero => exact .take_nothing acc.reverse
  | succ fuel ih =>
    refine ⟨fun cs x rest h => ?_, fun cs => ?_⟩
    · cases cs with
      | nil => cases h; exact List.suffix_rfl
      | cons c cs =>
        rw [readDigits] at h
        split_ifs at h
        · exact ((ih _).skip.shortens h).trans (List.suffix_cons c cs)
        · cases h
          exact List.suffix_rfl
    · cases cs with
      | nil => exact .inl fun _ => rfl
      | cons c cs =>
        simp only [List.cons_append, readDigits]
        split_ifs
        · exact (ih _).skip.follows cs
        · exact .inl fun _ => rfl

theorem readDigits_eq_of_le {k l : Nat} {acc cs : List Char} (hk : cs.length ≤ k)
    (hl : cs.length ≤ l) : readDigits spaced k acc cs = readDigits spaced l acc cs := by
  induction k generalizing l acc cs with
  | zero =>
    obtain rfl := List.length_eq_zero_iff.mp (Nat.le_zero.mp hk)
    cases l <;> rfl
  | succ k ih =>
    cases cs with
    | nil => cases l <;> rfl
    | cons c cs =>
      rw [List.length_cons] at hk hl
      obtain ⟨l, rfl⟩ := Nat.exists_eq_succ_of_ne_zero (Nat.ne_zero_of_lt hl)
      have hrest := length_skipSpaced_le spaced cs
      rw [readDigits, readDigits]
      split_ifs
      · exact ih (by omega) (by omega)
      · rfl

/-- A local reader after blanks, where these count. -/
theorem Local.dropBlanks {α : Type} {Late : LateEnd α} {f : Reader α}
    (hf : Local Late f) : Local Late fun cs => f (cs.dropWhile isBlank) := by
  refine ⟨fun cs x rest h => (hf.shortens h).trans (List.dropWhile_suffix _), fun cs => ?_⟩
  refine hf.extends_of_follows (.inl fun tail => ?_)
  dsimp only
  rw [List.dropWhile_append]
  split_ifs with hnil
  · rw [List.isEmpty_iff.mp hnil]
    rfl
  · rfl

/-- The number that digits write, if it is one and not too large. -/
def bound? (digits : List Char) : Option Nat :=
  let n := digits.foldl (fun n c => min (10 * n + (c.toNat - '0'.toNat)) (maxRounds + 1)) 0
  if digits.isEmpty || maxRounds < n then none else some n

theorem readBound_eq : readBound spaced = fun cs =>
    andThen (fun cs => some (readDigits spaced (cs.length + 1) [] cs))
      (fun digits cs => (bound? digits).bind fun n =>
        some (n, skipSpaced spaced (cs.dropWhile isBlank))) (cs.dropWhile isBlank) := by
  funext cs
  rw [readBound, andThen]
  dsimp only [Option.bind_some]
  rw [readDigits_eq_of_le le_rfl (Nat.le_succ _), bound?]
  split_ifs <;> rfl

theorem local_readBound : Local Never (readBound spaced) := by
  have hdigits : Local Never fun cs => some (readDigits spaced (cs.length + 1) [] cs) :=
    .of_fuel (fun fuel => local_readDigits fuel []) fun fuel cs h =>
      congrArg some (readDigits_eq_of_le h.le (Nat.le_succ _))
  rw [readBound_eq]
  refine (hdigits.andThen (fun digits => ?_) fun _ _ _ _ _ h => h.elim).dropBlanks
  cases bound? digits with
  | none => exact .fail
  | some n => exact (Local.take_nothing n).skip.dropBlanks

/-- The bounds of a repetition, after the opening brace and what does not count. -/
def readRange (spaced : Bool) : Reader (Nat × Option Nat) :=
  andThen (readBound spaced) fun least =>
    after '}' (fun cs => some ((least, some least), cs)) <|
    after ',' (fun cs =>
      after '}' (fun cs => some ((least, none), cs))
        (andThen (readBound spaced) fun most =>
          after '}' (fun cs => if least ≤ most then some ((least, some most), cs) else none)
            fun _ => none) (skipSpaced spaced cs))
    fun _ => none

theorem readBounds_eq (cs : List Char) : readBounds spaced cs =
    (readRange spaced (skipSpaced spaced cs)).map fun p => (p.1.1, p.1.2, p.2) := by
  rw [readBounds, readRange, andThen, Option.map_bind]
  refine congrArg (Option.bind _) (funext fun p => ?_)
  obtain ⟨least, rest⟩ := p
  dsimp only [Function.comp_apply]
  split
  · rfl
  · rw [after_of_ne (by decide), after_self]
    split
    · next h => rw [h]; rfl
    · next h =>
      rw [after_of_forall_ne h, andThen, Option.map_bind]
      refine congrArg (Option.bind _) (funext fun p => ?_)
      dsimp only [Function.comp_apply]
      split
      · next h =>
        rw [h, after_self]
        split_ifs <;> rfl
      · next h =>
        rw [after_of_forall_ne h]
        rfl
  · next hclose hcomma =>
    rw [after_of_forall_ne hclose, after_of_forall_ne hcomma]
    rfl

theorem local_readRange : Local Never (readRange spaced) := by
  refine local_readBound.andThen (fun least => ?_) fun _ _ _ _ _ h => h.elim
  refine .after (by decide) (.take_nothing _) <| .after (by decide) (.skip <|
    .after (by decide) (.take_nothing _) ?_) .fail
  refine local_readBound.andThen (fun most => .after (by decide) ?_ .fail)
    fun _ _ _ _ _ h => h.elim
  split_ifs
  · exact .take_nothing _
  · exact .fail

theorem local_dropQuestion (st : State) : Local Never fun cs => some (st, dropQuestion cs) := by
  have heq : (fun cs => some (st, dropQuestion cs))
      = after '?' (fun cs => some (st, cs)) fun cs => some (st, cs) := by
    funext cs
    cases cs with
    | nil => rfl
    | cons c cs =>
      by_cases hc : c = '?'
      · subst hc
        rfl
      · rw [after_of_ne hc, dropQuestion]
        exact fun rest h => hc (List.cons.inj h).1
  rw [heq]
  exact .after (by decide) (.take_nothing st) (.take_nothing st)

/-- A repetition with its bounds in braces, after the opening brace. -/
def State.readRepeat (st : State) : Reader State :=
  andThen (fun cs => readRange st.flags.spaced (skipSpaced st.flags.spaced cs)) fun bounds cs =>
    (st.repeat bounds.1 bounds.2).bind fun st' =>
      some (st', dropQuestion (skipSpaced st'.flags.spaced cs))

/-! ## Elements -/

/-- With the closing behind it, the text may go on with an opening brace that begins no repetition
before it. -/
def LateBrace : LateEnd State := fun tail st rest => Stuck st.flags.spaced tail rest

/-- The characters that do not stand for themselves. -/
def specials : List Char := ['(', ')', '|', '[', '?', '*', '+', '{', '\\', '.', '^', '$']

/-- The elements of a pattern by their first character. -/
theorem element_cases {motive : Char → Prop} (opening : motive '(') (closing : motive ')')
    (bar : motive '|') (bracket : motive '[') (question : motive '?') (star : motive '*')
    (plus : motive '+') (brace : motive '{') (backslash : motive '\\') (dot : motive '.')
    (caret : motive '^') (dollar : motive '$') (plain : ∀ c, c ∉ specials → motive c) (c : Char) :
    motive c := by
  by_cases hc : c ∈ specials
  · simp only [specials, List.mem_cons, List.not_mem_nil, or_false] at hc
    rcases hc with rfl | rfl | rfl | rfl | rfl | rfl | rfl | rfl | rfl | rfl | rfl | rfl <;>
      assumption
  · exact plain c hc

/-- An element of one character. -/
theorem step_of_plain {c : Char} (h : c ∉ specials) (cs : List Char) :
    st.step c cs = some (st.pushRegex (literalRegex st.flags c), cs) := by
  rw [State.step] <;>
  · rintro rfl
    exact h (by decide)

theorem step_bracket : st.step '[' =
    made some (fun n => st.push ⟨.chars n.set, n.depth⟩) (readBracket st.flags) := by
  funext cs
  rw [State.step, made]
  cases readBracket st.flags cs <;> rfl

theorem step_backslash : st.step '\\' = made st.pushAtom id (readEscape st.flags) := rfl

theorem step_brace : st.step '{' = st.readRepeat := by
  funext cs
  rw [State.step, readBounds_eq, State.readRepeat, andThen]
  cases readRange st.flags.spaced (skipSpaced st.flags.spaced cs) <;> rfl

theorem local_readRepeat : Local Never st.readRepeat := by
  refine local_readRange.skip.andThen (fun bounds => ?_) fun _ _ _ _ _ h => h.elim
  cases st.repeat bounds.1 bounds.2 with
  | none => exact .fail
  | some st' => exact (local_dropQuestion st').skip

/-- **An element of a pattern is read locally**, but for an opening brace after a word boundary at
the end of the text. -/
theorem local_step (st : State) (c : Char) : Local LateBrace (st.step c) := by
  have hnever {f : Reader State} (hf : Local Never f) : Local LateBrace f :=
    hf.mono fun _ _ _ h => h.elim
  have hrepeat (least : Nat) (most : Option Nat) : Local Never fun cs =>
      (st.repeat least most).map fun st => (st, dropQuestion cs) := by
    cases st.repeat least most with
    | none => exact .fail
    | some st' => exact local_dropQuestion st'
  cases c using element_cases with
  | opening => exact hnever local_readOpen
  | closing =>
    have heq : st.step ')' = fun cs => st.close.map fun st => (st, cs) := rfl
    rw [heq]
    cases st.close with
    | none => exact .fail
    | some st' => exact .take_nothing st'
  | bar => exact .take_nothing _
  | bracket =>
    rw [step_bracket]
    exact local_readBracket.made fun _ _ _ _ h => h.elim
  | question => exact hnever (hrepeat 0 (some 1))
  | star => exact hnever (hrepeat 0 none)
  | plus => exact hnever (hrepeat 1 none)
  | brace =>
    rw [step_brace]
    exact hnever local_readRepeat
  | backslash =>
    rw [step_backslash]
    refine local_readEscape.made ?_
    rintro tail _ st' rest ⟨⟨l, rfl⟩, hstuck⟩ hpush
    cases hpush
    exact .inr hstuck
  | dot =>
    have heq : st.step '.' = fun cs =>
        if st.flags.unicode then some (st.pushRegex (.chars st.flags.dotSet), cs) else none := rfl
    rw [heq]
    split_ifs
    · exact .take_nothing _
    · exact .fail
  | caret => exact .take_nothing _
  | dollar => exact .take_nothing _
  | plain c hplain =>
    rw [funext (step_of_plain hplain)]
    exact .take_nothing _

/-- An element of a pattern that begins with the first character. -/
def State.element (st : State) : Reader State
  | [] => none
  | c :: cs => st.step c cs

/-- **One element of a pattern**, after what does not count. -/
def State.next (st : State) : Reader State := fun cs => st.element (skipSpaced st.flags.spaced cs)

theorem local_next (st : State) : Local LateBrace st.next := by
  have helement : Local LateBrace st.element := .of_cons rfl (local_step st)
  exact helement.skip

end Formula.Pattern
