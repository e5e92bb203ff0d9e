import Formula.Proofs.Pattern.Locality
import Mathlib.Data.List.TakeWhile

/-!
# Proofs/Pattern/Escapes — escapes are read locally

The codes of characters and the properties end with a brace, a letter or after a number of digits,
so they are not read beyond the end of a text.  A word boundary may be followed by a name in braces;
where the text ends after the opening brace, alone it is no pattern, and with the closing behind it
the brace is left to be read as a repetition, of which nothing stands before the closing (`Stuck`).
-/

namespace Formula.Pattern

variable {spaced : Bool} {flags : Flags}

open Text (hexValue? isBlank)

/-! ## Characters by their codes -/

theorem local_readHexDigits (count n : Nat) : Local Never (readHexDigits spaced count n) := by
  induction count generalizing n with
  | zero => exact .take_nothing n
  | succ count ih =>
    refine .of_cons rfl fun c => ?_
    simp only [readHexDigits]
    cases hexValue? c with
    | none => exact .fail
    | some d => exact (ih _).skip

theorem local_readHexBrace (fuel : Nat) (any : Bool) (n : Nat) :
    Local Never (readHexBrace spaced fuel any n) := by
  induction fuel generalizing any n with
  | zero => exact .fail
  | succ fuel ih =>
    refine .of_cons rfl fun c => ?_
    by_cases hc : c = '}'
    · subst hc
      simp only [readHexBrace]
      cases any
      · exact .fail
      · exact (Local.take_nothing n).skip
    · simp only [readHexBrace]
      cases hexValue? c with
      | none => exact .fail
      | some d => exact (ih _ _).skip

theorem readHexBrace_eq_of_lt {k l n : Nat} {any : Bool} {cs : List Char} (hk : cs.length < k)
    (hl : cs.length < l) : readHexBrace spaced k any n cs = readHexBrace spaced l any n cs := by
  refine eq_of_fuel (f := fun k s => readHexBrace spaced k s.1 s.2) (s := (any, n))
    (fun k l s cs h => ?_) hk hl
  cases cs with
  | nil => rfl
  | cons c cs =>
    by_cases hc : c = '}'
    · subst hc
      rfl
    · simp only [readHexBrace]
      cases hexValue? c with
      | none => rfl
      | some d => exact h (true, _) _ (length_skipSpaced_lt spaced c cs)

/-- A character by its code in braces, after the opening brace. -/
def readBracedCode (spaced : Bool) : Reader Atom :=
  made charOfCode? (.literal · false) fun cs => readHexBrace spaced (cs.length + 1) false 0 cs

/-- A character by its code in a number of digits that the letter gives. -/
def readPlainCode (spaced : Bool) (letter : Char) : Reader Atom :=
  made charOfCode? (.literal · (letter == 'x'))
    (readHexDigits spaced (if letter = 'x' then 2 else if letter = 'u' then 4 else 8) 0)

theorem readHexEscape_eq (letter : Char) : readHexEscape spaced letter = fun cs =>
    after '{' (fun cs => readBracedCode spaced (skipSpaced spaced cs))
      (readPlainCode spaced letter) (skipSpaced spaced cs) := by
  funext cs
  rw [readHexEscape]
  cases skipSpaced spaced cs with
  | nil => rfl
  | cons c cs =>
    by_cases hc : c = '{'
    · subst hc
      rfl
    · rw [after_of_ne hc]
      split
      · next h => exact absurd (List.cons.inj h).1 hc
      · rfl

theorem local_readHexEscape (letter : Char) :
    Local Never (readHexEscape spaced letter) := by
  have hbraced : Local Never (readBracedCode spaced) :=
    (Local.of_fuel (fun fuel => local_readHexBrace fuel false 0) fun _ _ h =>
      readHexBrace_eq_of_lt h (Nat.lt_succ_self _)).made fun _ _ _ _ h => h.elim
  have hplain : Local Never (readPlainCode spaced letter) :=
    (local_readHexDigits _ 0).made fun _ _ _ _ h => h.elim
  rw [readHexEscape_eq]
  exact (Local.after (by decide) hbraced.skip hplain).skip

/-! ## Properties -/

theorem local_readBraced (fuel : Nat) (acc : List Char) :
    Local Never (readBraced spaced fuel acc) := by
  induction fuel generalizing acc with
  | zero => exact .fail
  | succ fuel ih =>
    refine .of_cons rfl fun c => ?_
    by_cases hc : c = '}'
    · subst hc
      exact .take_nothing acc.reverse
    · simp only [readBraced]
      exact (ih _).skip

theorem readBraced_eq_of_lt {k l : Nat} {acc cs : List Char} (hk : cs.length < k)
    (hl : cs.length < l) : readBraced spaced k acc cs = readBraced spaced l acc cs := by
  refine eq_of_fuel (f := readBraced spaced) (fun k l acc cs h => ?_) hk hl
  cases cs with
  | nil => rfl
  | cons c cs =>
    by_cases hc : c = '}'
    · subst hc
      rfl
    · simp only [readBraced]
      exact h _ _ (length_skipSpaced_lt spaced c cs)

/-- The set that a property names, and whether it is to be negated, after the opening brace. -/
def readBracedName (spaced : Bool) : Reader (CharSet × Bool) :=
  made propertyTextSet? id fun cs => readBraced spaced (cs.length + 1) [] cs

/-- The set that a property of one letter names. -/
def readPlainName (spaced : Bool) : Reader (CharSet × Bool)
  | [] => none
  | c :: cs =>
    if c = '\\' then none else (propertySet? [c]).map fun s => ((s, false), skipSpaced spaced cs)

theorem local_readBracedName : Local Never (readBracedName spaced) :=
  (Local.of_fuel (fun fuel => local_readBraced fuel []) fun _ _ h =>
    readBraced_eq_of_lt h (Nat.lt_succ_self _)).made fun _ _ _ _ h => h.elim

theorem local_readPlainName : Local Never (readPlainName spaced) := by
  refine .of_cons rfl fun c => ?_
  simp only [readPlainName]
  split_ifs
  · exact .fail
  · cases propertySet? [c] with
    | none => exact .fail
    | some s => exact (Local.take_nothing (s, false)).skip

/-- The set that a property names. -/
def readPropertyName (spaced : Bool) : Reader (CharSet × Bool) := fun cs =>
  after '{' (fun cs => readBracedName spaced (skipSpaced spaced cs)) (readPlainName spaced)
    (skipSpaced spaced cs)

theorem readProperty_eq (hunicode : flags.unicode = true) (negated : Bool) :
    readProperty flags negated
      = made (fun s => foldAndNegate flags (negated != s.2) s.1) .set
          (readPropertyName flags.spaced) := by
  have htrue : ¬ (!true) = true := by decide
  funext cs
  rw [readProperty, hunicode, if_neg htrue, made, readPropertyName]
  cases skipSpaced flags.spaced cs with
  | nil => rfl
  | cons c cs =>
    by_cases hc : c = '{'
    · subst hc
      rw [after_self, readBracedName, made, Option.bind_assoc]
      refine congrArg (Option.bind _) (funext fun p => ?_)
      dsimp only
      cases propertyTextSet? p.1 <;> rfl
    · rw [after_of_ne hc, readPlainName]
      dsimp only
      split
      · next h => exact absurd (List.cons.inj h).1 hc
      · next h =>
        obtain ⟨rfl, rfl⟩ := List.cons.inj h
        split_ifs
        · rfl
        · cases propertySet? [c] <;> rfl
      · next h => cases h

theorem local_readProperty (negated : Bool) :
    Local Never (readProperty flags negated) := by
  cases hunicode : flags.unicode with
  | false =>
    have hfail : readProperty flags negated = fun _ => none := by
      funext cs
      rw [readProperty, hunicode]
      rfl
    rw [hfail]
    exact .fail
  | true =>
    have hname : Local Never (readPropertyName flags.spaced) :=
      (Local.after (by decide) local_readBracedName.skip local_readPlainName).skip
    rw [readProperty_eq hunicode]
    exact hname.made fun _ _ _ _ h => h.elim

/-! ## Word boundaries -/

/-- An opening brace with nothing but blanks and comments between it and the closing. -/
def Stuck (spaced : Bool) (tail cs : List Char) : Prop :=
  ∃ rest, cs = '{' :: rest ∧ skipSpaced spaced rest <:+ ')' :: tail

/-- A character of the name of a special word boundary. -/
def isBoundaryChar (c : Char) : Bool := c.isAlpha || c == '-'

/-- The name of a special word boundary is the text up to a closing brace. -/
def isClosed (visible : List Char) : Bool := (visible.dropWhile isBoundaryChar).head? == some '}'

/-- A text without its blanks, if these do not count. -/
def visible (spaced : Bool) (cs : List Char) : List Char :=
  if spaced then cs.filter fun d => !isBlank d else cs

/-- The condition of a special word boundary. -/
def boundary? (flags : Flags) (name : String) : Option Look :=
  let look (holds : Bool → Bool → Bool) : Option Look :=
    some (Look.words (isWord flags.unicode) holds)
  match name with
  | "start" => look fun before after => !before && after
  | "end" => look fun before after => before && !after
  | "start-half" => look fun before _ => !before
  | "end-half" => look fun _ after => !after
  | _ => none

/-- A special word boundary, from its name on. -/
def readBoundary (flags : Flags) : Reader (Option Look) := fun cs =>
  if !isClosed (visible flags.spaced cs) then none
  else
    (boundary? flags (String.ofList ((visible flags.spaced cs).takeWhile isBoundaryChar))).map
      fun l => (some l, (cs.dropWhile (· != '}')).drop 1)

theorem readWordBrace_brace (rest : List Char) :
    readWordBrace flags ('{' :: rest) =
      match skipSpaced flags.spaced rest with
      | [] => none
      | c :: more =>
        if !isBoundaryChar c then some (none, '{' :: rest) else readBoundary flags (c :: more) := by
  simp only [readWordBrace]
  cases skipSpaced flags.spaced rest with
  | nil => rfl
  | cons c more =>
    have hname : isBoundaryChar = fun c => c.isAlpha || c == '-' := rfl
    simp only [readBoundary, boundary?, isClosed, visible, hname]
    generalize (if flags.spaced = true then (c :: more).filter fun d => !isBlank d else c :: more)
      = text
    generalize String.ofList _ = name
    split_ifs
    · rfl
    · rfl
    · split <;> simp_all only [Option.map_some, Option.map_none]

theorem visible_append (spaced : Bool) (cs tail : List Char) :
    visible spaced (cs ++ ')' :: tail) = visible spaced cs ++ ')' :: visible spaced tail := by
  cases spaced
  · rfl
  · exact List.filter_append ..

theorem mem_of_isClosed {cs : List Char} (h : isClosed (visible spaced cs)) : '}' ∈ cs := by
  have hmem := List.dropWhile_suffix isBoundaryChar |>.mem
    (List.mem_of_mem_head? (Option.mem_def.mpr (beq_iff_eq.mp h)))
  cases spaced
  · exact hmem
  · exact List.mem_of_mem_filter hmem

/-- A stretch of characters ends where it does, whatever is put behind the text, if it ends before
the text does. -/
theorem while_append_of_ne_nil {p : Char → Bool} {cs : List Char} (h : cs.dropWhile p ≠ [])
    (tail : List Char) : (cs ++ tail).takeWhile p = cs.takeWhile p ∧
      (cs ++ tail).dropWhile p = cs.dropWhile p ++ tail := by
  have hlength := congrArg List.length (List.takeWhile_append_dropWhile (p := p) (l := cs))
  rw [List.length_append] at hlength
  have := List.length_pos_iff.mpr h
  constructor
  · rw [List.takeWhile_append, if_neg (by omega)]
  · rw [List.dropWhile_append, if_neg (by rwa [List.isEmpty_iff])]

/-- A name is closed before the closing parenthesis, or not at all. -/
theorem isClosed_append (cs tail : List Char) :
    isClosed (cs ++ ')' :: tail) = isClosed cs ∧ (isClosed cs →
      (cs ++ ')' :: tail).takeWhile isBoundaryChar = cs.takeWhile isBoundaryChar) := by
  rw [isClosed, isClosed]
  by_cases hdrop : cs.dropWhile isBoundaryChar = []
  · rw [List.dropWhile_append, hdrop]
    exact ⟨rfl, fun h => by cases h⟩
  · obtain ⟨hname, hrest⟩ := while_append_of_ne_nil hdrop (')' :: tail)
    rw [hrest, List.head?_append_of_ne_nil _ hdrop]
    exact ⟨rfl, fun _ => hname⟩

theorem local_readBoundary : Local Never (readBoundary flags) := by
  refine ⟨fun cs l rest h => ?_, fun cs => .inl fun tail => ?_⟩
  · simp only [readBoundary] at h
    split_ifs at h
    obtain ⟨l, -, hrest⟩ := Option.map_eq_some_iff.mp h
    cases hrest
    exact (List.drop_suffix 1 _).trans (List.dropWhile_suffix _)
  · obtain ⟨hclosed, hname⟩ :=
      isClosed_append (visible flags.spaced cs) (visible flags.spaced tail)
    simp only [readBoundary, visible_append, hclosed]
    split_ifs with h
    · rfl
    · rw [Bool.not_eq_true, Bool.not_eq_false'] at h
      have hdrop : cs.dropWhile (· != '}') ≠ [] := fun hnil => by
        have := List.dropWhile_eq_nil_iff.mp hnil _ (mem_of_isClosed h)
        exact absurd this (by decide)
      rw [hname h, (while_append_of_ne_nil hdrop (')' :: tail)).2,
        List.drop_append_of_le_length (List.length_pos_iff.mpr hdrop), Option.map_map]
      rfl

/-- **A word boundary is read locally**, but for an opening brace at the end of the text: with the
closing behind it, this is left to be read as a repetition. -/
theorem local_readWordBrace :
    Local (fun tail o rest => o = none ∧ Stuck flags.spaced tail rest) (readWordBrace flags) := by
  have hother {c : Char} (hc : c ≠ '{') (cs : List Char) :
      readWordBrace flags (c :: cs) = some (none, c :: cs) := by
    rw [readWordBrace]
    intro rest h
    exact hc (List.cons.inj h).1
  refine ⟨fun cs o rest h => ?_, fun cs => ?_⟩
  · cases cs with
    | nil => cases h; exact List.suffix_rfl
    | cons c cs =>
      by_cases hc : c = '{'
      · subst hc
        rw [readWordBrace_brace] at h
        have hcs := skipSpaced_suffix flags.spaced cs
        cases hskip : skipSpaced flags.spaced cs with
        | nil => rw [hskip] at h; cases h
        | cons d more =>
          rw [hskip] at h hcs
          dsimp only at h
          split_ifs at h
          · cases h; exact List.suffix_rfl
          · exact ((local_readBoundary.shortens h).trans hcs).trans (List.suffix_cons _ cs)
      · rw [hother hc] at h
        cases h
        exact List.suffix_rfl
  · cases cs with
    | nil => exact .inl fun _ => hother (by decide) _
    | cons c cs =>
      by_cases hc : c = '{'
      · subst hc
        have hlonger (tail : List Char) : ('{' :: cs) ++ ')' :: tail = '{' :: (cs ++ ')' :: tail) :=
          rfl
        simp only [hlonger, readWordBrace_brace]
        by_cases hnil : skipSpaced flags.spaced cs = []
        · -- what begins beyond the closing is a name there, or leaves the brace
          have hsuffix (tail : List Char) :
              skipSpaced flags.spaced (cs ++ ')' :: tail) <:+ ')' :: tail := by
            rcases follows_skipSpaced flags.spaced cs with hskip | ⟨-, hskip⟩
            · simp only [hskip, hnil, List.nil_append, List.suffix_rfl]
            · exact (hskip tail).trans (List.suffix_cons _ tail)
          rw [hnil]
          refine .inr ⟨fun tail o rest h => ?_, fun o rest h => by cases h⟩
          cases htext : skipSpaced flags.spaced (cs ++ ')' :: tail) with
          | nil => rw [htext] at h; cases h
          | cons d more =>
            have hmore := hsuffix tail
            simp only [htext] at h hmore
            split_ifs at h with hd
            · cases h
              exact .inr ⟨rfl, _, rfl, hsuffix tail⟩
            · rcases List.suffix_cons_iff.mp hmore with heq | hmore
              · cases heq
                exact absurd rfl hd
              · exact .inl ((local_readBoundary.shortens h).trans hmore)
        · have hskip := (follows_skipSpaced flags.spaced cs).resolve_right fun h => hnil h.1
          obtain ⟨d, more, hcs⟩ := List.exists_cons_of_ne_nil hnil
          simp only [hskip, hcs, List.cons_append]
          split_ifs
          · exact .inl fun _ => rfl
          · exact (local_readBoundary.mono fun _ _ _ h => h.elim).follows (d :: more)
      · have hlonger (tail : List Char) : readWordBrace flags (c :: cs ++ ')' :: tail)
            = some (none, c :: cs ++ ')' :: tail) := hother hc _
        rw [hother hc]
        exact .inl hlonger

/-! ## Escapes -/

/-- The escapes that take no more than their letter. -/
theorem readEscape_of_plain {c : Char} (h : c ∉ ['x', 'u', 'U', 'p', 'P', 'b']) :
    ∃ o : Option Atom, ∀ cs, readEscape flags (c :: cs) = o.map (·, cs) := by
  refine ⟨(readEscape flags [c]).map Prod.fst, fun cs => ?_⟩
  simp only [readEscape]
  split <;> first | exact absurd (by decide) h | rfl | (split_ifs <;> rfl)

/-- An escape at the end of a text that is left to be read as a repetition. -/
def LateLook (spaced : Bool) : LateEnd Atom := fun tail a rest =>
  (∃ l, a = .look l) ∧ Stuck spaced tail rest

theorem readEscape_b :
    (fun cs => readEscape flags ('b' :: cs)) = made some
      (fun o => .look (o.getD (Look.words (isWord flags.unicode) fun before after =>
        before != after))) (readWordBrace flags) := by
  funext cs
  simp only [readEscape, made]
  cases readWordBrace flags cs with
  | none => rfl
  | some p =>
    obtain ⟨o, rest⟩ := p
    cases o <;> rfl

/-- **An escape is read locally.** -/
theorem local_readEscape : Local (LateLook flags.spaced) (readEscape flags) := by
  have hnever {f : Reader Atom} (hf : Local Never f) : Local (LateLook flags.spaced) f :=
    hf.mono fun _ _ _ h => h.elim
  refine .of_cons rfl fun c => ?_
  by_cases hplain : c ∈ ['x', 'u', 'U', 'p', 'P', 'b']
  · simp only [List.mem_cons, List.not_mem_nil, or_false] at hplain
    rcases hplain with rfl | rfl | rfl | rfl | rfl | rfl
    · exact hnever (local_readHexEscape 'x')
    · exact hnever (local_readHexEscape 'u')
    · exact hnever (local_readHexEscape 'U')
    · exact hnever (local_readProperty false)
    · exact hnever (local_readProperty true)
    · rw [readEscape_b]
      exact local_readWordBrace.made fun tail o l rest ho _ => .inr ⟨⟨_, rfl⟩, ho.2⟩
  · obtain ⟨o, ho⟩ := @readEscape_of_plain flags c hplain
    rw [funext ho]
    cases o with
    | none => exact .fail
    | some a => exact .take_nothing a

end Formula.Pattern
