import Formula.Proofs.Pattern.Escapes

/-!
# Proofs/Pattern/Classes — classes of characters are read locally

A class goes on to its closing bracket.  So the readers of its parts may come to the closing
parenthesis (`AtClosing`), but a class that is not closed before it takes the parenthesis in.
-/

namespace Formula.Pattern

variable {spaced : Bool} {flags : Flags}

open Text (isBlank)

/-! ## The beginning of a class -/

theorem readHyphens_succ (fuel : Nat) (u : ClassUnion) :
    readHyphens spaced (fuel + 1) u =
      after '-' (fun cs => readHyphens spaced fuel (u.add ⟨.char '-', 0⟩) (skipSpaced spaced cs))
        (before u) := by
  funext cs
  cases cs with
  | nil => rfl
  | cons c cs =>
    by_cases hc : c = '-'
    · subst hc
      rfl
    · rw [after_of_ne hc, readHyphens]
      · rfl
      · exact fun rest h => hc (List.cons.inj h).1
      · exact List.cons_ne_nil c cs

theorem local_readHyphens (fuel : Nat) (u : ClassUnion) :
    Local AtClosing (readHyphens spaced fuel u) := by
  induction fuel generalizing u with
  | zero => exact .fail
  | succ fuel ih =>
    rw [readHyphens_succ]
    exact .after (by decide) (ih _).skip (.before u)

theorem readHyphens_eq_of_lt {k l : Nat} {u : ClassUnion} {cs : List Char} (hk : cs.length < k)
    (hl : cs.length < l) : readHyphens spaced k u cs = readHyphens spaced l u cs := by
  refine eq_of_fuel (f := readHyphens spaced) (fun k l u cs h => ?_) hk hl
  rw [readHyphens_succ, readHyphens_succ]
  refine after_congr ?_ rfl
  rintro rest rfl
  exact h _ _ (length_skipSpaced_lt spaced '-' rest)

/-- A sign for negation. -/
def readCaret (spaced : Bool) : Reader Bool :=
  after '^' (fun cs => some (true, skipSpaced spaced cs)) fun cs => some (false, cs)

/-- A closing bracket that stands for itself, being the first of a class. -/
def readFirst (spaced negated : Bool) (u : ClassUnion) : Reader (Bool × ClassUnion) :=
  if u.count = 0 then
    after ']' (fun cs => before (negated, u.add ⟨.char ']', 0⟩) (skipSpaced spaced cs))
      fun cs => some ((negated, u), cs)
  else fun cs => some ((negated, u), cs)

/-- The beginning of a class. -/
def readStart (spaced : Bool) : Reader (Bool × ClassUnion) :=
  andThen (fun cs => readCaret spaced (skipSpaced spaced cs)) fun negated =>
    andThen (fun cs => readHyphens spaced (cs.length + 1) {} cs) fun u => readFirst spaced negated u

theorem local_readFirst (negated : Bool) (u : ClassUnion) :
    Local AtClosing (readFirst spaced negated u) := by
  rw [readFirst]
  split_ifs
  · exact .after (by decide) (Local.before _).skip (.take_nothing _)
  · exact .take_nothing _

theorem local_readStart : Local AtClosing (readStart spaced) := by
  have hcaret : Local Never (readCaret spaced) :=
    .after (by decide) (Local.take_nothing true).skip (.take_nothing false)
  have hhyphens : Local AtClosing fun cs => readHyphens spaced (cs.length + 1) {} cs :=
    .of_fuel (fun fuel => local_readHyphens fuel {}) fun _ _ h =>
      readHyphens_eq_of_lt h (Nat.lt_succ_self _)
  exact hcaret.skip.andThen (fun negated => hhyphens.andThen_atClosing (local_readFirst negated))
    fun _ _ _ _ _ h => h.elim

/-- The beginning of a class, after its sign for negation. -/
def openUnion (spaced negated : Bool) (cs : List Char) :
    Option (Bool × ClassUnion × List Char) := do
  let (u, cs) ← readHyphens spaced (cs.length + 1) {} cs
  match cs with
  | ']' :: rest =>
    if u.count = 0 then
      let rest := skipSpaced spaced rest
      if rest.isEmpty then none else some (negated, u.add ⟨.char ']', 0⟩, rest)
    else some (negated, u, cs)
  | _ => some (negated, u, cs)

theorem readOpening_eq_openUnion (cs : List Char) :
    readOpening spaced cs
      = (readCaret spaced (skipSpaced spaced cs)).bind fun p => openUnion spaced p.1 p.2 := by
  rw [readOpening, readCaret]
  generalize skipSpaced spaced cs = cs
  rcases cs with _ | ⟨c, cs⟩
  · rfl
  · by_cases hc : c = '^'
    · subst hc
      rfl
    · rw [after_of_ne hc]
      split
      next negated rest hrest =>
        split at hrest
        · next h => exact absurd (List.cons.inj h).1 hc
        · cases hrest
          rfl

theorem openUnion_eq (negated : Bool) (cs : List Char) :
    openUnion spaced negated cs =
      (andThen (fun cs => readHyphens spaced (cs.length + 1) {} cs)
        (fun u => readFirst spaced negated u) cs).map fun p => (p.1.1, p.1.2, p.2) := by
  rw [openUnion, andThen, Option.map_bind]
  refine congrArg (Option.bind _) (funext fun p => ?_)
  obtain ⟨u, rest⟩ := p
  rw [Function.comp_apply, readFirst]
  dsimp only
  rcases rest with _ | ⟨c, rest⟩
  · split_ifs <;> rfl
  · by_cases hc : c = ']'
    · subst hc
      split_ifs with hu
      · simp only [after_self]
        cases skipSpaced spaced rest <;> rfl
      · rfl
    · split
      · next h => exact absurd (List.cons.inj h).1 hc
      · split_ifs
        · rw [after_of_ne hc]
          rfl
        · rfl

theorem readOpening_eq (cs : List Char) :
    readOpening spaced cs = (readStart spaced cs).map fun p => (p.1.1, p.1.2, p.2) := by
  rw [readOpening_eq_openUnion, readStart, andThen, Option.map_bind]
  exact congrArg (Option.bind _) (funext fun p => openUnion_eq p.1 p.2)

/-! ## Parts of classes -/

/-- The rest of a named ASCII class, from its name on. -/
def readAsciiName (flags : Flags) (negated : Bool) : Reader (Option CharSet) := fun cs =>
  match cs.dropWhile (· != ':'), asciiSet? (String.ofList (cs.takeWhile (· != ':'))) with
  | ':' :: ']' :: rest, some s => some (foldAndNegate flags negated s, rest)
  | _, _ => none

theorem readAsciiClass_eq : readAsciiClass flags =
    after ':' (after '^' (readAsciiName flags true) (readAsciiName flags false)) fun _ => none := by
  funext cs
  cases cs with
  | nil => rfl
  | cons c cs =>
    by_cases hc : c = ':'
    · subst hc
      rw [after_self]
      cases cs with
      | nil => rfl
      | cons d cs =>
        by_cases hd : d = '^'
        · subst hd
          rfl
        · rw [after_of_ne hd, readAsciiClass]
          · rfl
          · exact fun rest h => hd (List.cons.inj h).1
    · rw [after_of_ne hc, readAsciiClass]
      exact fun rest h => hc (List.cons.inj h).1

/-- No named class has a parenthesis in its name. -/
theorem asciiSet?_eq_none {name : List Char} (h : ')' ∈ name) :
    asciiSet? (String.ofList name) = none := by
  rw [← @String.toList_ofList name] at h
  generalize String.ofList name = text at h ⊢
  unfold asciiSet?
  split <;> first | rfl | exact absurd h (by decide)

theorem readAsciiName_append (negated : Bool) (cs tail : List Char) :
    readAsciiName flags negated (cs ++ ')' :: tail) =
      (readAsciiName flags negated cs).map (Prod.map id (· ++ ')' :: tail)) := by
  rw [readAsciiName, readAsciiName]
  cases hdrop : cs.dropWhile (· != ':') with
  | nil =>
    have hname : ')' ∈ (cs ++ ')' :: tail).takeWhile (· != ':') := by
      rw [List.takeWhile_append_of_pos fun c hc => List.dropWhile_eq_nil_iff.mp hdrop c hc,
        List.takeWhile_cons_of_pos (by decide)]
      exact List.mem_append_right _ (List.mem_cons_self ..)
    rw [asciiSet?_eq_none hname]
    split
    · next h => cases h
    · rfl
  | cons c rest =>
    have hne : cs.dropWhile (· != ':') ≠ [] := by
      rw [hdrop]
      exact List.cons_ne_nil c rest
    obtain ⟨hname, hclosing⟩ := while_append_of_ne_nil hne (')' :: tail)
    rw [hclosing, hname, hdrop, List.cons_append]
    generalize asciiSet? _ = o
    cases rest with
    | nil =>
      split
      · next h => cases h
      · split
        · next hcs _ => cases hcs
        · rfl
    | cons d rest =>
      split
      · next h =>
        cases h
        rfl
      · next h =>
        split
        · next hcs => exact (h _ _ (congrArg (· ++ ')' :: tail) hcs) rfl).elim
        · rfl

/-- **A named class is read the same**, or is none, with the closing behind it. -/
theorem readAsciiClass_append (cs tail : List Char) :
    readAsciiClass flags (cs ++ ')' :: tail) =
      (readAsciiClass flags cs).map (Prod.map id (· ++ ')' :: tail)) := by
  rw [readAsciiClass_eq]
  rcases cs with _ | ⟨c, _ | ⟨d, cs⟩⟩
  · rfl
  · by_cases hc : c = ':'
    · subst hc
      exact readAsciiName_append false [] tail
    · rw [List.cons_append, after_of_ne hc, after_of_ne hc]
      rfl
  · by_cases hc : c = ':'
    · subst hc
      rw [List.cons_append, after_self, after_self]
      by_cases hd : d = '^'
      · subst hd
        exact readAsciiName_append true cs tail
      · rw [List.cons_append, after_of_ne hd, after_of_ne hd]
        exact readAsciiName_append false (d :: cs) tail
    · rw [List.cons_append, after_of_ne hc, after_of_ne hc]
      rfl

theorem shortens_readAsciiClass : Shortens (readAsciiClass flags) := by
  have hname (negated : Bool) : Shortens (readAsciiName flags negated) := by
    intro cs x rest h
    have hdrop := List.dropWhile_suffix (l := cs) (· != ':')
    rw [readAsciiName] at h
    split at h
    · next hcs _ =>
      cases h
      rw [hcs] at hdrop
      exact (List.suffix_cons _ _).trans ((List.suffix_cons _ _).trans hdrop)
    · cases h
  rw [readAsciiClass_eq]
  exact ((hname true).after (hname false)).after fun _ _ _ h => by cases h

theorem local_readClassAtom_cons (c : Char) :
    Local (LateLook flags.spaced) fun cs => readClassAtom flags (c :: cs) := by
  by_cases hc : c = '\\'
  · subst hc
    exact local_readEscape
  · simp only [readClassAtom]
    exact .take_nothing (Atom.literal c false)

theorem local_readClassAtom : Local (LateLook flags.spaced) (readClassAtom flags) :=
  .of_cons rfl local_readClassAtom_cons

/-- The set of a range of characters. -/
def between? (flags : Flags) : Atom → Atom → Option CharSet
  | .literal a _, .literal b _ => do
    let a ← classChar? flags a
    let b ← classChar? flags b
    if a ≤ b then some (.between a b) else none
  | _, _ => none

/-- The set of a character or an escape. -/
def single? (flags : Flags) : Atom → Option CharSet
  | .literal c _ => (classChar? flags c).map .char
  | .set s => some s
  | .look _ => none

/-- The rest of a range of characters, after its hyphen. -/
def readUpper (flags : Flags) (first : Atom) : Reader CharSet :=
  made (between? flags first) id (readClassAtom flags)

theorem local_readUpper (first : Atom) : Local Never (readUpper flags first) := by
  refine local_readClassAtom.made fun tail second s rest hlate hs => ?_
  obtain ⟨⟨l, rfl⟩, -⟩ := hlate
  cases first <;> cases hs

/-- The rest of an item, after its first character or escape and what does not count. -/
def readItemRest (flags : Flags) (first : Atom) : Reader CharSet
  | [] => none
  | c :: cs =>
    if c = '-' ∧ ¬ (peekSpaced flags.spaced cs = some ']' ∨ peekSpaced flags.spaced cs = some '-')
    then readUpper flags first (skipSpaced flags.spaced cs)
    else (single? flags first).map (·, c :: cs)

theorem readClassItem_eq :
    readClassItem flags = andThen (readClassAtom flags) fun first cs =>
      readItemRest flags first (skipSpaced flags.spaced cs) := by
  funext cs
  rw [readClassItem, andThen]
  refine congrArg (Option.bind (readClassAtom flags cs)) (funext fun p => ?_)
  obtain ⟨first, rest⟩ := p
  have hsingle (rest : List Char) : (match first with
      | .literal c _ => (classChar? flags c).map fun c => (.char c, rest)
      | .set s => some (s, rest)
      | .look _ => none) = (single? flags first).map (·, rest) := by
    cases first with
    | literal c byte => rw [single?, Option.map_map]; rfl
    | set s => rfl
    | look l => rfl
  dsimp only
  cases skipSpaced flags.spaced rest with
  | nil => rfl
  | cons c cs =>
    by_cases hc : c = '-'
    · subst hc
      simp only [readItemRest, true_and, Bool.or_eq_true, beq_iff_eq, ite_not]
      split_ifs with hpeek
      · exact hsingle _
      · rw [readUpper, made]
        cases skipSpaced flags.spaced cs with
        | nil => rfl
        | cons d more =>
          refine congrArg (Option.bind _) (funext fun p => ?_)
          obtain ⟨second, rest⟩ := p
          cases first with
          | literal a _ =>
            cases second with
            | literal b _ =>
              dsimp only [between?]
              rcases classChar? flags a with _ | a
              · rfl
              · rcases classChar? flags b with _ | b
                · rfl
                · by_cases hle : a ≤ b
                  · simp [hle]
                  · simp [hle]
            | set s => rfl
            | look l => rfl
          | set s => rfl
          | look l => rfl
    · rw [readItemRest, if_neg fun h => hc h.1, ← hsingle]
      split
      · next h => cases h
      · next h => exact absurd (List.cons.inj h).1 hc
      · rfl

theorem peekSpaced_go_append (seen : Bool) (cs tail : List Char) :
    peekSpaced.go seen (cs ++ ')' :: tail) = (peekSpaced.go seen cs).or (some ')') := by
  induction cs generalizing seen with
  | nil => cases seen <;> rfl
  | cons c cs ih =>
    rw [List.cons_append, peekSpaced.go, peekSpaced.go]
    split_ifs
    · exact ih seen
    · exact ih true
    · rfl

/-- Whether a hyphen stands for itself does not hang on the closing. -/
theorem peekSpaced_append_eq_iff {d : Char} (hblank : ¬ isBlank d) (hsign : d ≠ '#')
    (hd : d ≠ ')') (cs tail : List Char) :
    peekSpaced spaced (cs ++ ')' :: tail) = some d ↔ peekSpaced spaced cs = some d := by
  have hne : some ')' ≠ some d := fun h => hd (Option.some.inj h).symm
  rw [peekSpaced, peekSpaced]
  cases spaced with
  | false =>
    cases cs with
    | nil => exact ⟨fun h => absurd h hne, fun h => by cases h⟩
    | cons c cs => exact Iff.rfl
  | true =>
    rw [if_pos rfl, if_pos rfl, peekSpaced_go_append]
    cases hgo : peekSpaced.go false cs with
    | some c => exact Iff.rfl
    | none =>
      refine ⟨fun h => absurd h hne, fun h => ?_⟩
      cases cs with
      | nil => cases h
      | cons c cs =>
        cases h
        rw [peekSpaced.go, if_neg hblank, if_neg (by simp [hsign])] at hgo
        cases hgo

theorem local_readItemRest (first : Atom) : Local AtClosing (readItemRest flags first) := by
  have hpeek (cs tail : List Char) :
      (peekSpaced flags.spaced (cs ++ ')' :: tail) = some ']' ∨
        peekSpaced flags.spaced (cs ++ ')' :: tail) = some '-') ↔
      (peekSpaced flags.spaced cs = some ']' ∨ peekSpaced flags.spaced cs = some '-') :=
    or_congr (peekSpaced_append_eq_iff (by decide) (by decide) (by decide) cs tail)
      (peekSpaced_append_eq_iff (by decide) (by decide) (by decide) cs tail)
  have hupper : Local AtClosing fun cs => readUpper flags first (skipSpaced flags.spaced cs) :=
    ((local_readUpper first).mono fun _ _ _ h => h.elim).skip
  refine ⟨fun cs s rest h => ?_, fun cs => ?_⟩
  · cases cs with
    | nil => cases h
    | cons c cs =>
      rw [readItemRest] at h
      split_ifs at h
      · exact (hupper.shortens h).trans (List.suffix_cons c cs)
      · obtain ⟨s, -, hs⟩ := Option.map_eq_some_iff.mp h
        cases hs
        exact List.suffix_rfl
  · cases cs with
    | nil =>
      refine .inr ⟨fun tail s rest h => .inr ?_, fun s rest h => by cases h⟩
      obtain ⟨s, -, hs⟩ := Option.map_eq_some_iff.mp h
      cases hs
      rfl
    | cons c cs =>
      simp only [List.cons_append, readItemRest, hpeek]
      split_ifs
      · exact hupper.follows cs
      · refine .inl fun tail => ?_
        rw [Option.map_map]
        rfl

/-- **An item of a class is read locally**, or up to the closing. -/
theorem local_readClassItem : Local AtClosing (readClassItem flags) := by
  have hlook (l : Look) (cs : List Char) (s : CharSet) (rest : List Char) :
      readItemRest flags (.look l) cs ≠ some (s, rest) := by
    cases cs with
    | nil => exact fun h => by cases h
    | cons c cs =>
      intro h
      rw [readItemRest] at h
      split_ifs at h
      · obtain ⟨p, -, hp⟩ := Option.bind_eq_some_iff.mp h
        cases hp
      · cases h
  rw [readClassItem_eq]
  refine local_readClassAtom.andThen (fun first => (local_readItemRest first).skip) ?_
  rintro tail _ rest s out ⟨⟨l, rfl⟩, -⟩ h
  exact absurd h (hlook l _ s out)

theorem length_lt_of_readClassItem {cs rest : List Char} {s : CharSet}
    (h : readClassItem flags cs = some (s, rest)) : rest.length < cs.length := by
  cases cs with
  | nil => cases h
  | cons c cs =>
    have hatom : Shortens fun cs => readClassAtom flags (c :: cs) :=
      (local_readClassAtom_cons c).shortens
    rw [readClassItem_eq] at h
    have hsuffix := hatom.andThen (fun first => (local_readItemRest first).skip.shortens) h
    exact Nat.lt_succ_of_le hsuffix.length_le

/-! ## Classes -/

/-- What follows a closing bracket in a class, which `read` reads. -/
def closeClass (flags : Flags) (read : List ClassFrame → ClassUnion → Reader ClassNode)
    (frames : List ClassFrame) (u : ClassUnion) : Reader ClassNode :=
  match (closeOperand flags u.toNode frames).2 with
  | .opened outer negated :: frames' =>
    match foldAndNegate flags negated (closeOperand flags u.toNode frames).1.set with
    | some s =>
      let node : ClassNode := ⟨s, (closeOperand flags u.toNode frames).1.depth + 1⟩
      if frames'.isEmpty then fun cs => some (node, cs) else read frames' (outer.add node)
    | none => fun _ => none
  | _ => fun _ => none

/-- What follows an opening bracket in a class. -/
def openClass (flags : Flags) (read : List ClassFrame → ClassUnion → Reader ClassNode)
    (frames : List ClassFrame) (u : ClassUnion) : Reader ClassNode := fun cs =>
  match readAsciiClass flags cs with
  | some (some s, rest) => read frames (u.add ⟨s, 0⟩) rest
  | some (none, _) => none
  | none => andThen (readStart flags.spaced) (fun p => read (.opened u p.1 :: frames) p.2) cs

/-- What follows an operator in a class. -/
def operate (flags : Flags) (read : List ClassFrame → ClassUnion → Reader ClassNode)
    (frames : List ClassFrame) (u : ClassUnion) (op : ClassOp) : Reader ClassNode :=
  read (.operand op (closeOperand flags u.toNode frames).1 ::
    (closeOperand flags u.toNode frames).2) {}

/-- One element of a class, after which `read` goes on. -/
def classStep (flags : Flags) (read : List ClassFrame → ClassUnion → Reader ClassNode)
    (frames : List ClassFrame) (u : ClassUnion) : Reader ClassNode :=
  after '[' (openClass flags read frames u) <| after ']' (closeClass flags read frames u) <|
    afterTwo '&' (operate flags read frames u .inter) <|
    afterTwo '-' (operate flags read frames u .diff) <|
    afterTwo '~' (operate flags read frames u .symmDiff) <|
    andThen (readClassItem flags) fun s => read frames (u.add ⟨s, 0⟩)

theorem readClass_succ (fuel : Nat) (frames : List ClassFrame) (u : ClassUnion) :
    readClass flags (fuel + 1) frames u = fun cs =>
      classStep flags (readClass flags fuel) frames u (skipSpaced flags.spaced cs) := by
  funext cs
  rw [readClass]
  generalize skipSpaced flags.spaced cs = cs
  dsimp only
  rw [classStep]
  split
  · rfl
  · next rest =>
    rw [after_self, openClass]
    rcases readAsciiClass flags rest with _ | ⟨_ | s, more⟩
    · dsimp only
      rw [readOpening_eq, andThen]
      cases readStart flags.spaced rest <;> rfl
    · rfl
    · rfl
  · rw [after_of_ne (by decide), after_self, closeClass]
    rcases (closeOperand flags u.toNode frames).2 with _ | ⟨⟨outer, negated⟩ | ⟨op, left⟩, frames'⟩
    · rfl
    · dsimp only
      cases foldAndNegate flags negated (closeOperand flags u.toNode frames).1.set with
      | none => rfl
      | some s => cases frames' <;> rfl
    · rfl
  · rw [after_of_ne (by decide), after_of_ne (by decide), afterTwo_cons, if_pos ⟨rfl, rfl⟩]
    rfl
  · rw [after_of_ne (by decide), after_of_ne (by decide), afterTwo_cons, if_neg (by decide),
      afterTwo_cons, if_pos ⟨rfl, rfl⟩]
    rfl
  · rw [after_of_ne (by decide), after_of_ne (by decide), afterTwo_cons, if_neg (by decide),
      afterTwo_cons, if_neg (by decide), afterTwo_cons, if_pos ⟨rfl, rfl⟩]
    rfl
  · next hopen hclose hinter hdiff hsymm =>
    rw [after_of_forall_ne hopen, after_of_forall_ne hclose, afterTwo_of_forall_ne hinter,
      afterTwo_of_forall_ne hdiff, afterTwo_of_forall_ne hsymm, andThen]
    cases readClassItem flags _ <;> rfl

section Step

variable {read : List ClassFrame → ClassUnion → Reader ClassNode} {frames : List ClassFrame}
  {u : ClassUnion}

theorem local_openClass (hread : ∀ frames u, Local Never (read frames u))
    (htakes : ∀ frames u, Takes (read frames u)) : Local Never (openClass flags read frames u) := by
  have hstart : Local Never (andThen (readStart flags.spaced) fun p =>
      read (.opened u p.1 :: frames) p.2) := by
    refine local_readStart.andThen (fun p => hread _ _) ?_
    rintro tail p rest y out rfl h
    exact .inl ((htakes _ _).suffix (hread _ _).shortens h)
  refine ⟨fun cs n rest h => ?_, fun cs => ?_⟩
  · rw [openClass] at h
    split at h
    · next hascii => exact ((hread _ _).shortens h).trans (shortens_readAsciiClass hascii)
    · cases h
    · exact hstart.shortens h
  · simp only [openClass, readAsciiClass_append]
    rcases readAsciiClass flags cs with _ | ⟨_ | s, rest⟩
    · exact hstart.follows cs
    · exact .inl fun _ => rfl
    · exact (hread _ _).follows rest

theorem local_closeClass (hread : ∀ frames u, Local Never (read frames u)) :
    Local Never (closeClass flags read frames u) := by
  rw [closeClass]
  split
  · split
    · dsimp only
      split_ifs
      · exact .take_nothing _
      · exact hread _ _
    · exact .fail
  · exact .fail

theorem local_classStep (hread : ∀ frames u, Local Never (read frames u))
    (htakes : ∀ frames u, Takes (read frames u)) : Local Never (classStep flags read frames u) := by
  have hitem : Local Never (andThen (readClassItem flags) fun s => read frames (u.add ⟨s, 0⟩)) := by
    refine local_readClassItem.andThen (fun s => hread _ _) ?_
    rintro tail s rest y out rfl h
    exact .inl ((htakes _ _).suffix (hread _ _).shortens h)
  exact .after (by decide) (local_openClass hread htakes) <|
    .after (by decide) (local_closeClass hread) <| .afterTwo (by decide) (hread _ _) <|
    .afterTwo (by decide) (hread _ _) <| .afterTwo (by decide) (hread _ _) hitem

/-- An element of a class takes something. -/
theorem takes_classStep (hread : ∀ frames u, Local Never (read frames u))
    (htakes : ∀ frames u, Takes (read frames u)) : Takes (classStep flags read frames u) := by
  have hitem : Takes (andThen (readClassItem flags) fun s => read frames (u.add ⟨s, 0⟩)) := by
    intro cs n rest h
    obtain ⟨p, hp, hout⟩ := Option.bind_eq_some_iff.mp h
    exact ((hread _ _).shortens hout).length_le.trans_lt (length_lt_of_readClassItem hp)
  exact .after (local_openClass hread htakes).shortens <|
    .after (local_closeClass hread).shortens <| .afterTwo (hread _ _).shortens <|
    .afterTwo (hread _ _).shortens <| .afterTwo (hread _ _).shortens hitem

/-- What follows in a class is read on shorter texts. -/
theorem classStep_congr {read' : List ClassFrame → ClassUnion → Reader ClassNode} {cs : List Char}
    (h : ∀ frames u rest, rest.length < cs.length → read frames u rest = read' frames u rest) :
    classStep flags read frames u cs = classStep flags read' frames u cs := by
  refine after_congr ?_ (after_congr ?_ (afterTwo_congr ?_ (afterTwo_congr ?_
    (afterTwo_congr ?_ (andThen_congr ?_)))))
  · rintro rest rfl
    rw [openClass, openClass]
    split
    · next hascii =>
      exact h _ _ _ (Nat.lt_succ_of_le (shortens_readAsciiClass hascii).length_le)
    · rfl
    · exact andThen_congr fun p out hp =>
        h _ _ _ (Nat.lt_succ_of_le (local_readStart.shortens hp).length_le)
  · rintro rest rfl
    rw [closeClass, closeClass]
    rcases (closeOperand flags u.toNode frames).2 with _ | ⟨⟨outer, negated⟩ | ⟨op, left⟩, frames'⟩
    · rfl
    · dsimp only
      cases foldAndNegate flags negated (closeOperand flags u.toNode frames).1.set with
      | none => rfl
      | some s =>
        cases frames' with
        | nil => rfl
        | cons frame frames => exact h _ _ _ (Nat.lt_succ_self _)
    · rfl
  · rintro rest rfl
    exact h _ _ _ (Nat.lt_succ_of_lt (Nat.lt_succ_self _))
  · rintro rest rfl
    exact h _ _ _ (Nat.lt_succ_of_lt (Nat.lt_succ_self _))
  · rintro rest rfl
    exact h _ _ _ (Nat.lt_succ_of_lt (Nat.lt_succ_self _))
  · exact fun s rest hs => h _ _ _ (length_lt_of_readClassItem hs)

end Step

theorem local_and_takes_readClass (fuel : Nat) (frames : List ClassFrame) (u : ClassUnion) :
    Local Never (readClass flags fuel frames u) ∧ Takes (readClass flags fuel frames u) := by
  induction fuel generalizing frames u with
  | zero => exact ⟨.fail, fun _ _ _ h => by cases h⟩
  | succ fuel ih =>
    have hlocal := fun frames u => (ih frames u).1
    have htakes := fun frames u => (ih frames u).2
    rw [readClass_succ]
    exact ⟨(local_classStep hlocal htakes).skip, fun cs n rest h =>
      (takes_classStep hlocal htakes h).trans_le (length_skipSpaced_le flags.spaced cs)⟩

theorem readClass_eq_of_lt {k l : Nat} {frames : List ClassFrame} {u : ClassUnion}
    {cs : List Char} (hk : cs.length < k) (hl : cs.length < l) :
    readClass flags k frames u cs = readClass flags l frames u cs := by
  refine eq_of_fuel (f := fun k s => readClass flags k s.1 s.2) (s := (frames, u))
    (fun k l s cs h => ?_) hk hl
  rw [readClass_succ, readClass_succ]
  exact classStep_congr fun frames u rest hrest =>
    h (frames, u) rest (hrest.trans_le (length_skipSpaced_le flags.spaced cs))

/-- **A class is read locally.** -/
theorem local_readBracket : Local Never (readBracket flags) := by
  have heq : readBracket flags = andThen (readStart flags.spaced) fun p cs =>
      readClass flags (cs.length + 1) [.opened {} p.1] p.2 cs := by
    funext cs
    rw [readBracket, readOpening_eq, andThen]
    cases readStart flags.spaced cs <;> rfl
  rw [heq]
  refine local_readStart.andThen (fun p => ?_) ?_
  · exact .of_fuel (fun fuel => (local_and_takes_readClass fuel _ _).1) fun _ _ h =>
      readClass_eq_of_lt h (Nat.lt_succ_self _)
  · rintro tail p rest n out rfl h
    obtain ⟨hlocal, htakes⟩ := local_and_takes_readClass _ _ _
    exact .inl (htakes.suffix hlocal.shortens h)

end Formula.Pattern
