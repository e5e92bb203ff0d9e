import Formula.Pattern.Reader
import Mathlib.Data.List.Basic

/-!
# Proofs/Pattern/Locality — reading a pattern with a closing parenthesis behind it

A **reader** takes something from the beginning of a text and leaves the rest.  What it takes does
not hang on a closing parenthesis that is put behind the text, nor on the `tail` that follows this,
with two exceptions: the text may end inside of what is read, or inside a comment.  `Local Late f`
says so of the reader `f`: with a parenthesis and any tail behind the text it either reads the same,
or it reads beyond the parenthesis.  `Late` names what else may happen at the end of the text.

Locality is kept when readers are put together (`Local.andThen`, `Local.made`, `Local.of_cons`,
`Local.after`, `Local.skip`, `Local.of_fuel`), so that it is shown for a reader along its
definition.
-/

namespace Formula.Pattern

/-- **A reader**: what stands at the beginning of a text, and the rest of the text. -/
abbrev Reader (α : Type) := List Char → Option (α × List Char)

variable {α β γ : Type} {cs : List Char} {cs' : List Char → List Char} {f : Reader α}

/-- What a reader leaves is the end of the text. -/
def Shortens (f : Reader α) : Prop := ∀ ⦃cs x rest⦄, f cs = some (x, rest) → rest <:+ cs

/-- A reader takes something wherever it reads. -/
def Takes (f : Reader α) : Prop := ∀ ⦃cs x rest⦄, f cs = some (x, rest) → rest.length < cs.length

/-- What is read of a text with a closing parenthesis and a tail behind it, for each tail. -/
abbrev Longer (α : Type) := List Char → Option (α × List Char)

/-- What else may happen at the end of a text, for each tail. -/
abbrev LateEnd (α : Type) := List Char → α → List Char → Prop

/-- **The reading goes beyond the end of a text**: `o` is what is read of the text, and `o'` what
is read with the closing behind it.  If the text alone can be read, then nothing is left of it, and
a comment takes in the parenthesis, too. -/
structure Overruns (Late : LateEnd α) (o : Option (α × List Char)) (o' : Longer α) : Prop where
  beyond : ∀ tail x rest, o' tail = some (x, rest) → rest <:+ tail ∨ Late tail x rest
  ended : ∀ x rest, o = some (x, rest) → rest = [] ∧ o' [] = some (x, [])

/-- **What is read of a text, and with the closing behind it**: the same whatever the tail, or the
reading goes beyond the end of the text. -/
def Extends (Late : LateEnd α) (o : Option (α × List Char)) (o' : Longer α) : Prop :=
  (∀ tail, o' tail = o.map (Prod.map id (· ++ ')' :: tail))) ∨ Overruns Late o o'

/-- What is left of a text, and what is left with the closing behind it, unless the text ended in a
comment. -/
def Follows (cs : List Char) (cs' : List Char → List Char) : Prop :=
  (∀ tail, cs' tail = cs ++ ')' :: tail) ∨ cs = [] ∧ ∀ tail, cs' tail <:+ tail

/-- **A local reader** reads the same with the closing behind a text, or reads beyond its end. -/
structure Local (Late : LateEnd α) (f : Reader α) : Prop where
  shortens : Shortens f
  follows : ∀ cs, Extends Late (f cs) fun tail => f (cs ++ ')' :: tail)

/-- Nothing else happens at the end. -/
def Never : LateEnd α := fun _ _ _ => False

/-- The reading may come to the closing where it needs more of the text. -/
def AtClosing : LateEnd α := fun tail _ rest => rest = ')' :: tail

/-! ## Readers put together -/

/-- Read with `f`, and then with what its result asks for. -/
def andThen (f : Reader α) (g : α → Reader β) : Reader β := fun cs => (f cs).bind fun p => g p.1 p.2

/-- Read with `f` and make something of the result, where `φ` does not refuse it. -/
def made (φ : α → Option γ) (ψ : γ → β) (f : Reader α) : Reader β := fun cs =>
  (f cs).bind fun p => (φ p.1).bind fun y => some (ψ y, p.2)

/-- Read with `f` after the character `d`, and with `f'` where another one stands. -/
def after (d : Char) (f f' : Reader α) : Reader α
  | [] => f' []
  | c :: cs => if c = d then f cs else f' (c :: cs)

/-- Read with `f` after the character `d` twice, and with `f'` where something else stands. -/
def afterTwo (d : Char) (f f' : Reader α) : Reader α
  | a :: b :: cs => if a = d ∧ b = d then f cs else f' (a :: b :: cs)
  | cs => f' cs

/-- Take nothing, where the text is not at its end. -/
def before (x : α) : Reader α
  | [] => none
  | c :: cs => some (x, c :: cs)

@[simp] theorem after_self (d : Char) (f f' : Reader α) (cs : List Char) :
    after d f f' (d :: cs) = f cs := if_pos rfl

theorem after_of_ne {c d : Char} (h : c ≠ d) (f f' : Reader α) (cs : List Char) :
    after d f f' (c :: cs) = f' (c :: cs) := if_neg h

theorem after_of_forall_ne {d : Char} {cs : List Char} (h : ∀ rest, cs ≠ d :: rest)
    (f f' : Reader α) : after d f f' cs = f' cs := by
  cases cs with
  | nil => rfl
  | cons c cs => exact after_of_ne (fun hc => h cs (by rw [hc])) f f' cs

theorem afterTwo_of_forall_ne {d : Char} {cs : List Char} (h : ∀ rest, cs ≠ d :: d :: rest)
    (f f' : Reader α) : afterTwo d f f' cs = f' cs := by
  rcases cs with _ | ⟨a, _ | ⟨b, cs⟩⟩
  · rfl
  · rfl
  · exact if_neg fun hab => h cs (by rw [hab.1, hab.2])

theorem afterTwo_cons (a b d : Char) (f f' : Reader α) (cs : List Char) :
    afterTwo d f f' (a :: b :: cs) = if a = d ∧ b = d then f cs else f' (a :: b :: cs) := rfl

theorem after_congr {d : Char} {f f' g g' : Reader α} {cs : List Char}
    (hf : ∀ rest, cs = d :: rest → f rest = g rest) (hf' : f' cs = g' cs) :
    after d f f' cs = after d g g' cs := by
  cases cs with
  | nil => exact hf'
  | cons c cs =>
    by_cases hc : c = d
    · subst hc
      rw [after_self, after_self, hf cs rfl]
    · rw [after_of_ne hc, after_of_ne hc, hf']

theorem afterTwo_congr {d : Char} {f f' g g' : Reader α} {cs : List Char}
    (hf : ∀ rest, cs = d :: d :: rest → f rest = g rest) (hf' : f' cs = g' cs) :
    afterTwo d f f' cs = afterTwo d g g' cs := by
  rcases cs with _ | ⟨a, _ | ⟨b, cs⟩⟩
  · exact hf'
  · exact hf'
  · rw [afterTwo_cons, afterTwo_cons, hf']
    split_ifs with hab
    · rw [hf cs (by rw [hab.1, hab.2])]
    · rfl

theorem andThen_congr {f : Reader α} {g g' : α → Reader β} {cs : List Char}
    (h : ∀ x rest, f cs = some (x, rest) → g x rest = g' x rest) :
    andThen f g cs = andThen f g' cs := by
  rw [andThen, andThen]
  cases hf : f cs with
  | none => rfl
  | some p => exact h p.1 p.2 hf

section Combinators

variable {Late : LateEnd α} {Late' : LateEnd β} {g : α → Reader β}

theorem Shortens.eq_nil (hf : Shortens f) {x : α} {rest : List Char} (h : f [] = some (x, rest)) :
    rest = [] :=
  List.suffix_nil.mp (hf h)

theorem Shortens.after {d : Char} {f' : Reader α} (hf : Shortens f) (hf' : Shortens f') :
    Shortens (after d f f') := by
  intro cs x rest h
  cases cs with
  | nil => exact hf' h
  | cons c cs =>
    by_cases hc : c = d
    · subst hc
      rw [after_self] at h
      exact (hf h).trans (List.suffix_cons c cs)
    · rw [after_of_ne hc] at h
      exact hf' h

theorem Shortens.andThen (hf : Shortens f) (hg : ∀ x, Shortens (g x)) :
    Shortens (andThen f g) := by
  intro cs y out hy
  obtain ⟨p, hp, hout⟩ := Option.bind_eq_some_iff.mp hy
  exact (hg p.1 hout).trans (hf hp)

theorem Takes.after {d : Char} {f' : Reader α} (hf : Shortens f) (hf' : Takes f') :
    Takes (after d f f') := by
  intro cs x rest h
  cases cs with
  | nil => exact hf' h
  | cons c cs =>
    by_cases hc : c = d
    · subst hc
      rw [after_self] at h
      exact Nat.lt_succ_of_le (hf h).length_le
    · rw [after_of_ne hc] at h
      exact hf' h

theorem Takes.afterTwo {d : Char} {f' : Reader α} (hf : Shortens f) (hf' : Takes f') :
    Takes (afterTwo d f f') := by
  intro cs x rest h
  rcases cs with _ | ⟨a, _ | ⟨b, cs⟩⟩
  · exact hf' h
  · exact hf' h
  · rw [afterTwo_cons] at h
    split_ifs at h
    · exact Nat.lt_succ_of_lt (Nat.lt_succ_of_le (hf h).length_le)
    · exact hf' h

/-- What begins at the closing and takes something goes beyond it. -/
theorem Takes.suffix (hf : Takes f) (hshort : Shortens f) {tail rest : List Char} {x : α}
    (h : f (')' :: tail) = some (x, rest)) : rest <:+ tail := by
  refine (List.suffix_cons_iff.mp (hshort h)).resolve_left fun heq => ?_
  have hlt := hf h
  rw [heq] at hlt
  exact absurd hlt (Nat.lt_irrefl _)

theorem Overruns.mono {Late₂ : LateEnd α} {o : Option (α × List Char)} {o' : Longer α}
    (h : Overruns Late o o') (hlate : ∀ tail x rest, Late tail x rest → Late₂ tail x rest) :
    Overruns Late₂ o o' :=
  ⟨fun tail x rest hx => (h.beyond tail x rest hx).imp_right (hlate tail x rest), h.ended⟩

theorem Local.mono {Late₂ : LateEnd α} (hf : Local Late f)
    (hlate : ∀ tail x rest, Late tail x rest → Late₂ tail x rest) : Local Late₂ f :=
  ⟨hf.shortens, fun cs => (hf.follows cs).imp_right fun h => h.mono hlate⟩

/-- A local reader on what others have left. -/
theorem Local.extends_of_follows (hf : Local Late f) (h : Follows cs cs') :
    Extends Late (f cs) fun tail => f (cs' tail) := by
  rcases h with h | ⟨rfl, h⟩
  · simp only [h]
    exact hf.follows cs
  · refine .inr ⟨fun tail x rest hx => .inl ((hf.shortens hx).trans (h tail)),
      fun x rest hx => ?_⟩
    obtain rfl := hf.shortens.eq_nil hx
    rw [List.suffix_nil.mp (h [])]
    exact ⟨rfl, hx⟩

/-- **One reader after another**, where `Late` leads to nothing but `Late'`. -/
theorem Local.andThen (hf : Local Late f) (hg : ∀ x, Local Late' (g x))
    (hlate : ∀ tail x rest y out, Late tail x rest → g x rest = some (y, out) →
      out <:+ tail ∨ Late' tail y out) :
    Local Late' (andThen f g) := by
  refine ⟨hf.shortens.andThen fun x => (hg x).shortens, fun cs => ?_⟩
  simp only [Pattern.andThen]
  rcases hf.follows cs with h | h
  · simp only [h]
    cases f cs with
    | none => exact .inl fun _ => rfl
    | some p => exact (hg p.1).follows p.2
  · refine .inr ⟨fun tail y out hy => ?_, fun y out hy => ?_⟩
    · obtain ⟨p, hp, hout⟩ := Option.bind_eq_some_iff.mp hy
      rcases h.beyond tail p.1 p.2 hp with hsuffix | hp
      · exact .inl (((hg p.1).shortens hout).trans hsuffix)
      · exact hlate _ _ _ _ _ hp hout
    · obtain ⟨p, hp, hout⟩ := Option.bind_eq_some_iff.mp hy
      obtain ⟨hnil, hsame⟩ := h.ended p.1 p.2 hp
      rw [hnil] at hout
      obtain rfl := (hg p.1).shortens.eq_nil hout
      rw [hsame]
      exact ⟨rfl, hout⟩

/-- Where the first of two readers comes to the closing, the second goes on from there. -/
theorem Local.andThen_atClosing (hf : Local AtClosing f)
    (hg : ∀ x, Local AtClosing (g x)) : Local AtClosing (Pattern.andThen f g) := by
  refine hf.andThen hg fun tail x rest y out hrest h => ?_
  have hsuffix := (hg x).shortens h
  rw [hrest, List.suffix_cons_iff] at hsuffix
  exact hsuffix.symm

theorem Local.fail : Local Late fun _ => (none : Option (α × List Char)) := by
  refine ⟨fun cs x rest h => ?_, fun _ => .inl fun _ => rfl⟩
  cases h

/-- A reader that takes nothing. -/
theorem Local.take_nothing (x : α) : Local Late fun cs => some (x, cs) := by
  refine ⟨fun cs y rest h => ?_, fun cs => .inl fun _ => rfl⟩
  cases h
  exact List.suffix_rfl

theorem Local.made {φ : α → Option γ} {ψ : γ → β} (hf : Local Late f)
    (hlate : ∀ tail x y rest, Late tail x rest → φ x = some y →
      rest <:+ tail ∨ Late' tail (ψ y) rest) :
    Local Late' (made φ ψ f) := by
  have hmade (x : α) : Local Late' fun cs => (φ x).bind fun y => some (ψ y, cs) := by
    cases φ x with
    | none => exact .fail
    | some y => exact .take_nothing (ψ y)
  refine hf.andThen hmade fun tail x rest y out hx hy => ?_
  obtain ⟨z, hz, hout⟩ := Option.bind_eq_some_iff.mp hy
  cases hout
  exact hlate tail x z rest hx hz

/-- **A reader that decides on the first character** and needs one. -/
theorem Local.of_cons (hnil : f [] = none) (hcons : ∀ c, Local Late fun cs => f (c :: cs)) :
    Local Late f := by
  refine ⟨fun cs x rest h => ?_, fun cs => ?_⟩
  · cases cs with
    | nil => rw [hnil] at h; cases h
    | cons c cs => exact ((hcons c).shortens h).trans (List.suffix_cons c cs)
  · cases cs with
    | nil =>
      refine .inr ⟨fun tail x rest h => .inl ((hcons ')').shortens h), fun x rest h => ?_⟩
      rw [hnil] at h
      cases h
    | cons c cs => exact (hcons c).follows cs

/-- **A reader that goes another way after one character.** -/
theorem Local.after {d : Char} {f' : Reader α} (hd : d ≠ ')') (hf : Local Late f)
    (hf' : Local Late f') : Local Late (after d f f') := by
  refine ⟨hf.shortens.after hf'.shortens, fun cs => ?_⟩
  cases cs with
  | nil =>
    simp only [List.nil_append, after_of_ne hd.symm]
    exact hf'.follows []
  | cons c cs =>
    by_cases hc : c = d
    · subst hc
      simp only [List.cons_append, after_self]
      exact hf.follows cs
    · simp only [List.cons_append, after_of_ne hc]
      exact hf'.follows (c :: cs)

/-- **A reader that goes another way after two characters.** -/
theorem Local.afterTwo {d : Char} {f' : Reader α} (hd : d ≠ ')') (hf : Local Late f)
    (hf' : Local Late f') : Local Late (afterTwo d f f') := by
  refine ⟨fun cs x rest h => ?_, fun cs => ?_⟩
  · rcases cs with _ | ⟨a, _ | ⟨b, cs⟩⟩
    · exact hf'.shortens h
    · exact hf'.shortens h
    · rw [afterTwo_cons] at h
      split_ifs at h
      · exact (hf.shortens h).trans ((List.suffix_cons b cs).trans (List.suffix_cons a _))
      · exact hf'.shortens h
  · rcases cs with _ | ⟨a, _ | ⟨b, cs⟩⟩
    · have hother (tail : List Char) :
          Pattern.afterTwo d f f' (')' :: tail) = f' (')' :: tail) :=
        afterTwo_of_forall_ne (fun rest h => hd (List.cons.inj h).1.symm) f f'
      simp only [List.nil_append, hother]
      exact hf'.follows []
    · have hne : ¬ (a = d ∧ ')' = d) := fun h => hd h.2.symm
      simp only [List.cons_append, List.nil_append, afterTwo_cons, if_neg hne]
      exact hf'.follows [a]
    · simp only [List.cons_append, afterTwo_cons]
      split_ifs
      · exact hf.follows cs
      · exact hf'.follows (a :: b :: cs)

theorem Local.before (x : α) : Local AtClosing (before x) := by
  refine ⟨fun cs y rest h => ?_, fun cs => ?_⟩
  · cases cs with
    | nil => cases h
    | cons c cs => cases h; exact List.suffix_rfl
  · cases cs with
    | nil =>
      refine .inr ⟨fun tail y rest h => ?_, fun y rest h => by cases h⟩
      cases h
      exact .inr rfl
    | cons c cs => exact .inl fun _ => rfl

/-- **Fuel beyond the characters of the text makes no difference** to a reader that goes on with
less of the text at every step. -/
theorem eq_of_fuel {σ : Type} {f : Nat → σ → Reader α}
    (hstep : ∀ k l s cs, (∀ s rest, rest.length < cs.length → f k s rest = f l s rest) →
      f (k + 1) s cs = f (l + 1) s cs)
    {k l : Nat} {s : σ} {cs : List Char} (hk : cs.length < k) (hl : cs.length < l) :
    f k s cs = f l s cs := by
  induction k generalizing l s cs with
  | zero => cases hk
  | succ k ih =>
    obtain ⟨l, rfl⟩ := Nat.exists_eq_succ_of_ne_zero (Nat.ne_zero_of_lt hl)
    exact hstep k l s cs fun s rest hrest => ih (by omega) (by omega)

/-- **A reader with fuel**, one more than the text has characters, where more makes no
difference. -/
theorem Local.of_fuel {f : Nat → Reader α} (hf : ∀ fuel, Local Late (f fuel))
    (henough : ∀ fuel cs, cs.length < fuel → f fuel cs = f (cs.length + 1) cs) :
    Local Late fun cs => f (cs.length + 1) cs := by
  refine ⟨fun cs x rest h => (hf _).shortens h, fun cs => ?_⟩
  -- Longer tails take more fuel, and each amount of fuel decides by itself how the reading goes on:
  -- it is read the same if that is so with arbitrarily much fuel.
  by_cases hsame : ∀ least, ∃ fuel ≥ least, ∀ tail,
      f fuel (cs ++ ')' :: tail) = (f fuel cs).map (Prod.map id (· ++ ')' :: tail))
  · refine .inl fun tail => ?_
    obtain ⟨fuel, hfuel, h⟩ := hsame ((cs ++ ')' :: tail).length + 1)
    have hlength : cs.length < fuel := by
      rw [List.length_append] at hfuel
      omega
    dsimp only
    rw [← henough fuel _ hfuel, ← henough fuel cs hlength]
    exact h tail
  · obtain ⟨least, hleast⟩ := not_forall.mp hsame
    have hover (fuel : Nat) (hfuel : least ≤ fuel) :
        Overruns Late (f fuel cs) fun tail => f fuel (cs ++ ')' :: tail) :=
      ((hf fuel).follows cs).resolve_left fun h => hleast ⟨fuel, hfuel, h⟩
    refine .inr ⟨fun tail x rest h => ?_, fun x rest h => ?_⟩
    · rw [← henough (max least ((cs ++ ')' :: tail).length + 1)) _ (Nat.le_max_right _ _)] at h
      exact (hover _ (Nat.le_max_left _ _)).beyond tail x rest h
    · have hshort : cs.length < (cs ++ [')']).length + 1 := by
        rw [List.length_append]
        omega
      rw [← henough (max least ((cs ++ [')']).length + 1)) _
        (Nat.lt_of_lt_of_le hshort (Nat.le_max_right _ _))]
        at h
      rw [← henough (max least ((cs ++ [')']).length + 1)) _ (Nat.le_max_right _ _)]
      exact (hover _ (Nat.le_max_left _ _)).ended x rest h

end Combinators

/-! ## Blanks and comments -/

theorem skipIgnored_suffix (comment : Bool) (cs : List Char) : skipIgnored comment cs <:+ cs := by
  induction cs generalizing comment with
  | nil => exact List.suffix_rfl
  | cons c cs ih =>
    have htail (comment : Bool) : skipIgnored comment cs <:+ c :: cs :=
      (ih comment).trans (List.suffix_cons c cs)
    rw [skipIgnored]
    split_ifs
    · exact htail _
    · exact htail _
    · exact htail _
    · exact List.suffix_rfl

theorem skipSpaced_suffix (spaced : Bool) (cs : List Char) : skipSpaced spaced cs <:+ cs := by
  cases spaced
  · exact List.suffix_rfl
  · exact skipIgnored_suffix false cs

theorem length_skipSpaced_le (spaced : Bool) (cs : List Char) :
    (skipSpaced spaced cs).length ≤ cs.length :=
  (skipSpaced_suffix spaced cs).length_le

theorem length_skipSpaced_lt (spaced : Bool) (c : Char) (cs : List Char) :
    (skipSpaced spaced cs).length < (c :: cs).length :=
  Nat.lt_succ_of_le (length_skipSpaced_le spaced cs)

/-- **Skipping stops at the closing**, unless that is in a comment. -/
theorem follows_skipSpaced (spaced : Bool) (cs : List Char) :
    Follows (skipSpaced spaced cs) fun tail => skipSpaced spaced (cs ++ ')' :: tail) := by
  have hignored (comment : Bool) :
      Follows (skipIgnored comment cs) fun tail => skipIgnored comment (cs ++ ')' :: tail) := by
    induction cs generalizing comment with
    | nil =>
      cases comment with
      | true => exact .inr ⟨rfl, fun tail => skipIgnored_suffix true tail⟩
      | false => exact .inl fun _ => rfl
    | cons c cs ih =>
      simp only [List.cons_append, skipIgnored]
      split_ifs
      · exact ih _
      · exact ih _
      · exact ih _
      · exact .inl fun _ => rfl
  cases spaced
  · exact .inl fun _ => rfl
  · exact hignored false

/-- A local reader after blanks and comments. -/
theorem Local.skip {Late : LateEnd α} {spaced : Bool} (hf : Local Late f) :
    Local Late fun cs => f (skipSpaced spaced cs) :=
  ⟨fun cs _ _ h => (hf.shortens h).trans (skipSpaced_suffix spaced cs),
    fun cs => hf.extends_of_follows (follows_skipSpaced spaced cs)⟩

end Formula.Pattern
