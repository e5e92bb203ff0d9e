import Formula.Builtin.Text
import Formula.Pattern.Engine
import Mathlib.Data.List.Basic

/-!
# Proofs/Pattern/Laws — what is known of an engine of regular expressions

The formulas take from an engine which texts are regular expressions, and what these match.
`Engine.Documented` says what every engine of this kind is known for: it reads a pattern from left
to right, a parenthesis closes the group that was opened last, and a group, `^` and `$` match what
they are documented to.

Two facts follow for a pattern that `matches` puts in a group between anchors.  Unless a parenthesis
in it closes the group early (`Engine.Stray`), it is then a regular expression if it was one before,
and if no comment at its end takes in what follows (`wellFormed_anchored_iff`); and it matches whole
texts only, just those that it matched before (`spans_anchored_iff`).
-/

namespace Formula.Pattern

open Builtin (anchored)

/-- A text in a group that captures nothing. -/
def grouped (e : String) : String := "(?:" ++ e ++ ")"

/-- A pattern in a frame is one in a group, with an anchor on either side. -/
theorem anchored_eq (e : String) : anchored e = "^" ++ grouped e ++ "$" := by
  have hopening : "^(?:" = "^" ++ "(?:" := rfl
  have hclosing : ")$" = ")" ++ "$" := rfl
  rw [anchored, grouped, hopening, hclosing]
  simp only [String.append_assoc]

namespace Engine

variable (g : Engine)

/-- **A regular expression that can be put in parentheses.**  Behind it a closing parenthesis would
close a group: it is not taken in by a comment, in which case it would make no difference. -/
def Complete (e : String) : Prop := g.wellFormed e ∧ ¬ g.wellFormed (e ++ ")")

/-- **A stray parenthesis** is one that closes no group of the pattern it stands in. -/
def Stray (p : String) : Prop := ∃ e rest, p = e ++ ")" ++ rest ∧ g.Complete e

/-- **What is documented of an engine**, where `Spans p s i j` says that the regular expression `p`
matches the stretch of `s` from position `i` to position `j`. -/
structure Documented (Spans : String → String → Nat → Nat → Prop) : Prop where
  /-- A group that is opened must be closed, and holds a regular expression. -/
  closes : ∀ x, g.wellFormed ("^(?:" ++ x) → ∃ e rest, x = e ++ ")" ++ rest ∧ g.Complete e
  /-- A parenthesis that closes no group is an error, whatever follows it. -/
  unopened : ∀ e rest, g.Complete e → ¬ g.wellFormed (e ++ ")" ++ rest)
  /-- `(?:e)` is a regular expression that matches what `e` matches. -/
  group : ∀ e, g.Complete e →
    g.wellFormed (grouped e) ∧ ∀ s i j, Spans (grouped e) s i j ↔ Spans e s i j
  /-- `^` is an assertion of the beginning of the text. -/
  caret : ∀ e, g.Complete e → g.wellFormed ("^" ++ grouped e) ∧
    ∀ s i j, Spans ("^" ++ grouped e) s i j ↔ i = 0 ∧ Spans (grouped e) s i j
  /-- `$` is an assertion of the end of the text. -/
  dollar : ∀ e, g.Complete e → g.wellFormed ("^" ++ grouped e ++ "$") ∧
    ∀ s i j, Spans ("^" ++ grouped e ++ "$") s i j ↔ j = s.length ∧ Spans ("^" ++ grouped e) s i j
  /-- A regular expression within the limits is searched for. -/
  isMatch_iff : ∀ p s, g.wellFormed p → g.withinLimits p →
    (g.isMatch p s ↔ ∃ i j, Spans p s i j)

variable {g} {Spans : String → String → Nat → Nat → Prop} {p s : String}

namespace Documented

/-- A regular expression has no stray parenthesis. -/
theorem not_stray (h : g.Documented Spans) (hp : g.wellFormed p) : ¬ g.Stray p := by
  rintro ⟨e, rest, rfl, he⟩
  exact h.unopened e rest he hp

/-- The parenthesis that closes the frame of a pattern is the last one in it, or is in the pattern.
-/
theorem eq_or_eq_of_append_closing {e rest : String} (h : p ++ ")$" = e ++ ")" ++ rest) :
    e = p ∨ ∃ rest', p = e ++ ")" ++ rest' := by
  have hlist : p.toList ++ [')', '$'] = e.toList ++ ')' :: rest.toList := by
    have := congrArg String.toList h
    simpa using this
  rcases List.append_eq_append_iff.mp hlist with ⟨more, he, hmore⟩ | ⟨more, hp, hmore⟩
  · -- `e` goes on into the closing, which has no other parenthesis
    rcases more with _ | ⟨c, more⟩
    · exact .inl (String.toList_inj.mp (by rw [he, List.append_nil]))
    · obtain ⟨-, hmore⟩ := List.cons.inj hmore
      rcases more with _ | ⟨d, more⟩
      · cases hmore
      · cases more <;> cases hmore
  · rcases more with _ | ⟨c, more⟩
    · exact .inl (String.toList_inj.mp (by rw [hp, List.append_nil]))
    · obtain ⟨rfl, -⟩ := List.cons.inj hmore
      refine .inr ⟨String.ofList more, String.toList_inj.mp ?_⟩
      rw [hp]
      simp

/-- **A pattern without a stray parenthesis can stand in its frame** if it is a regular expression
that can be put in parentheses, and only then. -/
theorem wellFormed_anchored_iff (h : g.Documented Spans) (hp : ¬ g.Stray p) :
    g.wellFormed (anchored p) ↔ g.Complete p := by
  constructor
  · intro hframe
    rw [anchored, String.append_assoc] at hframe
    obtain ⟨e, rest, heq, he⟩ := h.closes _ hframe
    rcases eq_or_eq_of_append_closing heq with rfl | ⟨rest', hrest⟩
    · exact he
    · exact absurd ⟨e, rest', hrest, he⟩ hp
  · intro hcomplete
    rw [anchored_eq]
    exact (h.dollar p hcomplete).1

/-- **In its frame a pattern matches whole texts only**, those that it matched before. -/
theorem spans_anchored_iff (h : g.Documented Spans) (hp : g.Complete p) {i j : Nat} :
    Spans (anchored p) s i j ↔ i = 0 ∧ j = s.length ∧ Spans p s 0 s.length := by
  rw [anchored_eq, (h.dollar p hp).2, (h.caret p hp).2, (h.group p hp).2]
  constructor
  · rintro ⟨rfl, rfl, hspans⟩
    exact ⟨rfl, rfl, hspans⟩
  · rintro ⟨rfl, rfl, hspans⟩
    exact ⟨rfl, rfl, hspans⟩

/-- **A search for a pattern in its frame** asks whether it matches the whole of the text. -/
theorem isMatch_anchored_iff (h : g.Documented Spans) (hp : g.Complete p)
    (hlimits : g.withinLimits (anchored p)) :
    g.isMatch (anchored p) s ↔ Spans p s 0 s.length := by
  have hframe : g.wellFormed (anchored p) := by
    rw [anchored_eq]
    exact (h.dollar p hp).1
  rw [h.isMatch_iff _ s hframe hlimits]
  simp only [h.spans_anchored_iff hp]
  constructor
  · rintro ⟨_, _, -, -, hspans⟩
    exact hspans
  · exact fun hspans => ⟨0, _, rfl, rfl, hspans⟩

end Documented

end Engine

end Formula.Pattern
