import Formula.Proofs.Expr.RangeCalls
import Formula.Proofs.Pattern.Groups

/-!
# Proofs/Expr/Matches — `matches` and the pattern of the caller

`matches` puts its pattern between `^(?:` and `)$` as text.  What this does to the pattern is said
here for every engine of regular expressions that is as documented (`matches_own_pattern`).  Where
the pattern has no stray parenthesis, what is asked is whether it matches the whole of the text, and
what is no pattern alone is refused.  A stray parenthesis closes the group early, and what follows
may open another for the last parenthesis to close: `a)(b` alone is no pattern, and yet it matches
(`matches_unbalanced`).

The frame can also turn a pattern into none: a comment at its end hides the closing, and what the
frame adds may exceed the limits of the engine.
-/

namespace Formula

namespace Expr

open Builtin (anchored)
open Pattern (Engine Spans)

variable {env : Environment} {n : Nat} {x y : Expr} {v w : Value}

/-- The call asks its pattern, in the frame, for its text. -/
theorem eval_matches (hx : x.eval env n = .ok v) (hy : y.eval env n = .ok w) :
    (call "matches" [x, y]).eval env (n + 1) =
      match env.patterns.search? (anchored w.toText) v.toText with
      | some b => .ok (.bool b)
      | none => .error (.invalidArguments "matches" .badPattern) := by
  refine (eval_call_of_function? (m := 2) rfl rfl (by decide)).trans ?_
  change Builtin.matchesWhole.run _ = _
  rw [Builtin.matchesWhole, Plan.run_andThen, Environment.run_text rfl, hx]
  dsimp only [Except.map, Except.bind]
  rw [Plan.run_andThen, Environment.run_text rfl, hy]
  dsimp only [Except.map, Except.bind]
  have hsearch (args : List Argument) : (env.host args).search = env.patterns.search? := rfl
  rw [Plan.run, hsearch]
  cases env.patterns.search? (anchored w.toText) v.toText <;> rfl

/-- A frame that the engine does not take is refused. -/
theorem eval_matches_of_refused (hx : x.eval env n = .ok v) (hy : y.eval env n = .ok w)
    (h : ¬ (env.patterns.wellFormed (anchored w.toText) ∧
      env.patterns.withinLimits (anchored w.toText))) :
    (call "matches" [x, y]).eval env (n + 1)
      = .error (.invalidArguments "matches" .badPattern) := by
  rw [eval_matches hx hy, Engine.search?, if_neg]
  rwa [Bool.and_eq_true]

/-- **`matches` and the pattern of the caller**, for any engine that is as documented.  What has no
stray parenthesis and is no regular expression alone is refused; a regular expression has no stray
parenthesis.  One that a comment ends is refused, for the comment takes in the closing.  Any other,
if it is within the limits in its frame, is asked whether it matches the whole of the text, and it
is refused if it is not. -/
theorem matches_own_pattern {Spans : String → String → Nat → Nat → Prop}
    (hengine : env.patterns.Documented Spans) (hx : x.eval env n = .ok v)
    (hy : y.eval env n = .ok w) :
    let g := env.patterns
    let p := w.toText
    let answer := (call "matches" [x, y]).eval env (n + 1)
    let refused : Except EvalError Value := .error (.invalidArguments "matches" .badPattern)
    (¬ g.wellFormed p → ¬ g.Stray p → answer = refused) ∧
    (g.wellFormed p → ¬ g.Stray p) ∧
    (g.wellFormed p → g.wellFormed (p ++ ")") → answer = refused) ∧
    (g.wellFormed p → ¬ g.wellFormed (p ++ ")") →
      (g.withinLimits (anchored p) → ∃ b, answer = .ok (.bool b) ∧
        (b = true ↔ Spans p v.toText 0 v.toText.length)) ∧
      (¬ g.withinLimits (anchored p) → answer = refused)) := by
  intro g p answer refused
  refine ⟨fun hnone hstray => ?_, hengine.not_stray, fun hp hclosing => ?_, fun hp hclosing =>
    ⟨fun hlimits => ?_, fun hlimits => ?_⟩⟩
  · refine eval_matches_of_refused hx hy fun h => hnone ?_
    exact ((hengine.wellFormed_anchored_iff hstray).mp h.1).1
  · refine eval_matches_of_refused hx hy fun h => ?_
    exact ((hengine.wellFormed_anchored_iff (hengine.not_stray hp)).mp h.1).2 hclosing
  · have hcomplete : g.Complete p := ⟨hp, hclosing⟩
    have hframe : g.wellFormed (anchored p) :=
      (hengine.wellFormed_anchored_iff (hengine.not_stray hp)).mpr hcomplete
    refine ⟨g.isMatch (anchored p) v.toText, ?_, hengine.isMatch_anchored_iff hcomplete hlimits⟩
    refine (eval_matches hx hy).trans ?_
    rw [Engine.search?, hframe, hlimits]
    rfl
  · exact eval_matches_of_refused hx hy fun h => hlimits h.2

/-- A branch that is the whole of the text, a group left open, and a comment that hides the closing
of a pattern. -/
theorem matches_own_pattern_alternation :
    let env : Environment :=
      { symbols := .empty, sheet := none, config := default, clock := .atMidnight .epoch }
    let asked (p : String) := (call "matches" [.text "ab", .text p]).eval env 2
    let refused : Except EvalError Value := .error (.invalidArguments "matches" .badPattern)
    env.patterns.Documented Spans ∧ Spans "a|ab" "ab" 0 2 ∧ asked "a|ab" = .ok (.bool true) ∧
      ¬ env.patterns.wellFormed "(" ∧ asked "(" = refused ∧
      env.patterns.wellFormed "(?x)a|ab #" ∧ asked "(?x)a|ab #" = refused := by
  intro env asked refused
  have hs : (Expr.text "ab").eval env 1 = .ok (.text "ab") := rfl
  have hp (p : String) : (Expr.text p).eval env 1 = .ok (.text p) := rfl
  have hengine : env.patterns.Documented Spans := Pattern.engine_documented
  obtain ⟨-, -, -, hwhole⟩ := matches_own_pattern hengine hs (hp "a|ab")
  obtain ⟨hnone, -, -, -⟩ := matches_own_pattern hengine hs (hp "(")
  obtain ⟨-, -, hspoilt, -⟩ := matches_own_pattern hengine hs (hp "(?x)a|ab #")
  have hmatch : Spans "a|ab" "ab" 0 2 :=
    ⟨_, rfl, .altRight (.seq (.chars rfl rfl) (.chars rfl rfl))⟩
  obtain ⟨b, hb, hmatches⟩ := (hwhole rfl (by decide)).1 (by decide)
  obtain rfl := hmatches.mpr hmatch
  refine ⟨hengine, hmatch, hb, by decide, hnone (by decide) ?_, rfl, hspoilt rfl rfl⟩
  rintro ⟨e, rest, he, -⟩
  have hmem : ')' ∈ "(".toList := by
    rw [show "(" = e ++ ")" ++ rest from he]
    simp
  exact absurd hmem (by decide)

/-- **A stray parenthesis closes the group** that is put around a pattern: `a)(b` alone is no
pattern, and between anchors it matches. -/
theorem matches_unbalanced :
    let env : Environment :=
      { symbols := .empty, sheet := none, config := default, clock := .atMidnight .epoch }
    ¬ env.patterns.wellFormed "a)(b" ∧
      (call "matches" [.text "ab", .text "a)(b"]).eval env 2 = .ok (.bool true) :=
  ⟨by decide, rfl⟩

end Expr

end Formula
