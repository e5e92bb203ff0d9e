import Formula.Proofs.Expr.RangeCalls
import Formula.Proofs.Text.Parts
import Formula.Proofs.Value.Integer

/-!
# Proofs/Expr/Clamping — long requests for parts of a text

`left`, `right` and `mid` are asked for a number of characters.  A number from zero on is cut to its
whole part, and where the text has fewer characters than that it is given as a whole.  But a count
is an integer of 64 bits, and from `Value.integerBound` on the conversion of a number comes out at
the integer that stands for none: such a request is refused, whatever the text
(`long_requests_clamp`), although no text has as many characters as are asked for
(`left_refuses_huge_count`).
-/

namespace Formula

variable {env : Environment} {n i : Nat} {args : List Expr} {e : Expr} {v w : Value} {x : Float}
  {name : String}

/-! ## Counts -/

/-- **The count that a value gives** to the call of `name`. -/
def Value.asCount (name : String) (v : Value) : Except EvalError Nat :=
  match v.integer? with
  | none => .error (.invalidArguments name (.notInteger v.kindName))
  | some k => if k < 0 then .error (.invalidArguments name (.negativeCount k)) else .ok k.toNat

/-- **A number from zero on counts as its whole part**, and as nothing from `integerBound` on. -/
theorem Value.asCount_of_nonneg (hx : 0 ≤ x) :
    (Value.number x).asCount name =
      match (Decimal.value? x).filter fun q => q < (Value.integerBound : ℚ) with
      | none => .error (.invalidArguments name (.notInteger "number"))
      | some q => .ok ⌊q⌋₊ := by
  rw [asCount, integer?_of_nonneg hx]
  cases (Decimal.value? x).filter fun q => q < (integerBound : ℚ) with
  | none => rfl
  | some q =>
    dsimp only [Option.map_some]
    rw [if_neg (Int.not_lt.mpr (Int.natCast_nonneg _)), Int.toNat_natCast]

namespace Environment

open Formula.Expr (argument)

/-- **The integer of an argument** is the integer reading of its value. -/
theorem run_integer (he : args[i]? = some e) (hv : e.eval env n = .ok v) :
    (Plan.integer name i).run (env.host (args.map (argument env n))) =
      if v.toInteger = Value.notAnInteger
        then .error (.invalidArguments name (.notInteger v.kindName))
        else .ok v.toInteger := by
  rw [Plan.integer, Plan.run_value, host_value_of_getElem? he, hv]
  dsimp only [Except.bind]
  split <;> rfl

theorem run_count (he : args[i]? = some e) (hv : e.eval env n = .ok v) :
    (Plan.count name i).run (env.host (args.map (argument env n))) = v.asCount name := by
  rw [Plan.count, Plan.run_andThen, run_integer he hv, Value.asCount, Value.integer?]
  by_cases hnone : v.toInteger = Value.notAnInteger
  · rw [if_pos hnone, if_pos hnone]
    rfl
  · rw [if_neg hnone, if_neg hnone]
    dsimp only [Except.bind]
    split <;> rfl

/-- The position 1 is the start of a text. -/
theorem run_position_one (he : args[i]? = some e) (hv : e.eval env n = .ok (.number 1)) :
    (Plan.position name i).run (env.host (args.map (argument env n))) = .ok 0 := by
  have hone : (Value.number 1).toInteger = 1 := by decide +kernel
  rw [Plan.position, Plan.run_andThen, run_integer he hv, hone]
  rfl

/-- A part of a text that a count measures off at one end. -/
theorem run_measured (hs : args[0]? = some e) (hv : e.eval env n = .ok v) {c : Expr}
    (hc : args[1]? = some c) (hw : c.eval env n = .ok w) (f : String → Nat → String) :
    (do
      let s ← Plan.text 0
      let k ← Plan.count name 1
      return Value.text (f s k) : Plan Value).run (env.host (args.map (argument env n)))
      = (w.asCount name).map fun k => .text (f v.toText k) := by
  rw [Plan.run_andThen, run_text hs, hv]
  dsimp only [Except.map, Except.bind]
  rw [Plan.run_andThen, run_count hc hw]
  cases w.asCount name <;> rfl

end Environment

/-! ## The calls -/

namespace Expr

open Environment (run_measured run_text run_count run_position_one)

variable {s p c : Expr}

theorem eval_left (hs : s.eval env n = .ok v) (hc : c.eval env n = .ok w) :
    (call "left" [s, c]).eval env (n + 1)
      = (w.asCount "left").map fun k => .text (Text.left v.toText k) :=
  (eval_call_of_function? (m := 2) rfl rfl (by decide)).trans (run_measured rfl hs rfl hc Text.left)

theorem eval_right (hs : s.eval env n = .ok v) (hc : c.eval env n = .ok w) :
    (call "right" [s, c]).eval env (n + 1)
      = (w.asCount "right").map fun k => .text (Text.right v.toText k) :=
  (eval_call_of_function? (m := 2) rfl rfl (by decide)).trans
    (run_measured rfl hs rfl hc Text.right)

/-- The middle of a text from its first character on is what is left of the count. -/
theorem eval_mid_one (hs : s.eval env n = .ok v) (hp : p.eval env n = .ok (.number 1))
    (hc : c.eval env n = .ok w) :
    (call "mid" [s, p, c]).eval env (n + 1)
      = (w.asCount "mid").map fun k => .text (Text.left v.toText k) := by
  refine (eval_call_of_function? (m := 3) rfl rfl (by decide)).trans ?_
  dsimp only
  rw [Plan.run_andThen, run_text rfl, hs]
  dsimp only [Except.map, Except.bind]
  rw [Plan.run_andThen, run_position_one rfl hp]
  dsimp only [Except.bind]
  rw [Plan.run_andThen, run_count rfl hc]
  cases w.asCount "mid" <;> rfl

/-- **The requests for a part of a text** `s` by a count `c`, and by the position `p` of its first
character. -/
def requests (s p c : Expr) : List (String × List Expr) :=
  [("left", [s, c]), ("right", [s, c]), ("mid", [s, p, c])]

/-- **Long requests clamp** as long as the count has an integer reading.  A number of characters
from zero on is cut to its whole part; as many characters are taken from the left, from the right,
or from the first character on, and the text as a whole if it has no more.  A number from
`integerBound` on, infinity included, is no count, and each of the requests is refused. -/
theorem long_requests_clamp (hs : s.eval env n = .ok v) (hp : p.eval env n = .ok (.number 1))
    (hc : c.eval env n = .ok (.number x)) (hx : 0 ≤ x) :
    (∀ q, Decimal.value? x = some q → q < 9223372036854775808 →
      (call "left" [s, c]).eval env (n + 1)
        = .ok (.text (String.ofList (v.toText.toList.take ⌊q⌋₊))) ∧
      (call "right" [s, c]).eval env (n + 1)
        = .ok (.text (String.ofList (v.toText.toList.drop (v.toText.length - ⌊q⌋₊)))) ∧
      (call "mid" [s, p, c]).eval env (n + 1)
        = .ok (.text (String.ofList (v.toText.toList.take ⌊q⌋₊))) ∧
      (v.toText.length ≤ q → ∀ r ∈ requests s p c,
        (call r.1 r.2).eval env (n + 1) = .ok (.text v.toText))) ∧
    ((∀ q, Decimal.value? x = some q → 9223372036854775808 ≤ q) → ∀ r ∈ requests s p c,
      (call r.1 r.2).eval env (n + 1)
        = .error (.invalidArguments r.1 (.notInteger "number"))) := by
  have hbound : (Value.integerBound : ℚ) = 9223372036854775808 := by norm_num [Value.integerBound]
  have hleft := eval_left hs hc
  have hright := eval_right hs hc
  have hmid := eval_mid_one hs hp hc
  rw [Value.asCount_of_nonneg hx, hbound] at hleft hright hmid
  refine ⟨fun q hq hlt => ?_, fun hhuge => ?_⟩
  · have hcount : (Decimal.value? x).filter (fun q => q < 9223372036854775808) = some q := by
      rw [hq, Option.filter_some, if_pos (decide_eq_true hlt)]
    rw [hcount] at hleft hright hmid
    refine ⟨hleft, hright, hmid, fun hlength => ?_⟩
    have hwhole : v.toText.length ≤ ⌊q⌋₊ := Nat.le_floor hlength
    have htake : Text.left v.toText ⌊q⌋₊ = v.toText := by
      rw [Text.left, List.take_of_length_le (String.length_toList.trans_le hwhole),
        String.ofList_toList]
    simp only [requests, List.forall_mem_cons, List.not_mem_nil, IsEmpty.forall_iff, implies_true,
      and_true]
    rw [hleft, hright, hmid]
    dsimp only [Except.map]
    rw [htake, Text.right_of_length_le hwhole]
    exact ⟨rfl, rfl, rfl⟩
  · have hcount : (Decimal.value? x).filter (fun q => q < 9223372036854775808) = none := by
      rw [Option.filter_eq_none_iff]
      intro q hq
      rw [decide_eq_true_eq, not_lt]
      exact hhuge q hq
    rw [hcount] at hleft hright hmid
    simp only [requests, List.forall_mem_cons, List.not_mem_nil, IsEmpty.forall_iff, implies_true,
      and_true]
    exact ⟨hleft, hright, hmid⟩

/-- A count with a fraction, one that is as large as a count can be, and infinity. -/
theorem long_requests_clamp_accents :
    let env : Environment :=
      { symbols := .empty, sheet := none, config := default, clock := .atMidnight .epoch }
    let part (name : String) (x : Float) := (call name [.text "żółw", .number x]).eval env 2
    let infinity : Float := 1 / 0
    (0 ≤ (2.5 : Float) ∧ Decimal.value? 2.5 = some (5 / 2)) ∧
      part "left" 2.5 = .ok (.text "żó") ∧ part "right" 2.5 = .ok (.text "łw") ∧
      (0 ≤ (9223372036854774784 : Float) ∧
        Decimal.value? 9223372036854774784 = some 9223372036854774784) ∧
      part "right" 9223372036854774784 = .ok (.text "żółw") ∧
      (0 ≤ infinity ∧ Decimal.value? infinity = none) ∧
      part "right" infinity = .error (.invalidArguments "right" (.notInteger "number")) := by
  intro env part infinity
  have hs : (Expr.text "żółw").eval env 1 = .ok (.text "żółw") := rfl
  have hp : (Expr.number 1).eval env 1 = .ok (.number 1) := rfl
  have hc (x : Float) : (Expr.number x).eval env 1 = .ok (.number x) := rfl
  have hvalue {x : Float} {m : Nat} {e : Int} (h : Decimal.Shape.of x = .finite false ⟨m, e⟩) :
      Decimal.value? x = some ((m : ℚ) * 2 ^ e) := by
    rw [Decimal.value?, h]
    rfl
  have hhalf : Decimal.value? 2.5 = some (5 / 2) := by
    rw [hvalue (m := 5629499534213120) (e := -51) (by decide +kernel)]
    norm_num
  have hlarge : Decimal.value? 9223372036854774784 = some 9223372036854774784 := by
    rw [hvalue (m := 9007199254740991) (e := 10) (by decide +kernel)]
    norm_num
  have hinfinity : Decimal.value? infinity = none := by
    have hshape : Decimal.Shape.of infinity = .infinite false := by decide +kernel
    rw [Decimal.value?, hshape]
  have hle : 0 ≤ (2.5 : Float) := by decide +kernel
  have hle' : 0 ≤ (9223372036854774784 : Float) := by decide +kernel
  have hle'' : 0 ≤ infinity := by decide +kernel
  obtain ⟨hclamp, -⟩ := long_requests_clamp hs hp (hc 2.5) hle
  obtain ⟨hleft, hright, -, -⟩ := hclamp _ hhalf (by norm_num)
  obtain ⟨hclamp', -⟩ := long_requests_clamp hs hp (hc 9223372036854774784) hle'
  obtain ⟨-, -, -, hwhole⟩ := hclamp' _ hlarge (by norm_num)
  obtain ⟨-, hrefused⟩ := long_requests_clamp hs hp (hc infinity) hle''
  have hfloor : ⌊(5 / 2 : ℚ)⌋₊ = 2 := by norm_num
  rw [hfloor] at hleft hright
  have hlength : (("żółw".length : Nat) : ℚ) ≤ 9223372036854774784 := by
    rw [show "żółw".length = 4 from rfl]
    norm_num
  refine ⟨⟨hle, hhalf⟩, hleft, hright, ⟨hle', hlarge⟩,
    hwhole hlength ("right", _) (by simp [requests]), ⟨hle'', hinfinity⟩,
    hrefused (fun q hq => ?_) ("right", _) (by simp [requests])⟩
  rw [hinfinity] at hq
  cases hq

/-- **A huge count is refused** although the text ends long before it. -/
theorem left_refuses_huge_count :
    (0 ≤ (1e300 : Float) ∧ (1e300 : Float).isNaN = false) ∧
      (call "left" [.text "ab", .number 1e300]).eval
        { symbols := .empty, sheet := none, config := default, clock := .atMidnight .epoch } 2
        = .error (.invalidArguments "left" (.notInteger "number")) := by
  decide +kernel

end Expr

end Formula
