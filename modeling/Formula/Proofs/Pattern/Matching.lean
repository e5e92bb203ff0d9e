import Formula.Pattern.Match
import Mathlib.Data.Nat.Bitwise
import Mathlib.Logic.Function.Iterate

/-!
# Proofs/Pattern/Matching — matching by sets of positions finds every match

`isMatch_iff`: a pattern whose repetitions have their bounds in order matches somewhere in a text
exactly when the search by sets of positions says so.

The search computes with sets as binary numbers; `testBit_ends` reads one set off another through
`Regex.Matches`.  What needs an argument is repetition.  A match of a repetition is a **chain** of
matches of its body, and rounds that match nothing can be left out of a chain, so that a text of
`n` characters needs no more than `n` of the rounds beyond the least number.
-/

namespace Formula.Pattern

variable {cs : List Char} {r a b : Regex} {i j k : Nat}

/-! ## Matches and chains -/

namespace Regex

/-- A match does not go back, and stays within the text. -/
theorem Matches.le (h : r.Matches cs i j) : i ≤ j ∧ j ≤ cs.length := by
  induction h with
  | empty hi => exact ⟨le_rfl, hi⟩
  | chars hc _ => exact ⟨Nat.le_succ _, (List.getElem?_eq_some_iff.mp hc).1⟩
  | look hi _ => exact ⟨le_rfl, hi⟩
  | seq _ _ iha ihb => exact ⟨iha.1.trans ihb.1, ihb.2⟩
  | altLeft _ ih => exact ih
  | altRight _ ih => exact ih
  | stop hi => exact ⟨le_rfl, hi⟩
  | round _ _ _ iha ihb => exact ⟨iha.1.trans ihb.1, ihb.2⟩

/-- **A chain of matches**: `k` matches one after another. -/
def Chain (cs : List Char) (r : Regex) : Nat → Nat → Nat → Prop
  | 0, i, j => i = j ∧ i ≤ cs.length
  | k + 1, i, j => ∃ m, r.Matches cs i m ∧ Chain cs r k m j

theorem Chain.le (h : Chain cs r k i j) : i ≤ j ∧ j ≤ cs.length := by
  induction k generalizing i with
  | zero => exact ⟨h.1.le, h.1 ▸ h.2⟩
  | succ k ih =>
    obtain ⟨m, hm, h⟩ := h
    exact ⟨hm.le.1.trans (ih h).1, (ih h).2⟩

theorem chain_add {l : Nat} :
    Chain cs r (k + l) i j ↔ ∃ m, Chain cs r k i m ∧ Chain cs r l m j := by
  induction k generalizing i with
  | zero =>
    rw [Nat.zero_add]
    refine ⟨fun h => ⟨i, ⟨rfl, h.le.1.trans h.le.2⟩, h⟩, ?_⟩
    rintro ⟨m, ⟨rfl, -⟩, h⟩
    exact h
  | succ k ih =>
    rw [Nat.succ_add]
    constructor
    · rintro ⟨p, hp, h⟩
      obtain ⟨m, hm, h⟩ := ih.mp h
      exact ⟨m, ⟨p, hp, hm⟩, h⟩
    · rintro ⟨m, ⟨p, hp, hm⟩, h⟩
      exact ⟨p, hp, ih.mpr ⟨m, hm, h⟩⟩

/-- **Rounds that match nothing can be left out**, so a chain needs no more of them than it passes
characters. -/
theorem Chain.exists_le (h : Chain cs r k i j) : ∃ l ≤ j - i, Chain cs r l i j := by
  induction k generalizing i with
  | zero => exact ⟨0, Nat.zero_le _, h⟩
  | succ k ih =>
    obtain ⟨m, hm, h⟩ := h
    obtain ⟨l, hl, hchain⟩ := ih h
    rcases hm.le.1.eq_or_lt with rfl | hlt
    · exact ⟨l, hl, hchain⟩
    · have := h.le.1
      exact ⟨l + 1, by omega, m, hm, hchain⟩

/-- **A repetition matches by chains** whose number of rounds is within the bounds. -/
theorem matches_rounds_iff {least : Nat} {most : Option Nat} :
    (rounds r least most).Matches cs i j
      ↔ ∃ k, least ≤ k ∧ (∀ m ∈ most, k ≤ m) ∧ Chain cs r k i j := by
  constructor
  · intro h
    generalize hr : rounds r least most = r' at h
    induction h generalizing least most with
    | stop hi =>
      cases hr
      exact ⟨0, le_rfl, fun m _ => Nat.zero_le m, rfl, hi⟩
    | round hmost hfirst _ _ ih =>
      cases hr
      obtain ⟨k, hleast, hk, hchain⟩ := ih rfl
      refine ⟨k + 1, by omega, fun m hm => ?_, _, hfirst, hchain⟩
      obtain rfl := Option.mem_def.mp hm
      have := hk (m - 1) rfl
      have : m ≠ 0 := fun h => hmost (congrArg some h)
      omega
    | _ => cases hr
  · rintro ⟨k, hleast, hmost, h⟩
    induction k generalizing i least most with
    | zero =>
      obtain ⟨rfl, hi⟩ := h
      obtain rfl : least = 0 := by omega
      exact .stop hi
    | succ k ih =>
      obtain ⟨m, hm, h⟩ := h
      refine .round (fun h0 => absurd (hmost 0 h0) (by omega)) hm
        (ih (by omega) (fun p hp => ?_) h)
      obtain ⟨q, hq, rfl⟩ := Option.map_eq_some_iff.mp hp
      have := hmost q hq
      omega

/-- **The bounds of every repetition are in order**, as they are in what the reader reads. -/
def Ordered : Regex → Prop
  | empty | chars _ | look _ => True
  | seq a b | alt a b => a.Ordered ∧ b.Ordered
  | rounds r least most => r.Ordered ∧ ∀ m ∈ most, least ≤ m

end Regex

/-! ## Sets of positions -/

theorem testBit_positionSet (marks : List Bool) (i : Nat) :
    (positionSet marks).testBit i = marks[i]?.getD false := by
  induction marks generalizing i with
  | nil => rw [positionSet, List.foldr_nil, Nat.zero_testBit, List.getElem?_nil, Option.getD_none]
  | cons mark marks ih =>
    have hset : positionSet (mark :: marks) = Nat.bit mark (positionSet marks) := by
      rw [Nat.bit_val]
      cases mark <;> rfl
    rw [hset]
    cases i with
    | zero => rw [Nat.testBit_bit_zero, List.getElem?_cons_zero, Option.getD_some]
    | succ i => rw [Nat.testBit_bit_succ, ih, List.getElem?_cons_succ]

theorem getElem?_surroundings (before : Option Char) (hi : i ≤ cs.length) :
    (surroundings before cs)[i]? = some (if i = 0 then before else cs[i - 1]?, cs[i]?) := by
  induction cs generalizing before i with
  | nil =>
    obtain rfl : i = 0 := Nat.le_zero.mp hi
    rfl
  | cons c cs ih =>
    cases i with
    | zero => rfl
    | succ i =>
      rw [surroundings, List.getElem?_cons_succ, ih _ (Nat.le_of_succ_le_succ hi),
        if_neg (Nat.succ_ne_zero i), List.getElem?_cons_succ, Nat.add_sub_cancel]
      cases i <;> rfl

/-- Stopping where nothing changes makes no difference. -/
theorem iterate_eq (f : Nat → Nat) (n set : Nat) : iterate f n set = f^[n] set := by
  induction n generalizing set with
  | zero => rfl
  | succ n ih =>
    rw [iterate]
    split
    · next h => exact (Function.iterate_fixed h (n + 1)).symm
    · rw [ih, Function.iterate_succ_apply]

section Ends

variable {f : Nat → Nat} {set : Nat}

/-- A set of positions of a text. -/
def Within (cs : List Char) (set : Nat) : Prop := ∀ i, set.testBit i → i ≤ cs.length

/-- **A function of sets of positions traces a pattern**: it takes the positions from which the
pattern may start to those at which it may then end. -/
def Traces (cs : List Char) (r : Regex) (f : Nat → Nat) : Prop :=
  ∀ set, Within cs set → ∀ j, (f set).testBit j ↔ ∃ i, set.testBit i ∧ r.Matches cs i j

theorem Traces.within (hf : Traces cs r f) (hset : Within cs set) : Within cs (f set) := by
  intro j hj
  obtain ⟨_, _, hm⟩ := (hf set hset j).mp hj
  exact hm.le.2

theorem Traces.iterate (hf : Traces cs r f) (hset : Within cs set) (n j : Nat) :
    (f^[n] set).testBit j ↔ ∃ i, set.testBit i ∧ r.Chain cs n i j := by
  induction n generalizing set with
  | zero =>
    refine ⟨fun h => ⟨j, h, rfl, hset j h⟩, ?_⟩
    rintro ⟨i, hi, rfl, -⟩
    exact hi
  | succ n ih =>
    rw [Function.iterate_succ_apply, ih (hf.within hset)]
    constructor
    · rintro ⟨m, hm, hchain⟩
      obtain ⟨i, hi, him⟩ := (hf set hset m).mp hm
      exact ⟨i, hi, m, him, hchain⟩
    · rintro ⟨i, hi, m, him, hchain⟩
      exact ⟨m, (hf set hset m).mpr ⟨i, hi, him⟩, hchain⟩

/-- Keeping the positions that are there already makes room for fewer rounds. -/
theorem Traces.iterate_or (hf : Traces cs r f) (hset : Within cs set) (n j : Nat) :
    ((fun set => set ||| f set)^[n] set).testBit j
      ↔ ∃ i, set.testBit i ∧ ∃ k ≤ n, r.Chain cs k i j := by
  induction n generalizing set with
  | zero =>
    refine ⟨fun h => ⟨j, h, 0, le_rfl, rfl, hset j h⟩, ?_⟩
    rintro ⟨i, hi, k, hk, hchain⟩
    obtain rfl := Nat.le_zero.mp hk
    exact hchain.1 ▸ hi
  | succ n ih =>
    have hor (i : Nat) : (set ||| f set).testBit i ↔ set.testBit i ∨ (f set).testBit i := by
      rw [Nat.testBit_or, Bool.or_eq_true]
    have hnext : Within cs (set ||| f set) := fun i hi =>
      ((hor i).mp hi).elim (hset i) (hf.within hset i)
    rw [Function.iterate_succ_apply, ih hnext]
    constructor
    · rintro ⟨m, hm, k, hk, hchain⟩
      rcases (hor m).mp hm with hm | hm
      · exact ⟨m, hm, k, hk.trans (Nat.le_succ n), hchain⟩
      · obtain ⟨i, hi, him⟩ := (hf set hset m).mp hm
        exact ⟨i, hi, k + 1, Nat.succ_le_succ hk, m, him, hchain⟩
    · rintro ⟨i, hi, k, hk, hchain⟩
      cases k with
      | zero => exact ⟨i, (hor i).mpr (.inl hi), 0, Nat.zero_le n, hchain⟩
      | succ k =>
        obtain ⟨m, him, hchain⟩ := hchain
        exact ⟨m, (hor m).mpr (.inr ((hf set hset m).mpr ⟨i, hi, him⟩)), k,
          Nat.le_of_succ_le_succ hk, hchain⟩

/-- **Repetition** takes the least number of rounds first and then as many more as it may; without
an upper bound, as many as the text has positions are enough. -/
theorem Traces.rounds (hf : Traces cs r f) {least : Nat} {most : Option Nat}
    (hmost : ∀ m ∈ most, least ≤ m) :
    Traces cs (.rounds r least most) fun set =>
      (fun set => set ||| f set)^[most.elim (cs.length + 1) (· - least)] (f^[least] set) := by
  intro set hset j
  have hstart : Within cs (f^[least] set) := fun i hi => by
    obtain ⟨_, _, hchain⟩ := (hf.iterate hset least i).mp hi
    exact hchain.le.2
  rw [hf.iterate_or hstart]
  constructor
  · rintro ⟨m, hm, k, hk, hmore⟩
    obtain ⟨i, hi, hfirst⟩ := (hf.iterate hset least m).mp hm
    refine ⟨i, hi, Regex.matches_rounds_iff.mpr ⟨least + k, Nat.le_add_right _ _, fun n hn => ?_,
      Regex.chain_add.mpr ⟨m, hfirst, hmore⟩⟩⟩
    obtain rfl := Option.mem_def.mp hn
    have : k ≤ n - least := hk
    have := hmost n rfl
    omega
  · rintro ⟨i, hi, hm⟩
    obtain ⟨k, hleast, hk, hchain⟩ := Regex.matches_rounds_iff.mp hm
    obtain ⟨l, rfl⟩ := Nat.exists_eq_add_of_le hleast
    obtain ⟨m, hfirst, hmore⟩ := Regex.chain_add.mp hchain
    refine ⟨m, (hf.iterate hset least m).mpr ⟨i, hi, hfirst⟩, ?_⟩
    cases most with
    | none =>
      obtain ⟨p, hp, hmore⟩ := hmore.exists_le
      have : p ≤ cs.length + 1 := by have := hmore.le.2; omega
      exact ⟨p, this, hmore⟩
    | some n =>
      have : least + l ≤ n := hk n rfl
      exact ⟨l, Nat.le_sub_of_add_le' this, hmore⟩

end Ends

/-! ## The search -/

/-- **The search traces the pattern.** -/
theorem traces_ends (hr : r.Ordered) :
    Traces cs r ((r.locate cs).ends (cs.length + 1)) := by
  induction r with
  | empty =>
    intro set hset j
    refine ⟨fun h => ⟨j, h, .empty (hset j h)⟩, ?_⟩
    rintro ⟨i, hi, hm⟩
    cases hm
    exact hi
  | chars s =>
    intro set hset j
    rw [Regex.locate, Located.ends, Nat.testBit_shiftLeft, Nat.testBit_and, testBit_positionSet,
      List.getElem?_map, Bool.and_eq_true, Bool.and_eq_true, decide_eq_true_iff]
    constructor
    · rintro ⟨hj, hi, hs⟩
      obtain ⟨i, rfl⟩ := Nat.exists_eq_add_of_le' hj
      rw [Nat.add_sub_cancel] at hi hs
      cases hc : cs[i]? with
      | none => rw [hc] at hs; cases hs
      | some c => exact ⟨i, hi, .chars hc (by rw [hc] at hs; exact hs)⟩
    · rintro ⟨i, hi, hm⟩
      cases hm with
      | chars hc hs =>
        rw [Nat.add_sub_cancel, hc]
        exact ⟨Nat.le_add_left 1 i, hi, hs⟩
  | look l =>
    intro set hset j
    have hlook (hj : j ≤ cs.length) : (positionSet ((surroundings none cs).map
        fun p => l p.1 p.2)).testBit j = l (charBefore cs j) cs[j]? := by
      rw [testBit_positionSet, List.getElem?_map, getElem?_surroundings none hj]
      rfl
    rw [Regex.locate, Located.ends, Nat.testBit_and, Bool.and_eq_true]
    constructor
    · rintro ⟨hj, hl⟩
      exact ⟨j, hj, .look (hset j hj) ((hlook (hset j hj)).symm.trans hl)⟩
    · rintro ⟨i, hi, hm⟩
      cases hm with
      | look hj hl => exact ⟨hi, (hlook hj).trans hl⟩
  | seq a b iha ihb =>
    intro set hset j
    have ha := iha hr.1
    rw [Regex.locate, Located.ends, ihb hr.2 _ (ha.within hset)]
    constructor
    · rintro ⟨m, hm, hmj⟩
      obtain ⟨i, hi, him⟩ := (ha set hset m).mp hm
      exact ⟨i, hi, .seq him hmj⟩
    · rintro ⟨i, hi, hm⟩
      cases hm with
      | seq him hmj => exact ⟨_, (ha set hset _).mpr ⟨i, hi, him⟩, hmj⟩
  | alt a b iha ihb =>
    intro set hset j
    rw [Regex.locate, Located.ends, Nat.testBit_or, Bool.or_eq_true, iha hr.1 set hset,
      ihb hr.2 set hset]
    constructor
    · rintro (⟨i, hi, hm⟩ | ⟨i, hi, hm⟩)
      · exact ⟨i, hi, .altLeft hm⟩
      · exact ⟨i, hi, .altRight hm⟩
    · rintro ⟨i, hi, hm⟩
      cases hm with
      | altLeft hm => exact .inl ⟨i, hi, hm⟩
      | altRight hm => exact .inr ⟨i, hi, hm⟩
  | rounds r least most ih =>
    have hends : ((Regex.rounds r least most).locate cs).ends (cs.length + 1) = fun set =>
        (fun set => set ||| (r.locate cs).ends (cs.length + 1) set)^[
          most.elim (cs.length + 1) (· - least)] (((r.locate cs).ends (cs.length + 1))^[least] set)
        := by
      funext set
      rw [← iterate_eq, ← iterate_eq]
      cases most <;> rfl
    rw [hends]
    exact (ih hr.1).rounds hr.2

/-- **A pattern matches somewhere in a text exactly when the search finds it.** -/
theorem isMatch_iff (hr : r.Ordered) :
    r.isMatch cs ↔ ∃ i j, r.Matches cs i j := by
  have hall (i : Nat) : ((1 <<< (cs.length + 1)) - 1).testBit i ↔ i ≤ cs.length := by
    rw [Nat.one_shiftLeft, Nat.testBit_two_pow_sub_one, decide_eq_true_iff, Nat.lt_succ_iff]
  have htraces : Traces cs r ((r.locate cs).ends (cs.length + 1)) := traces_ends hr
  have hends := htraces _ fun i hi => (hall i).mp hi
  rw [Regex.isMatch, bne_iff_ne]
  constructor
  · intro hne
    obtain ⟨j, hj⟩ := Nat.exists_testBit_of_ne_zero hne
    obtain ⟨i, _, hm⟩ := (hends j).mp hj
    exact ⟨i, j, hm⟩
  · rintro ⟨i, j, hm⟩ h0
    have := (hends j).mpr ⟨i, (hall i).mpr (hm.le.1.trans hm.le.2), hm⟩
    rw [h0, Nat.zero_testBit] at this
    cases this

end Formula.Pattern
