import Formula.Text.Slice
import Mathlib.Data.List.Infix
import Mathlib.Tactic.Common

/-!
# Proofs/Text/Substitution — a substitution is one scan

`substitute` writes a text anew, with the replacement in the place of occurrences of `find`.  Where
these are does not depend on the replacement: the text is cut into pieces at the first occurrence in
what the cuts before have left, until there is none or the limit is reached (`IsScan`).  There is
exactly one such scan of a text, and `pieces` is it (`exists_isScan`, `IsScan.pieces_eq`).  What
`substitute` writes are these pieces, joined by the replacement (`substitute_eq`): it has replaced
as many occurrences as its count says, and what is left of the limit is the limit of the rest.
-/

namespace Formula.Text

variable {find cs a b : List Char}

/-! ## The first occurrence -/

/-- **The first occurrence of `find` in a text**, with `a` before it and `b` after it: no occurrence
has less before it. -/
structure IsFirst (find cs a b : List Char) : Prop where
  text : cs = a ++ (find ++ b)
  least : ∀ q r, cs = q ++ (find ++ r) → a.length ≤ q.length

theorem IsFirst.unique {a' b' : List Char} (h : IsFirst find cs a b)
    (h' : IsFirst find cs a' b') : a = a' ∧ b = b' := by
  have hlength : a.length = a'.length :=
    Nat.le_antisymm (h.least _ _ h'.text) (h'.least _ _ h.text)
  obtain ⟨ha, hb⟩ := List.append_inj (h.text.symm.trans h'.text) hlength
  exact ⟨ha, List.append_cancel_left hb⟩

/-- The characters already passed stand before what the search finds. -/
theorem cutFrom_eq_map (before : List Char) :
    cutFrom find before cs = (cut? find cs).map fun p => (before.reverse ++ p.1, p.2) := by
  induction cs generalizing before with
  | nil =>
    rw [cut?, cutFrom, cutFrom]
    split <;> simp
  | cons c cs ih =>
    rw [cut?, cutFrom, cutFrom]
    split
    · simp
    · rw [ih (c :: before), ih [c], Option.map_map]
      simp [Function.comp_def]

theorem cut?_cons (c : Char) :
    cut? find (c :: cs) =
      if find.isPrefixOf (c :: cs) then some ([], (c :: cs).drop find.length)
      else (cut? find cs).map fun p => (c :: p.1, p.2) := by
  rw [cut?, cutFrom, cutFrom_eq_map]
  rfl

/-- **The search fails if and only if there is no occurrence.** -/
theorem cut?_eq_none_iff : cut? find cs = none ↔ ¬find <:+: cs := by
  induction cs with
  | nil =>
    rw [cut?, cutFrom, List.infix_nil]
    cases find <;> simp
  | cons c cs ih =>
    rw [cut?_cons, List.infix_cons_iff, ← List.isPrefixOf_iff_prefix]
    split
    · next h => simp [h]
    · next h => simp [h, ih]

/-- **What the search finds is the first occurrence.** -/
theorem isFirst_of_cut? (h : cut? find cs = some (a, b)) : IsFirst find cs a b := by
  induction cs generalizing a with
  | nil =>
    rw [cut?, cutFrom] at h
    split at h
    · next hempty =>
      cases h
      exact ⟨by rw [List.isEmpty_iff.mp hempty]; rfl, fun _ _ _ => Nat.zero_le _⟩
    · cases h
  | cons c cs ih =>
    rw [cut?_cons] at h
    split at h
    · next hprefix =>
      cases h
      obtain ⟨rest, hrest⟩ := List.isPrefixOf_iff_prefix.mp hprefix
      refine ⟨?_, fun _ _ _ => Nat.zero_le _⟩
      rw [← hrest, List.drop_left]
      rfl
    · next hprefix =>
      obtain ⟨⟨a', b'⟩, hcut, hpair⟩ := Option.map_eq_some_iff.mp h
      cases hpair
      have hfirst := ih hcut
      refine ⟨congrArg (c :: ·) hfirst.text, fun q r htext => ?_⟩
      -- An occurrence with nothing before it would be a beginning of the text.
      cases q with
      | nil => exact absurd (List.isPrefixOf_iff_prefix.mpr ⟨r, htext.symm⟩) hprefix
      | cons d q => exact Nat.succ_le_succ (hfirst.least q r (List.cons.inj htext).2)

theorem IsFirst.cut?_eq (h : IsFirst find cs a b) : cut? find cs = some (a, b) := by
  match hcut : cut? find cs with
  | none =>
    have hinfix : find <:+: cs := ⟨a, b, by rw [h.text, List.append_assoc]⟩
    exact absurd hinfix (cut?_eq_none_iff.mp hcut)
  | some (a', b') =>
    obtain ⟨rfl, rfl⟩ := h.unique (isFirst_of_cut? hcut)
    rfl

/-! ## One step of the scan -/

/-- The pieces of `cs` around the first occurrences of `find`, at most `limit` of them if there is a
limit; `done` holds the pieces already cut off, in reverse.  An empty `find` occurs nowhere. -/
def piecesFrom (find : List Char) (limit : Option Nat) (done : List (List Char))
    (cs : List Char) : List (List Char) :=
  if limit = some 0 ∨ find = [] then (cs :: done).reverse
  else
    match h : cut? find cs with
    | none => (cs :: done).reverse
    | some (before, after) => piecesFrom find (limit.map (· - 1)) (before :: done) after
termination_by cs.length
decreasing_by
  have := length_of_cutFrom h
  have : 0 < find.length := List.length_pos_iff.2 (by simp_all)
  omega

/-- **The pieces of a text** around the first occurrences of `find`, at most `limit` of them. -/
def pieces (find : List Char) (limit : Option Nat) (cs : List Char) : List (List Char) :=
  piecesFrom find limit [] cs

variable {limit : Option Nat} {cuts : List (List Char)} {last : List Char}

/-- The scan ends at its limit, and where there is no occurrence. -/
theorem piecesFrom_of_stop (done : List (List Char)) (h : limit = some 0 ∨ ¬find <:+: cs) :
    piecesFrom find limit done cs = (cs :: done).reverse := by
  rw [piecesFrom]
  split
  · rfl
  · next hgo =>
    have hnone : cut? find cs = none :=
      cut?_eq_none_iff.mpr (h.resolve_left fun hlimit => hgo (Or.inl hlimit))
    split
    · rfl
    · next hsome =>
      rw [hnone] at hsome
      cases hsome

/-- Before its limit it cuts at the first occurrence and goes on behind it. -/
theorem piecesFrom_of_isFirst (done : List (List Char)) (hfind : find ≠ [])
    (hlimit : limit ≠ some 0) (h : IsFirst find cs a b) :
    piecesFrom find limit done cs = piecesFrom find (limit.map (· - 1)) (a :: done) b := by
  rw [piecesFrom, if_neg (not_or.mpr ⟨hlimit, hfind⟩)]
  split
  · next hnone =>
    rw [h.cut?_eq] at hnone
    cases hnone
  · next hsome =>
    rw [h.cut?_eq] at hsome
    cases hsome
    rfl

/-! ## Whole scans -/

/-- **A scan of a text** for the first occurrences of `find`, up to a limit: the text is cut at
occurrences of `find`, each of them the first one in what the cuts before it have left, until the
limit is reached or what is left has none. -/
structure IsScan (find : List Char) (limit : Option Nat) (cs : List Char)
    (cuts : List (List Char)) (last : List Char) : Prop where
  text : cs = find.intercalate (cuts ++ [last])
  least : ∀ before p after, cuts = before ++ p :: after → ∀ q r,
    find.intercalate (p :: (after ++ [last])) = q ++ (find ++ r) → p.length ≤ q.length
  within : ∀ n, limit = some n → cuts.length ≤ n
  finished : limit = some cuts.length ∨ ¬find <:+: last

namespace IsScan

theorem intercalate_cons (p : List Char) (after : List (List Char)) (last : List Char) :
    find.intercalate (p :: (after ++ [last]))
      = p ++ (find ++ find.intercalate (after ++ [last])) := by
  rw [List.intercalate_cons_of_ne_nil (List.append_ne_nil_of_right_ne_nil _ (List.cons_ne_nil _ _)),
    List.append_assoc]

/-- Where nothing is to be cut the whole text is left. -/
theorem stop (h : limit = some 0 ∨ ¬find <:+: cs) : IsScan find limit cs [] cs where
  text := List.intercalate_singleton.symm
  least _ _ _ heq :=
    absurd heq.symm (List.append_ne_nil_of_right_ne_nil _ (List.cons_ne_nil _ _))
  within _ _ := Nat.zero_le _
  finished := h

/-- A scan that cuts somewhere cuts first at the first occurrence. -/
theorem isFirst {p : List Char} (h : IsScan find limit cs (p :: cuts) last) :
    IsFirst find cs p (find.intercalate (cuts ++ [last])) := by
  refine ⟨h.text.trans (intercalate_cons p cuts last), fun q r htext => ?_⟩
  exact h.least [] p cuts rfl q r (h.text.symm.trans htext)

/-- What it does then is a scan of the rest. -/
theorem tail {p : List Char} (h : IsScan find limit cs (p :: cuts) last) :
    IsScan find (limit.map (· - 1)) (find.intercalate (cuts ++ [last])) cuts last where
  text := rfl
  least before q after heq := h.least (p :: before) q after (congrArg (p :: ·) heq)
  within n hn := by
    obtain ⟨m, rfl, rfl⟩ := Option.map_eq_some_iff.mp hn
    exact Nat.le_sub_one_of_lt (h.within m rfl)
  finished := h.finished.imp_left fun hlimit => by rw [hlimit]; rfl

/-- A scan of the rest continues a cut at the first occurrence. -/
theorem cons (hlimit : limit ≠ some 0) (hfirst : IsFirst find cs a b)
    (h : IsScan find (limit.map (· - 1)) b cuts last) : IsScan find limit cs (a :: cuts) last where
  text := by rw [hfirst.text, h.text, List.cons_append, intercalate_cons]
  least before q after heq := by
    match before with
    | [] =>
      obtain ⟨rfl, rfl⟩ := List.cons.inj heq
      rw [intercalate_cons, ← h.text, ← hfirst.text]
      exact hfirst.least
    | _ :: before => exact h.least before q after (List.cons.inj heq).2
  within n hn := by
    have hle := h.within (n - 1) (by rw [hn]; rfl)
    have hpos : n ≠ 0 := fun h0 => hlimit (h0 ▸ hn)
    rw [List.length_cons]
    omega
  finished := by
    refine h.finished.imp_left fun hmap => ?_
    obtain ⟨m, rfl, hm⟩ := Option.map_eq_some_iff.mp hmap
    have hpos : m ≠ 0 := fun h0 => hlimit (h0 ▸ rfl)
    rw [List.length_cons, ← hm]
    congr 1
    omega

/-- **Every scan of a text is the one of `pieces`.**  Induction on the cuts. -/
theorem piecesFrom_eq (hfind : find ≠ []) (h : IsScan find limit cs cuts last)
    (done : List (List Char)) :
    piecesFrom find limit done cs = done.reverse ++ (cuts ++ [last]) := by
  induction cuts generalizing limit cs done with
  | nil =>
    have htext : cs = last := h.text.trans List.intercalate_singleton
    rw [piecesFrom_of_stop done (htext ▸ h.finished), htext, List.reverse_cons, List.nil_append]
  | cons p cuts ih =>
    have hlimit : limit ≠ some 0 := fun h0 => Nat.not_succ_le_zero _ (h.within 0 h0)
    rw [piecesFrom_of_isFirst done hfind hlimit h.isFirst, ih h.tail, List.reverse_cons,
      List.append_assoc]
    rfl

theorem pieces_eq (hfind : find ≠ []) (h : IsScan find limit cs cuts last) :
    pieces find limit cs = cuts ++ [last] :=
  h.piecesFrom_eq hfind []

/-- The cuts take no more than the text has. -/
theorem length_le (h : IsScan find limit cs cuts last) :
    cuts.length * find.length ≤ cs.length := by
  induction cuts generalizing limit cs with
  | nil => simp
  | cons p cuts ih =>
    have hrest := ih h.tail
    have hlength := congrArg List.length h.isFirst.text
    rw [List.length_append, List.length_append] at hlength
    rw [List.length_cons, Nat.succ_mul]
    omega

end IsScan

/-- **Every text has a scan.**  A cut at an occurrence leaves less of it. -/
theorem exists_isScan (hfind : find ≠ []) (limit : Option Nat) (cs : List Char) :
    ∃ cuts last, IsScan find limit cs cuts last := by
  by_cases hstop : limit = some 0 ∨ ¬find <:+: cs
  · exact ⟨[], cs, .stop hstop⟩
  · obtain ⟨hlimit, hinfix⟩ := not_or.mp hstop
    match hcut : cut? find cs with
    | none => exact absurd (cut?_eq_none_iff.mp hcut) hinfix
    | some (a, b) =>
      have hfirst := isFirst_of_cut? hcut
      have hshorter : b.length < cs.length := by
        have hpos := List.length_pos_iff.mpr hfind
        have hle := length_of_cutFrom hcut
        omega
      obtain ⟨cuts, last, hscan⟩ := exists_isScan hfind (limit.map (· - 1)) b
      exact ⟨a :: cuts, last, hscan.cons hlimit hfirst⟩
termination_by cs.length

/-- The pieces that are cut off already stand before the pieces of the rest. -/
theorem piecesFrom_eq_append {find : List Char} (hfind : find ≠ []) (limit : Option Nat)
    (done : List (List Char)) (cs : List Char) :
    piecesFrom find limit done cs = done.reverse ++ pieces find limit cs := by
  obtain ⟨cuts, last, hscan⟩ := exists_isScan hfind limit cs
  rw [hscan.piecesFrom_eq hfind, hscan.pieces_eq hfind]

/-- **A scan that is not at its limit cuts at the first occurrence** and goes on behind it. -/
theorem pieces_of_isFirst {find cs a b : List Char} {limit : Option Nat} (hfind : find ≠ [])
    (hlimit : limit ≠ some 0) (h : IsFirst find cs a b) :
    pieces find limit cs = a :: pieces find (limit.map (· - 1)) b := by
  rw [pieces, piecesFrom_of_isFirst [] hfind hlimit h, piecesFrom_eq_append hfind]
  rfl

theorem pieces_ne_nil {find : List Char} (hfind : find ≠ []) (limit : Option Nat) (cs : List Char) :
    pieces find limit cs ≠ [] := by
  obtain ⟨cuts, last, hscan⟩ := exists_isScan hfind limit cs
  rw [hscan.pieces_eq hfind]
  exact List.append_ne_nil_of_right_ne_nil _ (List.cons_ne_nil _ _)

/-! ## Substitution -/

/-- The limit that is left after `count` replacements; one that is not positive is none. -/
def limitLeft (max count : Int) : Option Nat := if max ≤ 0 then none else some (max - count).toNat

/-- A replacement leaves one less of a limit that is not reached. -/
theorem limitLeft_succ {max count : Int} (hmax : max ≤ 0 ∨ count < max) :
    limitLeft max count ≠ some 0 ∧
      (limitLeft max count).map (· - 1) = limitLeft max (count + 1) := by
  rw [limitLeft, limitLeft]
  by_cases hnone : max ≤ 0
  · rw [if_pos hnone, if_pos hnone]
    exact ⟨nofun, rfl⟩
  · rw [if_neg hnone, if_neg hnone]
    have hsucc : (max - count).toNat - 1 = (max - (count + 1)).toNat := by omega
    exact ⟨fun h => absurd (Option.some.inj h) (by omega), congrArg some hsucc⟩

/-- **One step of the scan**: the text up to the first occurrence, the replacement, and what is
written for the rest with one less of the limit. -/
theorem intercalate_pieces_of_cut? {find rest before after : List Char} (hfind : find ≠ [])
    (hcut : cut? find rest = some (before, after)) {max count : Int}
    (hmax : max ≤ 0 ∨ count < max) (replacement : String) :
    String.ofList (replacement.toList.intercalate (pieces find (limitLeft max count) rest))
      = String.ofList before ++ replacement ++ String.ofList
          (replacement.toList.intercalate (pieces find (limitLeft max (count + 1)) after)) := by
  obtain ⟨hlimit, hleft⟩ := limitLeft_succ hmax
  rw [pieces_of_isFirst hfind hlimit (isFirst_of_cut? hcut), hleft,
    List.intercalate_cons_of_ne_nil (pieces_ne_nil hfind _ _), String.ofList_append,
    String.ofList_append, String.ofList_toList]

/-- **The scan of a substitution writes the pieces** of the rest, joined by the replacement, as long
as its limit is not reached. -/
theorem substituteFrom_eq {find : List Char} (hfind : find ≠ []) (replacement out : String)
    {max count : Int} (hcount : 0 ≤ count) (hmax : max ≤ 0 ∨ count < max) (rest : List Char) :
    substituteFrom find hfind replacement max out count rest = out ++
      String.ofList (replacement.toList.intercalate (pieces find (limitLeft max count) rest)) := by
  fun_induction substituteFrom find hfind replacement max out count rest with
  | case1 out count rest hnone =>
    rw [pieces, piecesFrom_of_stop [] (.inr (cut?_eq_none_iff.mp hnone)), List.reverse_singleton,
      List.intercalate_singleton]
  | case2 out count rest before after hcut out' hreached =>
    have hstop : limitLeft max (count + 1) = some 0 := by
      rw [limitLeft, if_neg (by omega)]
      exact congrArg some (by omega)
    rw [intercalate_pieces_of_cut? hfind hcut hmax, hstop, pieces, piecesFrom_of_stop [] (.inl rfl),
      List.reverse_singleton, List.intercalate_singleton]
    simp only [out', String.append_assoc]
  | case3 out count rest before after hcut out' hgo ih =>
    rw [ih (by omega) (by omega), intercalate_pieces_of_cut? hfind hcut hmax]
    simp only [out', String.append_assoc]

/-- **What a substitution writes** are the pieces of the text, joined by the replacement. -/
theorem substitute_eq (s find replacement : String) (max : Int) :
    substitute s find replacement max = String.ofList (replacement.toList.intercalate
      (pieces find.toList (if max ≤ 0 then none else some max.toNat) s.toList)) := by
  rw [substitute]
  split
  · next hempty =>
    rw [hempty, pieces, piecesFrom, if_pos (Or.inr rfl), List.reverse_singleton,
      List.intercalate_singleton, String.ofList_toList]
  · next hfind =>
    rw [substituteFrom_eq hfind replacement "" (Int.le_refl 0) (by omega), limitLeft, Int.sub_zero,
      String.empty_append]

theorem substitute_of_isScan {s find : String} {max : Int} (hfind : find.toList ≠ [])
    (h : IsScan find.toList (if max ≤ 0 then none else some max.toNat) s.toList cuts last)
    (replacement : String) :
    substitute s find replacement max
      = String.ofList (replacement.toList.intercalate (cuts ++ [last])) := by
  rw [substitute_eq, h.pieces_eq hfind]

theorem substitute_empty (s replacement : String) (max : Int) :
    substitute s "" replacement max = s := by
  rw [substitute, dif_pos String.toList_empty]

/-- **A substitution is one scan.**  There is one and only one way to cut the text at occurrences of
`find`, each of them the first one in what is left, until there is none or the limit is reached, a
limit that is not positive being none; with any replacement the result is the pieces joined by it.
An empty `find` and a replacement by `find` itself leave the text as it is. -/
theorem substitute_is_scan (s find : String) (max : Int) :
    let limit := if max ≤ 0 then none else some max.toNat
    (find ≠ "" → ∃ cuts last,
      IsScan find.toList limit s.toList cuts last ∧
        (∀ cuts' last', IsScan find.toList limit s.toList cuts' last' →
          cuts' = cuts ∧ last' = last) ∧
        (∀ replacement, substitute s find replacement max
          = String.ofList (replacement.toList.intercalate (cuts ++ [last]))) ∧
        (max ≤ 0 → ¬find.toList <:+: last) ∧
        (0 < max → cuts.length ≤ max ∧ (cuts.length = max ∨ ¬find.toList <:+: last)) ∧
        cuts.length * find.length ≤ s.length) ∧
      (∀ replacement, substitute s "" replacement max = s) ∧
      substitute s find find max = s := by
  intro limit
  have hnil (hfind : find ≠ "") : find.toList ≠ [] := fun h => hfind (String.toList_eq_nil_iff.mp h)
  refine ⟨fun hfind => ?_, fun replacement => substitute_empty s replacement max, ?_⟩
  · obtain ⟨cuts, last, h⟩ := exists_isScan (hnil hfind) limit s.toList
    refine ⟨cuts, last, h, fun cuts' last' h' => ?_, substitute_of_isScan (hnil hfind) h,
      fun hmax => ?_, fun hmax => ?_, h.length_le⟩
    · have heq := (h'.pieces_eq (hnil hfind)).symm.trans (h.pieces_eq (hnil hfind))
      obtain ⟨hcuts, hlast⟩ := List.append_inj' heq rfl
      exact ⟨hcuts, List.singleton_inj.mp hlast⟩
    · have hlimit : limit = none := if_pos hmax
      refine h.finished.resolve_left fun hreached => ?_
      cases hlimit.symm.trans hreached
    · have hlimit : limit = some max.toNat := if_neg (Int.not_le.mpr hmax)
      have hwithin := h.within _ hlimit
      refine ⟨by omega, h.finished.imp_left fun hreached => ?_⟩
      have hlength := Option.some.inj (hlimit.symm.trans hreached)
      omega
  · by_cases hfind : find = ""
    · rw [hfind, substitute_empty]
    · obtain ⟨cuts, last, h⟩ := exists_isScan (hnil hfind) limit s.toList
      rw [substitute_of_isScan (hnil hfind) h, ← h.text, String.ofList_toList]

/-- Occurrences that overlap are not both replaced, and a replacement in which `find` occurs is not
searched. -/
theorem substitute_is_scan_overlap :
    substitute "aaaaa" "aa" "baab" 0 = "baabbaaba" ∧
      substitute "aaaaa" "aa" "baab" 1 = "baabaaa" := by
  have hfirst : IsFirst "aa".toList "aaaaa".toList [] "aaa".toList := isFirst_of_cut? rfl
  have hsecond : IsFirst "aa".toList "aaa".toList [] "a".toList := isFirst_of_cut? rfl
  have hall : IsScan "aa".toList none "aaaaa".toList [[], []] "a".toList :=
    .cons nofun hfirst (.cons nofun hsecond (.stop (Or.inr (by decide))))
  have hone : IsScan "aa".toList (some 1) "aaaaa".toList [[]] "aaa".toList :=
    .cons nofun hfirst (.stop (Or.inl rfl))
  constructor
  · obtain ⟨cuts, last, -, hunique, hjoin, -⟩ := (substitute_is_scan "aaaaa" "aa" 0).1 (by decide)
    obtain ⟨rfl, rfl⟩ := hunique _ _ hall
    exact (hjoin "baab").trans (by decide)
  · obtain ⟨cuts, last, -, hunique, hjoin, -⟩ := (substitute_is_scan "aaaaa" "aa" 1).1 (by decide)
    obtain ⟨rfl, rfl⟩ := hunique _ _ hone
    exact (hjoin "baab").trans (by decide)

end Formula.Text
