import Formula.Expr.Basic
import Formula.Proofs.Sheet.Corners
import Formula.Proofs.Text.Trimming

/-!
# Proofs/Expr/References — references and the texts of ranges

A text has one **corner** if there is no colon in it, and else two, parted at its first colon
(`HasCorners`).  `ofA1_of_one` and `ofA1_of_two` say what reading makes of either, so that reading a
range and referring to it agree on which of them a text is.  No address is read from a text with a
colon in it (`not_mem_of_ofA1`), and none is written with one (`not_mem_toA1`): a text with a second
colon is no reference, and the text of a range is parted where it was joined.
-/

namespace Formula

/-- **The corners of a text**: the text itself without a colon in it, and else what stands before
and behind the first colon. -/
inductive HasCorners : String → List String → Prop where
  | one (t : String) (ht : ':' ∉ t.toList) : HasCorners t [t]
  | two (s t : String) (hs : ':' ∉ s.toList) : HasCorners (s ++ ":" ++ t) [s, t]

theorem exists_hasCorners (t : String) : ∃ corners, HasCorners t corners := by
  by_cases ht : ':' ∈ t.toList
  · obtain ⟨before, after, hsplit, hbefore⟩ := List.eq_append_cons_of_mem ht
    have htext : t = String.ofList before ++ ":" ++ String.ofList after := by
      rw [← String.toList_inj]
      simp [hsplit]
    refine ⟨[String.ofList before, String.ofList after], ?_⟩
    rw [htext]
    exact .two _ _ (by rwa [String.toList_ofList])
  · exact ⟨[t], .one t ht⟩

/-! ## Colons and addresses -/

namespace Address

open Text (trim isBlank)

/-- **An address is not read from a text with a colon.** -/
theorem not_mem_of_ofA1 {s : String} {a : Address} (h : ofA1 s = .ok a) : ':' ∉ s.toList := by
  obtain ⟨letters, digits, ⟨⟨hletters, d, d', hd, hd', htext⟩, hdigits⟩, -⟩ := ofA1_eq_ok_iff.mp h
  intro hcolon
  have hmem : ':' ∈ (trim s).toList := by
    rw [trim, String.toList_ofList]
    exact Text.mem_trimChars hcolon (by decide)
  have hdollar : ∀ {d : List Char}, Dollar d → ':' ∉ d := by
    rintro _ (_ | _) <;> decide
  rw [htext] at hmem
  simp only [List.mem_append] at hmem
  rcases hmem with ((hmem | hmem) | hmem) | hmem
  · exact hdollar hd hmem
  · exact absurd (hletters.2 _ hmem) (by decide)
  · exact hdollar hd' hmem
  · exact absurd (hdigits.2 _ hmem) (by decide)

/-- An address is written without a colon. -/
theorem not_mem_toA1 {a : Address} (h : a.Writable) : ':' ∉ a.toA1.toList := fun hcolon =>
  absurd (isAlphanum_of_mem_toA1 h hcolon) (by decide)

theorem ofA1_toA1_of_inGrid {a : Address} (h : a.inGrid) : ofA1 a.toA1 = .ok a := by
  have hbounds := h
  rw [inGrid, Bool.and_eq_true, decide_eq_true_iff, decide_eq_true_iff] at hbounds
  rw [ofA1_toA1 (writable_of_inGrid h), if_neg (Nat.not_le.mpr hbounds.2),
    if_neg (Nat.not_le.mpr hbounds.1)]

end Address

/-! ## Reading ranges -/

namespace Range

/-- A text without a colon is read as one address. -/
theorem ofA1_of_one {t : String} (ht : ':' ∉ t.toList) :
    ofA1 t = (Address.ofA1 t).map single := by
  have hdrop : t.toList.dropWhile (· != ':') = [] :=
    List.dropWhile_eq_nil_iff.mpr fun c hc => by
      simpa using fun h : c = ':' => ht (h ▸ hc)
  rw [ofA1, hdrop]
  cases Address.ofA1 t <;> rfl

/-- **A text with a colon is read as two addresses**, the first of which is read first. -/
theorem ofA1_of_two {s : String} (hs : ':' ∉ s.toList) (t : String) :
    ofA1 (s ++ ":" ++ t) =
      (Address.ofA1 s).bind fun a => (Address.ofA1 t).map (spanning a) := by
  have hpass : ∀ c ∈ s.toList, c != ':' := fun c hc => by
    simpa using fun h : c = ':' => hs (h ▸ hc)
  have htext : (s ++ ":" ++ t).toList = s.toList ++ ':' :: t.toList := by simp
  have hbefore : (s ++ ":" ++ t).toList.takeWhile (· != ':') = s.toList := by
    rw [htext, List.takeWhile_append_of_pos hpass]
    exact List.append_nil _
  have hafter : (s ++ ":" ++ t).toList.dropWhile (· != ':') = ':' :: t.toList := by
    rw [htext, List.dropWhile_append_of_pos hpass]
    rfl
  rw [ofA1, hbefore, hafter, String.ofList_toList]
  dsimp only
  rw [String.ofList_toList]
  generalize Address.ofA1 s = first
  generalize Address.ofA1 t = second
  cases first <;> cases second <;> rfl

variable {r : Range}

/-- **Reading gives back the range whose text it is**, if its corners lie in the grid and stand as
they should. -/
theorem ofA1_text (hstart : r.start.inGrid) (hfinish : r.finish.inGrid)
    (hnormal : spanning r.start r.finish = r) : ofA1 r.text = .ok r := by
  have hcolon := Address.not_mem_toA1 (Address.writable_of_inGrid hstart)
  rw [text]
  split
  · next heq =>
    rw [ofA1_of_one hcolon, Address.ofA1_toA1_of_inGrid hstart]
    rw [← heq] at hnormal
    exact congrArg Except.ok hnormal
  · rw [ofA1_of_two hcolon, Address.ofA1_toA1_of_inGrid hstart,
      Address.ofA1_toA1_of_inGrid hfinish]
    exact congrArg Except.ok hnormal

/-- **A range that was read is spanned by two addresses that were read.** -/
theorem exists_corners_of_ofA1 {t : String} (h : ofA1 t = .ok r) :
    ∃ first second a b, Address.ofA1 first = .ok a ∧ Address.ofA1 second = .ok b ∧
      r = spanning a b := by
  obtain ⟨corners, hcorners⟩ := exists_hasCorners t
  cases hcorners with
  | one t ht =>
    rw [ofA1_of_one ht] at h
    cases hread : Address.ofA1 t with
    | error err => rw [hread] at h; cases h
    | ok a =>
      rw [hread] at h
      cases h
      exact ⟨t, t, a, a, hread, hread, rfl⟩
  | two s t hs =>
    rw [ofA1_of_two hs] at h
    cases hfirst : Address.ofA1 s with
    | error err => rw [hfirst] at h; cases h
    | ok a =>
      cases hsecond : Address.ofA1 t with
      | error err => rw [hfirst, hsecond] at h; cases h
      | ok b =>
        rw [hfirst, hsecond] at h
        cases h
        exact ⟨s, t, a, b, hfirst, hsecond, rfl⟩

/-- **A range that was read is spanned by its own corners.** -/
theorem spanning_of_ofA1 {t : String} (h : ofA1 t = .ok r) : spanning r.start r.finish = r := by
  obtain ⟨_, _, a, b, -, -, rfl⟩ := exists_corners_of_ofA1 h
  exact spanning_corners a b

/-- A rectangle that is spanned by its corners has one cell exactly if they are one. -/
theorem size_eq_one_iff (hnormal : spanning r.start r.finish = r) :
    r.size = 1 ↔ r.start = r.finish := by
  have hrow := congrArg (fun r => (r.start.row.toNat, r.finish.row.toNat)) hnormal
  have hcolumn := congrArg (fun r => (r.start.column.toNat, r.finish.column.toNat)) hnormal
  simp only [spanning, toNat_min, toNat_max, Prod.mk.injEq] at hrow hcolumn
  have hcorners : r.start = r.finish ↔
      r.start.row.toNat = r.finish.row.toNat ∧ r.start.column.toNat = r.finish.column.toNat := by
    rw [UInt32.toNat_inj, UInt32.toNat_inj, ← Address.mk.injEq]
  rw [hcorners, size]
  constructor
  · intro h
    have hheight := Nat.eq_one_of_mul_eq_one_right h
    have hwidth := Nat.eq_one_of_mul_eq_one_left h
    rw [height] at hheight
    rw [width] at hwidth
    omega
  · rintro ⟨hrows, hcolumns⟩
    rw [height, width, hrows, hcolumns, Nat.add_sub_cancel_left, Nat.add_sub_cancel_left]

end Range

/-! ## References -/

namespace Expr

/-- A text with one corner refers to a cell. -/
theorem reference_of_one {t : String} (ht : ':' ∉ t.toList) :
    reference t =
      match Address.ofA1 t with
      | .ok a => .ok (.cell a)
      | .error err => .error (.address err) := by
  have hcolon : t.toList.contains ':' = false := by simpa using ht
  rw [reference, Range.ofA1_of_one ht, hcolon]
  cases Address.ofA1 t with
  | error err => rfl
  | ok a => exact congrArg (fun r => Except.ok (Expr.cell r.start)) (Range.single_eq a)

/-- **A text with two corners refers to the range that they span.** -/
theorem reference_of_two {s : String} (hs : ':' ∉ s.toList) (t : String) :
    reference (s ++ ":" ++ t) =
      match Address.ofA1 s with
      | .error err => .error (.address err)
      | .ok a =>
        match Address.ofA1 t with
        | .error err => .error (.address err)
        | .ok b => .ok (.range (Range.spanning a b).start (Range.spanning a b).finish) := by
  have hcolon : (s ++ ":" ++ t).toList.contains ':' = true := by simp
  rw [reference, Range.ofA1_of_two hs, hcolon]
  generalize Address.ofA1 s = first
  generalize Address.ofA1 t = second
  cases first <;> cases second <;> rfl

/-- **A text of which a corner cannot be read is no reference**, and the first such corner says
why. -/
theorem reference_eq_error_iff {t : String} {corners : List String} {e : EvalError}
    (h : HasCorners t corners) :
    reference t = .error e ↔
      ∃ corner err, IsFirst (fun c => ∃ err, Address.ofA1 c = .error err) corners corner ∧
        Address.ofA1 corner = .error err ∧ e = .address err := by
  cases h with
  | one t ht =>
    rw [reference_of_one ht]
    cases hread : Address.ofA1 t <;> simp [isFirst_cons_iff, not_isFirst_nil, hread, eq_comm]
  | two s t hs =>
    rw [reference_of_two hs]
    cases hfirst : Address.ofA1 s <;> cases hsecond : Address.ofA1 t <;>
      simp [isFirst_cons_iff, not_isFirst_nil, hfirst, hsecond, eq_comm]

/-- **A text with a second colon is no reference.** -/
theorem exists_reference_eq_error {t : String} (h : 2 ≤ t.toList.count ':') :
    ∃ err, reference t = .error (.address err) := by
  obtain ⟨corners, hcorners⟩ := exists_hasCorners t
  cases hcorners with
  | one t ht =>
    rw [List.count_eq_zero_of_not_mem ht] at h
    omega
  | two s t hs =>
    have htext : (s ++ ":" ++ t).toList = s.toList ++ ':' :: t.toList := by simp
    rw [htext, List.count_append, List.count_eq_zero_of_not_mem hs, List.count_cons_self] at h
    have hcolon : ':' ∈ t.toList := List.count_pos_iff.mp (by omega)
    rw [reference_of_two hs]
    cases Address.ofA1 s with
    | error err => exact ⟨err, rfl⟩
    | ok a =>
      cases hread : Address.ofA1 t with
      | error err => exact ⟨err, rfl⟩
      | ok b => exact absurd hcolon (Address.not_mem_of_ofA1 hread)

/-! ## The headline -/

/-- **References and the texts of ranges agree.**  The text of a range in the grid is read as that
range, and refers to its cell or to the range itself.  A text is a reference exactly if it is read
as a range: with a colon in it to a range whose corners stand as they should, and without one to a
cell.  What is no reference is so for the first of its corners that is no address, and with two
colons nothing is one. -/
theorem references_read_ranges :
    (∀ r : Range, r.start.inGrid → r.finish.inGrid → Range.spanning r.start r.finish = r →
      Range.ofA1 r.text = .ok r ∧
        reference r.text = .ok (if r.size = 1 then .cell r.start else .range r.start r.finish)) ∧
    (∀ t : String, (∃ e, reference t = .ok e) ↔ ∃ r, Range.ofA1 t = .ok r) ∧
    (∀ (t : String) (e : Expr), reference t = .ok e →
      (':' ∈ t.toList → ∃ r, Range.ofA1 t = .ok r ∧ Range.spanning r.start r.finish = r ∧
        e = .range r.start r.finish) ∧
      (':' ∉ t.toList → ∃ a, Address.ofA1 t = .ok a ∧ e = .cell a)) ∧
    (∀ (t : String) (e : EvalError), reference t = .error e ↔
      ∃ corners corner err, HasCorners t corners ∧
        IsFirst (fun c => ∃ err, Address.ofA1 c = .error err) corners corner ∧
        Address.ofA1 corner = .error err ∧ e = .address err) ∧
    ∀ t : String, 2 ≤ t.toList.count ':' → ∃ err, reference t = .error (.address err) := by
  refine ⟨fun r hstart hfinish hnormal => ⟨Range.ofA1_text hstart hfinish hnormal, ?_⟩,
    fun t => ?_, fun t e h => ⟨fun hcolon => ?_, fun hcolon => ?_⟩, fun t e => ⟨fun h => ?_, ?_⟩,
    fun t => exists_reference_eq_error⟩
  · have hwritable := Address.writable_of_inGrid hstart
    simp only [Range.size_eq_one_iff hnormal, Range.text]
    split
    · rw [reference_of_one (Address.not_mem_toA1 hwritable), Address.ofA1_toA1_of_inGrid hstart]
    · rw [reference_of_two (Address.not_mem_toA1 hwritable), Address.ofA1_toA1_of_inGrid hstart,
        Address.ofA1_toA1_of_inGrid hfinish]
      dsimp only
      rw [hnormal]
  · rw [reference]
    cases Range.ofA1 t <;> simp
  · rw [reference, List.contains_iff_mem.mpr hcolon] at h
    cases hread : Range.ofA1 t with
    | error err =>
      rw [hread] at h
      cases h
    | ok r =>
      rw [hread] at h
      cases h
      exact ⟨r, rfl, Range.spanning_of_ofA1 hread, rfl⟩
  · rw [reference_of_one hcolon] at h
    cases hread : Address.ofA1 t with
    | error err =>
      rw [hread] at h
      cases h
    | ok a =>
      rw [hread] at h
      cases h
      exact ⟨a, rfl, rfl⟩
  · obtain ⟨corners, hcorners⟩ := exists_hasCorners t
    obtain ⟨corner, err, hfirst, hread, he⟩ := (reference_eq_error_iff hcorners).mp h
    exact ⟨corners, corner, err, hcorners, hfirst, hread, he⟩
  · rintro ⟨corners, corner, err, hcorners, hfirst, hread, he⟩
    exact (reference_eq_error_iff hcorners).mpr ⟨corner, err, hfirst, hread, he⟩

/-- The text of a range of four cells and that of the last cell; corners in the wrong order, with a
dollar sign and a blank; two corners of which both fail, and one colon too many. -/
theorem references_read_ranges_corners :
    let r : Range := ⟨⟨1, 26⟩, ⟨2, 27⟩⟩
    let last : Range := .single ⟨1048575, 16383⟩
    Range.ofA1 r.text = .ok r ∧ reference r.text = .ok (.range ⟨1, 26⟩ ⟨2, 27⟩) ∧
      reference last.text = .ok (.cell ⟨1048575, 16383⟩) ∧
      (∃ s, Range.ofA1 "c$4: A1" = .ok s ∧ Range.spanning s.start s.finish = s) ∧
      reference "B:7" = .error (.address (.missingRow "B")) ∧
      ∃ err, reference "A1:B2:C3" = .error (.address err) := by
  intro r last
  obtain ⟨hwritten, -, hread, hfailed, hcolons⟩ := references_read_ranges
  have hr := hwritten r (by decide) (by decide) (by decide)
  have hlast : reference last.text = .ok (.cell ⟨1048575, 16383⟩) :=
    (hwritten last (by decide) (by decide) (by decide)).2.trans
      (congrArg Except.ok (if_pos (by decide)))
  have hcorners : reference "c$4: A1" = .ok (.range ⟨0, 0⟩ ⟨3, 2⟩) := rfl
  have hfirst : Address.ofA1 "B" = .error (.missingRow "B") := by decide
  obtain ⟨s, hs, hnormal, -⟩ := (hread "c$4: A1" _ hcorners).1 (by decide)
  refine ⟨hr.1, hr.2, hlast, ⟨s, hs, hnormal⟩, (hfailed _ _).mpr ?_, hcolons _ (by decide)⟩
  have hnone : ∀ c ∈ ([] : List String), ¬∃ err, Address.ofA1 c = .error err :=
    fun c hc => absurd hc List.not_mem_nil
  exact ⟨["B", "7"], "B", .missingRow "B", .two "B" "7" (by decide),
    ⟨[], ["7"], rfl, ⟨_, hfirst⟩, hnone⟩, hfirst, rfl⟩

end Expr

end Formula
