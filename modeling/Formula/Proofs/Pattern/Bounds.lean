import Formula.Proofs.Pattern.Matching
import Formula.Proofs.Pattern.Wrapping

/-!
# Proofs/Pattern/Bounds — the repetitions of a pattern have their bounds in order

The search for matches leaves the upper bound of a repetition out of account where the lower one is
greater.  The reader refuses such bounds, so every pattern that it reads is `Ordered`.
-/

namespace Formula.Pattern

variable {st st' : State} {cs rest : List Char}

/-- What an item matches has its bounds in order. -/
def Item.Ordered (i : Item) : Prop := i.toNode.regex.Ordered

/-- **All that has been read has its bounds in order.** -/
structure State.Ordered (st : State) : Prop where
  items : ∀ i ∈ st.items, i.Ordered
  branches : ∀ b ∈ st.branches, b.regex.Ordered
  groups : ∀ g ∈ st.groups, (∀ i ∈ g.items, i.Ordered) ∧ ∀ b ∈ g.branches, b.regex.Ordered

theorem literalRegex_ordered {flags : Flags} (c : Char) : (literalRegex flags c).Ordered := by
  rw [literalRegex]
  split_ifs <;> trivial

theorem sequence_ordered {items : List Item} (h : ∀ i ∈ items, i.Ordered) :
    (sequence items).regex.Ordered := by
  have hfold (items : List Item) (acc : Node) (h : ∀ i ∈ items, i.Ordered)
      (hacc : acc.regex.Ordered) : (items.foldl (fun acc i =>
        ⟨.seq i.toNode.regex acc.regex, max acc.depth (i.toNode.depth + 1)⟩)
          acc).regex.Ordered := by
    induction items generalizing acc with
    | nil => exact hacc
    | cons i items ih =>
      rw [List.forall_mem_cons] at h
      exact ih _ h.2 ⟨h.1, hacc⟩
  rcases items with _ | ⟨i, _ | ⟨j, items⟩⟩
  · trivial
  · exact h i (List.mem_singleton_self i)
  · rw [List.forall_mem_cons] at h
    exact hfold _ _ h.2 h.1

theorem alternatives_ordered {last : Node} {branches : List Node} (hlast : last.regex.Ordered)
    (h : ∀ b ∈ branches, b.regex.Ordered) : (alternatives last branches).regex.Ordered := by
  have hfold (branches : List Node) (acc : Node) (h : ∀ b ∈ branches, b.regex.Ordered)
      (hacc : acc.regex.Ordered) : (branches.foldl (fun acc b =>
        ⟨.alt b.regex acc.regex, max acc.depth (b.depth + 1)⟩) acc).regex.Ordered := by
    induction branches generalizing acc with
    | nil => exact hacc
    | cons b branches ih =>
      rw [List.forall_mem_cons] at h
      exact ih _ h.2 ⟨h.1, hacc⟩
  cases branches with
  | nil => exact hlast
  | cons b branches => exact hfold _ _ h hlast

namespace State.Ordered

theorem body (h : st.Ordered) : st.body.regex.Ordered :=
  alternatives_ordered (sequence_ordered h.items) h.branches

theorem push (h : st.Ordered) {n : Node} (hn : n.regex.Ordered) : (st.push n).Ordered :=
  ⟨List.forall_mem_cons.mpr ⟨hn, h.items⟩, h.branches, h.groups⟩

theorem openGroup (h : st.Ordered) (flags : Flags) : (st.open flags).Ordered :=
  ⟨List.forall_mem_nil _, List.forall_mem_nil _,
    List.forall_mem_cons.mpr ⟨⟨h.items, h.branches⟩, h.groups⟩⟩

theorem close (h : st.Ordered) (hclose : st.close = some st') : st'.Ordered := by
  rw [State.close] at hclose
  cases hgroups : st.groups with
  | nil => rw [hgroups] at hclose; cases hclose
  | cons g groups =>
    rw [hgroups] at hclose
    cases hclose
    have hall := List.forall_mem_cons.mp (hgroups ▸ h.groups)
    exact ⟨List.forall_mem_cons.mpr ⟨h.body, hall.1.1⟩, hall.1.2, hall.2⟩

theorem repeated (h : st.Ordered) {least : Nat} {most : Option Nat}
    (hmost : ∀ m ∈ most, least ≤ m) (hrepeat : st.repeat least most = some st') :
    st'.Ordered := by
  rw [State.repeat] at hrepeat
  rcases hitems : st.items with _ | ⟨n | _, items⟩
  · rw [hitems] at hrepeat; cases hrepeat
  · rw [hitems] at hrepeat
    cases hrepeat
    have hall := List.forall_mem_cons.mp (hitems ▸ h.items)
    exact ⟨List.forall_mem_cons.mpr ⟨⟨hall.1, hmost⟩, hall.2⟩, h.branches, h.groups⟩
  · rw [hitems] at hrepeat; cases hrepeat

end State.Ordered

/-! ## Readers and what they yield -/

section Yields

variable {α β γ : Type} {P : α → Prop} {Q : β → Prop} {f f' : Reader α}

/-- All that a reader reads has a property. -/
def Yields (P : α → Prop) (f : Reader α) : Prop := ∀ ⦃cs x rest⦄, f cs = some (x, rest) → P x

theorem Yields.fail : Yields P fun _ => none := by
  intro cs x rest h
  cases h

theorem Yields.take_nothing {x : α} (hx : P x) : Yields P fun cs => some (x, cs) := by
  intro cs y rest h
  cases h
  exact hx

theorem Yields.after {d : Char} (hf : Yields P f) (hf' : Yields P f') :
    Yields P (after d f f') := by
  intro cs x rest h
  cases cs with
  | nil => exact hf' h
  | cons c cs =>
    by_cases hc : c = d
    · subst hc
      rw [after_self] at h
      exact hf h
    · rw [after_of_ne hc] at h
      exact hf' h

theorem Yields.andThen {g : α → Reader β} (hg : ∀ x, Yields Q (g x)) :
    Yields Q (andThen f g) := by
  intro cs y rest h
  obtain ⟨p, -, hp⟩ := Option.bind_eq_some_iff.mp h
  exact hg p.1 hp

theorem Yields.made {φ : α → Option γ} {ψ : γ → β} (h : ∀ x y, φ x = some y → Q (ψ y)) :
    Yields Q (made φ ψ f) := by
  intro cs y rest hy
  obtain ⟨p, -, hp⟩ := Option.bind_eq_some_iff.mp hy
  obtain ⟨z, hz, hout⟩ := Option.bind_eq_some_iff.mp hp
  cases hout
  exact h p.1 z hz

end Yields

/-- The bounds that are read are in order. -/
theorem yields_readRange {spaced : Bool} :
    Yields (fun bounds => ∀ m ∈ bounds.2, bounds.1 ≤ m) (readRange spaced) := by
  refine .andThen fun least => .after (.take_nothing fun m hm => ?_) <| .after ?_ .fail
  · exact (Option.some.inj hm).le
  · have hupper : Yields (fun bounds => ∀ m ∈ bounds.2, bounds.1 ≤ m) <|
        after '}' (fun cs => some ((least, none), cs)) <| andThen (readBound spaced) fun most =>
          after '}' (fun cs => if least ≤ most then some ((least, some most), cs) else none)
            fun _ => none := by
      refine .after (.take_nothing fun m hm => by cases hm) <| .andThen fun most => .after ?_ .fail
      split_ifs with hle
      · exact .take_nothing fun m hm => Option.some.inj hm ▸ hle
      · exact .fail
    exact fun cs x rest h => hupper h

namespace State.Ordered

theorem readOpen (h : st.Ordered) : Yields State.Ordered st.readOpen := by
  have hopen := h.openGroup st.flags
  have hnamed : Yields State.Ordered st.openNamed := by
    rw [openNamed_eq]
    exact .made fun name name' _ => ⟨hopen.items, hopen.branches, hopen.groups⟩
  have hsetting (setting : Flags × List Char) : Yields State.Ordered (st.endSetting setting) := by
    intro cs x rest hx
    cases cs with
    | nil => cases hx
    | cons c cs =>
      rw [State.endSetting] at hx
      split_ifs at hx
      · cases hx
        exact ⟨List.forall_mem_cons.mpr ⟨trivial, h.items⟩, h.branches, h.groups⟩
      · cases hx
        exact h.openGroup setting.1
  have hgroup : Yields State.Ordered st.readGroup :=
    .after (.after .fail <| .after .fail <| .after (.after .fail <| .after .fail hnamed) <|
      .after (.after hnamed .fail) (.andThen hsetting)) (.take_nothing hopen)
  rw [readOpen_eq]
  exact fun cs x rest hx => hgroup hx

theorem pushAtom (h : st.Ordered) {a : Atom} (hpush : st.pushAtom a = some st') :
    st'.Ordered := by
  cases a with
  | literal c byte =>
    obtain ⟨d, -, rfl⟩ := Option.map_eq_some_iff.mp hpush
    exact h.push (literalRegex_ordered d)
  | set s =>
    cases hpush
    exact h.push trivial
  | look l =>
    cases hpush
    exact h.push trivial

/-- **Every element keeps the bounds in order.** -/
theorem step (h : st.Ordered) (c : Char) : Yields State.Ordered (st.step c) := by
  have hrepeat {least : Nat} {most : Option Nat} (hmost : ∀ m ∈ most, least ≤ m) :
      Yields State.Ordered fun cs =>
        (st.repeat least most).map fun st => (st, dropQuestion cs) := by
    intro cs x rest hx
    obtain ⟨st', hst', hp⟩ := Option.map_eq_some_iff.mp hx
    cases hp
    exact h.repeated hmost hst'
  cases c using element_cases with
  | opening => exact h.readOpen
  | closing =>
    intro cs x rest hx
    obtain ⟨st', hst', hp⟩ := Option.map_eq_some_iff.mp hx
    cases hp
    exact h.close hst'
  | bar =>
    exact .take_nothing ⟨List.forall_mem_nil _,
      List.forall_mem_cons.mpr ⟨sequence_ordered h.items, h.branches⟩, h.groups⟩
  | bracket =>
    rw [step_bracket]
    refine .made fun n _ hn => ?_
    cases hn
    exact h.push trivial
  | question => exact hrepeat fun m _ => Nat.zero_le m
  | star => exact hrepeat fun m _ => Nat.zero_le m
  | plus => exact hrepeat fun m hm => by cases hm
  | brace =>
    rw [step_brace]
    intro cs x rest hx
    obtain ⟨bounds, hbounds, hx⟩ := Option.bind_eq_some_iff.mp hx
    obtain ⟨st', hst', hp⟩ := Option.bind_eq_some_iff.mp hx
    cases hp
    exact h.repeated (yields_readRange hbounds) hst'
  | backslash =>
    rw [step_backslash]
    exact .made fun a st' hpush => h.pushAtom hpush
  | dot =>
    intro cs x rest hx
    rw [State.step] at hx
    split_ifs at hx
    cases hx
    exact h.push trivial
  | caret => exact .take_nothing (h.push trivial)
  | dollar => exact .take_nothing (h.push trivial)
  | plain c hplain =>
    rw [funext (step_of_plain hplain)]
    exact .take_nothing (h.push (literalRegex_ordered c))

end State.Ordered

theorem Reads.ordered (hreads : Reads st cs st') (h : st.Ordered) : st'.Ordered := by
  induction hreads with
  | done => exact h
  | @next st st₁ st₂ cs rest hnext _ ih =>
    refine ih ?_
    rw [State.next] at hnext
    cases hcs : skipSpaced st.flags.spaced cs with
    | nil => rw [hcs] at hnext; cases hnext
    | cons c more =>
      rw [hcs] at hnext
      exact h.step c hnext

/-- **A pattern that is read has the bounds of its repetitions in order.** -/
theorem Node.ordered_of_ofChars? {n : Node} (h : Node.ofChars? cs = some n) : n.regex.Ordered := by
  obtain ⟨st, hst, -, rfl⟩ := Node.ofChars?_eq_some_iff.mp h
  have hempty : ({} : State).Ordered :=
    ⟨List.forall_mem_nil _, List.forall_mem_nil _, List.forall_mem_nil _⟩
  exact (hst.ordered hempty).body

end Formula.Pattern
