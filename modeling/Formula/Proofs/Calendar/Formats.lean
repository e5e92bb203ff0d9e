import Formula.Proofs.Calendar.Layouts

/-!
# Proofs/Calendar/Formats — a text of a date has one reading

Nine formats are tried, and more than one may accept a text.  `DateTime.ofText?_one_reading` says
that this does not matter: all that accept it find the same date and time, the one that the grammar
has the text denote, so they may be tried in any order.

A fraction is optional where it is read at all, so the formats without one find nothing that those
with it do not.  The others are told apart by the separators of the text: `formatFor` chooses one of
them by counting, and it is the only one that can accept the text (`Denotes.formatFor_read?`).
-/

namespace Formula.Calendar

open Formula.Text (trimChars trimChars_append_blanks)

/-! ## Formats -/

/-- **A format**: a layout, and the date-time that its fields make. -/
structure Format where
  layout : List Part
  make : Reading → Option DateTime

/-- Read a text in a format. -/
def Format.read? (f : Format) (cs : List Char) : Option DateTime :=
  (readLayout {} cs f.layout).bind f.make

/-- A date, at midnight. -/
def dateFormat : Format := ⟨dateLayout, fun r => r.date?.map .atMidnight⟩

/-- A time, on the day of the Unix epoch. -/
def timeFormat (layout : List Part) : Format :=
  ⟨layout, fun r => r.time?.map fun t => ⟨Date.epoch, t⟩⟩

/-- A date with a time. -/
def dateTimeFormat (layout : List Part) : Format := ⟨layout, Reading.dateTime?⟩

/-- **The formats of the language.** -/
def formats : List Format :=
  dateTimeLayouts.map dateTimeFormat ++ dateFormat :: timeLayouts.map timeFormat

/-- The formats that the separators of a text admit. -/
def admitted (cs : List Char) : List Format :=
  match cs.contains '-', cs.contains ':' with
  | true, true => dateTimeLayouts.map dateTimeFormat
  | true, false => [dateFormat]
  | false, true => timeLayouts.map timeFormat
  | false, false => []

/-- Reading a date tries the formats that its separators admit. -/
theorem ofText?_eq_findSome? (s : String) :
    DateTime.ofText? s
      = (admitted (trimChars s.toList)).findSome? fun f => f.read? (trimChars s.toList) := by
  rw [DateTime.ofText?, admitted]
  generalize trimChars s.toList = cs
  cases cs.contains '-' <;> cases cs.contains ':'
  case true.true =>
    rw [List.findSome?_map]
    rfl
  case true.false =>
    rw [List.findSome?_singleton]
    exact Option.map_bind.trans rfl
  case false.true =>
    rw [List.findSome?_map, List.map_findSome?]
    refine congrArg (List.findSome? · timeLayouts) (funext fun layout => ?_)
    exact Option.map_bind
  case false.false => rfl

/-! ## The format of a text -/

variable {cs : List Char}

/-- **The format that the separators of a text leave.** -/
def formatFor (cs : List Char) : Format :=
  if '-' ∈ cs then
    if cs.count ':' = 0 then dateFormat
    else if cs.count ':' = 1 then dateTimeFormat (dateLayout ++ [.blanks] ++ clockLayout)
    else if 'T' ∈ cs then
      dateTimeFormat (dateLayout ++ [.char 'T'] ++ secondsLayout ++ [.fraction])
    else dateTimeFormat (dateLayout ++ [.blanks] ++ secondsLayout ++ [.fraction])
  else if cs.count ':' = 1 then timeFormat clockLayout
  else timeFormat (secondsLayout ++ [.fraction])

/-- A text that denotes a date has a separator, and the formats that it admits are those that may be
left. -/
theorem formatFor_mem_admitted (h : '-' ∈ cs ∨ cs.count ':' ≠ 0) : formatFor cs ∈ admitted cs := by
  rw [formatFor, admitted]
  by_cases hhyphen : '-' ∈ cs
  · rw [if_pos hhyphen, List.contains_iff_mem.mpr hhyphen]
    by_cases hcolon : cs.count ':' = 0
    · have hnone : cs.contains ':' = false := by
        simpa [List.contains_iff_mem] using List.count_eq_zero.mp hcolon
      rw [if_pos hcolon, hnone]
      exact List.mem_singleton_self _
    · have hsome : cs.contains ':' = true :=
        List.contains_iff_mem.mpr (List.count_pos_iff.mp (Nat.pos_of_ne_zero hcolon))
      rw [if_neg hcolon, hsome]
      split_ifs <;> simp [dateTimeLayouts]
  · have hnone : cs.contains '-' = false := by simpa [List.contains_iff_mem] using hhyphen
    have hsome : cs.contains ':' = true := List.contains_iff_mem.mpr
      (List.count_pos_iff.mp (Nat.pos_of_ne_zero (h.resolve_left hhyphen)))
    rw [if_neg hhyphen, hnone, hsome]
    split_ifs <;> simp [timeLayouts]

/-! ## What the formats read -/

variable {x y : DateTime} {layout : List Part} {writes : List Char → TimeOfDay.Fields → Prop}

theorem dateFormat_read?_iff :
    dateFormat.read? cs = some x ↔ ∃ k d, WritesDate k cs d.fields ∧ .atMidnight d = x := by
  have hread : dateFormat.read? cs
      = ((readLayout {} cs dateLayout).bind Reading.date?).map .atMidnight := Option.map_bind.symm
  rw [hread, Option.map_eq_some_iff]
  constructor
  · rintro ⟨d, hd, rfl⟩
    obtain ⟨k, hwrites⟩ := bind_date?_iff.mp hd
    exact ⟨k, d, hwrites, rfl⟩
  · rintro ⟨k, d, hwrites, rfl⟩
    exact ⟨d, bind_date?_iff.mpr ⟨k, hwrites⟩, rfl⟩

theorem ReadsTime.timeFormat_read?_iff (h : ReadsTime layout writes) :
    (timeFormat layout).read? cs = some x ↔ ∃ t, writes cs t.fields ∧ ⟨Date.epoch, t⟩ = x := by
  have hread : (timeFormat layout).read? cs
      = ((readLayout {} cs layout).bind Reading.time?).map fun t => ⟨Date.epoch, t⟩ :=
    Option.map_bind.symm
  rw [hread, Option.map_eq_some_iff]
  exact exists_congr fun t => and_congr_left' h.bind_time?_iff

/-- **The format that the separators leave reads what the text denotes.** -/
theorem Denotes.formatFor_read? (h : Denotes cs x) : (formatFor cs).read? cs = some x := by
  cases h with
  | date hdate =>
    have hcolon := List.count_eq_zero_of_not_mem (hdate.not_mem separator_colon (by decide))
    rw [formatFor, if_pos hdate.hyphen_mem, if_pos hcolon]
    exact dateFormat_read?_iff.mpr ⟨_, _, hdate, rfl⟩
  | time htime =>
    rcases htime with hminute | hsecond
    · rw [formatFor, if_neg (hminute.1.not_mem separator_hyphen (by decide)),
        if_pos hminute.1.count_colon]
      exact readsTime_minute.timeFormat_read?_iff.mpr ⟨_, hminute, rfl⟩
    · rw [formatFor, if_neg (hsecond.not_mem separator_hyphen (by decide)),
        if_neg (by rw [hsecond.count_colon]; decide)]
      exact readsTime_second.timeFormat_read?_iff.mpr ⟨_, hsecond, rfl⟩
  | @spaced k a b d t hdate hday htime =>
    have hhyphen : '-' ∈ a ++ b := List.mem_append_left b hdate.hyphen_mem
    have hcolon : (a ++ b).count ':' = b.count ':' := by
      rw [List.count_append,
        List.count_eq_zero_of_not_mem (hdate.not_mem separator_colon (by decide)), Nat.zero_add]
    rcases htime with hminute | hsecond
    · rw [formatFor, if_pos hhyphen, hcolon, hminute.1.count_colon, if_neg (by decide), if_pos rfl]
      exact readsTime_spacedMinute.bind_dateTime?_iff.mpr ⟨k, a, b, rfl, hdate, hday, hminute⟩
    · have hT : 'T' ∉ a ++ b := by
        simp [hdate.not_mem separator_T (by decide), hsecond.not_mem separator_T (by decide)]
      rw [formatFor, if_pos hhyphen, hcolon, hsecond.count_colon, if_neg (by decide),
        if_neg (by decide), if_neg hT]
      exact readsTime_spacedSecond.bind_dateTime?_iff.mpr ⟨k, a, b, rfl, hdate, hday, hsecond⟩
  | @lettered k a b d t hdate hsecond =>
    have hhyphen : '-' ∈ a ++ 'T' :: b := List.mem_append_left _ hdate.hyphen_mem
    have hT : 'T' ∈ a ++ 'T' :: b := List.mem_append_right a List.mem_cons_self
    have hcolon : (a ++ 'T' :: b).count ':' = 2 := by
      rw [List.count_append, List.count_cons_of_ne (by decide), hsecond.count_colon,
        List.count_eq_zero_of_not_mem (hdate.not_mem separator_colon (by decide))]
    rw [formatFor, if_pos hhyphen, hcolon, if_neg (by decide), if_neg (by decide), if_pos hT]
    exact readsTime_lettered.bind_dateTime?_iff.mpr
      ⟨k, a, 'T' :: b, rfl, hdate, Or.inr (not_begins_cons (by decide)), b, rfl, hsecond⟩

/-- A text that is read without a fraction is read with an optional one. -/
theorem readLayout_append_fraction {r r' : Reading} (h : readLayout r cs layout = some r') :
    readLayout r cs (layout ++ [.fraction]) = some r' := by
  induction layout generalizing r cs with
  | nil =>
    obtain ⟨rfl, rfl⟩ := readLayout_nil_iff.mp h
    rfl
  | cons part layout ih =>
    rw [readLayout] at h
    rw [List.cons_append, readLayout]
    cases hpart : readPart r cs part with
    | none =>
      rw [hpart] at h
      cases h
    | some found =>
      rw [hpart] at h
      exact ih h

theorem Format.read?_append_fraction {make : Reading → Option DateTime}
    (h : Format.read? ⟨layout, make⟩ cs = some x) :
    Format.read? ⟨layout ++ [.fraction], make⟩ cs = some x := by
  obtain ⟨r, hread, hmake⟩ := Option.bind_eq_some_iff.mp h
  exact Option.bind_eq_some_iff.mpr ⟨r, readLayout_append_fraction hread, hmake⟩

theorem Denotes.of_timeFormat (h : ReadsTime layout writes)
    (hwrites : ∀ {text f}, writes text f → WritesTime text f)
    (hread : (timeFormat layout).read? cs = some x) : Denotes cs x := by
  obtain ⟨t, ht, rfl⟩ := h.timeFormat_read?_iff.mp hread
  exact .time (hwrites ht)

theorem Denotes.of_spaced (h : ReadsTime layout writes)
    (hwrites : ∀ {text f}, writes text f → WritesTime text f)
    (hread : (dateTimeFormat (dateLayout ++ layout)).read? cs = some x) : Denotes cs x := by
  obtain ⟨k, a, b, rfl, hdate, hday, htime⟩ := h.bind_dateTime?_iff.mp hread
  exact .spaced hdate hday (hwrites htime)

theorem Denotes.of_lettered
    (hread : (dateTimeFormat (dateLayout ++ .char 'T' :: (secondsLayout ++ [.fraction]))).read? cs
      = some x) : Denotes cs x := by
  obtain ⟨k, a, _, rfl, hdate, -, b, rfl, hsecond⟩ := readsTime_lettered.bind_dateTime?_iff.mp hread
  exact .lettered hdate hsecond

/-- **What a format reads, the text denotes.** -/
theorem Denotes.of_read? {f : Format} (hf : f ∈ formats) (h : f.read? cs = some x) :
    Denotes cs x := by
  simp only [formats, dateTimeLayouts, timeLayouts, List.map_cons, List.map_nil, List.cons_append,
    List.nil_append, List.mem_cons, List.not_mem_nil, or_false] at hf
  rcases hf with rfl | rfl | rfl | rfl | rfl | rfl | rfl | rfl | rfl
  · exact .of_spaced readsTime_spacedSecond Or.inr (Format.read?_append_fraction h)
  · exact .of_spaced readsTime_spacedSecond Or.inr h
  · exact .of_lettered (Format.read?_append_fraction h)
  · exact .of_lettered h
  · exact .of_spaced readsTime_spacedMinute Or.inl h
  · obtain ⟨k, d, hdate, rfl⟩ := dateFormat_read?_iff.mp h
    exact .date hdate
  · exact .of_timeFormat readsTime_second Or.inr (Format.read?_append_fraction h)
  · exact .of_timeFormat readsTime_second Or.inr h
  · exact .of_timeFormat readsTime_minute Or.inl h

theorem Denotes.unique (hx : Denotes cs x) (hy : Denotes cs y) : x = y :=
  Option.some.inj (hx.formatFor_read?.symm.trans hy.formatFor_read?)

theorem Denotes.has_separator (h : Denotes cs x) : '-' ∈ cs ∨ cs.count ':' ≠ 0 := by
  cases h with
  | date hdate => exact Or.inl hdate.hyphen_mem
  | time htime => exact Or.inr htime.count_colon
  | spaced hdate => exact Or.inl (List.mem_append_left _ hdate.hyphen_mem)
  | lettered hdate => exact Or.inl (List.mem_append_left _ hdate.hyphen_mem)

/-- What denotes a date and has no colon is a date without a time. -/
theorem Denotes.exists_date (h : Denotes cs x) (hcolon : cs.count ':' = 0) :
    ∃ k f, WritesDate k cs f := by
  cases h with
  | date hdate => exact ⟨_, _, hdate⟩
  | time htime => exact absurd hcolon htime.count_colon
  | spaced _ _ htime =>
    rw [List.count_append] at hcolon
    exact absurd (Nat.eq_zero_of_add_eq_zero_left hcolon) htime.count_colon
  | @lettered k a b d t _ hsecond =>
    rw [List.count_append, List.count_cons_of_ne (by decide), hsecond.count_colon] at hcolon
    omega

/-- **The order in which formats are tried does not matter**, nor which are tried beside those that
the separators admit. -/
theorem findSome?_formats_eq_some_iff {order : List Format} (hadmitted : admitted cs ⊆ order)
    (horder : order ⊆ formats) :
    order.findSome? (fun f => f.read? cs) = some x ↔ Denotes cs x := by
  have hsound {y : DateTime} (hy : order.findSome? (fun f => f.read? cs) = some y) :
      Denotes cs y := by
    obtain ⟨f, hf, hread⟩ := List.exists_of_findSome?_eq_some hy
    exact .of_read? (horder hf) hread
  refine ⟨hsound, fun h => ?_⟩
  have hsome : (order.findSome? fun f => f.read? cs).isSome := by
    rw [List.findSome?_isSome_iff]
    refine ⟨formatFor cs, hadmitted (formatFor_mem_admitted h.has_separator), ?_⟩
    rw [h.formatFor_read?]
    rfl
  obtain ⟨y, hy⟩ := Option.isSome_iff_exists.mp hsome
  rw [hy, h.unique (hsound hy)]

theorem admitted_subset_formats (cs : List Char) : admitted cs ⊆ formats := by
  rw [admitted, formats]
  cases cs.contains '-' <;> cases cs.contains ':' <;> simp

/-! ## One reading -/

/-- **A text is read as a date-time exactly if it denotes one, and denotes no other.**  Formats that
accept the same text agree on it, the order in which they are tried does not matter, and neither do
blanks at the ends of the text. -/
theorem DateTime.ofText?_one_reading (s : String) :
    (∀ x, DateTime.ofText? s = some x ↔ Denotes (trimChars s.toList) x) ∧
      (∀ f ∈ formats, ∀ g ∈ formats, ∀ cs x y,
        f.read? cs = some x → g.read? cs = some y → x = y) ∧
      (∀ order : List Format, admitted (trimChars s.toList) ⊆ order → order ⊆ formats →
        order.findSome? (fun f => f.read? (trimChars s.toList)) = DateTime.ofText? s) ∧
      ∀ before after : String, Blanks before.toList → Blanks after.toList →
        DateTime.ofText? (before ++ s ++ after) = DateTime.ofText? s := by
  have hread (x : DateTime) : DateTime.ofText? s = some x ↔ Denotes (trimChars s.toList) x := by
    rw [ofText?_eq_findSome?]
    exact findSome?_formats_eq_some_iff (List.Subset.refl _) (admitted_subset_formats _)
  refine ⟨hread, fun f hf g hg cs x y hx hy => ?_, fun order hadmitted horder => ?_,
    fun before after hbefore hafter => ?_⟩
  · exact (Denotes.of_read? hf hx).unique (Denotes.of_read? hg hy)
  · exact Option.ext fun x => (findSome?_formats_eq_some_iff hadmitted horder).trans (hread x).symm
  · rw [ofText?_eq_findSome?, ofText?_eq_findSome?, String.toList_append, String.toList_append,
      trimChars_append_blanks hbefore hafter]

/-- The leap second at the end of the year 2016 is read alike by the format with a fraction and by
the one without, whichever format is tried first and whatever blanks there are at the ends. -/
theorem DateTime.ofText?_one_reading_leap :
    let s := "2016-12-31 23:59:60"
    let plain := dateTimeFormat (dateLayout ++ [.blanks] ++ secondsLayout)
    let fractional := dateTimeFormat (dateLayout ++ [.blanks] ++ secondsLayout ++ [.fraction])
    ∃ x, plain.read? s.toList = some x ∧ fractional.read? s.toList = some x ∧
      x.date.fields = ⟨2016, 12, 31⟩ ∧ x.time.fields = ⟨23, 59, 60, 0⟩ ∧
      Denotes (trimChars s.toList) x ∧
      formats.reverse.findSome? (fun f => f.read? (trimChars s.toList)) = some x ∧
      DateTime.ofText? (" " ++ s ++ "\n") = some x := by
  intro s plain fractional
  obtain ⟨hdenotes, hagree, horder, hblanks⟩ := DateTime.ofText?_one_reading s
  let x : DateTime := ⟨⟨736328, by decide, by decide⟩,
    ⟨86399, nanosPerSecond, by decide, by decide⟩⟩
  have hplain : plain.read? s.toList = some x := by decide
  have htext : DateTime.ofText? s = some x := by decide
  obtain ⟨y, hfractional⟩ : ∃ y, fractional.read? s.toList = some y :=
    Option.isSome_iff_exists.mp (by decide)
  have hxy : x = y := hagree plain (by simp [formats, dateTimeLayouts, plain]) fractional
    (by simp [formats, dateTimeLayouts, fractional]) s.toList x y hplain hfractional
  refine ⟨x, hplain, hxy ▸ hfractional, by decide, by decide, (hdenotes x).mp htext, ?_, ?_⟩
  · rw [horder formats.reverse (List.subset_reverse.mpr (admitted_subset_formats _))
      (List.reverse_subset.mpr (List.Subset.refl _)), htext]
  · rw [hblanks " " "\n" (by decide) (by decide), htext]

end Formula.Calendar
