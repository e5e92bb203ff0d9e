/-!
# Text/Slice — parts of a text, by position

Positions and lengths count characters (Unicode scalar values).  `left`, `right`, `middle` and
`between` clamp to the text; `splice?` does not, and keeps its positions in 64 bits; `find` gives
positions from 1.  `substitute` is one scan from left to right, which counts its replacements and
never searches the text that it has inserted.
-/

namespace Formula.Text

/-! ## Parts -/

/-- The first `n` characters. -/
def left (s : String) (n : Nat) : String := String.ofList (s.toList.take n)

/-- The last `n` characters. -/
def right (s : String) (n : Nat) : String :=
  let cs := s.toList
  String.ofList (cs.drop (cs.length - n))

/-- At most `n` characters after the first `pos`. -/
def middle (s : String) (pos n : Nat) : String := String.ofList ((s.toList.drop pos).take n)

/-- The characters from position `first` (from 0) up to, not including, position `last`. -/
def between (s : String) (first last : Nat) : String :=
  if last ≤ first then "" else middle s first (last - first)

/-- The sum of two counts, if 64 bits hold it. -/
def sum? (a b : UInt64) : Option UInt64 :=
  if a.toNat + b.toNat < UInt64.size then some (a + b) else none

/-- Put `new` in place of the `n` characters after the first `pos`, if the text has that many. -/
def splice? (s : String) (pos n : UInt64) (new : String) : Option String :=
  match sum? pos n with
  | none => none
  | some stop =>
    let cs := s.toList
    if cs.length < stop.toNat then none
    else some (String.ofList (cs.take pos.toNat ++ new.toList ++ cs.drop stop.toNat))

/-! ## Search -/

/-- **The text before and after the first occurrence** of `find`, `before` holding in reverse the
characters already passed. -/
def cutFrom (find : List Char) (before : List Char) : List Char → Option (List Char × List Char)
  | [] => if find.isEmpty then some (before.reverse, []) else none
  | c :: cs =>
    if find.isPrefixOf (c :: cs) then some (before.reverse, (c :: cs).drop find.length)
    else cutFrom find (c :: before) cs

/-- The text before and after the first occurrence of `find`. -/
def cut? (find cs : List Char) : Option (List Char × List Char) := cutFrom find [] cs

/-- What follows an occurrence is no longer than the text searched. -/
theorem length_of_cutFrom {find before cs : List Char} {a b : List Char}
    (h : cutFrom find before cs = some (a, b)) : b.length + find.length ≤ cs.length := by
  induction cs generalizing before with
  | nil => cases find <;> simp_all [cutFrom]
  | cons c cs ih =>
    rw [cutFrom] at h
    split at h
    · rename_i hp
      have := (List.isPrefixOf_iff_prefix.1 hp).length_le
      simp only [Option.some.injEq, Prod.mk.injEq] at h
      rw [← h.2, List.length_drop]
      omega
    · have := ih h
      simp only [List.length_cons]
      omega

/-- The position of the first `needle` behind the first `skip` characters, or 0. -/
def search (needle haystack : List Char) (skip : Nat) : Nat :=
  match cut? needle (haystack.drop skip) with
  | some (before, _) => skip + before.length + 1
  | none => 0

/-- **The position of the first `needle`** at or after position `start`, both from 1; 0 when there
is none.  A start of 0 counts as 1.  At the end of the text there is nothing but the empty needle.
-/
def find (needle haystack : String) (start : Nat) : Nat :=
  let skip := start - 1
  let cs := haystack.toList
  match cs[skip]? with
  | some _ => search needle.toList cs skip
  | none => if needle.isEmpty && skip == cs.length then search needle.toList cs skip else 0

/-! ## Substitution -/

/-- **The scan of a substitution**, which goes on behind the occurrence it replaces: `out` is the
text so far, `count` the number of occurrences replaced. -/
def substituteFrom (find : List Char) (hfind : find ≠ []) (replacement : String) (max : Int)
    (out : String) (count : Int) (rest : List Char) : String :=
  match h : cut? find rest with
  | none => out ++ String.ofList rest
  | some (before, after) =>
    let out := out ++ String.ofList before ++ replacement
    if count + 1 = max then out ++ String.ofList after
    else substituteFrom find hfind replacement max out (count + 1) after
termination_by rest.length
decreasing_by
  have := length_of_cutFrom h
  have := List.length_pos_iff.2 hfind
  omega

/-- **Replace occurrences of `find`** from left to right: the first `max` of them, or all of them
when `max` is not positive.  An empty `find` occurs nowhere. -/
def substitute (s find replacement : String) (max : Int) : String :=
  if hfind : find.toList = [] then s
  else substituteFrom find.toList hfind replacement max "" 0 s.toList

/-! ## Repetition -/

/-- The largest size, in UTF-8 bytes, of a repeated text. -/
def maxRepeatBytes : Nat := 32 * 1024 * 1024

/-- `s` appended `n` times to `acc`. -/
def appendTimes (s : String) : Nat → String → String
  | 0, acc => acc
  | n + 1, acc => appendTimes s n (acc ++ s)

/-- **A text repeated `n` times**, unless that would be larger than `maxRepeatBytes`. -/
def repeat? (s : String) (n : Nat) : Option String :=
  if s.utf8ByteSize * n ≤ maxRepeatBytes then
    some (if s.isEmpty then "" else appendTimes s n "")
  else
    none

end Formula.Text
