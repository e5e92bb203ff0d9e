import Formula.Builtin.Plan
import Formula.Text.Slice
import Formula.Unicode.Case

/-!
# Builtin/Text — functions of texts

Every argument that should be a text is read as one, whatever its kind.  Positions count from 1.
-/

namespace Formula.Builtin

open Formula.Text (trim maxRepeatBytes)

/-- A function from the text of its argument to a text. -/
def textMap (name help : String) (f : String → String) : Function :=
  ⟨name, 1, 1, help, fun _ => do return .text (f (← Plan.text 0))⟩

/-- The plan of `substr`: an end that is not given is the end of the text. -/
def substr (arguments : Nat) : Plan Value := do
  let s ← Plan.text 0
  let first ← Plan.position "substr" 1
  let last ← if 2 < arguments then Plan.position "substr" 2 else pure s.length
  return .text (Text.between s first last)

/-- The plan of `find`: a start that is not given is the start of the text. -/
def find (arguments : Nat) : Plan Value := do
  let needle ← Plan.text 0
  let haystack ← Plan.text 1
  let start ← if 2 < arguments then (· + 1) <$> Plan.position "find" 2 else pure 1
  return .number (Float.ofNat (Text.find needle haystack start))

/-- The plan of `replace`: the characters to be replaced must all be there. -/
def replace : Plan Value := do
  let s ← Plan.text 0
  let pos ← Plan.position "replace" 1
  let n ← Plan.count "replace" 2
  let new ← Plan.text 3
  match Text.splice? s (.ofNat pos) (.ofNat n) new with
  | some t => return .text t
  | none => .fault "replace" (.outsideText n (pos + 1))

/-- The plan of `substitute`: without a number of occurrences all are replaced. -/
def substitute (arguments : Nat) : Plan Value := do
  let s ← Plan.text 0
  let old ← Plan.text 1
  let new ← Plan.text 2
  let most ← if 3 < arguments then Plan.integer "substitute" 3 else pure 0
  return .text (Text.substitute s old new most.toInt)

/-- The plan of `rept`: a result that is too large is refused. -/
def rept : Plan Value := do
  let s ← Plan.text 0
  let n ← Plan.count "rept" 1
  match Text.repeat? s n with
  | some t => return .text t
  | none => .fault "rept" (.textTooLong maxRepeatBytes)

/-- A pattern in a group between anchors, which is to match a text as a whole. -/
def anchored (pattern : String) : String := "^(?:" ++ pattern ++ ")$"

/-- The plan of `matches`: the pattern, put between anchors, must match the text. -/
def matchesWhole : Plan Value := do
  let s ← Plan.text 0
  let pattern ← Plan.text 1
  .search (anchored pattern) s fun
    | some b => .done (.bool b)
    | none => .fault "matches" .badPattern

/-- The plan of `len`. -/
def length : Plan Value := do return .number (Float.ofNat (← Plan.text 0).length)

/-- **The functions of texts.** -/
def textFunctions : List Function :=
  [⟨"substr", 2, 3,
    "substr(str, start[, end]): characters from 1-based 'start' up to, excluding, 'end'", substr⟩,
   ⟨"left", 2, 2, "left(str, n): the first 'n' characters of 'str'",
    fun _ => do
      let s ← Plan.text 0
      let n ← Plan.count "left" 1
      return .text (Text.left s n)⟩,
   ⟨"mid", 3, 3, "mid(str, pos, n): 'n' characters of 'str' starting at 1-based 'pos'",
    fun _ => do
      let s ← Plan.text 0
      let pos ← Plan.position "mid" 1
      let n ← Plan.count "mid" 2
      return .text (Text.middle s pos n)⟩,
   ⟨"right", 2, 2, "right(str, n): the last 'n' characters of 'str'",
    fun _ => do
      let s ← Plan.text 0
      let n ← Plan.count "right" 1
      return .text (Text.right s n)⟩,
   ⟨"rept", 2, 2, "rept(str, n): 'str' repeated 'n' times", fun _ => rept⟩,
   ⟨"concatenate", 1, anyArguments,
    "concatenate(s1, s2, ...): joins the textual form of all arguments",
    fun arguments => do return .text (String.join (← Plan.each 0 arguments Plan.text))⟩,
   textMap "lower" "lower(str): 'str' in lower case" Unicode.toLower,
   textMap "lowercase" "lowercase(str): same as lower" Unicode.toLower,
   textMap "upper" "upper(str): 'str' in upper case" Unicode.toUpper,
   textMap "uppercase" "uppercase(str): same as upper" Unicode.toUpper,
   textMap "trim" "trim(str): 'str' without leading and trailing whitespace" trim,
   ⟨"matches", 2, 2,
    "matches(str, regexp): true if the whole of 'str' matches the regular expression",
    fun _ => matchesWhole⟩,
   ⟨"len", 1, 1, "len(str): number of characters in 'str'", fun _ => length⟩,
   ⟨"length", 1, 1, "length(str): same as len", fun _ => length⟩,
   ⟨"find", 2, 3,
    "find(search, str[, start]): 1-based position of 'search' in 'str', 0 if absent", find⟩,
   ⟨"replace", 4, 4,
    "replace(str, pos, len, newstr): replaces 'len' characters at 1-based 'pos' with 'newstr'",
    fun _ => replace⟩,
   ⟨"substitute", 3, 4,
    "substitute(str, find, replace[, occurrences]): replaces occurrences of 'find' (all if " ++
      "'occurrences' <= 0)", substitute⟩]

end Formula.Builtin
