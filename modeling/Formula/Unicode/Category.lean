import Formula.Unicode.CategoryTable
import Formula.Unicode.PropertyTable
import Formula.Unicode.ScriptTable

/-!
# Unicode/Category — classes of characters

Every character has one **general category** and one **script**; the other properties here are
unions of categories with some characters added.
-/

namespace Formula.Unicode

/-! ## Runs -/

/-- The words of a table, parted by blanks and line ends. -/
def words (table : String) : List String :=
  ((table.splitOn "\n").flatMap fun line => line.splitOn " ").filter fun word => !word.isEmpty

/-- Split a run into its name and its length. -/
def readRun (run : String) : String × Nat :=
  let name := run.toList.takeWhile Char.isAlpha
  let digits := run.toList.dropWhile Char.isAlpha
  (String.ofList name, Nat.ofDigitChars 10 digits 0)

/-- The first code point and the name of each run of a table. -/
def readRuns (table : String) : Array (Nat × String) :=
  (((words table).map readRun).foldl
    (fun (start, runs) (name, length) => (start + length, runs.push (start, name)))
    ((0, #[]) : Nat × Array (Nat × String))).2

/-- The last run that does not begin after `n`, searched between two places. -/
def runBetween (runs : Array (Nat × String)) (n : Nat) : Nat → Nat → Nat → String
  | 0, low, _ => (runs[low]?.map Prod.snd).getD ""
  | fuel + 1, low, high =>
    if high ≤ low + 1 then (runs[low]?.map Prod.snd).getD ""
    else
      let middle := (low + high) / 2
      match runs[middle]? with
      | some (start, _) =>
        if start ≤ n then runBetween runs n fuel middle high else runBetween runs n fuel low middle
      | none => ""

/-- The name of the run that holds a code point; halving finds it among fewer than `2 ^ 32` runs. -/
def runAt (runs : Array (Nat × String)) (n : Nat) : String := runBetween runs n 32 0 runs.size

/-! ## Categories and scripts -/

/-- The general categories as runs. -/
def categories : Array (Nat × String) := readRuns categoryRuns

/-- **The general category of a character**, by its two-letter name. -/
def category (c : Char) : String := runAt categories c.toNat

/-- The scripts as runs. -/
def scripts : Array (Nat × String) := readRuns scriptRuns

/-- **The script of a character**, by its four-letter name. -/
def script (c : Char) : String := runAt scripts c.toNat

/-- The names of each script, the four-letter one first. -/
def scriptAliases : List (List String) := (words scriptNames).map fun s => s.splitOn "="

/-! ## Properties -/

/-- Whether a character is listed between first and last code points. -/
def isListed (ranges : List (Nat × Nat)) (c : Char) : Bool :=
  ranges.any fun (first, last) => first ≤ c.toNat && c.toNat ≤ last

/-- Whether the name of the category begins with one of the letters. -/
def inGroup (groups : List Char) (c : Char) : Bool :=
  match (category c).toList with
  | g :: _ => groups.contains g
  | [] => false

/-- **Alphabetic** characters. -/
def isAlphabetic (c : Char) : Bool :=
  inGroup ['L'] c || category c == "Nl" || isListed otherAlphabetic c

/-- **Lower-case** characters. -/
def isLowercase (c : Char) : Bool := category c == "Ll" || isListed otherLowercase c

/-- **Upper-case** characters. -/
def isUppercase (c : Char) : Bool := category c == "Lu" || isListed otherUppercase c

/-- Characters that **have case**. -/
def isCased (c : Char) : Bool := category c == "Lt" || isLowercase c || isUppercase c

/-- Characters that **ignore case**: marks, formats, modifiers, and punctuation that may stand
inside a word. -/
def ignoresCase (c : Char) : Bool :=
  ["Mn", "Me", "Cf", "Lm", "Sk"].contains (category c) ||
    [0x27, 0x2E, 0x3A, 0xB7, 0x387, 0x55F, 0x5F4, 0x2018, 0x2019, 0x2024, 0x2027, 0xFE13, 0xFE52,
     0xFE55, 0xFF07, 0xFF0E, 0xFF1A].contains c.toNat

/-- **Decimal digits** of any script. -/
def isDigit (c : Char) : Bool := if c.toNat < 0x80 then c.isDigit else category c == "Nd"

/-- **Word characters**: alphabetic ones, marks, decimal digits, connecting punctuation, and the two
joiners. -/
def isWord (c : Char) : Bool :=
  if c.toNat < 0x80 then c.isAlphanum || c == '_'
  else
    isAlphabetic c || inGroup ['M'] c || isDigit c || category c == "Pc" || c.toNat == 0x200C ||
      c.toNat == 0x200D

end Formula.Unicode
