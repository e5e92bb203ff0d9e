import Formula.Pattern.Regex
import Formula.Text.Chars
import Formula.Unicode.Case
import Formula.Unicode.Category

/-!
# Pattern/CharSet — sets of characters and their names

Sets are named in three ways: the escapes `\d`, `\s` and `\w`, the ASCII classes such as `alpha`,
and the Unicode properties.  `CharSet.folded` closes a set under simple case folding.
-/

namespace Formula.Pattern

open Text (isBlank)

namespace CharSet

/-- The set without characters. -/
def none : CharSet := ⟨fun _ => false⟩

/-- The set of one character. -/
def char (c : Char) : CharSet := ⟨fun d => d == c⟩

/-- The characters from `first` to `last`. -/
def between (first last : Char) : CharSet := ⟨fun c => first ≤ c && c ≤ last⟩

/-- The characters of either set. -/
def union (a b : CharSet) : CharSet := ⟨fun c => a.mem c || b.mem c⟩

/-- The characters of both sets. -/
def inter (a b : CharSet) : CharSet := ⟨fun c => a.mem c && b.mem c⟩

/-- The characters of the first set that are not in the second. -/
def diff (a b : CharSet) : CharSet := ⟨fun c => a.mem c && !b.mem c⟩

/-- The characters of exactly one of the sets. -/
def symmDiff (a b : CharSet) : CharSet := ⟨fun c => a.mem c != b.mem c⟩

/-- The characters not in the set. -/
def compl (a : CharSet) : CharSet := ⟨fun c => !a.mem c⟩

/-- The other case of an ASCII letter. -/
def swapCase (c : Char) : Char := if c.isUpper then c.toLower else c.toUpper

/-- **The characters that fold as one of the set does**, by Unicode or by ASCII folding. -/
def folded (unicode : Bool) (a : CharSet) : CharSet :=
  if unicode then ⟨fun c => (Unicode.caseVariants c).any a.mem⟩
  else ⟨fun c => a.mem c || a.mem (swapCase c)⟩

end CharSet

/-! ## Named sets -/

/-- ASCII word characters. -/
def isAsciiWord (c : Char) : Bool := c.isAlphanum || c == '_'

/-- ASCII white space. -/
def isAsciiBlank (c : Char) : Bool := c == ' ' || ('\t' ≤ c && c ≤ '\r')

/-- Word characters, of Unicode or of ASCII. -/
def isWord (unicode : Bool) : Char → Bool := if unicode then Unicode.isWord else isAsciiWord

/-- **The set of an escape letter** `d`, `s` or `w`. -/
def escapeSet (unicode : Bool) : Char → CharSet
  | 'd' => if unicode then ⟨Unicode.isDigit⟩ else ⟨Char.isDigit⟩
  | 's' => if unicode then ⟨isBlank⟩ else ⟨isAsciiBlank⟩
  | _ => if unicode then ⟨Unicode.isWord⟩ else ⟨isAsciiWord⟩

/-- **The set of an ASCII class name.** -/
def asciiSet? (name : String) : Option CharSet :=
  let set (mem : Char → Bool) : Option CharSet := some ⟨mem⟩
  match name with
  | "alnum" => set Char.isAlphanum
  | "alpha" => set Char.isAlpha
  | "ascii" => set fun c => c.toNat < 0x80
  | "blank" => set fun c => c == ' ' || c == '\t'
  | "cntrl" => set fun c => c.toNat < 0x20 || c.toNat == 0x7F
  | "digit" => set Char.isDigit
  | "graph" => set fun c => '!' ≤ c && c ≤ '~'
  | "lower" => set Char.isLower
  | "print" => set fun c => ' ' ≤ c && c ≤ '~'
  | "punct" => set fun c => '!' ≤ c && c ≤ '~' && !c.isAlphanum
  | "space" => set isAsciiBlank
  | "upper" => set Char.isUpper
  | "word" => set isAsciiWord
  | "xdigit" => set fun c => c.isDigit || ('a' ≤ c && c ≤ 'f') || ('A' ≤ c && c ≤ 'F')
  | _ => none

/-! ## Unicode properties -/

/-- A property name without what does not distinguish names: case, spaces, hyphens, underscores and
a leading `is`. -/
def plainName (name : List Char) : String :=
  let lower := name.map Char.toLower
  let (named, body) := match lower with
    | 'i' :: 's' :: rest => (true, rest)
    | rest => (false, rest)
  let plain := body.filter fun c => c != ' ' && c != '_' && c != '-' && c.toNat < 0x80
  if named && plain == ['c'] then "isc" else String.ofList plain

/-- The names of the general categories, the two-letter one, or the letter of a group, first. -/
def categoryNames : List (List String) :=
  [["c", "other"], ["cc", "control", "cntrl"], ["cf", "format"], ["cn", "unassigned"],
   ["co", "privateuse"], ["cs", "surrogate"], ["l", "letter"], ["ll", "lowercaseletter"],
   ["lm", "modifierletter"], ["lo", "otherletter"], ["lt", "titlecaseletter"],
   ["lu", "uppercaseletter"], ["m", "mark", "combiningmark"], ["mc", "spacingmark"],
   ["me", "enclosingmark"], ["mn", "nonspacingmark"], ["n", "number"],
   ["nd", "decimalnumber", "digit"], ["nl", "letternumber"], ["no", "othernumber"],
   ["p", "punctuation", "punct"], ["pc", "connectorpunctuation"], ["pd", "dashpunctuation"],
   ["pe", "closepunctuation"], ["pf", "finalpunctuation"], ["pi", "initialpunctuation"],
   ["po", "otherpunctuation"], ["ps", "openpunctuation"], ["s", "symbol"],
   ["sc", "currencysymbol"], ["sk", "modifiersymbol"], ["sm", "mathsymbol"], ["so", "othersymbol"],
   ["z", "separator"], ["zl", "lineseparator"], ["zp", "paragraphseparator"],
   ["zs", "spaceseparator"]]

/-- The set of a general category or of a group of them. -/
def categorySet? (name : String) : Option CharSet :=
  let set (mem : Char → Bool) : Option CharSet := some ⟨mem⟩
  match name with
  | "any" => set fun _ => true
  | "ascii" => set fun c => c.toNat < 0x80
  | "assigned" => set fun c => Unicode.category c != "Cn"
  | "lc" | "casedletter" => set fun c => ["Lu", "Ll", "Lt"].contains (Unicode.category c)
  | _ =>
    match categoryNames.find? fun names => names.contains name with
    | some (code :: _) => set fun c =>
        code.toList.isPrefixOf ((Unicode.category c).toList.map Char.toLower)
    | _ => none

/-- The set of a script. -/
def scriptSet? (name : String) : Option CharSet :=
  match Unicode.scriptAliases.find? fun names => names.any fun n => plainName n.toList == name with
  | some (code :: _) => some ⟨fun c => Unicode.script c == code⟩
  | _ => none

/-- The set of a property that characters have or have not. -/
def binarySet? (name : String) : Option CharSet :=
  let set (mem : Char → Bool) : Option CharSet := some ⟨mem⟩
  match name with
  | "alphabetic" | "alpha" => set Unicode.isAlphabetic
  | "lowercase" | "lower" => set Unicode.isLowercase
  | "uppercase" | "upper" => set Unicode.isUppercase
  | "cased" => set Unicode.isCased
  | "caseignorable" | "ci" => set Unicode.ignoresCase
  | "whitespace" | "wspace" | "space" => set isBlank
  | "emoji" => set (Unicode.isListed Unicode.emoji)
  | "asciihexdigit" | "ahex" => asciiSet? "xdigit"
  | _ => none

/-- **The set of a property name**: a property that is had or not, a general category, or a
script. -/
def propertySet? (name : List Char) : Option CharSet :=
  let plain := plainName name
  (binarySet? plain).or ((categorySet? plain).or (scriptSet? plain))

/-- **The set of a property with a value.** -/
def propertyValueSet? (property value : List Char) : Option CharSet :=
  match plainName property with
  | "gc" | "generalcategory" => categorySet? (plainName value)
  | "sc" | "script" | "scx" | "scriptextensions" => scriptSet? (plainName value)
  | _ => none

end Formula.Pattern
