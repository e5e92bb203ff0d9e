import Formula.Pattern.CharSet
import Formula.Text.Chars

/-!
# Pattern/Escape — flags, spacing and escapes of patterns

What a character of a pattern means hangs on the **flags** in force there.  An escape, which a
backslash begins, stands for a character, a set of characters, or a condition on a position.
-/

namespace Formula.Pattern

open Text (isBlank hexValue?)

/-- **The flags of a pattern.** -/
structure Flags where
  /-- Letters match in either case. -/
  ignoreCase : Bool := false
  /-- `^` and `$` also hold at the ends of lines. -/
  multiLine : Bool := false
  /-- `.` also matches the end of a line. -/
  dotAll : Bool := false
  /-- Classes and folding go beyond ASCII. -/
  unicode : Bool := true
  /-- Carriage returns end lines, too. -/
  anyLine : Bool := false
  /-- Blanks and comments in the pattern do not count. -/
  spaced : Bool := false
deriving DecidableEq

/-! ## Spacing -/

/-- The rest of a pattern after blanks and comments; `comment` says whether it begins in one. -/
def skipIgnored (comment : Bool) : List Char → List Char
  | [] => []
  | c :: cs =>
    if comment then skipIgnored (c != '\n') cs
    else if isBlank c then skipIgnored false cs
    else if c = '#' then skipIgnored true cs
    else c :: cs

/-- The rest of a pattern from the next character on that counts. -/
def skipSpaced (spaced : Bool) (cs : List Char) : List Char :=
  if spaced then skipIgnored false cs else cs

/-- The character that decides, after a hyphen in a class, whether the hyphen stands for itself: the
next one that is neither blank nor the first number sign, or else the very next. -/
def peekSpaced (spaced : Bool) (cs : List Char) : Option Char :=
  if spaced then (go false cs).or cs.head? else cs.head?
where
  /-- The search, which passes over one number sign. -/
  go (seen : Bool) : List Char → Option Char
    | [] => none
    | c :: cs =>
      if isBlank c then go seen cs
      else if c = '#' && !seen then go true cs
      else some c

/-! ## What an escape stands for -/

/-- **The meaning of one element of a pattern.** -/
inductive Atom where
  /-- A character; `byte` when it was written as a byte of two hexadecimal digits. -/
  | literal (c : Char) (byte : Bool)
  /-- A set of characters. -/
  | set (s : CharSet)
  /-- A condition on a position. -/
  | look (l : Look)

/-- The characters that have a meaning of their own in patterns. -/
def metaCharacters : List Char :=
  ['\\', '.', '+', '*', '?', '(', ')', '|', '[', ']', '{', '}', '^', '$', '#', '&', '-', '~']

/-- Whether a character stands for itself after a backslash. -/
def isEscapable (c : Char) : Bool :=
  metaCharacters.contains c || (c.toNat < 0x80 && !c.isAlphanum && c != '<' && c != '>')

/-- The character with a given code point. -/
def charOfCode? (n : Nat) : Option Char := if n.isValidChar then some (Char.ofNat n) else none

/-- Read exactly `count` more hexadecimal digits. -/
def readHexDigits (spaced : Bool) : Nat → Nat → List Char → Option (Nat × List Char)
  | 0, n, cs => some (n, cs)
  | count + 1, n, cs =>
    match cs with
    | c :: rest =>
      match hexValue? c with
      | some d => readHexDigits spaced count (16 * n + d) (skipSpaced spaced rest)
      | none => none
    | [] => none

/-- Read hexadecimal digits up to a closing brace, at least one of them.  The value counts no
further than beyond the last code point. -/
def readHexBrace (spaced : Bool) : Nat → Bool → Nat → List Char → Option (Nat × List Char)
  | 0, _, _, _ => none
  | fuel + 1, any, n, cs =>
    match cs with
    | '}' :: rest => if any then some (n, skipSpaced spaced rest) else none
    | c :: rest =>
      match hexValue? c with
      | some d => readHexBrace spaced fuel true (min (16 * n + d) 0x110000) (skipSpaced spaced rest)
      | none => none
    | [] => none

/-- Read a character by its code, after the letter `x`, `u` or `U`, which take two, four and eight
digits unless these stand in braces. -/
def readHexEscape (spaced : Bool) (letter : Char) (cs : List Char) : Option (Atom × List Char) := do
  let cs := skipSpaced spaced cs
  match cs with
  | '{' :: rest =>
    let rest := skipSpaced spaced rest
    let (n, rest) ← readHexBrace spaced (rest.length + 1) false 0 rest
    return (.literal (← charOfCode? n) false, rest)
  | _ =>
    let count := if letter = 'x' then 2 else if letter = 'u' then 4 else 8
    let (n, rest) ← readHexDigits spaced count 0 cs
    return (.literal (← charOfCode? n) (letter == 'x'), rest)

/-- Split at the first place where `sep` begins. -/
def splitAt? (sep : List Char) (before : List Char) : List Char → Option (List Char × List Char)
  | [] => none
  | c :: cs =>
    if sep.isPrefixOf (c :: cs) then some (before.reverse, (c :: cs).drop sep.length)
    else splitAt? sep (c :: before) cs

/-- The set that the text in the braces of a property names, and whether it is to be negated. -/
def propertyTextSet? (name : List Char) : Option (CharSet × Bool) :=
  match splitAt? ['!', '='] [] name with
  | some (property, value) => (propertyValueSet? property value).map fun s => (s, true)
  | none =>
    let set := match (splitAt? [':'] [] name).or (splitAt? ['='] [] name) with
      | some (property, value) => propertyValueSet? property value
      | none => propertySet? name
    set.map fun s => (s, false)

/-- The characters up to a closing brace, blanks left out in a spaced pattern, and what follows. -/
def readBraced (spaced : Bool) : Nat → List Char → List Char → Option (List Char × List Char)
  | 0, _, _ => none
  | fuel + 1, acc, cs =>
    match cs with
    | '}' :: rest => some (acc.reverse, rest)
    | c :: rest => readBraced spaced fuel (c :: acc) (skipSpaced spaced rest)
    | [] => none

/-- Close a set under folding where the flags ask for it, and then negate it where that is asked
for.  Without Unicode a negated set would match parts of characters and is refused. -/
def foldAndNegate (flags : Flags) (negated : Bool) (s : CharSet) : Option CharSet :=
  let s := if flags.ignoreCase then s.folded flags.unicode else s
  if !negated then some s else if flags.unicode then some s.compl else none

/-- Read a Unicode property after the letter `p` or `P`. -/
def readProperty (flags : Flags) (negated : Bool) (cs : List Char) :
    Option (Atom × List Char) := do
  if !flags.unicode then none
  let ((set, unequal), rest) ← match skipSpaced flags.spaced cs with
    | '{' :: rest =>
      let rest := skipSpaced flags.spaced rest
      let (name, rest) ← readBraced flags.spaced (rest.length + 1) [] rest
      (propertyTextSet? name).map fun found => (found, rest)
    | c :: rest =>
      if c = '\\' then none
      else (propertySet? [c]).map fun s => ((s, false), skipSpaced flags.spaced rest)
    | [] => none
  return (.set (← foldAndNegate flags (negated != unequal) set), rest)

/-- Read the name of a special word boundary in braces, if what follows the opening brace begins
one: the condition, or nothing when it is left to be read as a repetition. -/
def readWordBrace (flags : Flags) (cs : List Char) : Option (Option Look × List Char) :=
  let isNameChar (c : Char) : Bool := c.isAlpha || c == '-'
  match cs with
  | '{' :: rest =>
    match skipSpaced flags.spaced rest with
    | [] => none
    | c :: more =>
      if !isNameChar c then some (none, cs)
      else
        let visible := if flags.spaced then (c :: more).filter fun d => !isBlank d else c :: more
        let name := visible.takeWhile isNameChar
        let closed := (visible.dropWhile isNameChar).head? == some '}'
        let rest := ((c :: more).dropWhile (· != '}')).drop 1
        let look (holds : Bool → Bool → Bool) : Option (Option Look × List Char) :=
          some (some (Look.words (isWord flags.unicode) holds), rest)
        if !closed then none
        else
          match String.ofList name with
          | "start" => look fun before after => !before && after
          | "end" => look fun before after => before && !after
          | "start-half" => look fun before _ => !before
          | "end-half" => look fun _ after => !after
          | _ => none
  | _ => some (none, cs)

/-- **Read an escape** after its backslash. -/
def readEscape (flags : Flags) : List Char → Option (Atom × List Char)
  | [] => none
  | c :: cs =>
    let words (holds : Bool → Bool → Bool) : Atom :=
      .look (Look.words (isWord flags.unicode) holds)
    match c with
    | 'x' | 'u' | 'U' => readHexEscape flags.spaced c cs
    | 'p' => readProperty flags false cs
    | 'P' => readProperty flags true cs
    | 'd' | 's' | 'w' => some (.set (escapeSet flags.unicode c), cs)
    | 'D' | 'S' | 'W' =>
      if flags.unicode then some (.set (escapeSet true c.toLower).compl, cs) else none
    | 'a' => some (.literal '\x07' false, cs)
    | 'f' => some (.literal '\x0c' false, cs)
    | 't' => some (.literal '\t' false, cs)
    | 'n' => some (.literal '\n' false, cs)
    | 'r' => some (.literal '\r' false, cs)
    | 'v' => some (.literal '\x0b' false, cs)
    | 'A' => some (.look Look.textStart, cs)
    | 'z' => some (.look Look.textEnd, cs)
    | 'b' =>
      match readWordBrace flags cs with
      | some (some look, rest) => some (.look look, rest)
      | some (none, rest) => some (words fun before after => before != after, rest)
      | none => none
    | 'B' => some (words fun before after => before == after, cs)
    | '<' => some (words fun before after => !before && after, cs)
    | '>' => some (words fun before after => before && !after, cs)
    | _ => if isEscapable c then some (.literal c false, cs) else none

/-- The character of a literal; without Unicode, a byte beyond ASCII is part of a character only and
is refused. -/
def literalChar? (flags : Flags) (c : Char) (byte : Bool) : Option Char :=
  if !flags.unicode && byte && 0x80 ≤ c.toNat then none else some c

/-- The pattern of one character. -/
def literalRegex (flags : Flags) (c : Char) : Regex :=
  let s := CharSet.char c
  if !flags.ignoreCase then .chars s
  else if flags.unicode then
    .chars (if (Unicode.caseVariants c).length ≤ 1 then s else s.folded true)
  else .chars (s.folded false)

end Formula.Pattern
