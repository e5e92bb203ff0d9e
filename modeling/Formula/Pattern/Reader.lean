import Formula.Pattern.Bracket
import Formula.Pattern.Match

/-!
# Pattern/Reader — reading patterns

A pattern is read from left to right with a stack of the groups that are open.  The **state** holds
the branches and the items of the innermost group, last first, and the flags in force.  A text is a
pattern if it can be read to its end and leaves no group open.
-/

namespace Formula.Pattern

/-! ## State -/

/-- A part of a pattern and the depth of its nesting. -/
structure Node where
  regex : Regex
  depth : Nat

/-- One item of a sequence. -/
inductive Item where
  | node (n : Node)
  /-- A change of flags, which matches nothing and cannot be repeated. -/
  | setting

/-- The node of an item. -/
def Item.toNode : Item → Node
  | node n => n
  | setting => ⟨.empty, 0⟩

/-- A group that is open: what stands before it, and the flags in force there. -/
structure Group where
  items : List Item
  branches : List Node
  flags : Flags

/-- **The state of reading.** -/
structure State where
  groups : List Group := []
  branches : List Node := []
  items : List Item := []
  flags : Flags := {}
  /-- The names given to groups so far. -/
  names : List (List Char) := []

/-- Add a node to the sequence. -/
def State.push (st : State) (n : Node) : State := { st with items := .node n :: st.items }

/-- Add a pattern without nesting. -/
def State.pushRegex (st : State) (r : Regex) : State := st.push ⟨r, 0⟩

/-- A sequence of items, last first, as one node. -/
def sequence : List Item → Node
  | [] => ⟨.empty, 0⟩
  | [item] => item.toNode
  | item :: items => items.foldl
      (fun acc i => ⟨.seq i.toNode.regex acc.regex, max acc.depth (i.toNode.depth + 1)⟩)
      ⟨item.toNode.regex, item.toNode.depth + 1⟩

/-- The last branch together with those before it, last first, as one node. -/
def alternatives (last : Node) : List Node → Node
  | [] => last
  | branches => branches.foldl
      (fun acc b => ⟨.alt b.regex acc.regex, max acc.depth (b.depth + 1)⟩)
      ⟨last.regex, last.depth + 1⟩

/-- What has been read of the innermost group. -/
def State.body (st : State) : Node := alternatives (sequence st.items) st.branches

/-! ## Groups -/

/-- Change one flag. -/
def Flags.set (flags : Flags) (letter : Char) (value : Bool) : Flags :=
  match letter with
  | 'i' => { flags with ignoreCase := value }
  | 'm' => { flags with multiLine := value }
  | 's' => { flags with dotAll := value }
  | 'u' => { flags with unicode := value }
  | 'R' => { flags with anyLine := value }
  | 'x' => { flags with spaced := value }
  | _ => flags

/-- The letters of the flags; `U`, which turns the preference of repetitions around, changes nothing
here. -/
def flagLetters : List Char := ['i', 'm', 's', 'U', 'u', 'R', 'x']

/-- Read flags up to a colon or a closing parenthesis: each letter at most once, and one hyphen at
most, letters after it being turned off.  The result has the letters seen and the changed flags. -/
def readFlags (flags : Flags) (seen : List Char) :
    List Char → Option (Flags × List Char × List Char)
  | [] => none
  | c :: cs =>
    if c = ':' ∨ c = ')' then
      if seen.head? == some '-' then none else some (flags, seen, c :: cs)
    else if seen.contains c then none
    else if c = '-' then readFlags flags (c :: seen) cs
    else if flagLetters.contains c then
      readFlags (flags.set c (!seen.contains '-')) (c :: seen) cs
    else none

/-- Whether a character may stand in the name of a group. -/
def isNameChar (first : Bool) (c : Char) : Bool :=
  c == '_' || Unicode.isAlphabetic c ||
    (!first && (c == '.' || c == '[' || c == ']' || Unicode.inGroup ['N'] c))

/-- Read the name of a group up to the closing angle bracket. -/
def readName (acc : List Char) : List Char → Option (List Char × List Char)
  | [] => none
  | c :: cs =>
    if c = '>' then if acc.isEmpty then none else some (acc.reverse, cs)
    else if isNameChar acc.isEmpty c then readName (c :: acc) cs
    else none

/-- Open a group with given flags inside. -/
def State.open (st : State) (flags : Flags) : State :=
  { st with
    groups := ⟨st.items, st.branches, st.flags⟩ :: st.groups
    branches := []
    items := []
    flags := flags }

/-- Open a group with a name that no other group has. -/
def State.openNamed (st : State) (cs : List Char) : Option (State × List Char) :=
  match readName [] cs with
  | some (name, rest) =>
    if st.names.contains name then none
    else some ({ st.open st.flags with names := name :: st.names }, rest)
  | none => none

/-- Read what follows an opening parenthesis. -/
def State.readOpen (st : State) (cs : List Char) : Option (State × List Char) :=
  match skipSpaced st.flags.spaced cs with
  | '?' :: '=' :: _ | '?' :: '!' :: _ | '?' :: '<' :: '=' :: _ | '?' :: '<' :: '!' :: _ => none
  | '?' :: 'P' :: '<' :: rest | '?' :: '<' :: rest => st.openNamed rest
  | '?' :: rest =>
    match readFlags st.flags [] rest with
    | some (flags, seen, ')' :: rest) =>
      if seen.isEmpty then none
      else some ({ st with items := .setting :: st.items, flags := flags }, rest)
    | some (flags, _, _ :: rest) => some (st.open flags, rest)
    | _ => none
  | rest => some (st.open st.flags, rest)

/-- Close the innermost group. -/
def State.close (st : State) : Option State :=
  match st.groups with
  | [] => none
  | g :: groups =>
    some { st with
      groups := groups
      branches := g.branches
      items := .node ⟨st.body.regex, st.body.depth + 1⟩ :: g.items
      flags := g.flags }

/-! ## Repetition -/

/-- Repeat the last item; a preference for few rounds makes no difference. -/
def State.repeat (st : State) (least : Nat) (most : Option Nat) : Option State :=
  match st.items with
  | .node n :: items =>
    some { st with items := .node ⟨.rounds n.regex least most, n.depth + 1⟩ :: items }
  | _ => none

/-- What follows the question mark, if one stands there. -/
def dropQuestion : List Char → List Char
  | '?' :: cs => cs
  | cs => cs

/-- The largest bound of a repetition. -/
def maxRounds : Nat := UInt32.size - 1

/-- The digits of a number, and what follows them. -/
def readDigits (spaced : Bool) : Nat → List Char → List Char → List Char × List Char
  | 0, acc, cs => (acc.reverse, cs)
  | fuel + 1, acc, cs =>
    match cs with
    | c :: rest =>
      if c.isDigit then readDigits spaced fuel (c :: acc) (skipSpaced spaced rest)
      else (acc.reverse, cs)
    | [] => (acc.reverse, cs)

/-- Read the bound of a repetition, blanks around it not counted. -/
def readBound (spaced : Bool) (cs : List Char) : Option (Nat × List Char) :=
  let cs := cs.dropWhile Text.isBlank
  let (digits, rest) := readDigits spaced cs.length [] cs
  let n := digits.foldl (fun n c => min (10 * n + (c.toNat - '0'.toNat)) (maxRounds + 1)) 0
  if digits.isEmpty || maxRounds < n then none
  else some (n, skipSpaced spaced (rest.dropWhile Text.isBlank))

/-- Read the bounds of a repetition after its opening brace. -/
def readBounds (spaced : Bool) (cs : List Char) : Option (Nat × Option Nat × List Char) := do
  let (least, rest) ← readBound spaced (skipSpaced spaced cs)
  match rest with
  | '}' :: rest => return (least, some least, rest)
  | ',' :: rest =>
    match skipSpaced spaced rest with
    | '}' :: rest => return (least, none, rest)
    | rest =>
      let (most, rest) ← readBound spaced rest
      match rest with
      | '}' :: rest => if least ≤ most then return (least, some most, rest) else none
      | _ => none
  | _ => none

/-! ## Steps -/

/-- Add what an escape stands for. -/
def State.pushAtom (st : State) : Atom → Option State
  | .literal c byte => (literalChar? st.flags c byte).map fun c =>
      st.pushRegex (literalRegex st.flags c)
  | .set s => some (st.pushRegex (.chars s))
  | .look l => some (st.pushRegex (.look l))

/-- The condition of `^`. -/
def Flags.startLook (flags : Flags) : Look :=
  if !flags.multiLine then Look.textStart
  else if flags.anyLine then Look.anyLineStart
  else Look.lineStart

/-- The condition of `$`. -/
def Flags.endLook (flags : Flags) : Look :=
  if !flags.multiLine then Look.textEnd
  else if flags.anyLine then Look.anyLineEnd
  else Look.lineEnd

/-- The set of `.`. -/
def Flags.dotSet (flags : Flags) : CharSet :=
  ⟨fun c => flags.dotAll || (c != '\n' && !(flags.anyLine && c == '\r'))⟩

/-- **Read one element of a pattern**, which begins with `c`. -/
def State.step (st : State) (c : Char) (cs : List Char) : Option (State × List Char) :=
  match c with
  | '(' => st.readOpen cs
  | ')' => st.close.map fun st => (st, cs)
  | '|' => some ({ st with branches := sequence st.items :: st.branches, items := [] }, cs)
  | '[' => (readBracket st.flags cs).map fun (n, rest) => (st.push ⟨.chars n.set, n.depth⟩, rest)
  | '?' => (st.repeat 0 (some 1)).map fun st => (st, dropQuestion cs)
  | '*' => (st.repeat 0 none).map fun st => (st, dropQuestion cs)
  | '+' => (st.repeat 1 none).map fun st => (st, dropQuestion cs)
  | '{' => do
    let (least, most, rest) ← readBounds st.flags.spaced cs
    let st ← st.repeat least most
    return (st, dropQuestion (skipSpaced st.flags.spaced rest))
  | '\\' => do
    let (atom, rest) ← readEscape st.flags cs
    return (← st.pushAtom atom, rest)
  | '.' => if st.flags.unicode then some (st.pushRegex (.chars st.flags.dotSet), cs) else none
  | '^' => some (st.pushRegex (.look st.flags.startLook), cs)
  | '$' => some (st.pushRegex (.look st.flags.endLook), cs)
  | c => some (st.pushRegex (literalRegex st.flags c), cs)

/-- Read a pattern to its end.  Each step takes a character, so `fuel` need not exceed their
number. -/
def State.run : Nat → State → List Char → Option State
  | 0, st, _ => some st
  | fuel + 1, st, cs =>
    match skipSpaced st.flags.spaced cs with
    | [] => some st
    | c :: cs =>
      match st.step c cs with
      | some (st, rest) => State.run fuel st rest
      | none => none

/-- **The pattern that a text is**, if it is well formed. -/
def Node.ofChars? (cs : List Char) : Option Node :=
  (State.run cs.length {} cs).bind fun st => if st.groups.isEmpty then some st.body else none

end Formula.Pattern
