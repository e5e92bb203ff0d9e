import Formula.Pattern.Escape

/-!
# Pattern/Bracket — classes of characters in brackets

A class is a union of characters, ranges, escapes and nested classes; unions are combined by `&&`,
`--` and `~~`, from left to right.  Reading keeps a stack of what is still open.  Each class also
has a **depth** of nesting, which is bounded for a pattern as a whole.
-/

namespace Formula.Pattern

/-- A set of characters and the depth of its nesting. -/
structure ClassNode where
  set : CharSet
  depth : Nat

/-- A union under construction: its characters, the greatest depth of an item and their number. -/
structure ClassUnion where
  set : CharSet := CharSet.none
  depth : Nat := 0
  count : Nat := 0

/-- Add an item to a union. -/
def ClassUnion.add (u : ClassUnion) (n : ClassNode) : ClassUnion :=
  ⟨if u.count = 0 then n.set else u.set.union n.set, max u.depth n.depth, u.count + 1⟩

/-- The finished union; only one of several items is nested deeper than they are. -/
def ClassUnion.toNode (u : ClassUnion) : ClassNode :=
  ⟨u.set, if u.count ≤ 1 then u.depth else u.depth + 1⟩

/-- How two unions are combined. -/
inductive ClassOp where
  | inter
  | diff
  | symmDiff
deriving DecidableEq

/-- What is open while a class is read. -/
inductive ClassFrame where
  /-- A class with the union that it stands in. -/
  | opened (outer : ClassUnion) (negated : Bool)
  /-- The left operand of an operation. -/
  | operand (op : ClassOp) (left : ClassNode)

/-- Combine two sets; where case is ignored, either is closed under folding first. -/
def ClassOp.apply (flags : Flags) (op : ClassOp) (a b : ClassNode) : ClassNode :=
  let fold (s : CharSet) : CharSet := if flags.ignoreCase then s.folded flags.unicode else s
  let (s, t) := (fold a.set, fold b.set)
  let set := match op with
    | .inter => s.inter t
    | .diff => s.diff t
    | .symmDiff => s.symmDiff t
  ⟨set, max a.depth b.depth + 1⟩

/-- Combine a finished right operand with the left one that waits for it, if there is one. -/
def closeOperand (flags : Flags) (n : ClassNode) : List ClassFrame → ClassNode × List ClassFrame
  | .operand op left :: frames => (op.apply flags left n, frames)
  | frames => (n, frames)

/-- The hyphens at the beginning of a class, which stand for themselves, and what follows. -/
def readHyphens (spaced : Bool) : Nat → ClassUnion → List Char → Option (ClassUnion × List Char)
  | 0, _, _ => none
  | fuel + 1, u, cs =>
    match cs with
    | '-' :: rest => readHyphens spaced fuel (u.add ⟨.char '-', 0⟩) (skipSpaced spaced rest)
    | [] => none
    | _ => some (u, cs)

/-- Read the beginning of a class after its bracket: whether it is negated, and the hyphens or the
closing bracket that stand for themselves there. -/
def readOpening (spaced : Bool) (cs : List Char) : Option (Bool × ClassUnion × List Char) := do
  let (negated, cs) := match skipSpaced spaced cs with
    | '^' :: rest => (true, skipSpaced spaced rest)
    | rest => (false, rest)
  let (u, cs) ← readHyphens spaced (cs.length + 1) {} cs
  match cs with
  | ']' :: rest =>
    if u.count = 0 then
      let rest := skipSpaced spaced rest
      if rest.isEmpty then none else some (negated, u.add ⟨.char ']', 0⟩, rest)
    else some (negated, u, cs)
  | _ => some (negated, u, cs)

/-- Read a named ASCII class after its opening bracket, if one stands there. -/
def readAsciiClass (flags : Flags) (cs : List Char) : Option (Option CharSet × List Char) :=
  match cs with
  | ':' :: rest =>
    let (negated, rest) := match rest with
      | '^' :: more => (true, more)
      | more => (false, more)
    let name := String.ofList (rest.takeWhile (· != ':'))
    match rest.dropWhile (· != ':'), asciiSet? name with
    | ':' :: ']' :: rest, some s => some (foldAndNegate flags negated s, rest)
    | _, _ => none
  | _ => none

/-- Read one character or escape of a class. -/
def readClassAtom (flags : Flags) : List Char → Option (Atom × List Char)
  | [] => none
  | '\\' :: cs => readEscape flags cs
  | c :: cs => some (.literal c false, cs)

/-- The character of a literal in a class; without Unicode it must be ASCII. -/
def classChar? (flags : Flags) (c : Char) : Option Char :=
  if flags.unicode || c.toNat < 0x80 then some c else none

/-- Read a character, an escape, or a range of characters. -/
def readClassItem (flags : Flags) (cs : List Char) : Option (CharSet × List Char) := do
  let (first, rest) ← readClassAtom flags cs
  let rest := skipSpaced flags.spaced rest
  let single : Option (CharSet × List Char) :=
    match first with
    | .literal c _ => (classChar? flags c).map fun c => (.char c, rest)
    | .set s => some (s, rest)
    | .look _ => none
  match rest with
  | [] => none
  | '-' :: more =>
    if peekSpaced flags.spaced more == some ']' || peekSpaced flags.spaced more == some '-' then
      single
    else
      match skipSpaced flags.spaced more with
      | [] => none
      | more =>
        let (second, rest) ← readClassAtom flags more
        match first, second with
        | .literal a _, .literal b _ =>
          let a ← classChar? flags a
          let b ← classChar? flags b
          if a ≤ b then some (.between a b, rest) else none
        | _, _ => none
  | _ => single

/-- **Read a class** after its opening bracket; `frames` holds what is open around the union `u`. -/
def readClass (flags : Flags) :
    Nat → List ClassFrame → ClassUnion → List Char → Option (ClassNode × List Char)
  | 0, _, _, _ => none
  | fuel + 1, frames, u, cs =>
    let operate (op : ClassOp) (rest : List Char) : Option (ClassNode × List Char) :=
      let (left, frames) := closeOperand flags u.toNode frames
      readClass flags fuel (.operand op left :: frames) {} rest
    match skipSpaced flags.spaced cs with
    | [] => none
    | '[' :: rest =>
      match readAsciiClass flags rest with
      | some (some s, rest) => readClass flags fuel frames (u.add ⟨s, 0⟩) rest
      | some (none, _) => none
      | none =>
        match readOpening flags.spaced rest with
        | some (negated, inner, rest) =>
          readClass flags fuel (.opened u negated :: frames) inner rest
        | none => none
    | ']' :: rest =>
      let (node, frames) := closeOperand flags u.toNode frames
      match frames with
      | .opened outer negated :: frames =>
        match foldAndNegate flags negated node.set with
        | some s =>
          let node : ClassNode := ⟨s, node.depth + 1⟩
          if frames.isEmpty then some (node, rest)
          else readClass flags fuel frames (outer.add node) rest
        | none => none
      | _ => none
    | '&' :: '&' :: rest => operate .inter rest
    | '-' :: '-' :: rest => operate .diff rest
    | '~' :: '~' :: rest => operate .symmDiff rest
    | cs =>
      match readClassItem flags cs with
      | some (s, rest) => readClass flags fuel frames (u.add ⟨s, 0⟩) rest
      | none => none

/-- Read a class after its first bracket. -/
def readBracket (flags : Flags) (cs : List Char) : Option (ClassNode × List Char) :=
  match readOpening flags.spaced cs with
  | some (negated, u, rest) =>
    readClass flags (rest.length + 1) [.opened {} negated] u rest
  | none => none

end Formula.Pattern
