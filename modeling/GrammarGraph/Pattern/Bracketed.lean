import GrammarGraph.Pattern.Atom

/-!
# Pattern/Bracketed — classes in brackets

A class is a union of items, and unions can be combined by `&&`, `--` and `~~` from left to right.
The depth of a class counts the brackets, unions and combinations inside each other.

`readClass` and `readItems` call each other once for every bracket, operator or item, so they count
their calls against a bound.
-/

namespace GrammarGraph.Pattern

open ReadM

/-- The part of a class read so far: the items since the last operator, and the operator with what
stands before it. -/
structure ClassPart where
  chars : CharSet := .empty
  count : Nat := 0
  depth : Nat := 0
  pending : Option ((CharSet → CharSet → CharSet) × CharSet × Nat) := none

/-- One more item. -/
def ClassPart.add (part : ClassPart) (chars : CharSet) (depth : Nat) : ClassPart :=
  { part with
    chars := part.chars.union chars, count := part.count + 1, depth := Nat.max part.depth depth }

/-- The set read so far and its depth, with the pending operator applied. -/
def ClassPart.value (flags : Flags) (part : ClassPart) : CharSet × Nat :=
  let depth := if part.count < 2 then part.depth else part.depth + 1
  match part.pending with
  | none => (part.chars, depth)
  | some (op, left, leftDepth) =>
    (op (flags.fold left) (flags.fold part.chars), Nat.max leftDepth depth + 1)

/-- After an operator. -/
def ClassPart.operator (flags : Flags) (part : ClassPart) (op : CharSet → CharSet → CharSet) :
    ClassPart :=
  { pending := some (op, part.value flags) }

/-- An ASCII class `[:name:]`, if one comes next; otherwise nothing is read. -/
def readAsciiClass? : ReadM (Option CharSet) := do
  let start ← get
  if ← skip? "[:" then
    let negated ← skip? "^"
    let name := (← get).rest.takeWhile (· != ':')
    modify fun s => { s with rest := s.rest.dropWhile (· != ':') }
    if ← skip? ":]" then
      if let some chars := asciiClass? (String.ofList name) then
        return some (← start.flags.admitFolded? negated chars)
  set start
  return none

/-- The character after the next one, blanks skipped where allowed: a range ends with it unless it
is `]` or `-`. -/
def afterDash? : ReadM (Option Char) := do
  let s ← get
  let rest := s.rest.tail
  if !s.flags.verbose then return rest.head?
  match rest.dropWhile Unicode.blank.contains with
  | '#' :: comment => return (comment.dropWhile Unicode.blank.contains).head?
  | rest => return rest.head?

/-- A character or a range of characters, or a named class. -/
def readMember : ReadM CharSet := do
  let one : ReadM Atom := do
    let c ← peek
    if c = '\\' then readEscape else bump; return .char c false
  let flags := (← get).flags
  let first ← one
  space
  let c ← peek
  let next ← afterDash?
  if c != '-' || next == some ']' || next == some '-' then flags.member? first
  else
    bumpSpace
    let last ← one
    match first, last with
    | .char lo _, .char hi _ =>
      if lo ≤ hi && (flags.unicode || hi.toNat < 0x80) then return .range lo hi else failure
    | _, _ => failure

/-- The dashes at the start of a class, which stand for themselves. -/
def readDashes : (bound : Nat) → ReadM Nat
  | 0 => return 0
  | n + 1 => do
    if (← peek) = '-' then bumpSpace; return (← readDashes n) + 1 else return 0

mutual

/-- A class, from its opening bracket, with its depth. -/
def readClass : (bound : Nat) → ReadM (CharSet × Nat)
  | 0 => failure
  | n + 1 => do
    bumpSpace
    let negated := (← peek) == '^'
    if negated then bumpSpace
    let dashes ← readDashes (← get).rest.length
    let part : ClassPart :=
      { chars := if dashes = 0 then .empty else .singleton '-', count := dashes }
    let part ←
      if dashes = 0 && (← peek) == ']' then
        bumpSpace
        pure (part.add (.singleton ']') 0)
      else pure part
    let flags := (← get).flags
    let (chars, depth) ← readItems n part
    return (← flags.admitFolded? negated chars, depth + 1)

/-- The items of a class, up to and including its closing bracket. -/
def readItems : (bound : Nat) → ClassPart → ReadM (CharSet × Nat)
  | 0, _ => failure
  | n + 1, part => do
    space
    let flags := (← get).flags
    match ← peek with
    | '[' =>
      match ← readAsciiClass? with
      | some chars => readItems n (part.add chars 0)
      | none =>
        let (chars, depth) ← readClass n
        readItems n (part.add chars depth)
    | ']' =>
      bump
      return part.value flags
    | _ =>
      if ← skip? "&&" then readItems n (part.operator flags .inter)
      else if ← skip? "--" then readItems n (part.operator flags .diff)
      else if ← skip? "~~" then readItems n (part.operator flags .symmDiff)
      else
        let chars ← readMember
        readItems n (part.add chars 0)

end

end GrammarGraph.Pattern
