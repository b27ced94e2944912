import GrammarGraph.Pattern.Bracketed
import GrammarGraph.Unicode.Added

/-!
# Pattern/Reader — from pattern notation to regular expressions

`read?` reads a pattern from left to right into a `Regex`, or refuses it.  A flag set inside a group
holds to the end of that group, and across the branches of a choice.

A pattern may nest groups, repetitions, choices, sequences and classes at most 250 deep.  Every
reading function that may call itself counts its calls against a bound; as each round reads at
least one character, three times the length of the pattern is enough.
-/

namespace GrammarGraph.Pattern

open ReadM

/-! ## Repetitions -/

/-- An item of a sequence: the expression, how deep it nests, and whether it can be repeated. -/
structure Item where
  regex : Regex
  depth : Nat := 0
  repeatable : Bool := true

/-- An item repeated; a question mark turns greed around. -/
def readGreed (min : Nat) (max : Option Nat) (item : Item) : ReadM Item := do
  let lazy := (← peek?) == some '?'
  if lazy then bump
  let greedy := lazy == (← get).flags.swapGreed
  return { regex := .repeated min max greedy item.regex, depth := item.depth + 1 }

/-- A count in braces, from the opening brace: `{m}`, `{m,}` or `{m,n}`. -/
def readBraces (item : Item) : ReadM Item := do
  bumpSpace
  let low ← readCount
  let (min, max) ←
    if (← peek) = ',' then
      bumpSpace
      if (← peek) = '}' then pure (← low, none)
      else
        let min ← low
        pure (min, some (← ← readCount))
    else
      let min ← low
      pure (min, some min)
  expect '}'
  space
  if max.any (· < min) then failure
  readGreed min max item

/-! ## Groups -/

/-- The flags written before `:` or `)`.  `used` holds the letters met so far, and `-` turns the
letters after it off. -/
def readFlags : (bound : Nat) → (on dangling : Bool) → (used : List Char) → Flags → ReadM Flags
  | 0, _, _, _, _ => failure
  | n + 1, on, dangling, used, flags => do
    let c ← peek
    if c = ':' || c = ')' then
      if dangling then failure else return flags
    else if c ∈ used then failure
    else if c = '-' then
      bump
      readFlags n false true (c :: used) flags
    else
      let flags ← flags.set? on c
      bump
      readFlags n on false (c :: used) flags

/-- Whether a character is a letter or, but not as the first of a name, a number. -/
def isAlphanumeric (first : Bool) (c : Char) : Bool :=
  Unicode.alphabetic.contains c || Unicode.addedAlphabetic.contains c
    || (!first && (Unicode.number.contains c || Unicode.addedNumber.contains c))

/-- Whether a character may stand in the name of a group, first or later. -/
def isNameChar (first : Bool) (c : Char) : Bool :=
  c == '_' || isAlphanumeric first c || (!first && (c == '.' || c == '[' || c == ']'))

/-- The name of a group, up to and including `>`.  No two groups have one name. -/
def readName : ReadM Unit := do
  let s ← get
  let name := s.rest.takeWhile (· != '>')
  let rest := s.rest.dropWhile (· != '>')
  match name with
  | [] => failure
  | c :: cs =>
    if isNameChar true c && cs.all (isNameChar false) && !rest.isEmpty && name ∉ s.names then
      set { s with rest := rest.tail, names := name :: s.names }
    else failure

/-- What an opening parenthesis introduces. -/
inductive Opening
  | flags
  | capture (index : Nat)
  | plain

/-- The start of a group, from its parenthesis to its first branch. -/
def readOpening : ReadM Opening := do
  bumpSpace
  for look in ["?=", "?!", "?<=", "?<!"] do
    if ← skip? look then failure
  let index := (← get).groups + 1
  if (← skip? "?P<") || (← skip? "?<") then
    modify fun s => { s with groups := index }
    readName
    return .capture index
  else if ← skip? "?" then
    let s ← get
    let flags ← readFlags s.rest.length true false [] s.flags
    let done := (← peek) == ')'
    if done && (← get).rest.length = s.rest.length then failure
    bump
    modify fun s => { s with flags := flags }
    return if done then .flags else .plain
  else
    modify fun s => { s with groups := index }
    return .capture index

/-! ## Sequences and choices -/

/-- The items of a sequence as one. -/
def Item.sequence : List Item → Item
  | [] => { regex := .empty }
  | [item] => item
  | items =>
    { regex := .concat (items.map Item.regex), depth := (items.map Item.depth).foldl Nat.max 0 + 1 }

/-- The branches of a choice as one. -/
def Item.choice : List Item → Item
  | [] => { regex := .empty }
  | [item] => item
  | items =>
    { regex := .alternation (items.map Item.regex)
      depth := (items.map Item.depth).foldl Nat.max 0 + 1 }

mutual

/-- The items of a sequence, the latest first, up to its end. -/
def readSequence : (bound : Nat) → (done : List Item) → ReadM Item
  | 0, _ => failure
  | n + 1, done => do
    space
    match ← peek? with
    | none | some ')' | some '|' => return .sequence done.reverse
    | some '(' => readSequence n ((← readGroup n) :: done)
    | some '[' =>
      let (chars, depth) ← readClass n
      let regex := .ofSet (← get).flags.unicode chars
      readSequence n ({ regex := regex, depth := depth } :: done)
    | some c =>
      if c = '*' || c = '+' || c = '?' || c = '{' then
        match done with
        | item :: done =>
          if !item.repeatable then failure
          let item ←
            if c = '{' then readBraces item
            else
              bump
              if c = '*' then readGreed 0 none item
              else if c = '+' then readGreed 1 none item
              else readGreed 0 (some 1) item
          readSequence n (item :: done)
        | [] => failure
      else
        let atom ← readAtom
        let regex ← (← get).flags.atom? atom
        readSequence n ({ regex := regex } :: done)

/-- The branches of a choice, the latest first, up to its end. -/
def readChoice : (bound : Nat) → (done : List Item) → ReadM Item
  | 0, _ => failure
  | n + 1, done => do
    let branch ← readSequence n []
    if (← peek?) == some '|' then
      bump
      readChoice n (branch :: done)
    else return .choice (branch :: done).reverse

/-- A group, from its opening to its closing parenthesis, or a change of flags. -/
def readGroup : (bound : Nat) → ReadM Item
  | 0 => failure
  | n + 1 => do
    let outer := (← get).flags
    match ← readOpening with
    | .flags => return { regex := .empty, repeatable := false }
    | .plain =>
      let item ← readChoice n []
      close outer
      return { regex := item.regex, depth := item.depth + 1 }
    | .capture index =>
      let item ← readChoice n []
      close outer
      return { regex := .group index item.regex, depth := item.depth + 1 }
where
  /-- Past the closing parenthesis, with the flags from before the group. -/
  close (outer : Flags) : ReadM Unit := do
    expect ')'
    modify fun s => { s with flags := outer }

end

/-- How deep patterns may nest. -/
def nestLimit : Nat := 250

/-- **The expression a pattern stands for**, if the pattern is well formed. -/
def read? (flags : Flags) (source : String) : Option Regex := do
  let start : Cursor := { rest := source.toList, flags := flags }
  let (item, s) ← readChoice (3 * start.rest.length + 3) [] start
  if s.rest.isEmpty && item.depth ≤ nestLimit then some item.regex else none

end GrammarGraph.Pattern
