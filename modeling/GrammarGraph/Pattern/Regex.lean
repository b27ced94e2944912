import GrammarGraph.Pattern.Assertion
import GrammarGraph.Text

/-!
# Pattern/Regex — regular expressions in a flat normal form

A `Regex` says what a pattern matches once its notation has been read.  The constructors of the
type are not used directly by readers of patterns: `ofSet`, `concat`, `alternation` and `repeated`
build the same expressions and keep them small — sequences and choices are flat, neighbouring
literals are one, a choice between single characters or between sets is a set, branches that begin
alike share their beginning, and nothing that matches no character is repeated more than once.

`minLength` is the bound that a pattern is checked against when it is built: a pattern whose bound
is zero is reported, because a repetition of it may never end.
-/

namespace GrammarGraph

/-- A regular expression.  Choices prefer their first branch, greedy repetitions another round. -/
inductive Regex
  | empty
  | literal (text : Text)
  /-- One character out of a set, which was written as one of Unicode or of ASCII.  Branches that
  begin with the same characters written differently do not begin alike. -/
  | set (chars : CharSet) (unicode : Bool)
  | assertion (a : Assertion)
  | repetition (min : Nat) (max : Option Nat) (greedy : Bool) (body : Regex)
  | group (index : Nat) (body : Regex)
  | seq (first rest : Regex)
  | alt (first rest : Regex)
deriving DecidableEq, Repr, Inhabited

namespace Regex

/-! ## Length bounds

The bounds are absent where nothing is known: an expression that cannot match at all has neither,
and passes that on to every expression it is part of. -/

/-- The sum of two bounds, if both are known. -/
def addBounds (a b : Option Nat) : Option Nat := a.bind fun m => b.map (m + ·)

/-- A lower bound on the number of bytes matched. -/
def minLength : Regex → Option Nat
  | .empty | .assertion _ => some 0
  | .literal text => some text.byteLength
  | .set chars _ => chars.least?.map Char.utf8Size
  | .repetition min _ _ body => body.minLength.map (· * min)
  | .group _ body => body.minLength
  | .seq first rest => addBounds first.minLength rest.minLength
  | .alt first rest => first.minLength.bind fun m => rest.minLength.map (Nat.min m)

/-- An upper bound on the number of characters matched. -/
def maxLength : Regex → Option Nat
  | .empty | .assertion _ => some 0
  | .literal text => some text.length
  | .set chars _ => if chars.isEmpty then none else some 1
  | .repetition _ max _ body => max.bind fun n => body.maxLength.map (· * n)
  | .group _ body => body.maxLength
  | .seq first rest => addBounds first.maxLength rest.maxLength
  | .alt first rest => first.maxLength.bind fun m => rest.maxLength.map (Nat.max m)

/-- Whether the bound shows that the expression always consumes something. -/
def isProductive (r : Regex) : Bool := r.minLength.any (0 < ·)

/-! ## Building -/

/-- What matches nothing: one character out of none. -/
def nothing : Regex := .set .empty false

/-- One character out of a set. -/
def ofSet (unicode : Bool) (chars : CharSet) : Regex :=
  match chars.single? with
  | some c => .literal [c]
  | none => if chars.isEmpty then nothing else .set chars unicode

/-- The expressions a sequence is made of, in order. -/
def items : Regex → List Regex
  | .seq first rest => first.items ++ rest.items
  | .empty => []
  | r => [r]

/-- The branches a choice is made of, in order. -/
def branches : Regex → List Regex
  | .alt first rest => first.branches ++ rest.branches
  | r => [r]

/-- Neighbouring literals joined. -/
def joinLiterals : List Regex → List Regex
  | [] => []
  | r :: rest =>
    match r, joinLiterals rest with
    | .literal a, .literal b :: rest => .literal (a ++ b) :: rest
    | r, rest => r :: rest

/-- The nested form of a sequence. -/
def nestSeq : List Regex → Regex
  | [] => .empty
  | [r] => r
  | r :: rest => .seq r (nestSeq rest)

/-- The nested form of a choice; no branches match nothing. -/
def nestAlt : List Regex → Regex
  | [] => nothing
  | [r] => r
  | r :: rest => .alt r (nestAlt rest)

/-- Expressions one after another. -/
def concat (rs : List Regex) : Regex := nestSeq (joinLiterals (rs.flatMap items))

/-- The character an expression is, if it is a literal of one. -/
def asChar? : Regex → Option Char
  | .literal [c] => some c
  | _ => none

/-- The set an expression takes its one character from, if it is of that kind. -/
def asSet? : Regex → Option CharSet
  | .set chars _ => some chars
  | _ => none

/-- The set that a choice amounts to, if its branches are all single characters or all sets.  A
character beside a set is a branch of its own. -/
def mergedSet? (rs : List Regex) : Option CharSet :=
  match rs.mapM asChar? with
  | some cs => some (.ofList (cs.map .singleton))
  | none => (rs.mapM asSet?).map .ofList

/-- The longest list that both lists begin with. -/
def commonStart : List Regex → List Regex → List Regex
  | a :: as, b :: bs => if a = b then a :: commonStart as bs else []
  | _, _ => []

/-- What sequences of two or more items all begin with; nothing if there is any other branch. -/
def sharedStart (branches : List Regex) : List Regex :=
  let parts := branches.map items
  match parts with
  | [] => []
  | first :: others => if parts.all (1 < ·.length) then others.foldl commonStart first else []

/-- A choice, factored at most `depth` times. -/
def factored (depth : Nat) (rs : List Regex) : Regex :=
  match rs.flatMap branches, depth with
  | [r], _ => r
  | rs, depth =>
    match mergedSet? rs with
    | some chars => ofSet true chars
    | none =>
      match depth, sharedStart rs with
      | depth + 1, first :: start =>
        let rests := rs.map fun r => concat (r.items.drop (start.length + 1))
        concat (first :: start ++ [factored depth rests])
      | _, _ => nestAlt rs

/-- **A choice between expressions**, the first preferred.  Each factoring takes at least one item
away, so their number bounds how often it can happen. -/
def alternation (rs : List Regex) : Regex :=
  factored (rs.flatMap items).length rs

/-- `min` to `max` rounds of an expression. -/
def repeated (min : Nat) (max : Option Nat) (greedy : Bool) (body : Regex) : Regex :=
  let (min, max) :=
    if body.maxLength = some 0 then (Nat.min min 1, some (Nat.min (max.getD 1) 1)) else (min, max)
  if max = some 0 then .empty
  else if min = 1 ∧ max = some 1 then body
  else .repetition min max greedy body

/-! ## Size -/

/-- The number of places in the expression with counted rounds written out: no more different
threads can wait in a matcher. -/
def places : Regex → Nat
  | .empty | .set _ _ | .assertion _ => 1
  | .literal text => text.length + 1
  | .repetition min max _ body => (Nat.max min (max.getD 0) + 2) * (body.places + 2)
  | .group _ body => body.places + 1
  | .seq first rest | .alt first rest => first.places + rest.places + 1

/-- An estimate of the memory a matcher takes, in bytes, with counted rounds written out. -/
def cost : Regex → Nat
  | .empty | .assertion _ => 32
  | .literal text => 32 * (String.ofList text).utf8ByteSize
  | .set chars _ => 32 + 16 * chars.turns.length
  | .repetition min max _ body => (Nat.max 1 (Nat.max min (max.getD 0))) * (body.cost + 32)
  | .group _ body => body.cost + 64
  | .seq first rest => first.cost + rest.cost
  | .alt first rest => first.cost + rest.cost + 32

/-- Matchers take at most ten mebibytes. -/
def costLimit : Nat := 10 * 1024 * 1024

end Regex

end GrammarGraph
