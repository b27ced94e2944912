/-!
# CharSet — sets of characters by the points where membership turns

A set of characters is the increasing list of the code points at which membership changes: it
begins at the first, ends before the second, begins again at the third, and so on.  Every Boolean
operation on two sets is then one walk along both lists (`combine`), and two sets with the same
members are equal as lists.

Surrogates are code points but not characters.  They are left out of `all`, and every operation
that could let them in cuts its result down to `all`.
-/

namespace GrammarGraph

/-- A set of characters: the code points, in increasing order, at which membership changes. -/
structure CharSet where
  turns : List Nat
deriving DecidableEq, Repr, Inhabited

namespace CharSet

/-! ## Membership -/

/-- Membership of a code point in the set with the given turns. -/
def holdsAt : List Nat → Nat → Bool
  | [], _ => false
  | t :: ts, n => if n < t then false else !holdsAt ts n

/-- Membership of a character. -/
def contains (s : CharSet) (c : Char) : Bool := holdsAt s.turns c.toNat

/-- No characters. -/
def empty : CharSet := ⟨[]⟩

/-- Every character: all code points but the surrogates. -/
def all : CharSet := ⟨[0, 0xD800, 0xE000, 0x110000]⟩

/-- The characters below U+0080. -/
def ascii : CharSet := ⟨[0, 0x80]⟩

/-- Whether there are no members. -/
def isEmpty (s : CharSet) : Bool := s.turns.isEmpty

/-- Whether every member is below U+0080. -/
def isAscii (s : CharSet) : Bool := s.turns.all (· ≤ 0x80)

/-- The first member, if there is any. -/
def least? (s : CharSet) : Option Char := s.turns.head?.map Char.ofNat

/-- The only member, if there is exactly one. -/
def single? (s : CharSet) : Option Char :=
  match s.turns with
  | [a, b] => if b = a + 1 then some (Char.ofNat a) else none
  | _ => none

/-! ## Boolean operations

`merge` walks along the turns of two sets at once.  `x` and `y` say whether the walk is at present
inside the first and the second set, and a turn of the result stands wherever `keep x y` changes. -/

/-- The turns of the set that `keep` makes of two sets, from here on. -/
def merge (keep : Bool → Bool → Bool) (x y : Bool) : List Nat → List Nat → List Nat
  | [], [] => []
  | a :: as, [] =>
    let rest := merge keep (!x) y as []
    if keep (!x) y = keep x y then rest else a :: rest
  | [], b :: bs =>
    let rest := merge keep x (!y) [] bs
    if keep x (!y) = keep x y then rest else b :: rest
  | a :: as, b :: bs =>
    if a < b then
      let rest := merge keep (!x) y as (b :: bs)
      if keep (!x) y = keep x y then rest else a :: rest
    else if b < a then
      let rest := merge keep x (!y) (a :: as) bs
      if keep x (!y) = keep x y then rest else b :: rest
    else
      let rest := merge keep (!x) (!y) as bs
      if keep (!x) (!y) = keep x y then rest else a :: rest
termination_by as bs => as.length + bs.length

/-- The characters `c` with `keep (c ∈ s) (c ∈ t)`, for a `keep` that leaves out what is in
neither set. -/
def combine (keep : Bool → Bool → Bool) (s t : CharSet) : CharSet :=
  ⟨merge keep false false s.turns t.turns⟩

/-- What is in either set. -/
def union (s t : CharSet) : CharSet := combine (· || ·) s t

/-- What is in both sets. -/
def inter (s t : CharSet) : CharSet := combine (· && ·) s t

/-- What is in the first set but not in the second. -/
def diff (s t : CharSet) : CharSet := combine (fun x y => x && !y) s t

/-- What is in exactly one of the sets. -/
def symmDiff (s t : CharSet) : CharSet := combine (· != ·) s t

/-- Every character that is not in the set. -/
def compl (s : CharSet) : CharSet := diff all s

/-! ## Small sets -/

/-- The characters from `lo` to `hi`, both included. -/
def range (lo hi : Char) : CharSet := inter all ⟨[lo.toNat, hi.toNat + 1]⟩

/-- One character. -/
def singleton (c : Char) : CharSet := range c c

/-- The union of several sets. -/
def ofList (sets : List CharSet) : CharSet := sets.foldl union empty

end CharSet

end GrammarGraph
