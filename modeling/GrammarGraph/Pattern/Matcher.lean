import GrammarGraph.Pattern.Regex

/-!
# Pattern/Matcher — the preferred match at the start of a text

    threads ──settle──▸ threads at rest ──next character──▸ threads ──settle──▸ …

A thread is what is left to match, as a list of goals.  The matcher keeps a list of threads, the
preferred ones first, and reads the text once, character by character: `settle` follows every
thread until it waits for a character or is done, and drops a thread whose assertion fails or that
has been met before at the same place; a thread that is done cuts off those after it.  The match
is the one of the last thread that was done before no thread was left.

A goal carries its path from the root of the expression, so equal threads are equal places in it,
and following the empty rounds of a repetition comes to an end.
-/

namespace GrammarGraph

/-- One thing left to match. -/
inductive Goal
  /-- The expression at this path. -/
  | meet (path : List Nat) (r : Regex)
  /-- Further rounds of the expression, after one round has been matched. -/
  | again (path : List Nat) (greedy : Bool) (body : Regex)
deriving DecidableEq

/-- What is left to match, in order. -/
abbrev Thread := List Goal

namespace Thread

/-- How a thread goes on. -/
inductive Move
  /-- It is done, or waits for a character. -/
  | rest
  /-- It goes on as these threads, the preferred one first. -/
  | split (threads : List Thread)
  /-- It goes on as this thread where the assertion holds. -/
  | check (a : Assertion) (thread : Thread)

/-- Another round or none, the preferred one first. -/
def moreOrDone (greedy : Bool) (more done : Thread) : Move :=
  .split (if greedy then [more, done] else [done, more])

/-- How a thread goes on before the next character is read.

A repetition without bound of something that may match nothing enters its first round apart from
the later ones: coming back to the start of a round without having read anything, a thread leaves
the repetition instead of being dropped. -/
def move : Thread → Move
  | [] => .rest
  | .again path greedy body :: k =>
    moreOrDone greedy (.meet (0 :: path) body :: .again path greedy body :: k) k
  | .meet path r :: k =>
    match r with
    | .empty => .split [k]
    | .literal [] => .split [k]
    | .literal (_ :: _) => .rest
    | .set _ _ => .rest
    | .assertion a => .check a k
    | .group _ body => .split [.meet (0 :: path) body :: k]
    | .seq first rest => .split [.meet (0 :: path) first :: .meet (1 :: path) rest :: k]
    | .alt first rest => .split [.meet (0 :: path) first :: k, .meet (1 :: path) rest :: k]
    | .repetition (min + 1) max greedy body =>
      match max, min with
      | none, 0 => .split [.meet (0 :: path) body :: .again path greedy body :: k]
      | _, _ =>
        let later := .repetition min (max.map (· - 1)) greedy body
        .split [.meet (0 :: path) body :: .meet path later :: k]
    | .repetition 0 (some 0) _ _ => .split [k]
    | .repetition 0 (some (n + 1)) greedy body =>
      moreOrDone greedy
        (.meet (0 :: path) body :: .meet path (.repetition 0 (some n) greedy body) :: k) k
    | .repetition 0 none greedy body =>
      let later := if body.isProductive then .meet path r else .again path greedy body
      moreOrDone greedy (.meet (0 :: path) body :: later :: k) k

/-- What is left of a thread after a character, if it was waiting for that character. -/
def advance (c : Char) : Thread → Option Thread
  | .meet path (.literal (a :: text)) :: k =>
    if a = c then some (.meet path (.literal text) :: k) else none
  | .meet _ (.set chars _) :: k => if chars.contains c then some k else none
  | _ => none

/-- The threads at rest that the given ones lead to, in order of preference, each once, at a place
where the assertions hold that `holds` says.  Every thread counts against `fuel`. -/
def settle (holds : Assertion → Bool) : (fuel : Nat) → (todo seen : List Thread) → List Thread
  | 0, _, _ => []
  | _, [], _ => []
  | fuel + 1, t :: todo, seen =>
    if t ∈ seen then settle holds fuel todo seen
    else
      match t.move with
      | .rest => t :: settle holds fuel todo (t :: seen)
      | .split ts => settle holds fuel (ts ++ todo) (t :: seen)
      | .check a k => settle holds fuel (if holds a then k :: todo else todo) (t :: seen)

/-- The length of the preferred match.  The threads are those left after `read` characters, of
which `before` was the last, and `best` is the length of the preferred match among those already
done. -/
def scan (fuel : Nat) (threads : List Thread) (before : Option Char) (read : Nat)
    (best : Option Nat) (s : Text) : Option Nat :=
  let settled := settle (·.holds before s.head?) fuel threads []
  let live := settled.takeWhile (!·.isEmpty)
  let best := if live.length < settled.length then some read else best
  match s with
  | [] => best
  | c :: s =>
    let next := live.filterMap (advance c)
    if next.isEmpty then best else scan fuel next (some c) (read + 1) best s

end Thread

/-- Enough steps to settle the threads of an expression at one place: a thread leads to at most two
others. -/
def Regex.fuel (r : Regex) : Nat := 3 * r.places + 3

/-- **The length of the preferred match at the start of a text.** -/
def Regex.matchLength? (r : Regex) (s : Text) : Option Nat :=
  Thread.scan r.fuel [[.meet [] r]] none 0 none s

end GrammarGraph
