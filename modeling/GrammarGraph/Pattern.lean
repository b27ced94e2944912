import GrammarGraph.Text

/-!
# Pattern — regular expressions as parsers use them

    source ──read?──▸ expression ──compile?──▸ matcher ──search──▸ length of the match

What a pattern matches is found by a library of regular expressions.  Of that no more is known here
than what patterns ask of it, and a pattern is its source with what the library searches for.

A pattern matches at the start of a text only.
-/

namespace GrammarGraph

/-- A pattern that has been compiled. -/
structure Pattern where
  source : String
  /-- How many characters the match at the start of a text has, if there is one. -/
  search : Text → Option Nat

namespace Pattern

/-- How a pattern is read. -/
structure Options where
  /-- `^` and `$` hold at the ends of lines, not of the text only. -/
  multiLine : Bool := true
  /-- Letters match regardless of case. -/
  ignoreCase : Bool := false
deriving DecidableEq, Repr

/-- **A library of regular expressions**, as far as patterns use it. -/
structure Library where
  /-- What sources stand for. -/
  Expression : Type
  /-- What is run on a text. -/
  Matcher : Type
  /-- The expression written as a source, if that is well formed. -/
  read? : Options → String → Option Expression
  /-- The number of bytes that an expression matches at least, if the library knows one. -/
  minimumLength? : Expression → Option Nat
  /-- The matcher of an expression, unless it would be too large. -/
  compile? : Expression → Option Matcher
  /-- How many characters the preferred match at the start of a text has, if there is a match. -/
  search : Matcher → Text → Option Nat

/-- **What patterns rely on**, where `Matches` says of an expression that it matches the one text
before the other: a search ends in the text, and finds a match; and no match is shorter than the
minimum that the library knows. -/
structure Library.Sound (library : Library)
    (Matches : library.Expression → Text → Text → Prop) : Prop where
  found {e matcher x n} (hcompile : library.compile? e = some matcher)
    (hsearch : library.search matcher x = some n) :
    n ≤ x.length ∧ Matches e (x.take n) (x.drop n)
  bounded {e m t rest} (hmin : library.minimumLength? e = some m) (hmatches : Matches e t rest) :
    m ≤ t.byteLength

/-- What the pattern matches at the start of a text, and what follows. -/
def match? (p : Pattern) (s : Text) : Option (Text × Text) :=
  (p.search s).map fun n => (s.take n, s.drop n)

/-- What is matched and what follows make up the text. -/
theorem append_of_match? {p : Pattern} {s matched rest : Text}
    (h : p.match? s = some (matched, rest)) : matched ++ rest = s := by
  obtain ⟨n, -, hn⟩ := Option.map_eq_some_iff.1 h
  cases hn
  exact List.take_append_drop n s

end Pattern

end GrammarGraph
