import GrammarGraph.Pattern
import GrammarGraph.Pattern.Matcher
import GrammarGraph.Pattern.Reader

/-!
# Pattern/Library — the library that grammars are run with

One library of regular expressions, for most of the notation: classes are read by the names of a few
scripts and categories only, and the size of a matcher is estimated.
-/

namespace GrammarGraph

/-- The reader and the matcher of this project. -/
def Regex.library : Pattern.Library where
  Expression := Regex
  Matcher := Regex
  read? options :=
    Pattern.read? { multiLine := options.multiLine, ignoreCase := options.ignoreCase }
  minimumLength? := Regex.minLength
  compile? r := if r.cost ≤ Regex.costLimit then some r else none
  search := Regex.matchLength?

/-- The pattern that is written as a source and stands for an expression. -/
def Pattern.ofRegex (source : String) (r : Regex) : Pattern := ⟨source, r.matchLength?⟩

theorem Pattern.match?_ofRegex (source : String) (r : Regex) (s : Text) :
    (ofRegex source r).match? s = (r.matchLength? s).map fun n => (s.take n, s.drop n) := rfl

end GrammarGraph
