import GrammarGraph.Rule

/-!
# Parser/Calls — what parsers ask of the rules they refer to

Everything that is done with a parser follows its tree down to the handles of rules, and goes on
with the parser that a rule is defined as.  That parser is no part of the tree, so the definitions
by recursion on the tree take what is done with it as a parameter: `Calls` holds one function for
each thing that can be done with a parser, and one that builds a deferred definition.  The
functions that a session runs with are put together in `Script/Run`.
-/

namespace GrammarGraph

/-- The result of a parse: the output and what is left of the text. -/
abbrev Parsed (α : Type) := Except ParseError (Output α × Text)

/-- What is done with the definitions of rules. -/
structure Calls (α : Type) where
  parse : Parser α → Text → Run α (Parsed α)
  parseAll : Parser α → Text → Run α (Except ParseError (Output α))
  label : Parser α → Run α String
  describe : Parser α → Visited → Run α (Description × Visited)
  kind : Parser α → Visited → Run α (Shape Description × Visited)
  build : Deferred α → Run α (Parser α)

/-- Calls that go no deeper: nothing has a result. -/
def Calls.none (α : Type) : Calls α where
  parse _ _ := failure
  parseAll _ _ := failure
  label _ := failure
  describe _ _ := failure
  kind _ _ := failure
  build _ := failure

end GrammarGraph
