import GrammarGraph.Text.Quoted

/-!
# Error — what can go wrong with a grammar and with a parse

A parse fails for one of two kinds of reasons: the input is not what the grammar asks for, or the
grammar itself is defective (`Fault`).  Failures of the first kind gather context on their way out
(`within`); the others are passed on as they are, because the rules around a defect have no part
in it.
-/

namespace GrammarGraph

/-- The identity of a node of a grammar. -/
abbrev NodeId := Nat

namespace NodeId

/-- How messages write an identity. -/
def mark (id : NodeId) : String := "#" ++ id.repr

end NodeId

/-! ## Defects of grammars -/

/-- A defect of a grammar that shows while parsing. -/
inductive Fault
  /-- A repeated parser succeeded without consuming anything. -/
  | zeroProgress
  /-- A rule was declared but never defined. -/
  | undefined
  /-- A rule was needed while it was being built. -/
  | reentrant
  /-- The arena a rule lives in is gone. -/
  | detached
deriving DecidableEq, Repr, Inhabited

/-- What messages say of a defect. -/
def Fault.message : Fault → String
  | .zeroProgress => "infinite match"
  | .undefined => "undefined recursive rule"
  | .reentrant => "recursive rule forced during its own construction"
  | .detached => "grammar arena dropped"

/-- What can go wrong while a grammar is put together. -/
inductive GrammarError
  | invalidPattern (source : String)
  | uncompilablePattern (source : String)
  | alreadyDefined (rule : NodeId)
  | detached
deriving DecidableEq, Repr

/-- What is said to whoever put the grammar together. -/
def GrammarError.message : GrammarError → String
  | .invalidPattern source => "invalid pattern " ++ Text.quoteString source
  | .uncompilablePattern source => "could not compile pattern " ++ Text.quoteString source
  | .alreadyDefined rule => "recursive rule " ++ rule.mark ++ " is already defined"
  | .detached => "grammar arena dropped"

/-! ## Failed parses -/

/-- A failed parse.  `grammar` is the label of the rule that failed and `input` the start of the
text it was given. -/
inductive ParseError
  /-- A rule without parts did not match. -/
  | mismatch (grammar : String) (input : Text)
  /-- A rule did not match because one of its parts did not. -/
  | mismatchWithin (grammar : String) (input : Text) (cause : ParseError)
  /-- A rule left some of the text it should have consumed. -/
  | unconsumed (grammar : String) (input remaining : Text)
  /-- A rule left some of the text, and the failure that made it stop there is known. -/
  | unconsumedAfter (grammar : String) (input remaining : Text) (cause : ParseError)
  /-- The grammar is defective. -/
  | definition (grammar : String) (input : Text) (fault : Fault)
deriving DecidableEq, Repr, Inhabited

namespace ParseError

/-- Whether the grammar is to blame, and not the input. -/
def isDefinition : ParseError → Bool
  | .definition .. => true
  | _ => false

/-- The label of the rule that failed. -/
def grammar : ParseError → String
  | .mismatch g _ | .mismatchWithin g _ _ | .unconsumed g _ _ | .unconsumedAfter g _ _ _
  | .definition g _ _ => g

/-- The start of the text that the rule was given. -/
def input : ParseError → Text
  | .mismatch _ i | .mismatchWithin _ i _ | .unconsumed _ i _ | .unconsumedAfter _ i _ _
  | .definition _ i _ => i

/-- The failure behind this one, if there is one. -/
def cause? : ParseError → Option ParseError
  | .mismatchWithin _ _ c | .unconsumedAfter _ _ _ c => some c
  | _ => none

/-- The error and its causes, outermost first. -/
def chain : ParseError → List ParseError
  | e@(.mismatchWithin _ _ c) | e@(.unconsumedAfter _ _ _ c) => e :: chain c
  | e => [e]

/-- The innermost error of the chain. -/
def rootCause : ParseError → ParseError
  | .mismatchWithin _ _ c | .unconsumedAfter _ _ _ c => rootCause c
  | e => e

/-- **A failure seen by the rule around it**: a mismatch becomes the cause of the mismatch of that
rule, a defect stays what it is. -/
def within (label : String) (s : Text) (e : ParseError) : ParseError :=
  if e.isDefinition then e else .mismatchWithin label (Text.preview s) e

/-- What is said of the outermost failure. -/
def message (e : ParseError) : String :=
  let input := String.ofList (Text.quote e.input)
  match e with
  | .mismatch .. | .mismatchWithin .. => "could not parse " ++ input ++ " using " ++ e.grammar
  | .unconsumed _ _ remaining | .unconsumedAfter _ _ remaining _ =>
    String.ofList (Text.quote remaining) ++ " remained when parsing " ++ input ++ " using "
      ++ e.grammar
  | .definition _ _ fault =>
    fault.message ++ " while parsing " ++ input ++ " using " ++ e.grammar

end ParseError

end GrammarGraph
