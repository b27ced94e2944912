import GrammarGraph.Parser.Calls

/-!
# Parser/Label — what messages call a parser

A named parser is called by its name, a literal or a pattern by its text, any other node by its
kind and identity.  A rule is called what its definition is called, so asking for the label of a
rule may build it.
-/

namespace GrammarGraph

variable {α : Type}

/-- The label of a node that goes by its kind and identity. -/
def NodeId.label (id : NodeId) (tag : String) : String := tag ++ id.mark

/-- The label of a pattern: its source between slashes. -/
def Pattern.label (p : Pattern) : String := "/" ++ p.source ++ "/"

/-- The label of a literal: its text between quotes. -/
def Text.label (text : Text) : String := String.ofList (Text.quote text)

/-- The label of a parser. -/
def Parser.label (calls : Calls α) : Parser α → Run α String
  | .literal _ text => return Text.label text
  | .pattern _ p => return p.label
  | .map id _ _ => return id.label Unary.map.tag
  | .sequence id keep _ _ => return id.label (Binary.sequence keep).tag
  | .choice id _ _ => return id.label Binary.choice.tag
  | .optional id _ => return id.label Unary.optional.tag
  | .star id _ => return id.label Unary.star.tag
  | .exactly id count _ => return id.label (Unary.exactly count.rounds).tag
  | .named _ name _ => return name
  | .boxed inner => inner.label calls
  | .rule h => do
    match ← h.force calls.build with
    | .ok p => calls.label p
    | .error _ => return h.label

end GrammarGraph
