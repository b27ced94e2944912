import GrammarGraph.Parser.Calls

/-!
# Parser/Describe — describing parsers

A node that has been visited is described by a back reference; any other is marked as visited and
then expanded, its parts from left to right.  Because a node is marked before its parts are
described, a node that is part of itself is described by a back reference the second time.

A rule is described as what it is defined as.  A rule that cannot be built is described as
unresolved, under the identity of its handle.
-/

namespace GrammarGraph.Parser

variable {α : Type}

/-- A node described: by a back reference if it has been visited, by its kind otherwise. -/
def visit (id : NodeId) (kind : Visited → Run α (Shape Description × Visited)) (v : Visited) :
    Run α (Description × Visited) := do
  if v.contains id then return (.backRef id, v)
  let (shape, v) ← kind (id :: v)
  return (.expanded id shape, v)

/-- A parser described, given the kind of its outermost node. -/
def enter (calls : Calls α) (kind : Visited → Run α (Shape Description × Visited)) :
    Parser α → Visited → Run α (Description × Visited)
  | .boxed inner, v => enter calls kind inner v
  | .rule h, v => do
    match ← h.force calls.build with
    | .ok p => calls.describe p v
    | .error _ => visit h.id (fun v => return (.leaf .unresolved, v)) v
  | p, v => visit p.id kind v

/-- The kind of the outermost node of a parser, with its parts described. -/
def kind (calls : Calls α) : Parser α → Visited → Run α (Shape Description × Visited)
  | .literal _ text, v => return (.leaf (.literal text), v)
  | .pattern _ p, v => return (.leaf (.pattern p.source), v)
  | .map _ inner _, v => unary .map inner (inner.kind calls) v
  | .sequence _ keep left right, v =>
    binary (.sequence keep) left right (left.kind calls) (right.kind calls) v
  | .choice _ left right, v => binary .choice left right (left.kind calls) (right.kind calls) v
  | .optional _ inner, v => unary .optional inner (inner.kind calls) v
  | .star _ inner, v => unary .star inner (inner.kind calls) v
  | .exactly _ count inner, v => unary (.exactly count.rounds) inner (inner.kind calls) v
  | .named _ name inner, v => unary (.named name) inner (inner.kind calls) v
  | .boxed inner, v => inner.kind calls v
  | .rule h, v => do
    match ← h.force calls.build with
    | .ok p => calls.kind p v
    | .error _ => return (.leaf .unresolved, v)
where
  /-- A kind with one part. -/
  unary (tag : Unary) (inner : Parser α) (kind : Visited → Run α (Shape Description × Visited))
      (v : Visited) : Run α (Shape Description × Visited) := do
    let (d, v) ← enter calls kind inner v
    return (.unary tag d, v)
  /-- A kind with two parts, the left one described first. -/
  binary (tag : Binary) (left right : Parser α)
      (leftKind rightKind : Visited → Run α (Shape Description × Visited)) (v : Visited) :
      Run α (Shape Description × Visited) := do
    let (d, v) ← enter calls leftKind left v
    let (e, v) ← enter calls rightKind right v
    return (.binary tag d e, v)

/-- **The description of a parser**, and the nodes visited after it. -/
def describe (calls : Calls α) (p : Parser α) (v : Visited) : Run α (Description × Visited) :=
  enter calls (p.kind calls) p v

end GrammarGraph.Parser
