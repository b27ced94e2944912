import GrammarGraph.Error

/-!
# Description — the structure of a grammar as a tree

A grammar is a graph.  Its description is a tree: a node that is met for the first time is
expanded, and where it is met again a back reference with its identity stands for it.  A
description is well formed if every identity is expanded once and every back reference follows
the expansion it refers to.
-/

namespace GrammarGraph

/-! ## The kinds of nodes -/

/-- Which outputs of a sequence are kept. -/
inductive Keep
  | both
  | left
  | right
deriving DecidableEq, Repr

/-- The kinds of nodes without parts. -/
inductive Leaf
  | literal (text : Text)
  | pattern (source : String)
  /-- A rule that could not be built. -/
  | unresolved
deriving DecidableEq, Repr

/-- The kinds of nodes with one part. -/
inductive Unary
  | map
  | optional
  | star
  | exactly (count : Nat)
  | named (name : String)
deriving DecidableEq, Repr

/-- The kinds of nodes with two parts. -/
inductive Binary
  | sequence (keep : Keep)
  | choice
deriving DecidableEq, Repr

/-- The kind of a node together with what stands for its parts. -/
inductive Shape (ρ : Type)
  | leaf (kind : Leaf)
  | unary (kind : Unary) (inner : ρ)
  | binary (kind : Binary) (left right : ρ)
deriving DecidableEq, Repr

/-- The word for a kind in labels and descriptions. -/
def Leaf.tag : Leaf → String
  | .literal _ => "literal"
  | .pattern _ => "pattern"
  | .unresolved => "unresolved"

@[inherit_doc Leaf.tag]
def Unary.tag : Unary → String
  | .map => "map"
  | .optional => "optional"
  | .star => "star"
  | .exactly _ => "repeat"
  | .named _ => "named"

@[inherit_doc Leaf.tag]
def Binary.tag : Binary → String
  | .sequence .both => "and"
  | .sequence .left => "andKeepLeft"
  | .sequence .right => "andKeepRight"
  | .choice => "or"

namespace Shape

variable {ρ : Type}

@[inherit_doc Leaf.tag]
def tag : Shape ρ → String
  | .leaf kind => kind.tag
  | .unary kind _ => kind.tag
  | .binary kind _ _ => kind.tag

/-- What stands for the parts, from left to right. -/
def children : Shape ρ → List ρ
  | .leaf _ => []
  | .unary _ inner => [inner]
  | .binary _ left right => [left, right]

end Shape

/-! ## Descriptions -/

/-- The description of a grammar. -/
inductive Description
  /-- A node that was expanded before. -/
  | backRef (id : NodeId)
  | leaf (id : NodeId) (kind : Leaf)
  | unary (id : NodeId) (kind : Unary) (inner : Description)
  | binary (id : NodeId) (kind : Binary) (left right : Description)
deriving DecidableEq, Repr, Inhabited

/-- The identities that need no further expansion. -/
abbrev Visited := List NodeId

namespace Description

/-- The node with the given identity, kind and parts. -/
def expanded (id : NodeId) : Shape Description → Description
  | .leaf kind => .leaf id kind
  | .unary kind inner => .unary id kind inner
  | .binary kind left right => .binary id kind left right

/-- The identity of the outermost entry. -/
def id : Description → NodeId
  | .backRef id | .leaf id _ | .unary id _ _ | .binary id _ _ _ => id

/-- The kind of an expanded node with its parts; nothing for a back reference. -/
def shape? : Description → Option (Shape Description)
  | .backRef _ => none
  | .leaf _ kind => some (.leaf kind)
  | .unary _ kind inner => some (.unary kind inner)
  | .binary _ kind left right => some (.binary kind left right)

/-- Every entry of the description, a node before its parts and these from left to right. -/
def walk : Description → List Description
  | d@(.backRef _) | d@(.leaf _ _) => [d]
  | d@(.unary _ _ inner) => d :: inner.walk
  | d@(.binary _ _ left right) => d :: (left.walk ++ right.walk)

/-- Whether entries in the order of a walk expand only what is new and refer back only to what has
been expanded, `expanded` being what was expanded before. -/
def inOrder (expanded : Visited) : List Description → Bool
  | [] => true
  | .backRef id :: rest => expanded.contains id && inOrder expanded rest
  | d :: rest => !expanded.contains d.id && inOrder (d.id :: expanded) rest

/-- **Well-formed descriptions**: each identity is expanded once, before any reference to it. -/
def isWellFormed (d : Description) : Bool := inOrder [] d.walk

/-- The description with another identity for every node. -/
def renumber (f : NodeId → NodeId) : Description → Description
  | .backRef id => .backRef (f id)
  | .leaf id kind => .leaf (f id) kind
  | .unary id kind inner => .unary (f id) kind (inner.renumber f)
  | .binary id kind left right => .binary (f id) kind (left.renumber f) (right.renumber f)

end Description

end GrammarGraph
