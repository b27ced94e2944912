import GrammarGraph.Description
import GrammarGraph.Output
import GrammarGraph.Pattern

/-!
# Parser — grammars as trees that refer to rules

A parser is a tree of nodes.  Each node carries an identity that was given to it when it was built;
the same subtree in two places is the same node.  Grammars that refer to themselves do so through
handles of rules (`Rule`), and through nothing else, so every parser is a finite tree.

A box is no node: it stands for the parser in it.
-/

namespace GrammarGraph

/-- The identity of an arena. -/
abbrev ArenaId := Nat

/-- The handle of a rule: its own identity, and the slot of the arena in which its definition is
kept. -/
structure Rule where
  id : NodeId
  arena : ArenaId
  slot : Nat
deriving DecidableEq, Repr

/-- How often a counted repetition goes round, and how many bytes each of its outputs takes in the
list that is made for all of them before the first round. -/
structure Count where
  rounds : Nat
  outputSize : Nat
deriving DecidableEq, Repr

namespace Count

/-- The largest signed word: no list takes more bytes than that. -/
def maxSize : Nat := UInt64.size / 2 - 1

/-- **There can be a list for that many outputs.** -/
def Fits (count : Count) : Prop := count.rounds * count.outputSize ≤ maxSize

instance (count : Count) : Decidable count.Fits := inferInstanceAs (Decidable (_ ≤ _))

theorem Fits.of_le {m n size : Nat} (h : Fits ⟨n, size⟩) (hle : m ≤ n) : Fits ⟨m, size⟩ :=
  Nat.le_trans (Nat.mul_le_mul_right size hle) h

end Count

/-- A parser, with outputs whose values are of the type `α`. -/
inductive Parser (α : Type)
  /-- Exactly this text. -/
  | literal (id : NodeId) (text : Text)
  /-- What a pattern matches at the start of the text. -/
  | pattern (id : NodeId) (pattern : Pattern)
  /-- The output changed. -/
  | map (id : NodeId) (inner : Parser α) (f : Output α → Output α)
  /-- One parser, then another on what is left. -/
  | sequence (id : NodeId) (keep : Keep) (left right : Parser α)
  /-- One parser, and if it fails another on the same text. -/
  | choice (id : NodeId) (left right : Parser α)
  /-- A parser that may fail. -/
  | optional (id : NodeId) (inner : Parser α)
  /-- A parser as often as it succeeds. -/
  | star (id : NodeId) (inner : Parser α)
  /-- A parser a given number of times. -/
  | exactly (id : NodeId) (count : Count) (inner : Parser α)
  /-- A parser that messages and descriptions call by a name. -/
  | named (id : NodeId) (name : String) (inner : Parser α)
  /-- A parser held by reference. -/
  | boxed (inner : Parser α)
  /-- The rule with this handle. -/
  | rule (handle : Rule)
deriving Inhabited

namespace Parser

variable {α : Type}

/-- The identity of the outermost node; a rule has that of its handle. -/
def id : Parser α → NodeId
  | .literal id _ | .pattern id _ | .map id _ _ | .sequence id _ _ _ | .choice id _ _
  | .optional id _ | .star id _ | .exactly id _ _ | .named id _ _ => id
  | .boxed inner => inner.id
  | .rule handle => handle.id

end Parser

end GrammarGraph
