import GrammarGraph.Parser

/-!
# Script — how grammars are put together and put to work

A script is a list of steps: expressions build parsers and give them names, and further steps parse
with them, describe them and manage the arenas that rules live in.  The definition of a rule may be
deferred: it is itself a piece of script, run when the rule is first needed.

Requests that make no sense are part of scripts as well (`malformed`), because what comes before
them still takes effect.
-/

namespace GrammarGraph

variable {α : Type}

/-- An expression that builds a parser. -/
inductive Expr (α : Type)
  /-- The parser or rule with this name. -/
  | ref (name : String)
  | literal (text : Text)
  | pattern (source : String) (options : Pattern.Options)
  | map (inner : Expr α) (f : Output α → Output α)
  | sequence (keep : Keep) (left right : Expr α)
  | choice (left right : Expr α)
  | optional (inner : Expr α)
  | star (inner : Expr α)
  /-- A counted repetition; an output takes as many bytes as a text does if nothing else is said. -/
  | exactly (count : Nat) (inner : Expr α) (outputSize : Nat := 24)
  | named (name : String) (inner : Expr α)
  | malformed (message : String)
deriving Inhabited

/-- How a description is shown. -/
inductive Form
  | json
  | compact
  | pretty
  | walk
  | other (name : String)
deriving DecidableEq, Repr

/-- One step of a script. -/
inductive Step (α : Type)
  /-- Gives a name to a parser, or another name to a rule. -/
  | bind (name : String) (expr : Expr α)
  | identity (expr : Expr α)
  | label (expr : Expr α)
  | debug (expr : Expr α)
  | parse (expr : Expr α) (input : Text)
  | parseAll (expr : Expr α) (input : Text)
  /-- Describes a parser, with the named set of visited nodes or a new one. -/
  | describe (expr : Expr α) (visited : Option String) (form : Form)
  /-- Describes the outermost node of a parser without visiting it. -/
  | kind (expr : Expr α) (visited : Option String)
  /-- The text a literal, a pattern or a named parser was built from. -/
  | source (expr : Expr α)
  | newArena (name : String)
  | dropArena (name : String)
  | arenaSize (name : String)
  /-- A new rule without a definition. -/
  | declare (name arena : String)
  /-- A new rule that is defined when it is first needed, by the steps and then the expression. -/
  | defer (name arena : String) (steps : List (Step α)) (expr : Expr α)
  | define (name : String) (expr : Expr α)
  | isDefined (name : String)
  | force (name : String)
  /-- Reports a given error. -/
  | report (error : ParseError)
  /-- Takes `count` new identities and shows a description whose identities are counted among
  them. -/
  | exhibit (count : Nat) (description : Description)
  | malformed (message : String)
  /-- A request that is refused once its expression has been built. -/
  | malformedAfter (expr : Expr α) (message : String)

/-- A deferred definition of a rule. -/
structure Deferred (α : Type) where
  /-- The name under which the rule was created. -/
  name : String
  steps : List (Step α)
  expr : Expr α

/-! ## Sizes of scripts -/

mutual

/-- How many rules a step creates, the steps inside it included. -/
def Step.ruleCount : Step α → Nat
  | .declare _ _ => 1
  | .defer _ _ steps _ => 1 + Step.rulesIn steps
  | _ => 0

/-- How many rules a list of steps creates. -/
def Step.rulesIn : List (Step α) → Nat
  | [] => 0
  | step :: rest => step.ruleCount + Step.rulesIn rest

end

mutual

/-- The length of the longest text that a step parses, the steps inside it included. -/
def Step.longestInput : Step α → Nat
  | .parse _ input | .parseAll _ input => input.length
  | .defer _ _ steps _ => Step.longestIn steps
  | _ => 0

/-- The length of the longest text that a list of steps parses. -/
def Step.longestIn : List (Step α) → Nat
  | [] => 0
  | step :: rest => Nat.max step.longestInput (Step.longestIn rest)

end

end GrammarGraph
