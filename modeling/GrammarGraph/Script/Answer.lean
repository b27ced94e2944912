import GrammarGraph.Script

/-!
# Script/Answer — what the steps of a script answer

A step answers with a reply.  Rules may get built while a step is carried out; each build is
reported with the answers of its own steps, in the order in which the builds were completed.  With
logging on, an answer also lists what was logged during the step, save what was logged during the
steps of a build.
-/

namespace GrammarGraph

/-! ## Log -/

/-- How much a record matters. -/
inductive LogLevel
  | debug
  | trace
deriving DecidableEq, Repr

/-- Something that was logged. -/
structure LogRecord where
  level : LogLevel
  message : String
deriving DecidableEq, Repr

/-! ## Replies -/

/-- Why an expression builds no parser. -/
inductive Refusal
  | grammar (error : GrammarError)
  | request (message : String)
deriving DecidableEq, Repr

/-- What a step says when it has been carried out. -/
inductive Reply (α : Type)
  | done
  | accepted
  | identity (id : NodeId)
  | label (text : String)
  | debug (text : String)
  | source (text : Text)
  | parsed (output : Output α) (remaining consumed : Text)
  | parsedAll (output : Output α)
  | parseError (error : ParseError)
  | refused (reason : Refusal)
  | fault (fault : Fault)
  | description (form : Form) (description : Description)
  | everyForm (description : Description)
  | shape (shape : Shape Description)
  | size (count : Nat)
  | dropped (wasThere : Bool)
  | defined (isDefined : Bool)
deriving DecidableEq

/-- The report of a build: the name of the rule, the answers of the steps of its definition, and
the identity of the parser that was built. -/
structure Build (σ : Type) where
  rule : String
  answers : List σ
  built : Except Refusal NodeId

/-- The answer to a step. -/
structure Answer (α : Type) where
  reply : Reply α
  builds : List (Build (Answer α))
  log : List LogRecord

end GrammarGraph
