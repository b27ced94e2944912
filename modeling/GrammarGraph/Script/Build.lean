import GrammarGraph.Pattern.Library
import GrammarGraph.Session

/-!
# Script/Build — building parsers from expressions

The parts of an expression are built from left to right, then the node itself, and each node takes
the next identity.  An identity that was taken stays taken if the expression fails later on.
-/

namespace GrammarGraph.Expr

variable {α : Type}

/-- **A pattern as a library reads and compiles it**, refused if it is not well formed or too large.
A pattern that may match the empty text is reported before it is compiled. -/
def readPattern (library : Pattern.Library) (source : String) (options : Pattern.Options) :
    Run α (Except GrammarError Pattern) := do
  match library.read? options source with
  | none => return .error (.invalidPattern source)
  | some expression =>
    if library.minimumLength? expression == some 0 then
      Run.log .debug ("pattern " ++ Text.quoteString source ++ " can match the empty string")
    match library.compile? expression with
    | none => return .error (.uncompilablePattern source)
    | some matcher => return .ok ⟨source, library.search matcher⟩

/-- One more node on top of a part that has been built. -/
def onto (node : NodeId → Parser α → Parser α) (inner : Except Refusal (Parser α)) :
    Run α (Except Refusal (Parser α)) := do
  match inner with
  | .ok p => return .ok (node (← Run.fresh) p)
  | .error e => return .error e

/-- **The parser an expression builds.** -/
def build : Expr α → Run α (Except Refusal (Parser α))
  | .ref name => do
    match (← get).bindings.lookup name with
    | some (.parser p) => return .ok (.boxed p)
    | some (.rule h) => return .ok (.boxed (.rule h))
    | none => return .error (.request ("no parser " ++ name))
  | .literal text => return .ok (.literal (← Run.fresh) text)
  | .pattern source options => do
    match ← readPattern Regex.library source options with
    | .ok p => return .ok (.pattern (← Run.fresh) p)
    | .error e => return .error (.grammar e)
  | .map inner f => do onto (.map · · f) (← inner.build)
  | .sequence keep left right => do
    match ← left.build with
    | .error e => return .error e
    | .ok p => onto (.sequence · keep p ·) (← right.build)
  | .choice left right => do
    match ← left.build with
    | .error e => return .error e
    | .ok p => onto (.choice · p ·) (← right.build)
  | .optional inner => do onto .optional (← inner.build)
  | .star inner => do onto .star (← inner.build)
  | .exactly count inner size => do onto (.exactly · ⟨count, size⟩ ·) (← inner.build)
  | .named name inner => do onto (.named · name ·) (← inner.build)
  | .malformed message => return .error (.request message)

end GrammarGraph.Expr
