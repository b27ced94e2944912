import GrammarGraph.Parser.Describe
import GrammarGraph.Parser.Parse
import GrammarGraph.Script.Build

/-!
# Script/Run — running scripts

A step is carried out by a function of the session, given what is done with the definitions of
rules (`Calls`).  `Calls.upTo n` is that for sessions which go at most `n` definitions deep; it ties
the knot between parsing, describing and building, each of which may lead to the others.

`Script.answers` runs a script with a depth that is enough for it: no text has more than its length
and one of places, at no place does a grammar without left recursion enter a rule twice, and no
definition is built twice.
-/

namespace GrammarGraph

variable {α : Type}

namespace Step

/-! ## Single steps -/

/-- What is done with the parser an expression builds. -/
def withParser (expr : Expr α) (f : Parser α → Run α (Reply α)) : Run α (Reply α) := do
  match ← expr.build with
  | .ok p => f p
  | .error e => return .refused e

/-- A request refused. -/
def refuse (message : String) : Run α (Reply α) := return .refused (.request message)

/-- What is done with the rule of a name; names that stand for no rule are refused. -/
def withRule (name : String) (f : Rule → Run α (Reply α)) : Run α (Reply α) := do
  match (← get).bindings.lookup name with
  | some (.rule h) => f h
  | _ => refuse "not lazy"

/-- What is done with the arena of a name. -/
def withArena (name : String) (f : ArenaId → Run α (Reply α)) : Run α (Reply α) := do
  match (← get).arenaNames.lookup name with
  | some id => f id
  | none => refuse ("no arena " ++ name)

/-- What is done with a set of visited nodes: the one of a name, or a new one. -/
def withVisited {β : Type} (name : Option String) (f : Visited → Run α (β × Visited)) :
    Run α β := do
  match name with
  | none => return (← f []).1
  | some name =>
    let (result, v) ← f (((← get).visitedSets.lookup name).getD [])
    modify fun s => { s with visitedSets := Session.rename s.visitedSets name v }
    return result

/-- A new rule with a name, in the arena of a name. -/
def newRule (name arena : String) (slot : Slot α) : Run α (Reply α) :=
  withArena arena fun id => do
    let h ← modifyGet fun s => s.addSlot id slot
    modify (·.bind name (.rule h))
    return .identity h.id

/-- The text an expression builds its outermost node from, if it has one. -/
def sourceOf? : Expr α → Option Text
  | .literal text => some text
  | .pattern written _ => some written.toList
  | .named name _ => some name.toList
  | _ => none

/-- What an expression that built the given parser stands for.  A name by itself stands for what it
was given to, which may be a rule; any other expression stands for its parser. -/
def meaning (expr : Expr α) (p : Parser α) : Run α (Binding α) := do
  match expr with
  | .ref name => return ((← get).bindings.lookup name).getD (.parser p)
  | _ => return .parser p

/-- How the programmer sees the value of an expression: a rule by its identity, any other parser by
its label. -/
def debugText (calls : Calls α) (expr : Expr α) (p : Parser α) : Run α String := do
  match ← meaning expr p with
  | .rule h => return "Lazy(NodeId(" ++ h.id.repr ++ "))"
  | .parser _ => return "BoxedParser(" ++ Text.quoteString (← p.label calls) ++ ")"

/-- **The reply to a step.** -/
def reply (calls : Calls α) : Step α → Run α (Reply α)
  | .bind name expr =>
    withParser expr fun p => do
      let meaning ← meaning expr p
      modify (·.bind name meaning)
      return .identity p.id
  | .identity expr => withParser expr fun p => return .identity p.id
  | .label expr => withParser expr fun p => return .label (← p.label calls)
  | .debug expr => withParser expr fun p => return .debug (← debugText calls expr p)
  | .parse expr input =>
    withParser expr fun p => do
      match ← p.parse calls input with
      | .ok (v, r) => return .parsed v r ((Text.consumed? input r).getD [])
      | .error e => return .parseError e
  | .parseAll expr input =>
    withParser expr fun p => do
      match ← p.parseAll calls input with
      | .ok v => return .parsedAll v
      | .error e => return .parseError e
  | .describe expr visited form =>
    withParser expr fun p => do
      let d ← withVisited visited (p.describe calls)
      match form with
      | .other name => refuse ("form " ++ name)
      | form => return .description form d
  | .kind expr visited =>
    withParser expr fun p => return .shape (← withVisited visited (p.kind calls))
  | .source expr =>
    match sourceOf? expr with
    | some text => withParser expr fun _ => return .source text
    | none => refuse "as_str"
  | .newArena name => do
    modify (·.newArena name)
    return .done
  | .dropArena name => do
    let wasThere := ((← get).arenaNames.lookup name).isSome
    modify (·.dropArena name)
    return .dropped wasThere
  | .arenaSize name =>
    withArena name fun id => do
      return .size (((← get).arenas[id]?.map (·.slots.length)).getD 0)
  | .declare name arena => newRule name arena {}
  | .defer name arena steps expr => newRule name arena { deferred := some ⟨name, steps, expr⟩ }
  | .define name expr =>
    withRule name fun h =>
      withParser expr fun p => do
        match ← h.define p with
        | .ok () => return .accepted
        | .error e => return .refused (.grammar e)
  | .isDefined name => withRule name fun h => return .defined (← h.isDefined)
  | .force name =>
    withRule name fun h => do
      match ← h.force calls.build with
      | .ok p => return .identity p.id
      | .error fault => return .fault fault
  | .report error => return .parseError error
  | .exhibit count d => do
    let first := (← get).nextId
    modify fun s => { s with nextId := s.nextId + count }
    return .everyForm (d.renumber (first + ·))
  | .malformed message => refuse message
  | .malformedAfter expr message => withParser expr fun _ => refuse message

/-- The answer to a step: its reply, what was built and what was logged during it. -/
def run (calls : Calls α) (step : Step α) : Run α (Answer α) := do
  let outer ← get
  modify fun s => { s with builds := [], log := [] }
  let reply ← step.reply calls
  let inner ← get
  modify fun s => { s with builds := outer.builds, log := outer.log }
  return ⟨reply, inner.builds, inner.log⟩

end Step

/-! ## Deferred definitions -/

/-- The parser of a deferred definition.  A definition that fails to build becomes a literal, so
that the rule is defined all the same. -/
def Deferred.build (calls : Calls α) (d : Deferred α) : Run α (Parser α) := do
  let answers ← d.steps.mapM (Step.run calls)
  let result ← d.expr.build
  let p ←
    match result with
    | .ok p => pure p
    | .error _ => pure (.literal (← Run.fresh) "<failed build>".toList)
  let report := ⟨d.name, answers, result.map Parser.id⟩
  modify fun s => { s with builds := s.builds ++ [report] }
  return p

/-- Calls that go at most so many definitions deep. -/
def Calls.upTo : Nat → Calls α
  | 0 => .none α
  | n + 1 =>
    { parse := fun p s => p.parse (upTo n) s
      parseAll := fun p s => p.parseAll (upTo n) s
      label := fun p => p.label (upTo n)
      describe := fun p v => p.describe (upTo n) v
      kind := fun p v => p.kind (upTo n) v
      build := fun d => d.build (upTo n) }

/-! ## Scripts -/

/-- How many rules come with a slot: its own, and those that building its definition creates. -/
def Slot.ruleCount (slot : Slot α) : Nat :=
  match slot.deferred with
  | some definition => Step.rulesIn definition.steps + 1
  | none => 1

/-- The length of the longest text that is parsed while the definition in a slot is built. -/
def Slot.longestInput (slot : Slot α) : Nat :=
  match slot.deferred with
  | some definition => Step.longestIn definition.steps
  | none => 0

/-- How many rules a session has, or gets while the deferred definitions are built. -/
def Session.ruleCount (s : Session α) : Nat :=
  s.slots.foldr (fun slot n => slot.ruleCount + n) 0

/-- The length of the longest text that is parsed while the deferred definitions are built. -/
def Session.longestInput (s : Session α) : Nat :=
  s.slots.foldr (fun slot n => Nat.max slot.longestInput n) 0

namespace Script

/-- How many definitions deep the steps of a script can go in a session. -/
def depth (steps : List (Step α)) (s : Session α) : Nat :=
  let rules := Step.rulesIn steps + s.ruleCount + 1
  rules * rules * (Nat.max (Step.longestIn steps) s.longestInput + 2)

/-- The answers of a script that is run in a session, and the session after it. -/
def run (steps : List (Step α)) (s : Session α) : Option (List (Answer α) × Session α) :=
  steps.mapM (Step.run (.upTo (depth steps s))) s

/-- **The answers of a script**, run in a new session. -/
def answers (logging : Bool) (steps : List (Step α)) : Option (List (Answer α)) :=
  (run steps { logging := logging }).map (·.1)

end Script

end GrammarGraph
