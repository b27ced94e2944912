import GrammarGraph.Session

/-!
# Rule — defining rules and getting at their definitions

A rule is built at most once.  While its definition is being built the slot says so, and the arena
stays alive even if its owner lets go of it; the definition is then stored in the very slot from
which it was taken.
-/

namespace GrammarGraph.Rule

variable {α : Type}

/-- What messages call a rule that cannot be built. -/
def label (h : Rule) : String := "lazy" ++ h.id.mark

/-- The parser that has been built for a rule stored in its slot; the parser that is then there. -/
def finish (h : Rule) (p : Parser α) : Run α (Parser α) :=
  modifyGet fun s =>
    (((s.slotAt? h).map fun slot => (slot.finishBuild p).1).getD p, s.finishBuild h p)

/-- **The definition of a rule**, built by `build` if that has been put off until now. -/
def force (build : Deferred α → Run α (Parser α)) (h : Rule) : Run α (Except Fault (Parser α)) := do
  match (← get).slot? h with
  | none => return .error .detached
  | some slot =>
    match slot.value with
    | some p => return .ok p
    | none =>
      if slot.forcing then return .error .reentrant
      match slot.take.1 with
      | none => return .error .undefined
      | some definition =>
        modify (·.beginBuild h)
        Run.log .trace ("building lazy rule " ++ h.id.mark)
        let p ← build definition
        return .ok (← h.finish p)

/-- Gives a rule its definition, unless it has one or is to have one. -/
def define (h : Rule) (p : Parser α) : Run α (Except GrammarError Unit) := do
  match (← get).slot? h with
  | none => return .error .detached
  | some slot =>
    modify (·.changeSlot h fun slot => (slot.store p).2)
    if (slot.store p).1 then return .ok () else return .error (.alreadyDefined h.id)

/-- Whether a rule has, or is to have, a definition that can be got at. -/
def isDefined (h : Rule) : Run α Bool := do
  match (← get).slot? h with
  | none => return false
  | some slot =>
    modify (·.changeSlot h fun slot => slot.isDefined.2)
    return slot.isDefined.1

end GrammarGraph.Rule
