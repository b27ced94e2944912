import GrammarGraph.Script

/-!
# Arena — where the definitions of rules are kept

    empty ──define──▸ built
    pending ──force──▸ building ──▸ built

An arena is a list of slots, one for each of its rules.  A slot has three cells: the parser a rule
is defined as, the definition that was deferred, and whether that definition is being built.  What
is done with a slot reads and writes these cells one at a time; the stage a slot is at (`Stage`) is
read off all three.

An arena is alive as long as it has an owner, or a definition in it is being built.  Once it is
gone, no rule of it can be used.
-/

namespace GrammarGraph

variable {α : Type}

/-- Where the definition of a rule is kept. -/
structure Slot (α : Type) where
  /-- The parser that the rule is defined as. -/
  value : Option (Parser α) := none
  /-- What builds that parser, until it is taken out to do so. -/
  deferred : Option (Deferred α) := none
  /-- Whether the definition is being built. -/
  forcing : Bool := false

/-! ## What is done with a slot -/

namespace Slot

/-- The deferred definition taken out. -/
def take (slot : Slot α) : Option (Deferred α) × Slot α :=
  (slot.deferred, { slot with deferred := none })

/-- Whether the rule has, or is to have, a definition.  The deferred definition is taken out to look
at it and put back. -/
def isDefined (slot : Slot α) : Bool × Slot α :=
  let (pending, taken) := slot.take
  let defined := pending.isSome || taken.forcing || taken.value.isSome
  (defined, { taken with deferred := pending })

/-- The slot with a definition stored, and whether it was free to take it.  The deferred definition
is taken out to look at it and put back. -/
def store (slot : Slot α) (p : Parser α) : Bool × Slot α :=
  let (pending, taken) := slot.take
  if pending.isSome || taken.forcing then (false, { taken with deferred := pending })
  else
    match taken.value with
    | some _ => (false, taken)
    | none => (true, { taken with value := some p })

/-- The slot while its deferred definition, which has been taken out, is being built. -/
def beginBuild (slot : Slot α) : Slot α := { slot.take.2 with forcing := true }

/-- The slot once its definition has been built, and the parser in it.  A parser that is there
already stays. -/
def finishBuild (slot : Slot α) (p : Parser α) : Parser α × Slot α :=
  let built := slot.value.getD p
  (built, { slot with forcing := false, value := some built })

end Slot

/-! ## Stages -/

/-- How far the definition of a rule has come. -/
inductive Stage (α : Type)
  | empty
  | pending (definition : Deferred α)
  | building
  | built (parser : Parser α)

/-- The stage a slot is at: what counts first is its parser, then whether one is being built, then
what is deferred. -/
def Slot.stage (slot : Slot α) : Stage α :=
  match slot.value, slot.forcing, slot.deferred with
  | some p, _, _ => .built p
  | none, true, _ => .building
  | none, false, some definition => .pending definition
  | none, false, none => .empty

/-! ## Arenas -/

/-- An arena. -/
structure Arena (α : Type) where
  slots : List (Slot α) := []
  /-- How many hold the arena, the definitions that are being built aside. -/
  owners : Nat := 1
  /-- How many definitions in it are being built. -/
  builds : Nat := 0

namespace Arena

/-- Whether the rules of the arena can be used. -/
def isAlive (a : Arena α) : Bool := 0 < a.owners || 0 < a.builds

/-- The arena given up by one of its owners. -/
def drop (a : Arena α) : Arena α := { a with owners := a.owners - 1 }

/-- One slot more. -/
def addSlot (a : Arena α) (slot : Slot α) : Arena α := { a with slots := a.slots ++ [slot] }

/-- One slot changed. -/
def changeSlot (a : Arena α) (index : Nat) (f : Slot α → Slot α) : Arena α :=
  { a with slots := a.slots.modify index f }

/-- The arena while the definition in the slot is being built. -/
def beginBuild (a : Arena α) (index : Nat) : Arena α :=
  { a.changeSlot index Slot.beginBuild with builds := a.builds + 1 }

/-- The arena once the definition in the slot has been built. -/
def finishBuild (a : Arena α) (index : Nat) (p : Parser α) : Arena α :=
  { a.changeSlot index (fun slot => (slot.finishBuild p).2) with builds := a.builds - 1 }

end Arena

end GrammarGraph
