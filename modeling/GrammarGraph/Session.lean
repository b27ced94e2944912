import GrammarGraph.Arena
import GrammarGraph.Script.Answer

/-!
# Session — what scripts read and change

A session holds the arenas, the names that scripts give to parsers, rules, arenas and sets of
visited nodes, and the next identity to be given out.  `Run` is the type of what reads and changes
a session.  A run has no result (`none`) if it would go deeper into rules than it was allowed to, or
if it is broken off because there is no room for its outputs, and then at every depth; that is no
answer of any kind.
-/

namespace GrammarGraph

variable {α β : Type}

/-- What a name stands for in expressions. -/
inductive Binding (α : Type)
  | parser (p : Parser α)
  | rule (handle : Rule)

/-- The state of a session. -/
structure Session (α : Type) where
  nextId : NodeId := 0
  arenas : List (Arena α) := []
  bindings : List (String × Binding α) := []
  arenaNames : List (String × ArenaId) := []
  visitedSets : List (String × Visited) := []
  logging : Bool := false
  /-- What has been logged during the current step. -/
  log : List LogRecord := []
  /-- What has been built during the current step. -/
  builds : List (Build (Answer α)) := []

/-- A computation on a session. -/
abbrev Run (α β : Type) := StateT (Session α) Option β

namespace Session

/-! ## Arenas and slots -/

/-- An arena changed. -/
def changeArena (s : Session α) (id : ArenaId) (f : Arena α → Arena α) : Session α :=
  { s with arenas := s.arenas.modify id f }

/-- The slots of all arenas, one for each rule. -/
def slots (s : Session α) : List (Slot α) := s.arenas.flatMap (·.slots)

/-- The slot of a rule, whether or not its arena is alive. -/
def slotAt? (s : Session α) (h : Rule) : Option (Slot α) := do
  let arena ← s.arenas[h.arena]?
  arena.slots[h.slot]?

/-- Whether the arena of a rule is alive. -/
def isAlive (s : Session α) (h : Rule) : Bool := (s.arenas[h.arena]?).any Arena.isAlive

/-- The slot of a rule, if its arena is alive. -/
def slot? (s : Session α) (h : Rule) : Option (Slot α) :=
  if s.isAlive h then s.slotAt? h else none

/-- The slot of a rule changed. -/
def changeSlot (s : Session α) (h : Rule) (f : Slot α → Slot α) : Session α :=
  s.changeArena h.arena (·.changeSlot h.slot f)

/-- The session while the definition of a rule is being built. -/
def beginBuild (s : Session α) (h : Rule) : Session α :=
  s.changeArena h.arena (·.beginBuild h.slot)

/-- The session once the definition of a rule has been built. -/
def finishBuild (s : Session α) (h : Rule) (p : Parser α) : Session α :=
  s.changeArena h.arena (·.finishBuild h.slot p)

/-- A new slot in an arena, with the identity of its handle. -/
def addSlot (s : Session α) (arena : ArenaId) (slot : Slot α) : Rule × Session α :=
  let index := (s.arenas[arena]?.map (·.slots.length)).getD 0
  let s := s.changeArena arena (·.addSlot slot)
  (⟨s.nextId, arena, index⟩, { s with nextId := s.nextId + 1 })

/-! ## Names -/

/-- A list of names with one of them given a new meaning. -/
def rename (names : List (String × β)) (name : String) (meaning : β) : List (String × β) :=
  (name, meaning) :: names.filter (·.1 != name)

/-- A name given to a parser or a rule. -/
def bind (s : Session α) (name : String) (binding : Binding α) : Session α :=
  { s with bindings := rename s.bindings name binding }

/-- The arena with this name given up by its owner. -/
def dropArena (s : Session α) (name : String) : Session α :=
  match s.arenaNames.lookup name with
  | some id =>
    { s.changeArena id Arena.drop with arenaNames := s.arenaNames.filter (·.1 != name) }
  | none => s

/-- A new arena, in the place of any other of that name. -/
def newArena (s : Session α) (name : String) : Session α :=
  let s := s.dropArena name
  { s with
    arenas := s.arenas ++ [{}], arenaNames := rename s.arenaNames name s.arenas.length }

end Session

namespace Run

/-- A new identity. -/
def fresh : Run α NodeId :=
  modifyGet fun s => (s.nextId, { s with nextId := s.nextId + 1 })

/-- **Room for the outputs of a counted repetition.**  Where there can be none the run is broken
off: nothing recovers from that, and it has no result at any depth. -/
def reserve (count : Count) : Run α Unit :=
  if count.Fits then return else failure

/-- Something to be logged, where logging is on. -/
def log (level : LogLevel) (message : String) : Run α Unit :=
  modify fun s => if s.logging then { s with log := s.log ++ [⟨level, message⟩] } else s

end Run

end GrammarGraph
