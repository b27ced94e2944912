import GrammarGraph.Proofs.Rule
import Mathlib.Data.List.Basic

/-!
# Proofs/Access — slots are got at through the list they are in

    borrow ── read a slot ── give back    the definition is built    borrow ── store ── give back

The slots of an arena are in a list, and a handle knows the index of its slot.  Who reads the list
borrows it, together with others; who makes it longer must have it to himself.  All this can go
wrong (`AccessError`): the list may be borrowed, and the index may be beyond its end.

What is done with rules is put in these terms here.  Each piece comes to the same as it does in the
session, and gives back what it has borrowed, provided that the list is not borrowed in a way that
excludes it and the slot is there.  While a definition is being built nothing is borrowed: the list
is borrowed before (`Access.enter`) and after (`Access.leave`).
-/

namespace GrammarGraph

variable {α β γ : Type}

/-- How a list of slots is borrowed. -/
inductive Borrow
  | shared (readers : Nat)
  | exclusive

/-- Why a list of slots cannot be used. -/
inductive AccessError
  /-- It is borrowed to be changed. -/
  | beingChanged
  /-- It is to be changed while it is borrowed to be read. -/
  | beingRead
  /-- It has no slot of that index. -/
  | outOfRange

/-- A session, and how the lists of slots of its arenas are borrowed. -/
structure Memory (α : Type) where
  session : Session α
  borrows : ArenaId → Borrow

/-- A computation that gets at slots through their lists, and may fail to. -/
abbrev Access (α β : Type) := StateT (Memory α) (Except AccessError) β

/-- What is found in the slot of a rule that is forced. -/
inductive Found (α : Type)
  | built (p : Parser α)
  /-- The definition has been taken out to be built. -/
  | taken (definition : Deferred α)
  | missing (fault : Fault)

namespace Access

/-! ## Borrowing -/

def setBorrow (id : ArenaId) (borrow : Borrow) : Access α Unit :=
  modify fun m => { m with borrows := Function.update m.borrows id borrow }

/-- A list borrowed in one way while `body` is carried out, and in another way then. -/
def holding (id : ArenaId) (during after : Borrow) (body : Access α β) : Access α β := do
  setBorrow id during
  let b ← body
  setBorrow id after
  return b

/-- A list borrowed to be read, while `body` is carried out. -/
def reading (id : ArenaId) (body : Access α β) : Access α β := do
  match (← get).borrows id with
  | .exclusive => throw .beingChanged
  | .shared readers => holding id (.shared (readers + 1)) (.shared readers) body

/-- A list borrowed to be changed, while `body` is carried out. -/
def changing (id : ArenaId) (body : Access α β) : Access α β := do
  match (← get).borrows id with
  | .exclusive => throw .beingChanged
  | .shared (_ + 1) => throw .beingRead
  | .shared 0 => holding id .exclusive (.shared 0) body

/-- The slot of a rule, by its index. -/
def look (h : Rule) : Access α (Slot α) := do
  match (← get).session.slotAt? h with
  | some slot => return slot
  | none => throw .outOfRange

/-- What is done to the session, borrows aside. -/
def inSession (f : Session α → β × Session α) : Access α β :=
  modifyGet fun m => ((f m.session).1, { m with session := (f m.session).2 })

/-- What is done with the slot of a rule, while the list it is in is read. -/
def inSlot (h : Rule) (f : Slot α → Session α → β × Session α) : Access α β :=
  reading h.arena do
    let slot ← look h
    inSession (f slot)

/-! ## What is done with rules -/

/-- An empty slot at the end of the list, and its handle. -/
def alloc (id : ArenaId) : Access α Rule := do
  let index ← changing id (inSession fun s =>
    let s := s.changeArena id (·.addSlot {})
    ((s.arenas[id]?.map (·.slots.length)).getD 0 - 1, s))
  let fresh ← inSession fun s => (s.nextId, { s with nextId := s.nextId + 1 })
  return ⟨fresh, id, index⟩

/-- A new rule, with or without a deferred definition. -/
def create (id : ArenaId) : Option (Deferred α) → Access α Rule
  | none => alloc id
  | some definition => do
    let h ← alloc id
    inSlot h fun _ s =>
      (PUnit.unit, s.changeSlot h fun slot => { slot with deferred := some definition })
    return h

/-- How many slots there are. -/
def size (id : ArenaId) : Access α Nat :=
  reading id (inSession fun s => ((s.arenas[id]?.map (·.slots.length)).getD 0, s))

/-- Gives a rule its definition, unless it has one or is to have one. -/
def define (h : Rule) (p : Parser α) : Access α (Except GrammarError Unit) := do
  if (← get).session.isAlive h then
    inSlot h fun slot s =>
      (if (slot.store p).1 then .ok () else .error (.alreadyDefined h.id),
        s.changeSlot h fun slot => (slot.store p).2)
  else return .error .detached

/-- Whether a rule has, or is to have, a definition. -/
def isDefined (h : Rule) : Access α Bool := do
  if (← get).session.isAlive h then
    inSlot h fun slot s => (slot.isDefined.1, s.changeSlot h fun slot => slot.isDefined.2)
  else return false

/-- Forcing a rule, until its definition is to be built. -/
def enter (h : Rule) : Access α (Found α) := do
  if (← get).session.isAlive h then
    inSlot h fun slot s =>
      match slot.value with
      | some p => (.built p, s)
      | none =>
        if slot.forcing then (.missing .reentrant, s)
        else
          match slot.take.1 with
          | none => (.missing .undefined, s)
          | some definition => (.taken definition, s.beginBuild h)
  else return .missing .detached

/-- Forcing a rule, once its definition has been built. -/
def leave (h : Rule) (p : Parser α) : Access α (Parser α) :=
  inSlot h fun slot s => ((slot.finishBuild p).1, s.finishBuild h p)

/-! ## What comes of them -/

section Computations

variable {m m' : Memory α} {s t : Session α} {id : ArenaId} {h : Rule} {slot : Slot α}
  {p : Parser α} {readers : Nat} {b : β}

theorem get_bind {f : Memory α → Access α β} : (get >>= f) m = f m m := rfl

theorem bind_of_ok {x : Access α β} {f : β → Access α γ} (hx : x m = .ok (b, m')) :
    (x >>= f) m = f b m' := by
  change (x m >>= fun y => f y.1 y.2) = _
  rw [hx]
  rfl

/-! A body that leaves alone what is borrowed may be carried out while a list is borrowed. -/

section Borrowing

variable {body : Access α β} (hbody : ∀ borrows, body ⟨m.session, borrows⟩ = .ok (b, ⟨t, borrows⟩))

include hbody

theorem holding_eq {during after : Borrow} (hafter : m.borrows id = after) :
    holding id during after body m = .ok (b, ⟨t, m.borrows⟩) := by
  have hbegin : holding id during after body m = (do
      let b ← body
      setBorrow id after
      return b : Access α β) ⟨m.session, Function.update m.borrows id during⟩ := rfl
  have hback : Function.update (Function.update m.borrows id during) id after = m.borrows := by
    rw [Function.update_idem, ← hafter, Function.update_eq_self]
  have hend (borrows : ArenaId → Borrow) : (do setBorrow id after; return b : Access α β)
      ⟨t, borrows⟩ = .ok (b, ⟨t, Function.update borrows id after⟩) := rfl
  rw [hbegin, bind_of_ok (hbody _), hend, hback]

/-- **A list that is read is given back.** -/
theorem reading_eq (hfree : m.borrows id = .shared readers) :
    reading id body m = .ok (b, ⟨t, m.borrows⟩) := by
  rw [reading, get_bind, hfree]
  exact holding_eq hbody hfree

/-- **So is a list that is changed.** -/
theorem changing_eq (hfree : m.borrows id = .shared 0) :
    changing id body m = .ok (b, ⟨t, m.borrows⟩) := by
  rw [changing, get_bind, hfree]
  exact holding_eq hbody hfree

end Borrowing

/-- **A slot that is there can be read and changed.** -/
theorem inSlot_eq (hfree : m.borrows h.arena = .shared readers)
    (hs : m.session.slotAt? h = some slot) (f : Slot α → Session α → β × Session α) :
    inSlot h f m = .ok ((f slot m.session).1, ⟨(f slot m.session).2, m.borrows⟩) := by
  refine reading_eq (fun borrows => ?_) hfree
  have hlook : look h ⟨m.session, borrows⟩ = .ok (slot, ⟨m.session, borrows⟩) := by
    rw [look, get_bind]
    dsimp only
    rw [hs]
    rfl
  rw [bind_of_ok hlook]
  rfl

/-- **An empty slot is added behind all others.** -/
theorem alloc_eq (hfree : m.borrows id = .shared 0) (hid : id < m.session.arenas.length) :
    alloc id m = .ok ((m.session.addSlot id {}).1, ⟨(m.session.addSlot id {}).2, m.borrows⟩) := by
  obtain ⟨a, ha⟩ : ∃ a, m.session.arenas[id]? = some a := ⟨_, List.getElem?_eq_getElem hid⟩
  have hafter : (m.session.changeArena id (·.addSlot {})).arenas[id]? = some (a.addSlot {}) := by
    simp [Session.changeArena, ha]
  have hrule : (m.session.addSlot id {}).1 = ⟨m.session.nextId, id, a.slots.length⟩ := by
    rw [Session.addSlot, ha]
    rfl
  have hindex : ((some (a.addSlot {})).map (·.slots.length)).getD 0 - 1 = a.slots.length := by
    simp [Arena.addSlot]
  have hpush (borrows : ArenaId → Borrow) : inSession (fun s =>
      let s := s.changeArena id (·.addSlot {})
      ((s.arenas[id]?.map (·.slots.length)).getD 0 - 1, s)) ⟨m.session, borrows⟩ =
        .ok (a.slots.length, ⟨m.session.changeArena id (·.addSlot {}), borrows⟩) := by
    rw [← hindex, ← hafter]
    rfl
  rw [alloc, bind_of_ok (changing_eq hpush hfree), hrule]
  rfl

/-- A list that is being read does not grow. -/
example : reading 0 (alloc 0) (⟨{ arenas := [{}] }, fun _ => .shared 0⟩ : Memory Unit) =
    .error .beingRead := rfl

/-- A slot that is put in and then changed is put in as it is then. -/
theorem changeSlot_addSlot (hid : id < s.arenas.length) (f : Slot α → Slot α) :
    (s.addSlot id slot).2.changeSlot (s.addSlot id slot).1 f = (s.addSlot id (f slot)).2 := by
  obtain ⟨a, ha⟩ : ∃ a, s.arenas[id]? = some a := ⟨_, List.getElem?_eq_getElem hid⟩
  have hchanged : (a.addSlot slot).changeSlot a.slots.length f = a.addSlot (f slot) := by
    simp [Arena.changeSlot, Arena.addSlot, List.modify_eq_set_getElem?]
  have harenas : (s.arenas.modify id (·.addSlot slot)).modify id (·.changeSlot a.slots.length f) =
      s.arenas.modify id (·.addSlot (f slot)) := by
    refine List.ext_getElem? fun i => ?_
    rw [List.getElem?_modify, List.getElem?_modify, List.getElem?_modify]
    by_cases hi : id = i
    · subst hi
      simp [ha, hchanged]
    · simp [hi]
  simp [Session.addSlot, Session.changeSlot, Session.changeArena, ha, harenas]

/-- **A new rule** is the one that the session gets. -/
theorem create_eq (hfree : m.borrows id = .shared 0) (hid : id < m.session.arenas.length)
    (definition : Option (Deferred α)) : create id definition m =
      .ok ((m.session.addSlot id { deferred := definition }).1,
        ⟨(m.session.addSlot id { deferred := definition }).2, m.borrows⟩) := by
  cases definition with
  | none => exact alloc_eq hfree hid
  | some d =>
    have hslot : (m.session.addSlot id {}).2.slotAt? (m.session.addSlot id {}).1 = some {} :=
      ((Session.slotOf?_addSlot hid {}).2 _).trans (if_pos rfl)
    rw [create, bind_of_ok (alloc_eq hfree hid), bind_of_ok (inSlot_eq hfree hslot _),
      changeSlot_addSlot hid]
    rfl

theorem size_eq (hfree : m.borrows id = .shared readers) :
    size id m = .ok ((m.session.arenas[id]?.map (·.slots.length)).getD 0, m) :=
  reading_eq (fun _ => rfl) hfree

/-- **Defining a rule** comes to the same as in the session. -/
theorem define_eq (hfree : m.borrows h.arena = .shared readers)
    (hs : m.session.slotAt? h = some slot) : ∃ r t, h.define p m.session = some (r, t) ∧
      define h p m = .ok (r, ⟨t, m.borrows⟩) := by
  rw [Rule.define, Run.get_bind, Session.slot?, define, get_bind]
  by_cases halive : m.session.isAlive h
  · rw [if_pos halive, if_pos halive, inSlot_eq hfree hs, hs]
    dsimp only
    rw [Run.modify_bind]
    cases (slot.store p).1 <;> exact ⟨_, _, rfl, rfl⟩
  · rw [if_neg halive, if_neg halive]
    exact ⟨_, _, rfl, rfl⟩

/-- **So does asking whether it is defined.** -/
theorem isDefined_eq (hfree : m.borrows h.arena = .shared readers)
    (hs : m.session.slotAt? h = some slot) : ∃ b t, h.isDefined m.session = some (b, t) ∧
      isDefined h m = .ok (b, ⟨t, m.borrows⟩) := by
  rw [Rule.isDefined, Run.get_bind, Session.slot?, isDefined, get_bind]
  by_cases halive : m.session.isAlive h
  · rw [if_pos halive, if_pos halive, inSlot_eq hfree hs, hs]
    exact ⟨_, _, rfl, rfl⟩
  · rw [if_neg halive, if_neg halive]
    exact ⟨_, _, rfl, rfl⟩

/-- **So does forcing a rule**, until its definition is to be built. -/
theorem enter_eq (hfree : m.borrows h.arena = .shared readers)
    (hs : m.session.slotAt? h = some slot) : enter h m =
      .ok (match (m.session.slot? h).map Slot.stage with
        | none => (.missing .detached, m)
        | some (.built p) => (.built p, m)
        | some .building => (.missing .reentrant, m)
        | some .empty => (.missing .undefined, m)
        | some (.pending d) => (.taken d, ⟨m.session.beginBuild h, m.borrows⟩)) := by
  rw [enter, get_bind, Session.slot?]
  by_cases halive : m.session.isAlive h
  · rw [if_pos halive, if_pos halive, inSlot_eq hfree hs, hs]
    obtain ⟨value, deferred, forcing⟩ := slot
    cases value with
    | some => rfl
    | none =>
      cases forcing with
      | true => rfl
      | false => cases deferred <;> rfl
  · rw [if_neg halive, if_neg halive]
    rfl

/-- **And so does storing what has been built.** -/
theorem leave_eq (hfree : m.borrows h.arena = .shared readers)
    (hs : m.session.slotAt? h = some slot) :
    leave h p m = .ok ((slot.finishBuild p).1, ⟨m.session.finishBuild h p, m.borrows⟩) :=
  inSlot_eq hfree hs _

end Computations

end Access

end GrammarGraph
