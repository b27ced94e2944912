import GrammarGraph.Proofs.Run

/-!
# Proofs/Rule — what is done with a rule depends on the stage of its slot

The cells of a slot are looked at one after another, but what comes of it can be told from the stage
that the slot is at.  Whatever is done with one slot leaves all others as they are.
-/

namespace GrammarGraph

variable {α : Type} {s : Session α} {h : Rule} {p : Parser α}

/-! ## Lists -/

theorem modify_eq_self {β : Type} {l : List β} {i : Nat} {b : β} {f : β → β}
    (h : l[i]? = some b) (hf : f b = b) : l.modify i f = l := by
  refine List.ext_getElem? fun j => ?_
  rw [List.getElem?_modify]
  by_cases hj : i = j
  · subst hj
    rw [h]
    exact congrArg some ((if_pos rfl).trans hf)
  · simp only [if_neg hj]
    exact Option.map_id'

/-! ## Slots -/

namespace Slot

variable {slot : Slot α}

theorem value_of_built (hs : slot.stage = .built p) : slot.value = some p := by
  match slot, hs with
  | ⟨some _, _, _⟩, rfl => rfl
  | ⟨none, _, true⟩, hs => cases hs
  | ⟨none, some _, false⟩, hs => cases hs
  | ⟨none, none, false⟩, hs => cases hs

theorem deferred_of_pending {definition : Deferred α} (hs : slot.stage = .pending definition) :
    slot.deferred = some definition := by
  match slot, hs with
  | ⟨none, some _, false⟩, rfl => rfl
  | ⟨some _, _, _⟩, hs => cases hs
  | ⟨none, _, true⟩, hs => cases hs
  | ⟨none, none, false⟩, hs => cases hs

/-- A pending definition that has been built is all that is in its slot. -/
theorem finishBuild_beginBuild {definition : Deferred α} (hs : slot.stage = .pending definition) :
    slot.beginBuild.finishBuild p = (p, { value := some p }) := by
  match slot, hs with
  | ⟨none, some _, false⟩, _ => rfl
  | ⟨some _, _, _⟩, hs => cases hs
  | ⟨none, _, true⟩, hs => cases hs
  | ⟨none, none, false⟩, hs => cases hs

theorem value_store (hs : slot.stage = .empty) : (slot.store p).2.value = some p := by
  match slot, hs with
  | ⟨none, none, false⟩, _ => rfl
  | ⟨some _, _, _⟩, hs => cases hs
  | ⟨none, _, true⟩, hs => cases hs
  | ⟨none, some _, false⟩, hs => cases hs

theorem deferred_store (hs : slot.stage = .empty) : (slot.store p).2.deferred = none := by
  match slot, hs with
  | ⟨none, none, false⟩, _ => rfl
  | ⟨some _, _, _⟩, hs => cases hs
  | ⟨none, _, true⟩, hs => cases hs
  | ⟨none, some _, false⟩, hs => cases hs

end Slot

/-! ## Places -/

/-- Where the definition of a rule is kept.  All handles of a rule agree on it. -/
structure Place where
  arena : ArenaId
  slot : Nat
deriving DecidableEq, Repr

/-- The place that a handle leads to. -/
def Rule.place (h : Rule) : Place := ⟨h.arena, h.slot⟩

namespace Session

/-- The slot at a place, whether or not its arena is alive. -/
def slotOf? (s : Session α) (x : Place) : Option (Slot α) :=
  s.arenas[x.arena]?.bind fun a => a.slots[x.slot]?

theorem slotAt?_eq : s.slotAt? h = s.slotOf? h.place := rfl

theorem slotOf?_of_slot? {slot : Slot α} (hs : s.slot? h = some slot) :
    s.slotOf? h.place = some slot := by
  rw [slot?] at hs
  split at hs
  · exact hs
  · cases hs

/-- Where a rule is built, its definition is stored. -/
theorem exists_slotOf?_of_built (hs : (s.slot? h).map Slot.stage = some (.built p)) :
    ∃ slot, s.slotOf? h.place = some slot ∧ slot.value = some p := by
  obtain ⟨slot, hslot, hstage⟩ := Option.map_eq_some_iff.1 hs
  exact ⟨slot, slotOf?_of_slot? hslot, Slot.value_of_built hstage⟩

theorem slotOf?_congr {t : Session α} (ha : t.arenas = s.arenas) (x : Place) :
    t.slotOf? x = s.slotOf? x := by rw [slotOf?, slotOf?, ha]

/-- An arena changed in one of its slots at most. -/
theorem slotOf?_changeArena {id : ArenaId} {i : Nat} {f : Arena α → Arena α} {g : Slot α → Slot α}
    (hf : ∀ a, (f a).slots = a.slots.modify i g) (x : Place) :
    (s.changeArena id f).slotOf? x =
      if x = ⟨id, i⟩ then (s.slotOf? x).map g else s.slotOf? x := by
  obtain ⟨a, j⟩ := x
  rw [slotOf?, slotOf?, changeArena, List.getElem?_modify]
  cases harena : s.arenas[a]? with
  | none => simp
  | some arena =>
    by_cases ha : id = a
    · subst ha
      by_cases hj : i = j
      · subst hj
        simp [hf]
      · simp [hf, hj, Ne.symm hj]
    · simp [ha, Ne.symm ha]

/-- What is in a slot after an arena has changed in one of its slots. -/
theorem of_slotOf?_changeArena {id : ArenaId} {i : Nat} {f : Arena α → Arena α}
    {g : Slot α → Slot α} {x : Place} {slot : Slot α}
    (hf : ∀ a, (f a).slots = a.slots.modify i g)
    (hslot : (s.changeArena id f).slotOf? x = some slot) :
    (x = ⟨id, i⟩ ∧ ∃ before, s.slotOf? x = some before ∧ g before = slot) ∨
      s.slotOf? x = some slot := by
  rw [slotOf?_changeArena hf] at hslot
  split at hslot
  · next hx => exact .inl ⟨hx, Option.map_eq_some_iff.1 hslot⟩
  · exact .inr hslot

/-- A slot changed, where it is known what is in it. -/
theorem slotOf?_changeArena_of_eq {f : Arena α → Arena α} {g : Slot α → Slot α} {slot : Slot α}
    (hs : s.slotOf? h.place = some slot) (hf : ∀ a, (f a).slots = a.slots.modify h.slot g)
    (x : Place) : (s.changeArena h.arena f).slotOf? x =
      if x = h.place then some (g slot) else s.slotOf? x := by
  rw [slotOf?_changeArena hf]
  by_cases hx : x = h.place
  · subst hx
    rw [hs]
    rfl
  · rw [if_neg hx]
    exact if_neg hx

theorem slotOf?_changeSlot {slot : Slot α} (hs : s.slotOf? h.place = some slot)
    (g : Slot α → Slot α) (x : Place) :
    (s.changeSlot h g).slotOf? x = if x = h.place then some (g slot) else s.slotOf? x :=
  slotOf?_changeArena_of_eq hs (fun _ => rfl) x

theorem slotOf?_beginBuild {slot : Slot α} (hs : s.slotOf? h.place = some slot) (x : Place) :
    (s.beginBuild h).slotOf? x = if x = h.place then some slot.beginBuild else s.slotOf? x :=
  slotOf?_changeArena_of_eq hs (fun _ => rfl) x

theorem slotOf?_finishBuild {slot : Slot α} (hs : s.slotOf? h.place = some slot) (p : Parser α)
    (x : Place) : (s.finishBuild h p).slotOf? x =
      if x = h.place then some (slot.finishBuild p).2 else s.slotOf? x := by
  have hslots : ∀ a : Arena α, (a.finishBuild h.slot p).slots =
      a.slots.modify h.slot fun slot => (slot.finishBuild p).2 := fun _ => rfl
  exact slotOf?_changeArena_of_eq hs hslots x

theorem slotOf?_dropArena (name : String) (x : Place) :
    (s.dropArena name).slotOf? x = s.slotOf? x := by
  rw [dropArena]
  split
  · next id _ =>
    have hslots : ∀ a : Arena α, a.drop.slots = a.slots.modify 0 fun slot => slot :=
      fun a => (List.modify_id 0 a.slots).symm
    have hdrop : (s.changeArena id Arena.drop).slotOf? x =
        if x = ⟨id, 0⟩ then (s.slotOf? x).map fun slot => slot else s.slotOf? x :=
      slotOf?_changeArena hslots x
    rwa [Option.map_id', ite_self] at hdrop
  · rfl

theorem slotOf?_newArena (name : String) (x : Place) :
    (s.newArena name).slotOf? x = s.slotOf? x := by
  have happend : (s.newArena name).slotOf? x =
      ((s.dropArena name).arenas ++ [{ slots := [] }])[x.arena]?.bind fun a => a.slots[x.slot]? :=
    rfl
  rw [happend, ← slotOf?_dropArena name x, slotOf?, List.getElem?_append]
  split
  · rfl
  · next hlength =>
    rw [List.getElem?_eq_none (Nat.le_of_not_lt hlength), List.getElem?_singleton]
    split
    · rfl
    · rfl

/-- A new slot is at a place where there was none. -/
theorem slotOf?_addSlot {id : ArenaId} (hid : id < s.arenas.length) (slot : Slot α) :
    s.slotOf? (s.addSlot id slot).1.place = none ∧ ∀ x, (s.addSlot id slot).2.slotOf? x =
      if x = (s.addSlot id slot).1.place then some slot else s.slotOf? x := by
  obtain ⟨arena, harena⟩ : ∃ arena, s.arenas[id]? = some arena := ⟨_, List.getElem?_eq_getElem hid⟩
  have hplace : (s.addSlot id slot).1.place = ⟨id, arena.slots.length⟩ := by
    simp [addSlot, Rule.place, harena]
  have hslots (x : Place) : (s.addSlot id slot).2.slotOf? x =
      (s.changeArena id (·.addSlot slot)).slotOf? x := rfl
  rw [hplace]
  refine ⟨by simp [slotOf?, harena], ?_⟩
  rintro ⟨a, j⟩
  rw [hslots, slotOf?, slotOf?, changeArena, List.getElem?_modify]
  by_cases ha : id = a
  · subst ha
    rw [harena]
    by_cases hj : j = arena.slots.length
    · subst hj
      simp [Arena.addSlot]
    · simp only [Place.mk.injEq, hj, and_false, if_false]
      have hsame : (arena.slots ++ [slot])[j]? = arena.slots[j]? := by
        rw [List.getElem?_append]
        split
        · rfl
        · next hlength =>
          rw [List.getElem?_eq_none (Nat.le_of_not_lt hlength), List.getElem?_singleton, if_neg]
          omega
      exact hsame
  · simp [ha, Ne.symm ha]

theorem slotOf?_addSlot_of_le {id : ArenaId} (hid : s.arenas.length ≤ id) (slot : Slot α)
    (x : Place) : (s.addSlot id slot).2.slotOf? x = s.slotOf? x := by
  have hslots : (s.addSlot id slot).2.slotOf? x =
      (s.changeArena id (·.addSlot slot)).slotOf? x := rfl
  rw [hslots, changeArena, List.modify_eq_self hid]

/-- What is in a slot after one has been added: that may be the new one, or another. -/
theorem of_slotOf?_addSlot {id : ArenaId} {slot slot' : Slot α} {x : Place}
    (hslot : (s.addSlot id slot).2.slotOf? x = some slot') :
    slot' = slot ∨ x ≠ (s.addSlot id slot).1.place ∧ s.slotOf? x = some slot' := by
  by_cases hid : id < s.arenas.length
  · rw [(slotOf?_addSlot hid slot).2] at hslot
    split at hslot
    · exact .inl (Option.some.inj hslot).symm
    · next hx => exact .inr ⟨hx, hslot⟩
  · rw [slotOf?_addSlot_of_le (Nat.le_of_not_lt hid)] at hslot
    refine .inr ⟨?_, hslot⟩
    rintro rfl
    obtain ⟨a, ha, -⟩ := Option.bind_eq_some_iff.1 hslot
    exact hid (List.getElem?_eq_some_iff.1 ha).1

/-! A definition that changes no arena while it is built changes its own slot only. -/

section Building

variable {t : Session α} {slot : Slot α} {definition : Deferred α}
  (hs : s.slotOf? h.place = some slot) (ha : t.arenas = (s.beginBuild h).arenas)

include hs ha

theorem slotOf?_building (x : Place) : t.slotOf? x =
    if x = h.place then some slot.beginBuild else s.slotOf? x :=
  (slotOf?_congr ha x).trans (slotOf?_beginBuild hs x)

theorem slotOf?_built (hstage : slot.stage = .pending definition) (x : Place) :
    (t.finishBuild h p).slotOf? x =
      if x = h.place then some { value := some p } else s.slotOf? x := by
  have hbuilding : t.slotOf? h.place = some slot.beginBuild :=
    (slotOf?_building hs ha _).trans (if_pos rfl)
  rw [slotOf?_finishBuild hbuilding, slotOf?_building hs ha, Slot.finishBuild_beginBuild hstage]
  split <;> rfl

/-- The parser that is then there is the one that has been built. -/
theorem getD_built (hstage : slot.stage = .pending definition) :
    ((t.slotAt? h).map fun slot => (slot.finishBuild p).1).getD p = p := by
  rw [slotAt?_eq, slotOf?_building hs ha, if_pos rfl, Option.map_some,
    Slot.finishBuild_beginBuild hstage]
  rfl

end Building

end Session

/-! ## Rules

A rule can be used as long as its arena is alive, and then by the stage of its slot. -/

namespace Rule

variable {build : Deferred α → Run α (Parser α)}

/-- **Forcing a rule**: an answer at once, unless the definition is pending. -/
theorem force_apply : h.force build s =
    match (s.slot? h).map Slot.stage with
    | none => some (.error .detached, s)
    | some (.built p) => some (.ok p, s)
    | some .building => some (.error .reentrant, s)
    | some .empty => some (.error .undefined, s)
    | some (.pending definition) => (do
        Run.log .trace ("building lazy rule " ++ h.id.mark)
        let p ← build definition
        return Except.ok (← h.finish p)) (s.beginBuild h) := by
  rw [force, Run.get_bind]
  match s.slot? h with
  | none => rfl
  | some ⟨some _, _, _⟩ => rfl
  | some ⟨none, _, true⟩ => rfl
  | some ⟨none, none, false⟩ => rfl
  | some ⟨none, some _, false⟩ => rfl

/-- What is run when a pending definition is entered. -/
def runThunk (h : Rule) (build : Deferred α → Run α (Parser α)) (definition : Deferred α) :
    Run α (Parser α) := do
  Run.log .trace ("building lazy rule " ++ h.id.mark)
  build definition

/-- A rule whose definition is not pending answers at once. -/
theorem of_force_of_ne {s' : Session α} {r : Except Fault (Parser α)}
    (hp : ∀ definition, (s.slot? h).map Slot.stage ≠ some (.pending definition))
    (hf : h.force build s = some (r, s')) :
    s' = s ∧ ∀ p, r = .ok p → (s.slot? h).map Slot.stage = some (.built p) := by
  rw [force_apply] at hf
  split at hf
  · obtain ⟨rfl, rfl⟩ := Prod.mk.inj (Option.some.inj hf)
    exact ⟨rfl, nofun⟩
  · next p hbuilt =>
    obtain ⟨rfl, rfl⟩ := Prod.mk.inj (Option.some.inj hf)
    exact ⟨rfl, fun q hq => Except.ok.inj hq ▸ hbuilt⟩
  · obtain ⟨rfl, rfl⟩ := Prod.mk.inj (Option.some.inj hf)
    exact ⟨rfl, nofun⟩
  · obtain ⟨rfl, rfl⟩ := Prod.mk.inj (Option.some.inj hf)
    exact ⟨rfl, nofun⟩
  · next definition hpending => exact absurd hpending (hp definition)

/-- A pending definition is built, and then stored. -/
theorem force_of_pending {definition : Deferred α}
    (hp : (s.slot? h).map Slot.stage = some (.pending definition)) :
    h.force build s = (h.runThunk build definition (s.beginBuild h)).map fun x =>
      (.ok (((x.2.slotAt? h).map fun slot => (slot.finishBuild x.1).1).getD x.1),
        x.2.finishBuild h x.1) := by
  rw [force_apply, hp, runThunk]
  dsimp only
  rw [Run.bind_apply, Run.bind_apply]
  cases Run.log .trace ("building lazy rule " ++ h.id.mark) (s.beginBuild h) with
  | none => rfl
  | some x =>
    change ((build definition >>= _) x.2) = (build definition x.2).map _
    rw [Run.bind_apply]
    cases build definition x.2 <;> rfl

/-- A rule whose definition is pending answers once that has been built. -/
theorem of_force_of_pending {s' : Session α} {r : Except Fault (Parser α)}
    {definition : Deferred α} (hp : (s.slot? h).map Slot.stage = some (.pending definition))
    (hf : h.force build s = some (r, s')) :
    ∃ p t, h.runThunk build definition (s.beginBuild h) = some (p, t) ∧
      r = .ok (((t.slotAt? h).map fun slot => (slot.finishBuild p).1).getD p) ∧
      s' = t.finishBuild h p := by
  rw [force_of_pending hp] at hf
  obtain ⟨⟨p, t⟩, hthunk, heq⟩ := Option.map_eq_some_iff.1 hf
  obtain ⟨rfl, rfl⟩ := Prod.mk.inj heq
  exact ⟨p, t, hthunk, rfl, rfl⟩

/-- **What forcing a rule can do**: build the definition that is pending, and store it, or answer at
once with what is there. -/
theorem force_cases {s' : Session α} {r : Except Fault (Parser α)}
    (hf : h.force build s = some (r, s')) :
    (∃ definition p t, (s.slot? h).map Slot.stage = some (.pending definition) ∧
      h.runThunk build definition (s.beginBuild h) = some (p, t) ∧
      r = .ok (((t.slotAt? h).map fun slot => (slot.finishBuild p).1).getD p) ∧
      s' = t.finishBuild h p) ∨
    s' = s ∧ ∀ p, r = .ok p → (s.slot? h).map Slot.stage = some (.built p) := by
  by_cases hp : ∃ definition, (s.slot? h).map Slot.stage = some (.pending definition)
  · obtain ⟨definition, hp⟩ := hp
    obtain ⟨p, t, hthunk, hr, ht⟩ := of_force_of_pending hp hf
    exact .inl ⟨definition, p, t, hp, hthunk, hr, ht⟩
  · exact .inr (of_force_of_ne (not_exists.1 hp) hf)

/-- A rule that cannot be had leaves the session as it is. -/
theorem of_force_error {fault : Fault} {s' : Session α}
    (hf : h.force build s = some (.error fault, s')) : s' = s := by
  obtain ⟨_, _, _, -, -, hr, -⟩ | ⟨hs, -⟩ := force_cases hf
  · cases hr
  · exact hs

/-- **Why a rule cannot be had**: its arena is gone, it is empty, or it is being built. -/
theorem exists_force_error_iff {fault : Fault} :
    (∃ s', h.force build s = some (.error fault, s')) ↔
      match (s.slot? h).map Slot.stage with
      | none => fault = .detached
      | some .empty => fault = .undefined
      | some .building => fault = .reentrant
      | some (.built _) | some (.pending _) => False := by
  rw [force_apply]
  match (s.slot? h).map Slot.stage with
  | none => simp [eq_comm]
  | some .empty => simp [eq_comm]
  | some .building => simp [eq_comm]
  | some (.built _) => simp
  | some (.pending definition) =>
    refine ⟨?_, False.elim⟩
    rintro ⟨s', hf⟩
    obtain ⟨_, _, -, hf⟩ := Run.bind_eq_some_iff.1 hf
    obtain ⟨_, _, -, hf⟩ := Run.bind_eq_some_iff.1 hf
    cases hf

/-- Putting back what is in a slot changes nothing. -/
theorem changeSlot_eq_self {slot : Slot α} {f : Slot α → Slot α} (hs : s.slotAt? h = some slot)
    (hf : f slot = slot) : s.changeSlot h f = s := by
  have harena (a : Arena α) (ha : s.arenas[h.arena]? = some a) : a.changeSlot h.slot f = a := by
    have hslot : a.slots[h.slot]? = some slot := by
      rw [Session.slotAt?, ha] at hs
      exact hs
    rw [Arena.changeSlot, modify_eq_self hslot hf]
  cases ha : s.arenas[h.arena]? with
  | none =>
    rw [Session.changeSlot, Session.changeArena,
      List.modify_eq_self (List.getElem?_eq_none_iff.1 ha)]
  | some a =>
    rw [Session.changeSlot, Session.changeArena, modify_eq_self ha (harena a ha)]

/-- **Defining a rule** succeeds only if it is empty; otherwise nothing changes. -/
theorem define_apply : h.define p s =
    match (s.slot? h).map Slot.stage with
    | none => some (.error .detached, s)
    | some .empty => some (.ok (), s.changeSlot h fun slot => (slot.store p).2)
    | some _ => some (.error (.alreadyDefined h.id), s) := by
  have hrejected {slot : Slot α} (hs : s.slot? h = some slot)
      (hstore : slot.store p = (false, slot)) :
      h.define p s = some (.error (.alreadyDefined h.id), s) := by
    have hself := changeSlot_eq_self (f := fun slot => (slot.store p).2)
      (Session.slotOf?_of_slot? hs) (congrArg Prod.snd hstore)
    rw [define, Run.get_bind, hs]
    dsimp only
    rw [Run.modify_bind, hself, hstore]
    rfl
  match hs : s.slot? h with
  | none =>
    rw [define, Run.get_bind, hs]
    rfl
  | some ⟨some _, none, true⟩ => exact hrejected hs rfl
  | some ⟨some _, none, false⟩ => exact hrejected hs rfl
  | some ⟨some _, some _, _⟩ => exact hrejected hs rfl
  | some ⟨none, none, true⟩ => exact hrejected hs rfl
  | some ⟨none, some _, true⟩ => exact hrejected hs rfl
  | some ⟨none, some _, false⟩ => exact hrejected hs rfl
  | some ⟨none, none, false⟩ =>
    rw [define, Run.get_bind, hs]
    rfl

/-- A definition that is accepted is stored in an empty slot. -/
theorem of_define {s' : Session α} (hd : h.define p s = some (.ok (), s')) :
    ∃ slot, s.slot? h = some slot ∧ slot.stage = .empty ∧
      s' = s.changeSlot h fun slot => (slot.store p).2 := by
  rw [define_apply] at hd
  split at hd
  · cases hd
  · next hempty =>
    obtain ⟨slot, hslot, hstage⟩ := Option.map_eq_some_iff.1 hempty
    exact ⟨slot, hslot, hstage, (Prod.mk.inj (Option.some.inj hd)).2.symm⟩
  · cases hd

/-- A definition that is rejected changes nothing. -/
theorem of_define_error {s' : Session α} {e : GrammarError}
    (hd : h.define p s = some (.error e, s')) : s' = s := by
  rw [define_apply] at hd
  split at hd
  · exact (Prod.mk.inj (Option.some.inj hd)).2.symm
  · cases hd
  · exact (Prod.mk.inj (Option.some.inj hd)).2.symm

/-- **Whether a rule is defined**: unless it is empty.  Nothing changes. -/
theorem isDefined_apply : h.isDefined s =
    match (s.slot? h).map Slot.stage with
    | none | some .empty => some (false, s)
    | some _ => some (true, s) := by
  have hsame {slot : Slot α} (hs : s.slot? h = some slot) :
      h.isDefined s = some (slot.isDefined.1, s) := by
    have hself := changeSlot_eq_self (f := fun slot => slot.isDefined.2)
      (Session.slotOf?_of_slot? hs) rfl
    rw [isDefined, Run.get_bind, hs]
    dsimp only
    rw [Run.modify_bind, hself]
    rfl
  match hs : s.slot? h with
  | none =>
    rw [isDefined, Run.get_bind, hs]
    rfl
  | some ⟨some _, none, true⟩ => exact hsame hs
  | some ⟨some _, none, false⟩ => exact hsame hs
  | some ⟨some _, some _, _⟩ => exact hsame hs
  | some ⟨none, none, true⟩ => exact hsame hs
  | some ⟨none, some _, true⟩ => exact hsame hs
  | some ⟨none, some _, false⟩ => exact hsame hs
  | some ⟨none, none, false⟩ => exact hsame hs

theorem of_isDefined {s' : Session α} {b : Bool} (hd : h.isDefined s = some (b, s')) : s' = s := by
  rw [isDefined_apply] at hd
  split at hd
  · exact (Prod.mk.inj (Option.some.inj hd)).2.symm
  · exact (Prod.mk.inj (Option.some.inj hd)).2.symm
  · exact (Prod.mk.inj (Option.some.inj hd)).2.symm

end Rule

end GrammarGraph
