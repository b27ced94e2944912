import GrammarGraph.Proofs.History

/-!
# Proofs/Lifecycle — a rule is defined once, by whichever comes first

    declared, defined p              {} ──▸ built p
    deferred d, entered, returned p  pending d ──▸ building ──▸ built p

Whatever happens in a session, the events at any one place are the beginning of one of these two
stories, and the cells of the slot are as the story leaves them (`Story`).  All else that can be
said of the life of a rule follows: what it answers when it is forced or defined, and that it never
changes again once it is built (`lifecycle`).
-/

namespace GrammarGraph

variable {α : Type}

/-! ## Stories -/

/-- The cells of a slot at a stage. -/
def Stage.slot : Stage α → Slot α
  | .empty => {}
  | .pending d => { deferred := some d }
  | .building => { forcing := true }
  | .built p => { value := some p }

/-- One step in the life of a rule. -/
inductive Stage.Advances : Stage α → Stage α → Prop
  | define (p : Parser α) : Advances .empty (.built p)
  | enter (d : Deferred α) : Advances (.pending d) .building
  | leave (p : Parser α) : Advances .building (.built p)

/-- What has happened at a place. -/
def eventsAt (x : Place) (es : Events α) : List (Event α) := (es.filter (·.1 = x)).map (·.2)

/-- **The life of a rule so far**, and its slot. -/
inductive Story : List (Event α) → Option (Slot α) → Prop
  | untold : Story [] none
  | declared : Story [.declared] (some {})
  | defined (p : Parser α) : Story [.declared, .defined p] (some { value := some p })
  | deferred (d : Deferred α) : Story [.deferred d] (some { deferred := some d })
  | entered (d : Deferred α) : Story [.deferred d, .entered] (some { forcing := true })
  | returned (d : Deferred α) (p : Parser α) :
      Story [.deferred d, .entered, .returned p] (some { value := some p })

namespace Story

variable {es : List (Event α)} {slot : Slot α}

theorem eq_nil (h : Story es none) : es = [] := by cases h; rfl

/-- The cells of a slot are told by its stage. -/
theorem eq_slot (h : Story es (some slot)) : slot = slot.stage.slot := by
  cases h with
  | declared | defined | deferred | entered | returned => rfl

theorem stage_eq_iff (h : Story es (some slot)) (stage : Stage α) :
    slot.stage = stage ↔ slot = stage.slot := by
  constructor
  · rintro rfl
    exact h.eq_slot
  · rintro rfl
    cases stage with
    | empty | pending | building | built => rfl

theorem eq_of_empty (h : Story es (some {})) : es = [.declared] := by
  cases h
  rfl

theorem eq_of_pending {d : Deferred α} (h : Story es (some { deferred := some d })) :
    es = [.deferred d] := by
  cases h
  rfl

theorem exists_of_forcing (h : Story es (some { forcing := true })) :
    ∃ d, es = [.deferred d, .entered] := by
  cases h
  exact ⟨_, rfl⟩

/-- With one event more at most, a rule goes one step on at most. -/
theorem advances {es' : List (Event α)} {slot' : Option (Slot α)} (h : Story es (some slot))
    (h' : Story (es ++ es') slot') (hlength : es'.length ≤ 1) :
    ∃ t, slot' = some t ∧ (t = slot ∨ slot.stage.Advances t.stage) := by
  cases h with
  | declared =>
    cases h' with
    | declared => exact ⟨_, rfl, .inl rfl⟩
    | defined p => exact ⟨_, rfl, .inr (.define p)⟩
  | defined =>
    cases h' with
    | defined => exact ⟨_, rfl, .inl rfl⟩
  | deferred =>
    cases h' with
    | deferred => exact ⟨_, rfl, .inl rfl⟩
    | entered => exact ⟨_, rfl, .inr (.enter _)⟩
    | returned => simp at hlength
  | entered =>
    cases h' with
    | entered => exact ⟨_, rfl, .inl rfl⟩
    | returned d p => exact ⟨_, rfl, .inr (.leave p)⟩
  | returned =>
    cases h' with
    | returned => exact ⟨_, rfl, .inl rfl⟩

/-- Nothing more happens to a rule that is built. -/
theorem stays {es' : List (Event α)} {slot' : Option (Slot α)} {p : Parser α}
    (h : Story es (some { value := some p })) (h' : Story (es ++ es') slot') :
    slot' = some { value := some p } := by
  cases h with
  | defined =>
    cases h'
    rfl
  | returned =>
    cases h'
    rfl

end Story

/-! ## Moments -/

/-- **A moment as its history leaves it**: slots are as their stories say, and those that are being
built are those of the rules that are running. -/
structure Tells (es : Events α) (c : Moment α) : Prop where
  story : ∀ x, Story (eventsAt x es) (c.session.slotOf? x)
  running : ∀ x, c.session.slotOf? x = some { forcing := true } ↔ x ∈ c.running
  nodup : c.running.Nodup

theorem eventsAt_append (x : Place) (es es' : Events α) :
    eventsAt x (es ++ es') = eventsAt x es ++ eventsAt x es' := by
  rw [eventsAt, List.filter_append, List.map_append, eventsAt, eventsAt]

theorem eventsAt_singleton (x y : Place) (e : Event α) :
    eventsAt x [(y, e)] = if x = y then [e] else [] := by
  by_cases h : x = y
  · subst h
    simp [eventsAt]
  · simp [eventsAt, h, Ne.symm h]

namespace Tells

variable {es : Events α} {running : List Place} {s s' : Session α}

theorem start (logging : Bool) : Tells [] (⟨[], { logging := logging }⟩ : Moment α) where
  story _ := .untold
  running _ := ⟨nofun, nofun⟩
  nodup := .nil

/-- What is told of a rule whose arena is alive. -/
theorem story_of_slot? {c : Moment α} {h : Rule} {slot : Slot α} (ht : Tells es c)
    (hs : c.session.slot? h = some slot) : Story (eventsAt h.place es) (some slot) := by
  have hstory := ht.story h.place
  rwa [Session.slotOf?_of_slot? hs] at hstory

/-- A slot that is not being built is not one of those that are running. -/
theorem not_mem_running {x : Place} (h : Tells es ⟨running, s⟩)
    (hx : s.slotOf? x ≠ some { forcing := true }) : x ∉ running :=
  fun hmem => hx ((h.running x).2 hmem)

/-- Moves that leave all slots as they are. -/
theorem same (h : Tells es ⟨running, s⟩) (hs : ∀ x, s'.slotOf? x = s.slotOf? x) :
    Tells (es ++ []) ⟨running, s'⟩ where
  story x := by
    rw [List.append_nil, hs]
    exact h.story x
  running x := by
    rw [hs]
    exact h.running x
  nodup := h.nodup

/-- Moves that change one slot. -/
theorem story_append (h : Tells es ⟨running, s⟩) {y : Place} {e : Event α} {slot : Slot α}
    (hy : Story (eventsAt y es ++ [e]) (some slot))
    (hs : ∀ x, s'.slotOf? x = if x = y then some slot else s.slotOf? x) (x : Place) :
    Story (eventsAt x (es ++ [(y, e)])) (s'.slotOf? x) := by
  rw [eventsAt_append, eventsAt_singleton, hs]
  by_cases hx : x = y
  · subst hx
    rw [if_pos rfl, if_pos rfl]
    exact hy
  · rw [if_neg hx, if_neg hx, List.append_nil]
    exact h.story x

/-- A slot that was not being built has changed to one that is not being built either. -/
theorem append (h : Tells es ⟨running, s⟩) {y : Place} {e : Event α} {slot : Slot α}
    (hy : Story (eventsAt y es ++ [e]) (some slot))
    (hs : ∀ x, s'.slotOf? x = if x = y then some slot else s.slotOf? x)
    (hrunning : y ∉ running) (hslot : slot.forcing = false) :
    Tells (es ++ [(y, e)]) ⟨running, s'⟩ where
  story := h.story_append hy hs
  running x := by
    rw [hs]
    by_cases hx : x = y
    · subst hx
      rw [if_pos rfl]
      refine ⟨fun hforcing => ?_, fun hmem => absurd hmem hrunning⟩
      obtain rfl := Option.some.inj hforcing
      cases hslot
    · rw [if_neg hx]
      exact h.running x
  nodup := h.nodup

/-- **Every move goes on with the stories.** -/
theorem move {c c' : Moment α} {e : Events α} (h : Tells es c) (hm : Moves c e c') :
    Tells (es ++ e) c' := by
  cases hm with
  | quiet ha => exact h.same (Session.slotOf?_congr ha)
  | newArena name => exact h.same (Session.slotOf?_newArena name)
  | dropArena name => exact h.same (Session.slotOf?_dropArena name)
  | @create running s id hid d =>
    obtain ⟨hnone, hs⟩ := Session.slotOf?_addSlot hid ({ deferred := d } : Slot α)
    have hstory := h.story (s.addSlot id { deferred := d }).1.place
    rw [hnone] at hstory
    refine h.append ?_ hs (h.not_mem_running (hnone ▸ nofun)) rfl
    rw [hstory.eq_nil]
    cases d with
    | none => exact .declared
    | some d => exact .deferred d
  | @define running s s' r p hd =>
    obtain ⟨slot, hslot, hempty, rfl⟩ := Rule.of_define hd
    have hs := Session.slotOf?_of_slot? hslot
    have hstory := h.story_of_slot? hslot
    obtain rfl := (hstory.stage_eq_iff _).1 hempty
    have hslots := Session.slotOf?_changeSlot hs fun slot => (slot.store p).2
    refine h.append ?_ hslots (h.not_mem_running (hs ▸ nofun)) rfl
    rw [hstory.eq_of_empty]
    exact .defined p
  | @enter running s r d hp =>
    obtain ⟨slot, hslot, hpending⟩ := Option.map_eq_some_iff.1 hp
    have hs := Session.slotOf?_of_slot? hslot
    have hstory := h.story_of_slot? hslot
    obtain rfl := (hstory.stage_eq_iff _).1 hpending
    have hslots := Session.slotOf?_beginBuild hs
    refine ⟨h.story_append ?_ hslots, fun x => ?_, ?_⟩
    · rw [hstory.eq_of_pending]
      exact .entered d
    · rw [hslots, List.mem_cons]
      by_cases hx : x = r.place
      · rw [if_pos hx]
        exact ⟨fun _ => .inl hx, fun _ => rfl⟩
      · rw [if_neg hx, h.running]
        exact ⟨.inr, fun hmem => hmem.resolve_left hx⟩
    · exact List.nodup_cons.2 ⟨h.not_mem_running (hs ▸ nofun), h.nodup⟩
  | @leave running s r p =>
    have hs := (h.running r.place).2 List.mem_cons_self
    have hstory := h.story r.place
    rw [hs] at hstory
    obtain ⟨d, hes⟩ := hstory.exists_of_forcing
    obtain ⟨hnotin, hnodup⟩ := List.nodup_cons.1 h.nodup
    have hslots := Session.slotOf?_finishBuild hs p
    refine ⟨h.story_append ?_ hslots, fun x => ?_, hnodup⟩
    · rw [hes]
      exact .returned d p
    · rw [hslots]
      by_cases hx : x = r.place
      · subst hx
        rw [if_pos rfl]
        exact ⟨nofun, fun hmem => absurd hmem hnotin⟩
      · rw [if_neg hx, h.running, List.mem_cons]
        exact ⟨fun hmem => hmem.resolve_left hx, .inr⟩

theorem path {c c' : Moment α} {es' : Events α} (h : Tells es c) (hp : Path c es' c') :
    Tells (es ++ es') c' := by
  induction hp with
  | refl => rwa [List.append_nil]
  | move _ hm ih =>
    rw [← List.append_assoc]
    exact ih.move hm

end Tells

theorem History.tells {es : Events α} {c : Moment α} (h : History es c) : Tells es c := by
  obtain ⟨logging, hp⟩ := h
  exact (Tells.start logging).path hp

/-! ## Answers -/

/-- **How a rule answers at a moment**, by the cells of its slot. -/
structure Answers (c : Moment α) (h : Rule) (slot : Slot α) : Prop where
  undefined_iff : ∀ n, (∃ s', h.force (Calls.upTo n).build c.session =
    some (.error .undefined, s')) ↔ slot = {}
  reentrant_iff : ∀ n, (∃ s', h.force (Calls.upTo n).build c.session =
    some (.error .reentrant, s')) ↔ h.place ∈ c.running
  built : ∀ p, slot = { value := some p } → ∀ n,
    h.force (Calls.upTo n).build c.session = some (.ok p, c.session)
  /-- The definition is built while the rule is running; what it comes to is stored and answered. -/
  pending : ∀ d, slot = { deferred := some d } → ∀ n r s',
    h.force (Calls.upTo n).build c.session = some (r, s') → ∃ p t es,
      h.runThunk (Calls.upTo n).build d (c.session.beginBuild h) = some (p, t) ∧
      Path ⟨h.place :: c.running, c.session.beginBuild h⟩ es ⟨h.place :: c.running, t⟩ ∧
      r = .ok p ∧ s' = t.finishBuild h p ∧ s'.slotOf? h.place = some { value := some p }
  /-- A definition is accepted by an empty slot only, and stored there; else nothing changes. -/
  define : ∀ p, ∃ r s', h.define p c.session = some (r, s') ∧ (r = .ok () ↔ slot = {}) ∧
    (r = .ok () → ∀ x, s'.slotOf? x =
      if x = h.place then some { value := some p } else c.session.slotOf? x) ∧
    (r ≠ .ok () → s' = c.session)
  isDefined : ∃ b, h.isDefined c.session = some (b, c.session) ∧ (b = true ↔ slot ≠ {})

/-- **The life of rules up to a moment**, at the moment and from then on. -/
structure Lifecycle (es : Events α) (c : Moment α) : Prop where
  story : ∀ x, Story (eventsAt x es) (c.session.slotOf? x)
  /-- The slots that are being built are those of the rules that are running, each once. -/
  running_iff : ∀ x, c.session.slotOf? x = some { forcing := true } ↔ x ∈ c.running
  nodup : c.running.Nodup
  /-- What rules of arenas that are alive answer. -/
  answers : ∀ h slot, c.session.slot? h = some slot → Answers c h slot
  /-- Slots stay, and each either is as it was or goes one step on. -/
  advances : ∀ e c', Moves c e c' → ∀ x slot, c.session.slotOf? x = some slot →
    ∃ slot', c'.session.slotOf? x = some slot' ∧
      (slot' = slot ∨ slot.stage.Advances slot'.stage)
  /-- Once it is built, a rule is never anything else. -/
  stays : ∀ es' c', Path c es' c' → ∀ x p, c.session.slotOf? x = some { value := some p } →
    c'.session.slotOf? x = some { value := some p }
  /-- All that can be carried out is made of moves. -/
  operate : ∀ {β : Type} {m : Run α β} {b : β} {s' : Session α}, Operation α m →
    m c.session = some (b, s') → ∃ es', Path c es' ⟨c.running, s'⟩

namespace Tells

variable {es : Events α} {c : Moment α} {h : Rule} {slot : Slot α}

theorem answers (ht : Tells es c) (hs : c.session.slot? h = some slot) : Answers c h slot := by
  have hstory := ht.story_of_slot? hs
  have hstage : (c.session.slot? h).map Slot.stage = some slot.stage := congrArg _ hs
  have hplace := Session.slotOf?_of_slot? hs
  have hempty : slot.stage = .empty ↔ slot = {} := hstory.stage_eq_iff .empty
  constructor
  case undefined_iff =>
    intro n
    rw [Rule.exists_force_error_iff, hstage, ← hempty]
    cases slot.stage <;> simp
  case reentrant_iff =>
    intro n
    have hbuilding : slot.stage = .building ↔ h.place ∈ c.running := by
      rw [hstory.stage_eq_iff, ← ht.running, hplace]
      exact Option.some_inj.symm
    rw [Rule.exists_force_error_iff, hstage, ← hbuilding]
    cases slot.stage <;> simp
  case built =>
    rintro p rfl n
    rw [Rule.force_apply, hs]
    rfl
  case pending =>
    rintro d rfl n r s' hf
    have hp : (c.session.slot? h).map Slot.stage = some (.pending d) := hstage
    obtain ⟨p, t, hthunk, rfl, rfl⟩ := Rule.of_force_of_pending hp hf
    obtain ⟨⟨es', hpath⟩, -⟩ :=
      Rule.follows_runThunk (Calls.follows_build n (h.place :: c.running) d) _ _ _ hthunk
    -- While the definition was being built, its slot could not change.
    have hforcing : t.slotOf? h.place = some { forcing := true } :=
      (((ht.move (.enter hp)).path hpath).running h.place).2 List.mem_cons_self
    refine ⟨p, t, es', hthunk, hpath, ?_, rfl, ?_⟩
    · rw [Session.slotAt?_eq, hforcing]
      rfl
    · rw [Session.slotOf?_finishBuild hforcing, if_pos rfl]
      rfl
  case define =>
    intro p
    rw [Rule.define_apply, hstage, ← hempty]
    cases hs' : slot.stage with
    | empty =>
      obtain rfl := hempty.1 hs'
      refine ⟨_, _, rfl, by simp, fun _ x => ?_, fun h => absurd rfl h⟩
      exact Session.slotOf?_changeSlot hplace _ x
    | pending | building | built => exact ⟨_, _, rfl, by simp, nofun, fun _ => rfl⟩
  case isDefined =>
    rw [Rule.isDefined_apply, hstage, ne_eq, ← hempty]
    cases slot.stage <;> simp

/-- Slots stay, and change by steps in the life of a rule only. -/
theorem advances {c' : Moment α} {e : Events α} (ht : Tells es c) (hm : Moves c e c') {x : Place}
    (hs : c.session.slotOf? x = some slot) : ∃ slot', c'.session.slotOf? x = some slot' ∧
      (slot' = slot ∨ slot.stage.Advances slot'.stage) := by
  have hbefore := ht.story x
  have hafter := (ht.move hm).story x
  rw [hs] at hbefore
  rw [eventsAt_append] at hafter
  refine hbefore.advances hafter ?_
  rw [eventsAt, List.length_map]
  exact Nat.le_trans (List.length_filter_le _ e) hm.length_le

theorem stays {c' : Moment α} {es' : Events α} (ht : Tells es c) (hp : Path c es' c') {x : Place}
    {p : Parser α} (hs : c.session.slotOf? x = some { value := some p }) :
    c'.session.slotOf? x = some { value := some p } := by
  have hbefore := ht.story x
  have hafter := (ht.path hp).story x
  rw [hs] at hbefore
  rw [eventsAt_append] at hafter
  exact hbefore.stays hafter

end Tells

/-- **The lifecycle of rules**, at every moment of every history. -/
theorem lifecycle {es : Events α} {c : Moment α} (h : History es c) : Lifecycle es c := by
  have ht := h.tells
  constructor
  case story => exact ht.story
  case running_iff => exact ht.running
  case nodup => exact ht.nodup
  case answers => exact fun _ _ hs => ht.answers hs
  case advances => exact fun _ _ hm _ _ hs => ht.advances hm hs
  case stays => exact fun _ _ hp _ _ hs => ht.stays hp hs
  case operate => exact fun hm hb => (hm.follows c.running _ _ _ hb).1

/-- A rule that is forced while its own definition is being built. -/
theorem force_while_running : ∃ s : Session Unit,
    History [(⟨0, 0⟩, .deferred ⟨"rule", [], .ref "rule"⟩), (⟨0, 0⟩, .entered)] ⟨[⟨0, 0⟩], s⟩ ∧
      ∃ s', Rule.force (Calls.upTo 1).build ⟨0, 0, 0⟩ s = some (.error .reentrant, s') := by
  let d : Deferred Unit := ⟨"rule", [], .ref "rule"⟩
  let declared : Session Unit := ({} : Session Unit).newArena "rules"
  let deferred := (declared.addSlot 0 { deferred := some d }).2
  let h : Rule := ⟨0, 0, 0⟩
  have hcreate : Moves ⟨[], declared⟩ [(h.place, .deferred d)] ⟨[], deferred⟩ :=
    .create (Nat.zero_lt_one) (some d)
  have henter : Moves ⟨[], deferred⟩ [(h.place, .entered)] ⟨[h.place], deferred.beginBuild h⟩ :=
    .enter rfl
  have hhistory : History [(h.place, .deferred d), (h.place, .entered)]
      ⟨[h.place], deferred.beginBuild h⟩ :=
    ⟨false, ((Path.refl.move (.newArena "rules")).move hcreate).move henter⟩
  have hanswers := (lifecycle hhistory).answers h { forcing := true } rfl
  exact ⟨_, hhistory, (hanswers.reentrant_iff 1).2 (List.mem_singleton_self _)⟩

end GrammarGraph
