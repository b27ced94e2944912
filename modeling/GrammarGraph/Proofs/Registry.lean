import GrammarGraph.Proofs.Rule
import GrammarGraph.Proofs.Script

/-!
# Proofs/Registry — an identity belongs to one node

Identities are given out once, when a node is built or a rule is created.  A registry says which
node or handle each identity was given to; it only ever grows, and whatever a session holds on to,
by a name or in a slot, is entered in it.  So two nodes of a session that have the same identity
are the same node (`Knows.eq_of_id`).
-/

namespace GrammarGraph

variable {α β : Type}

/-- The nodes and handles that a parser is put together from, itself included. -/
def Parser.nodes : Parser α → List (Parser α)
  | p@(.literal _ _) | p@(.pattern _ _) | p@(.rule _) => [p]
  | p@(.map _ inner _) | p@(.optional _ inner) | p@(.star _ inner) | p@(.exactly _ _ inner)
  | p@(.named _ _ inner) => p :: inner.nodes
  | p@(.sequence _ _ left right) | p@(.choice _ left right) => p :: (left.nodes ++ right.nodes)
  | .boxed inner => inner.nodes

theorem Parser.nodes_subset_of_part {p c : Parser α} (hc : c ∈ p.parts) : c.nodes ⊆ p.nodes := by
  cases p with
  | literal | pattern | rule => cases hc
  | map | optional | star | exactly | named =>
    obtain rfl := List.mem_singleton.1 hc
    exact List.subset_cons_self _ _
  | boxed =>
    obtain rfl := List.mem_singleton.1 hc
    exact List.Subset.refl _
  | sequence id keep left right | choice id left right =>
    obtain rfl | hc := List.mem_cons.1 hc
    · exact List.Subset.trans (List.subset_append_left _ _) (List.subset_cons_self _ _)
    · obtain rfl := List.mem_singleton.1 hc
      exact List.Subset.trans (List.subset_append_right _ _) (List.subset_cons_self _ _)

theorem Parser.mem_nodes_of_isNode {p q : Parser α} (hp : p.isNode) (hq : q ∈ p.nodes) :
    q = p ∨ ∃ c ∈ p.parts, q ∈ c.nodes := by
  cases p with
  | rule | boxed => cases hp
  | literal | pattern => exact .inl (List.mem_singleton.1 hq)
  | map | optional | star | exactly | named =>
    obtain rfl | hq := List.mem_cons.1 hq
    · exact .inl rfl
    · exact .inr ⟨_, List.mem_singleton_self _, hq⟩
  | sequence id keep left right | choice id left right =>
    obtain rfl | hq := List.mem_cons.1 hq
    · exact .inl rfl
    · obtain hq | hq := List.mem_append.1 hq
      · exact .inr ⟨left, List.mem_cons_self, hq⟩
      · exact .inr ⟨right, List.mem_cons_of_mem _ (List.mem_singleton_self _), hq⟩

/-! ## Registries -/

/-- The node or handle that an identity was given to. -/
abbrev Registry (α : Type) := NodeId → Option (Parser α)

/-- One registry goes on where another stops. -/
def Registry.Grows (w w' : Registry α) : Prop := ∀ id p, w id = some p → w' id = some p

/-- **Everything in a parser is entered in the registry.** -/
def Registry.Knows (w : Registry α) (p : Parser α) : Prop := ∀ q ∈ p.nodes, w q.id = some q

namespace Registry

variable {w w' : Registry α} {p q : Parser α}

theorem Knows.mono (h : w.Knows p) (hw : w.Grows w') : w'.Knows p :=
  fun q hq => hw _ _ (h q hq)

theorem Knows.part {c : Parser α} (h : w.Knows p) (hc : c ∈ p.parts) : w.Knows c :=
  fun q hq => h q (Parser.nodes_subset_of_part hc hq)

/-- **Nodes are told apart by their identities.** -/
theorem Knows.eq_of_id {p' q' : Parser α} (hp : w.Knows p) (hp' : w.Knows p') (hq : q ∈ p.nodes)
    (hq' : q' ∈ p'.nodes) (hid : q.id = q'.id) : q = q' := by
  have h := hp q hq
  rw [hid, hp' q' hq'] at h
  exact (Option.some.inj h).symm

/-- The registry with one more entry. -/
def enter (w : Registry α) (p : Parser α) : Registry α :=
  fun id => if id = p.id then some p else w id

theorem grows_enter (h : w p.id = none) : w.Grows (w.enter p) := by
  intro id q hq
  rw [enter, if_neg, hq]
  rintro rfl
  rw [h] at hq
  cases hq

theorem knows_enter_node (hp : p.isNode) (h : w p.id = none) (hparts : ∀ c ∈ p.parts, w.Knows c) :
    (w.enter p).Knows p := by
  intro q hq
  obtain rfl | ⟨c, hc, hq⟩ := Parser.mem_nodes_of_isNode hp hq
  · exact if_pos rfl
  · exact grows_enter h _ _ (hparts c hc q hq)

theorem knows_enter_rule (h : Rule) : (w.enter (.rule h)).Knows (.rule h) := by
  intro q hq
  obtain rfl := List.mem_singleton.1 hq
  exact if_pos rfl

end Registry

/-! ## Sessions -/

/-- **What the session holds on to is entered in the registry**, and the identities still to be
given out are not. -/
structure Registered (w : Registry α) (s : Session α) : Prop where
  names : ∀ b ∈ s.bindings, w.Knows b.2.toParser
  slots : ∀ x slot p, s.slotOf? x = some slot → slot.value = some p → w.Knows p
  fresh : ∀ id, s.nextId ≤ id → w id = none

namespace Registered

variable {w w' : Registry α} {s s' : Session α}

theorem start (logging : Bool) :
    Registered (fun _ => none) ({ logging := logging } : Session α) where
  names _ := nofun
  slots _ _ _ := nofun
  fresh _ _ := rfl

/-- Changes that leave names and slots as they are and give out some identities. -/
theorem change (h : Registered w s) (hn : s'.bindings = s.bindings)
    (ha : ∀ x, s'.slotOf? x = s.slotOf? x) (hid : s.nextId ≤ s'.nextId) : Registered w s' where
  names := hn ▸ h.names
  slots x slot p hx := h.slots x slot p (ha x ▸ hx)
  fresh id hle := h.fresh id (Nat.le_trans hid hle)

/-- One identity given out. -/
theorem enter {p : Parser α} (h : Registered w s) (hp : p.id = s.nextId)
    (hn : s'.bindings = s.bindings)
    (ha : ∀ x slot q, s'.slotOf? x = some slot → slot.value = some q → w.Knows q)
    (hid : s'.nextId = s.nextId + 1) : w.Grows (w.enter p) ∧ Registered (w.enter p) s' := by
  have hgrows := Registry.grows_enter (h.fresh p.id (Nat.le_of_eq hp.symm))
  refine ⟨hgrows, ?_, ?_, ?_⟩
  · intro b hb
    rw [hn] at hb
    exact (h.names b hb).mono hgrows
  · exact fun x slot q hx hq => (ha x slot q hx hq).mono hgrows
  · intro id hle
    rw [hid] at hle
    rw [Registry.enter, hp, if_neg (Nat.ne_of_gt hle), h.fresh id (Nat.le_of_succ_le hle)]

/-- One slot changed, to one whose parser is known. -/
theorem changeArena {h : Rule} {f : Arena α → Arena α} (hs : Registered w s) (g : Slot α → Slot α)
    (hf : ∀ a, (f a).slots = a.slots.modify h.slot g)
    (hg : ∀ slot p, s.slotOf? h.place = some slot → (g slot).value = some p → w.Knows p) :
    Registered w (s.changeArena h.arena f) where
  names := hs.names
  slots x slot p hx hp := by
    obtain ⟨rfl, slot', hslot', rfl⟩ | hx := Session.of_slotOf?_changeArena hf hx
    · exact hg slot' p hslot' hp
    · exact hs.slots x slot p hx hp
  fresh := hs.fresh

theorem bindName {b : Binding α} (hs : Registered w s) (name : String) (hb : w.Knows b.toParser) :
    Registered w (s.bind name b) where
  names b' hb' := by
    obtain rfl | hb' := List.mem_cons.1 hb'
    · exact hb
    · exact hs.names b' (List.mem_filter.1 hb').1
  slots := hs.slots
  fresh := hs.fresh

theorem dropArena (hs : Registered w s) (name : String) : Registered w (s.dropArena name) := by
  have hsame : (s.dropArena name).bindings = s.bindings ∧ (s.dropArena name).nextId = s.nextId := by
    rw [Session.dropArena]
    split
    · exact ⟨rfl, rfl⟩
    · exact ⟨rfl, rfl⟩
  exact hs.change hsame.1 (Session.slotOf?_dropArena name) (Nat.le_of_eq hsame.2.symm)

theorem newArena (hs : Registered w s) (name : String) : Registered w (s.newArena name) := by
  have hslots (x : Place) : (s.newArena name).slotOf? x = (s.dropArena name).slotOf? x := by
    rw [Session.slotOf?_newArena, Session.slotOf?_dropArena]
  exact (hs.dropArena name).change rfl hslots (Nat.le_refl _)

theorem of_lookup {name : String} {b : Binding α} (hs : Registered w s)
    (hb : s.bindings.lookup name = some b) : w.Knows b.toParser := by
  obtain ⟨l, l', hl, -⟩ := List.lookup_eq_some_iff.1 hb
  exact hs.names (name, b) (hl ▸ List.mem_append_right l List.mem_cons_self)

theorem beginBuild {h : Rule} (hs : Registered w s) : Registered w (s.beginBuild h) :=
  hs.changeArena Slot.beginBuild (fun _ => rfl) (hs.slots h.place)

/-- What is in the slot of a rule once its definition has been built is what is answered. -/
theorem finishBuild {h : Rule} {p : Parser α} (hs : Registered w s) (hp : w.Knows p) :
    Registered w (s.finishBuild h p) ∧
      w.Knows (((s.slotAt? h).map fun slot => (slot.finishBuild p).1).getD p) := by
  have hbuilt (slot : Slot α) (hslot : s.slotOf? h.place = some slot) :
      w.Knows (slot.finishBuild p).1 := by
    rw [Slot.finishBuild]
    cases hvalue : slot.value with
    | none => exact hp
    | some q => exact hs.slots _ slot q hslot hvalue
  constructor
  · refine hs.changeArena (fun slot => (slot.finishBuild p).2) (fun _ => rfl) ?_
    intro slot q hslot hq
    exact Option.some.inj hq ▸ hbuilt slot hslot
  · rw [Session.slotAt?_eq]
    cases hslot : s.slotOf? h.place with
    | none => exact hp
    | some slot => exact hbuilt slot hslot

/-- A new rule, whose slot is still without a parser. -/
theorem addSlot (hs : Registered w s) (arena : ArenaId) (definition : Option (Deferred α)) :
    w.Grows (w.enter (.rule (s.addSlot arena { deferred := definition }).1)) ∧
      Registered (w.enter (.rule (s.addSlot arena { deferred := definition }).1))
        (s.addSlot arena { deferred := definition }).2 := by
  refine hs.enter rfl rfl (fun x slot q hx hq => ?_) rfl
  obtain rfl | ⟨-, hx⟩ := Session.of_slotOf?_addSlot hx
  · cases hq
  · exact hs.slots x slot q hx hq

theorem define {h : Rule} {p : Parser α} {r : Except GrammarError Unit} (hs : Registered w s)
    (hp : w.Knows p) (hd : h.define p s = some (r, s')) : Registered w s' := by
  cases r with
  | error e => rwa [Rule.of_define_error hd]
  | ok =>
    obtain ⟨slot, hslot, hempty, rfl⟩ := Rule.of_define hd
    refine hs.changeArena (fun slot => (slot.store p).2) (fun _ => rfl) fun slot' q hslot' hq => ?_
    rw [Session.slotOf?_of_slot? hslot] at hslot'
    obtain rfl := Option.some.inj hslot'
    rw [Slot.value_store hempty] at hq
    exact Option.some.inj hq ▸ hp

end Registered

/-! ## Computations -/

/-- **The computation enters in the registry all that it builds**, and leads to a result with
`R`. -/
def Run.Registers (w : Registry α) (m : Run α β) (R : Registry α → β → Prop) : Prop :=
  ∀ s b s', Registered w s → m s = some (b, s') → ∃ w', w.Grows w' ∧ Registered w' s' ∧ R w' b

theorem Registry.Grows.refl (w : Registry α) : w.Grows w := fun _ _ h => h

theorem Registry.Grows.trans {u v w : Registry α} (h : u.Grows v) (h' : v.Grows w) : u.Grows w :=
  fun id p hp => h' id p (h id p hp)

namespace Run.Registers

variable {γ : Type} {w : Registry α} {m : Run α β} {R : Registry α → β → Prop}

theorem pure {b : β} (h : R w b) : Run.Registers w (Pure.pure b : Run α β) R := by
  intro s b' s' hs hb
  obtain ⟨rfl, rfl⟩ := Run.pure_eq_some_iff.1 hb
  exact ⟨w, .refl w, hs, h⟩

theorem bind {f : β → Run α γ} {P : Registry α → γ → Prop} (hm : Run.Registers w m R)
    (hf : ∀ v b, w.Grows v → R v b → Run.Registers v (f b) P) : Run.Registers w (m >>= f) P := by
  intro s c s' hs hc
  obtain ⟨b, t, hb, hc⟩ := Run.bind_eq_some_iff.1 hc
  obtain ⟨v, hv, ht, hR⟩ := hm s b t hs hb
  obtain ⟨u, hu, hs', hP⟩ := hf v b hv hR t c s' ht hc
  exact ⟨u, hv.trans hu, hs', hP⟩

theorem of_modify {f : Session α → Session α} (hf : ∀ s, Registered w s → Registered w (f s)) :
    Run.Registers w (modify f : Run α PUnit) fun _ _ => True := by
  intro s b s' hs hb
  obtain ⟨-, rfl⟩ := Prod.mk.inj (Option.some.inj hb)
  exact ⟨w, .refl w, hf s hs, trivial⟩

theorem log (level : LogLevel) (message : String) :
    Run.Registers w (Run.log level message : Run α Unit) fun _ _ => True := by
  refine of_modify fun s hs => ?_
  split
  · exact hs.change rfl (fun _ => rfl) (Nat.le_refl _)
  · exact hs

theorem fresh {node : NodeId → Parser α} (hnode : ∀ id, (node id).isNode ∧ (node id).id = id)
    (hparts : ∀ id, ∀ c ∈ (node id).parts, w.Knows c) :
    Run.Registers w Run.fresh fun v id => v.Knows (node id) := by
  intro s id s' hs hid
  obtain ⟨rfl, rfl⟩ := Prod.mk.inj (Option.some.inj hid)
  obtain ⟨hp, hp'⟩ := hnode s.nextId
  have hnone : w (node s.nextId).id = none := hs.fresh _ (Nat.le_of_eq hp'.symm)
  obtain ⟨hgrows, hs'⟩ : w.Grows (w.enter (node s.nextId)) ∧
      Registered (w.enter (node s.nextId)) { s with nextId := s.nextId + 1 } :=
    hs.enter hp' rfl hs.slots rfl
  exact ⟨_, hgrows, hs', Registry.knows_enter_node hp hnone (hparts _)⟩

theorem addSlot (arena : ArenaId) (definition : Option (Deferred α)) :
    Run.Registers w (modifyGet (·.addSlot arena { deferred := definition }))
      fun v h => v.Knows (.rule h) := by
  intro s h s' hs hh
  obtain ⟨rfl, rfl⟩ := Prod.mk.inj (Option.some.inj hh)
  obtain ⟨hgrows, hs'⟩ := hs.addSlot arena definition
  exact ⟨_, hgrows, hs', Registry.knows_enter_rule _⟩

theorem define {h : Rule} {p : Parser α} (hp : w.Knows p) :
    Run.Registers w (h.define p) fun _ _ => True :=
  fun _ _ _ hs hd => ⟨w, .refl w, hs.define hp hd, trivial⟩

theorem isDefined (h : Rule) : Run.Registers w (h.isDefined : Run α Bool) fun _ _ => True := by
  intro s b s' hs hd
  rw [Rule.of_isDefined hd]
  exact ⟨w, .refl w, hs, trivial⟩

theorem force {build : Deferred α → Run α (Parser α)} {h : Rule}
    (hbuild : ∀ w d, Run.Registers w (build d) Registry.Knows) :
    Run.Registers w (h.force build) fun v r => ∀ p, r = .ok p → v.Knows p := by
  intro s r s' hs hf
  obtain ⟨definition, p, t, -, hthunk, rfl, rfl⟩ | ⟨rfl, hbuilt⟩ := Rule.force_cases hf
  · have hrun : Run.Registers w (h.runThunk build definition) Registry.Knows :=
      (log _ _).bind fun v _ _ _ => hbuild v definition
    obtain ⟨v, hv, ht, hpv⟩ := hrun _ _ _ hs.beginBuild hthunk
    obtain ⟨hs', hanswer⟩ := ht.finishBuild hpv
    refine ⟨v, hv, hs', ?_⟩
    rintro _ ⟨⟩
    exact hanswer
  · refine ⟨w, .refl w, hs, fun p hr => ?_⟩
    obtain ⟨slot, hslot, hvalue⟩ := Session.exists_slotOf?_of_built (hbuilt p hr)
    exact hs.slots _ slot p hslot hvalue

end Run.Registers

/-- **All that scripts build is entered in the registry.** -/
def ScriptDiscipline.registering (α : Type) : ScriptDiscipline α where
  World := Registry α
  Grows := Registry.Grows
  Holds := Registry.Knows
  Does := Run.Registers
  refl := .refl
  trans := .trans
  holds_mono hw h := h.mono hw
  holds_part := .part
  pure := .pure
  bind := .bind
  failure := nofun
  read _ hf s b s' hs hb := hf s s b s' hs hb
  log := .log
  Allows _ := True
  Admits _ _ := True
  holds_box h := h
  consult _ hf s b s' hs hb :=
    hf s (fun _ _ _ => hs.of_lookup) (fun _ _ _ _ => trivial) s b s' hs hb
  fresh := .fresh
  skip _ := .of_modify fun _ hs => hs.change rfl (fun _ => rfl) (Nat.le_add_right _ _)
  change _ _ _ := .of_modify fun _ hs => hs.change rfl (fun _ => rfl) (Nat.le_refl _)
  bindName name := fun hb => .of_modify fun _ hs => hs.bindName name hb
  newArena _ := .of_modify fun _ hs => hs.newArena _
  dropArena _ := .of_modify fun _ hs => hs.dropArena _
  addSlot _ _ := .addSlot _ _
  define _ hp := .define hp
  isDefined _ := .isDefined _
  force hbuild _ _ _ := .force fun w d => hbuild w d fun _ _ => trivial

/-! ## Sessions that scripts lead to -/

/-- **The sessions that scripts lead to**, those in the middle of a step included: rules are forced
one after another while a parser is at work, and definitions are entered and carried out. -/
inductive Reached : Session α → Prop
  | start (logging : Bool) : Reached { logging := logging }
  | script {s s' answers} (n : Nat) (steps : List (Step α)) (hs : Reached s)
      (hr : steps.mapM (Step.run (.upTo n)) s = some (answers, s')) : Reached s'
  | expr {s s' r} (e : Expr α) (hs : Reached s) (hr : e.build s = some (r, s')) : Reached s'
  | force {s s' r} (n : Nat) (h : Rule) (hs : Reached s)
      (hr : h.force (Calls.upTo n).build s = some (r, s')) : Reached s'
  | enter {s definition} (h : Rule) (hs : Reached s)
      (hp : (s.slot? h).map Slot.stage = some (.pending definition)) : Reached (s.beginBuild h)
  | report {s} (builds : List (Build (Answer α))) (log : List LogRecord) (hs : Reached s) :
      Reached { s with builds := builds, log := log }

theorem Registry.registers_build (n : Nat) (w : Registry α) (d : Deferred α) :
    Run.Registers w ((Calls.upTo n).build d) Registry.Knows := by
  cases n with
  | zero => exact nofun
  | succ n =>
    exact ScriptDiscipline.deferred (D := .registering α) (ScriptDiscipline.upTo _ n) d
      fun _ _ => trivial

/-- **Every session has a registry.** -/
theorem Reached.registered {s : Session α} (hs : Reached s) : ∃ w, Registered w s := by
  let D := ScriptDiscipline.registering α
  induction hs with
  | start logging => exact ⟨_, Registered.start logging⟩
  | script n steps _ hr ih =>
    obtain ⟨w, hw⟩ := ih
    have hsteps := ScriptDiscipline.steps (w := w) (D.upTo n) steps fun _ _ => trivial
    obtain ⟨w', -, hw', -⟩ := hsteps _ _ _ hw hr
    exact ⟨w', hw'⟩
  | expr e _ hr ih =>
    obtain ⟨w, hw⟩ := ih
    have hexpr : D.Yields w e.build := ScriptDiscipline.build e fun _ _ => trivial
    obtain ⟨w', -, hw', -⟩ := hexpr _ _ _ hw hr
    exact ⟨w', hw'⟩
  | force n h _ hr ih =>
    obtain ⟨w, hw⟩ := ih
    obtain ⟨w', -, hw', -⟩ := Run.Registers.force (Registry.registers_build n) _ _ _ hw hr
    exact ⟨w', hw'⟩
  | enter h _ _ ih => exact ih.imp fun w hw => hw.beginBuild
  | report builds log _ ih => exact ih.imp fun w hw => hw.change rfl (fun _ => rfl) (Nat.le_refl _)

/-- A parser is entered in the registry of the session it has been built in. -/
theorem Reached.knows_of_build {s s' : Session α} {e : Expr α} {p : Parser α} (hs : Reached s)
    (hp : e.build s = some (.ok p, s')) : ∃ w, Registered w s' ∧ w.Knows p := by
  obtain ⟨w, hw⟩ := hs.registered
  have hexpr : (ScriptDiscipline.registering α).Yields w e.build :=
    ScriptDiscipline.build e fun _ _ => trivial
  obtain ⟨w', -, hw', hknows⟩ := hexpr _ _ _ hw hp
  exact ⟨w', hw', hknows p rfl⟩

end GrammarGraph
