import GrammarGraph.Proofs.Extension
import GrammarGraph.Proofs.Ownership
import GrammarGraph.Proofs.Registry

/-!
# Proofs/Assembly — grammars put together from what is there

    built so far        n₀  n₁  n₂  …  ◂──parts──  the next node
    running             the rules whose definitions are being built

Nodes and handles are built one at a time, and while the definitions of rules are being built as
well.  An assembly is a moment together with all that has been built until then, and
`Assembles` is what can come next: whatever is built, named, stored or handed out is made of what
is there.  Nothing else is asked of those who put a grammar together.

Every assembly that can be reached is `Sound`, and all that scripts do with what has been built is
made of such steps, at any depth (`Task.assembles`).
-/

namespace GrammarGraph

variable {α β γ : Type}

/-! ## What parsers are made of -/

namespace Parser

variable {built built' : List (Parser α)} {p c : Parser α}

/-- **The parser is made of nodes and handles that have been built.** -/
def MadeOf (built : List (Parser α)) (p : Parser α) : Prop := p.nodes ⊆ built

/-- The handle of a parser that is no more than a handle. -/
def handle? : Parser α → Option Rule
  | .rule h => some h
  | _ => none

theorem handle?_eq_some_iff {h : Rule} : p.handle? = some h ↔ p = .rule h := by
  cases p <;> simp [handle?]

theorem handle?_of_isNode (hp : p.isNode) : p.handle? = none := by
  cases p with
  | rule => cases hp
  | _ => rfl

/-- What stands for a parser is among its nodes. -/
theorem exists_mem_nodes_id : ∀ p : Parser α, ∃ q ∈ p.nodes, q.id = p.id
  | .boxed inner => exists_mem_nodes_id inner
  | .literal _ _ | .pattern _ _ | .map _ _ _ | .sequence _ _ _ _ | .choice _ _ _ | .optional _ _
  | .star _ _ | .exactly _ _ _ | .named _ _ _ | .rule _ => ⟨_, List.mem_cons_self, rfl⟩

namespace MadeOf

theorem mono (h : p.MadeOf built) (hb : built ⊆ built') : p.MadeOf built' := List.Subset.trans h hb

theorem part (h : p.MadeOf built) (hc : c ∈ p.parts) : c.MadeOf built :=
  List.Subset.trans (nodes_subset_of_part hc) h

theorem of_rule {h : Rule} (hh : .rule h ∈ built) : (rule h : Parser α).MadeOf built := by
  intro q hq
  obtain rfl := List.mem_singleton.1 hq
  exact hh

theorem rule_mem {h : Rule} (hh : (rule h : Parser α).MadeOf built) : .rule h ∈ built :=
  hh (List.mem_singleton_self _)

/-- A node is made of its parts and itself. -/
theorem of_parts (hp : p.isNode) (hparts : ∀ c ∈ p.parts, c.MadeOf built) :
    p.MadeOf (built ++ [p]) := by
  intro q hq
  obtain rfl | ⟨c, hc, hq⟩ := mem_nodes_of_isNode hp hq
  · exact List.mem_append_right _ (List.mem_singleton_self _)
  · exact List.mem_append_left _ (hparts c hc hq)

end MadeOf

end Parser

/-! ## The registry of a list -/

namespace Registry

variable {built : List (Parser α)} {p q : Parser α} {id : NodeId}

/-- The first node or handle in a list that has an identity. -/
def ofList (built : List (Parser α)) : Registry α := fun id => built.find? (·.id = id)

theorem ofList_eq_some_iff (h : built.Pairwise (·.id < ·.id)) :
    ofList built id = some q ↔ q ∈ built ∧ q.id = id := by
  induction built with
  | nil => simp [ofList]
  | cons p built ih =>
    obtain ⟨hp, h⟩ := List.pairwise_cons.1 h
    rw [ofList, List.find?_cons]
    by_cases hid : p.id = id
    · have hrest : ∀ q ∈ built, q.id ≠ id := fun q hq => hid ▸ Nat.ne_of_gt (hp q hq)
      simp only [hid, decide_true, Option.some.injEq, List.mem_cons]
      constructor
      · rintro rfl
        exact ⟨.inl rfl, hid⟩
      · rintro ⟨rfl | hq, hqid⟩
        · rfl
        · exact absurd hqid (hrest q hq)
    · simp only [hid, decide_false, List.mem_cons]
      rw [← ofList, ih h]
      constructor
      · exact fun ⟨hq, hqid⟩ => ⟨.inr hq, hqid⟩
      · rintro ⟨rfl | hq, hqid⟩
        · exact absurd hqid hid
        · exact ⟨hq, hqid⟩

theorem ofList_append (h : ofList built p.id = none) :
    ofList (built ++ [p]) = (ofList built).enter p := by
  funext id
  have hsplit : ofList (built ++ [p]) id = (ofList built id).or (ofList [p] id) :=
    List.find?_append
  rw [hsplit, enter]
  by_cases hid : id = p.id
  · subst hid
    rw [if_pos rfl, h, Option.none_or]
    simp [ofList]
  · rw [if_neg hid]
    simp [ofList, Ne.symm hid]

/-- What is known to the registry of a list is what is made of the list. -/
theorem knows_ofList_iff (h : built.Pairwise (·.id < ·.id)) :
    (ofList built).Knows p ↔ p.MadeOf built := by
  refine forall₂_congr fun q _ => ?_
  rw [ofList_eq_some_iff h]
  exact and_iff_left rfl

end Registry

/-! ## Assemblies -/

/-- A moment, with all nodes and handles that have been built until then, in order. -/
structure Assembly (α : Type) extends Moment α where
  built : List (Parser α)

namespace Assembly

/-- The handles that have been created, in order. -/
def handles (a : Assembly α) : List Rule := a.built.filterMap Parser.handle?

theorem mem_handles_iff {a : Assembly α} {h : Rule} : h ∈ a.handles ↔ .rule h ∈ a.built := by
  simp [handles, List.mem_filterMap, Parser.handle?_eq_some_iff]

end Assembly

/-- **What can come next without a slot being touched**: nodes are built, names are given, and
arenas are opened and given up.  What is visited and logged may change at any time, and identities
may be used up. -/
inductive Aside : Assembly α → Assembly α → Prop
  | node {running s built} {p : Parser α} (hp : p.isNode) (hid : p.id = s.nextId)
      (hparts : ∀ c ∈ p.parts, c.MadeOf built) :
      Aside ⟨⟨running, s⟩, built⟩ ⟨⟨running, { s with nextId := s.nextId + 1 }⟩, built ++ [p]⟩
  | quiet {running s s' built} (ha : s'.arenas = s.arenas) (hb : s'.bindings = s.bindings)
      (hn : s'.arenaNames = s.arenaNames) (hid : s.nextId ≤ s'.nextId) :
      Aside ⟨⟨running, s⟩, built⟩ ⟨⟨running, s'⟩, built⟩
  | bindName {running s built} (name : String) {b : Binding α} (hb : b.toParser.MadeOf built) :
      Aside ⟨⟨running, s⟩, built⟩ ⟨⟨running, s.bind name b⟩, built⟩
  | newArena {running s built} (name : String) :
      Aside ⟨⟨running, s⟩, built⟩ ⟨⟨running, s.newArena name⟩, built⟩
  | dropArena {running s built} (name : String) :
      Aside ⟨⟨running, s⟩, built⟩ ⟨⟨running, s.dropArena name⟩, built⟩

/-- **What can come next.**  A definition that has been entered may be left once it has been built,
and until then anything else may come. -/
inductive Assembles : Assembly α → Assembly α → Prop
  | aside {a a'} (h : Aside a a') : Assembles a a'
  | create {running s built id} (hid : id < s.arenas.length) (definition : Option (Deferred α)) :
      Assembles ⟨⟨running, s⟩, built⟩
        ⟨⟨running, (s.addSlot id { deferred := definition }).2⟩,
          built ++ [.rule (s.addSlot id { deferred := definition }).1]⟩
  | define {running s s' built} {h : Rule} {p : Parser α} (hh : .rule h ∈ built)
      (hp : p.MadeOf built) (hd : h.define p s = some (.ok (), s')) :
      Assembles ⟨⟨running, s⟩, built⟩ ⟨⟨running, s'⟩, built⟩
  | enter {running s built} {h : Rule} {definition : Deferred α} (hh : .rule h ∈ built)
      (hp : (s.slot? h).map Slot.stage = some (.pending definition)) :
      Assembles ⟨⟨running, s⟩, built⟩ ⟨⟨h.place :: running, s.beginBuild h⟩, built⟩
  | leave {running s built} {h : Rule} {p : Parser α} (hh : .rule h ∈ built)
      (hp : p.MadeOf built) :
      Assembles ⟨⟨h.place :: running, s⟩, built⟩ ⟨⟨running, s.finishBuild h p⟩, built⟩

namespace Assembly

/-- While the definition of a rule is being built. -/
def beginBuild (a : Assembly α) (h : Rule) : Assembly α :=
  ⟨⟨h.place :: a.running, a.session.beginBuild h⟩, a.built⟩

/-- Nothing has been built yet. -/
def start (logging : Bool) : Assembly α := ⟨⟨[], { logging := logging }⟩, []⟩

/-- **One thing comes after another.** -/
abbrev Later : Assembly α → Assembly α → Prop := Relation.ReflTransGen Assembles

/-- **The assemblies that can be reached.** -/
def Reachable (a : Assembly α) : Prop := ∃ logging, Later (.start logging) a

theorem Reachable.later {a a' : Assembly α} (h : a.Reachable) (ha : a.Later a') : a'.Reachable :=
  h.imp fun _ hstart => hstart.trans ha

end Assembly

/-! ## What every step keeps -/

variable {a a' : Assembly α} {running running' : List Place} {s s' : Session α}
  {built : List (Parser α)} {p : Parser α}

theorem Aside.extends (h : Aside a a') : a.session.Extends a'.session := by
  cases h with
  | node | bindName => exact .of_arenas rfl
  | quiet ha => exact .of_arenas ha
  | newArena name => exact .newArena name
  | dropArena name => exact .dropArena name

/-- **Definitions stay**, and so do slots. -/
theorem Assembles.extends (h : Assembles a a') : a.session.Extends a'.session := by
  cases h with
  | aside h => exact h.extends
  | create hid definition => exact .addSlot _ _
  | define hh hp hd => exact .define hd
  | enter hh hp =>
    obtain ⟨slot, hslot, -⟩ := Option.map_eq_some_iff.1 hp
    exact .beginBuild hslot
  | leave hh hp => exact .finishBuild _

/-- **What has been built stays**, and more is added behind it. -/
theorem Assembles.prefix_built (h : Assembles a a') : a.built <+: a'.built := by
  cases h with
  | aside h =>
    cases h with
    | node => exact List.prefix_append _ _
    | quiet | bindName | newArena | dropArena => exact List.prefix_rfl
  | create => exact List.prefix_append _ _
  | define | enter | leave => exact List.prefix_rfl

/-- Every step is a move in the history of rules. -/
theorem Assembles.moves (h : Assembles a a') : ∃ e, Moves a.toMoment e a'.toMoment := by
  cases h with
  | aside h =>
    cases h with
    | node | bindName => exact ⟨_, .quiet rfl⟩
    | quiet ha => exact ⟨_, .quiet ha⟩
    | newArena name => exact ⟨_, .newArena name⟩
    | dropArena name => exact ⟨_, .dropArena name⟩
  | create hid definition => exact ⟨_, .create hid definition⟩
  | define hh hp hd => exact ⟨_, .define hd⟩
  | enter hh hp => exact ⟨_, .enter hp⟩
  | leave hh hp => exact ⟨_, .leave _⟩

namespace Assembly

theorem Later.prefix_built (h : a.Later a') : a.built <+: a'.built := by
  induction h with
  | refl => exact List.prefix_rfl
  | tail _ hm ih => exact ih.trans hm.prefix_built

/-- **Every rule has a story.** -/
theorem Reachable.tells (h : a.Reachable) : ∃ es, Tells es a.toMoment := by
  obtain ⟨logging, hlater⟩ := h
  induction hlater with
  | refl => exact ⟨[], .start logging⟩
  | tail _ hm ih =>
    obtain ⟨es, hes⟩ := ih
    obtain ⟨e, he⟩ := hm.moves
    exact ⟨es ++ e, hes.move he⟩

/-- The slot of a rule that is running is being built. -/
theorem Reachable.slotOf?_running (h : a.Reachable) {x : Place} (hx : x ∈ a.running) :
    a.session.slotOf? x = some { forcing := true } := by
  obtain ⟨es, hes⟩ := h.tells
  exact (hes.running x).2 hx

/-! ## Sound assemblies -/

/-- **Identities tell what was built when, and places tell rules apart.** -/
structure Sound (a : Assembly α) : Prop where
  increasing : a.built.Pairwise (·.id < ·.id)
  /-- What names and slots hold on to is made of what has been built. -/
  registered : Registered (.ofList a.built) a.session
  /-- Parts are there before what they are parts of. -/
  parts : ∀ q ∈ a.built, ∀ c ∈ q.parts, c.MadeOf a.built ∧ c.id < q.id
  ledger : Ledger a.running a.session
  placed : ∀ h ∈ a.handles, ∃ slot, a.session.slotOf? h.place = some slot
  apart : (a.handles.map Rule.place).Nodup
  /-- What is running are rules whose handles are there. -/
  running : ∀ x ∈ a.running, ∃ h ∈ a.handles, h.place = x

namespace Sound

theorem start (logging : Bool) : Sound (start logging : Assembly α) where
  increasing := .nil
  registered := .start logging
  parts _ := nofun
  ledger := .start logging
  placed _ := nofun
  apart := .nil
  running _ := nofun

theorem knows_iff (h : Sound a) : (Registry.ofList a.built).Knows p ↔ p.MadeOf a.built :=
  Registry.knows_ofList_iff h.increasing

/-- The identities of what has been built have been given out. -/
theorem id_lt (h : Sound a) {q : Parser α} (hq : q ∈ a.built) : q.id < a.session.nextId := by
  refine Nat.lt_of_not_le fun hle => ?_
  have hnone := h.registered.fresh q.id hle
  rw [(Registry.ofList_eq_some_iff h.increasing).2 ⟨hq, rfl⟩] at hnone
  cases hnone

theorem id_lt_of_madeOf (h : Sound a) (hp : p.MadeOf a.built) : p.id < a.session.nextId := by
  obtain ⟨q, hq, hid⟩ := p.exists_mem_nodes_id
  exact hid ▸ h.id_lt (hp hq)

/-- Nothing is built, and what is running has been running or has a handle. -/
theorem same (h : Sound ⟨⟨running, s⟩, built⟩) (hr : Registered (.ofList built) s')
    (he : s.Extends s') (hl : Ledger running' s')
    (hrunning : ∀ x ∈ running', x ∈ running ∨ ∃ r : Rule, .rule r ∈ built ∧ r.place = x) :
    Sound ⟨⟨running', s'⟩, built⟩ where
  increasing := h.increasing
  registered := hr
  parts := h.parts
  ledger := hl
  placed r hr := by
    obtain ⟨slot, hslot⟩ := h.placed r hr
    exact (he.slot _ slot hslot).imp fun _ => And.left
  apart := h.apart
  running x hx := by
    obtain hx | ⟨r, hr, hplace⟩ := hrunning x hx
    · exact h.running x hx
    · exact ⟨r, mem_handles_iff.2 hr, hplace⟩

/-- One node or handle is built, and if it is a handle its place is new. -/
theorem append (h : Sound ⟨⟨running, s⟩, built⟩) (hid : p.id = s.nextId)
    (hparts : ∀ c ∈ p.parts, c.MadeOf built)
    (hr : Registered ((Registry.ofList built).enter p) s') (he : s.Extends s')
    (hl : Ledger running s')
    (hplace : ∀ r ∈ p.handle?, s.slotOf? r.place = none ∧ ∃ slot, s'.slotOf? r.place = some slot) :
    Sound ⟨⟨running, s'⟩, built ++ [p]⟩ := by
  have hnone : Registry.ofList built p.id = none := h.registered.fresh _ (Nat.le_of_eq hid.symm)
  have hhandles : (⟨⟨running, s'⟩, built ++ [p]⟩ : Assembly α).handles =
      built.filterMap Parser.handle? ++ p.handle?.toList := by
    rw [handles, List.filterMap_append]
    cases hp : p.handle? <;> simp [hp]
  have hplaced (r : Rule) (hr : r ∈ built.filterMap Parser.handle?) :
      ∃ slot, s.slotOf? r.place = some slot := h.placed r hr
  refine { increasing := ?increasing, registered := ?registered, parts := ?parts, ledger := hl
           placed := ?placed, apart := ?apart, running := ?running }
  case increasing =>
    refine List.pairwise_append.2 ⟨h.increasing, List.pairwise_singleton _ _, fun q hq r hr => ?_⟩
    obtain rfl := List.mem_singleton.1 hr
    exact hid ▸ h.id_lt hq
  case registered => exact Registry.ofList_append hnone ▸ hr
  case parts =>
    intro q hq c hc
    obtain hq | hq := List.mem_append.1 hq
    · exact (h.parts q hq c hc).imp_left fun hmade => hmade.mono (List.subset_append_left _ _)
    · obtain rfl := List.mem_singleton.1 hq
      have hmade := hparts c hc
      exact ⟨hmade.mono (List.subset_append_left _ _), hid ▸ h.id_lt_of_madeOf hmade⟩
  case placed =>
    intro r hr
    rw [hhandles] at hr
    obtain hr | hr := List.mem_append.1 hr
    · obtain ⟨slot, hslot⟩ := hplaced r hr
      exact (he.slot _ slot hslot).imp fun _ => And.left
    · exact (hplace r (Option.mem_toList.1 hr)).2
  case apart =>
    rw [hhandles, List.map_append]
    have hone : (p.handle?.toList.map Rule.place).Nodup := by cases p.handle? <;> simp
    refine List.nodup_append.2 ⟨h.apart, hone, fun x hx y hy hsame => ?_⟩
    obtain ⟨r, hr, rfl⟩ := List.mem_map.1 hx
    obtain ⟨r', hr', rfl⟩ := List.mem_map.1 hy
    -- A place that is new is not that of a rule which has a slot.
    obtain ⟨slot, hslot⟩ := hplaced r hr
    rw [hsame, (hplace r' (Option.mem_toList.1 hr')).1] at hslot
    cases hslot
  case running =>
    intro x hx
    obtain ⟨r, hr, rfl⟩ := h.running x hx
    exact ⟨r, hhandles ▸ List.mem_append_left _ hr, rfl⟩

theorem aside (h : Sound a) (hm : Aside a a') : Sound a' := by
  have he := hm.extends
  cases hm with
  | @node running s built p hp hid hparts =>
    have hr : _ ∧ Registered _ { s with nextId := s.nextId + 1 } :=
      h.registered.enter hid rfl h.registered.slots rfl
    refine h.append hid hparts hr.2 he (h.ledger.congr rfl rfl) fun r hr => ?_
    rw [Parser.handle?_of_isNode hp] at hr
    cases hr
  | quiet ha hb hn hid =>
    have hr := h.registered.change hb (Session.slotOf?_congr ha) hid
    exact h.same hr he (h.ledger.congr ha hn) fun _ => .inl
  | bindName name hb =>
    have hr := h.registered.bindName name (h.knows_iff.2 hb)
    exact h.same hr he (h.ledger.congr rfl rfl) fun _ => .inl
  | newArena name =>
    exact h.same (h.registered.newArena name) he (h.ledger.newArena name) fun _ => .inl
  | dropArena name =>
    exact h.same (h.registered.dropArena name) he (h.ledger.dropArena name) fun _ => .inl

/-- **Every step leads from a sound assembly to a sound one.** -/
theorem assembles (h : Sound a) (hm : Assembles a a') : Sound a' := by
  have he := hm.extends
  cases hm with
  | aside hm => exact h.aside hm
  | create hid definition =>
    obtain ⟨hnone, hslots⟩ := Session.slotOf?_addSlot hid { deferred := definition }
    refine h.append rfl (fun c hc => ?_) (h.registered.addSlot _ definition).2 he
      (h.ledger.addSlot _ _) fun r hr => ?_
    · cases hc
    · obtain rfl := Option.some.inj hr
      exact ⟨hnone, _, (hslots _).trans (if_pos rfl)⟩
  | define hh hp hd =>
    have hr := h.registered.define (h.knows_iff.2 hp) hd
    exact h.same hr he (h.ledger.define hd) fun _ => .inl
  | enter hh hp =>
    have hl := h.ledger.beginBuild (Session.arena_lt_of_slot? hp)
    refine h.same h.registered.beginBuild he hl fun x hx => ?_
    obtain rfl | hx := List.mem_cons.1 hx
    · exact .inr ⟨_, hh, rfl⟩
    · exact .inl hx
  | leave hh hp =>
    exact h.same (h.registered.finishBuild (h.knows_iff.2 hp)).1 he (h.ledger.finishBuild _)
      fun _ hx => .inl (List.mem_cons_of_mem _ hx)

/-- A handle that has been created leads to a slot. -/
theorem exists_slotAt? (h : Sound a) {r : Rule} (hr : .rule r ∈ a.built) :
    ∃ slot, a.session.slotAt? r = some slot :=
  h.placed r (mem_handles_iff.2 hr)

/-- Whatever is known under a name is made of what has been built. -/
theorem madeOf_of_lookup (h : Sound a) {name : String} {b : Binding α}
    (hb : a.session.bindings.lookup name = some b) : b.toParser.MadeOf a.built :=
  h.knows_iff.1 (h.registered.of_lookup hb)

/-- So is whatever a rule is defined as. -/
theorem madeOf_of_value (h : Sound a) {x : Place} {slot : Slot α}
    (hx : a.session.slotOf? x = some slot) (hp : slot.value = some p) : p.MadeOf a.built :=
  h.knows_iff.1 (h.registered.slots x slot p hx hp)

end Sound

theorem Sound.later (h : Sound a) (hlater : a.Later a') : Sound a' := by
  induction hlater with
  | refl => exact h
  | tail _ hm ih => exact ih.assembles hm

/-- **Every assembly that can be reached is sound.** -/
theorem Reachable.sound (h : a.Reachable) : Sound a := by
  obtain ⟨logging, hlater⟩ := h
  exact (Sound.start logging).later hlater

end Assembly

/-! ## Computations -/

/-- **The computation is made of steps**, leaves no definition in the middle of being built, and
leads to a result with `R`. -/
def Run.Assembles (a : Assembly α) (m : Run α β) (R : Assembly α → β → Prop) : Prop :=
  a.Reachable → ∀ b t, m a.session = some (b, t) →
    ∃ a', a.Later a' ∧ a'.running = a.running ∧ a'.session = t ∧ R a' b

namespace Run.Assembles

variable {m : Run α β} {R : Assembly α → β → Prop}

theorem pure {b : β} (h : R a b) : Run.Assembles a (Pure.pure b : Run α β) R := by
  intro _ b' t hb
  obtain ⟨rfl, rfl⟩ := Run.pure_eq_some_iff.1 hb
  exact ⟨a, .refl, rfl, rfl, h⟩

theorem bind {f : β → Run α γ} {Q : Assembly α → γ → Prop} (hm : Run.Assembles a m R)
    (hf : ∀ a' b, a.Later a' → R a' b → Run.Assembles a' (f b) Q) :
    Run.Assembles a (m >>= f) Q := by
  intro ha c u hc
  obtain ⟨b, t, hb, hc⟩ := Run.bind_eq_some_iff.1 hc
  obtain ⟨a', hlater, hrunning, rfl, hR⟩ := hm ha b t hb
  obtain ⟨a'', hlater', hrunning', hu, hQ⟩ := hf a' b hlater hR (ha.later hlater) c u hc
  exact ⟨a'', hlater.trans hlater', hrunning'.trans hrunning, hu, hQ⟩

theorem mono {Q : Assembly α → β → Prop} (hm : Run.Assembles a m R) (h : ∀ a b, R a b → Q a b) :
    Run.Assembles a m Q := by
  intro ha b t hb
  obtain ⟨a', hlater, hrunning, ht, hR⟩ := hm ha b t hb
  exact ⟨a', hlater, hrunning, ht, h a' b hR⟩

/-- One step, that leaves what is running as it is. -/
theorem of_modifyGet {f : Session α → β × Session α}
    (hf : a.Reachable → ∃ a', GrammarGraph.Assembles a a' ∧ a'.running = a.running ∧
      a'.session = (f a.session).2 ∧ R a' (f a.session).1) :
    Run.Assembles a (modifyGet f : Run α β) R := by
  intro ha b t hb
  obtain ⟨rfl, rfl⟩ := Prod.mk.inj (Option.some.inj hb)
  obtain ⟨a', hm, hrest⟩ := hf ha
  exact ⟨a', .single hm, hrest⟩

/-- One step that touches no slot and builds nothing. -/
theorem of_aside {f : Session α → Session α}
    (hf : Aside a ⟨⟨a.running, f a.session⟩, a.built⟩) :
    Run.Assembles a (modify f : Run α PUnit) fun _ _ => True :=
  of_modifyGet fun _ => ⟨_, .aside hf, rfl, rfl, trivial⟩

theorem log (level : LogLevel) (message : String) :
    Run.Assembles a (Run.log level message : Run α Unit) fun _ _ => True := by
  refine of_aside ?_
  split
  · exact .quiet rfl rfl rfl (Nat.le_refl _)
  · exact .quiet rfl rfl rfl (Nat.le_refl _)

theorem fresh {node : NodeId → Parser α} (hnode : ∀ id, (node id).isNode ∧ (node id).id = id)
    (hparts : ∀ id, ∀ c ∈ (node id).parts, c.MadeOf a.built) :
    Run.Assembles a Run.fresh fun a' id => (node id).MadeOf a'.built := by
  obtain ⟨hp, hid⟩ := hnode a.session.nextId
  exact of_modifyGet fun _ =>
    ⟨_, .aside (.node hp hid (hparts _)), rfl, rfl, .of_parts hp (hparts _)⟩

theorem addSlot {id : ArenaId} (hid : id < a.session.arenas.length)
    (definition : Option (Deferred α)) :
    Run.Assembles a (modifyGet (·.addSlot id { deferred := definition }))
      fun a' h => (Parser.rule h).MadeOf a'.built :=
  of_modifyGet fun _ => ⟨_, .create hid definition, rfl, rfl,
    .of_rule (List.mem_append_right _ (List.mem_singleton_self _))⟩

theorem define {h : Rule} (hh : .rule h ∈ a.built) (hp : p.MadeOf a.built) :
    Run.Assembles a (h.define p) fun _ _ => True := by
  intro _ r t hd
  cases r with
  | ok => exact ⟨_, .single (.define hh hp hd), rfl, rfl, trivial⟩
  | error e => exact ⟨a, .refl, rfl, (Rule.of_define_error hd).symm, trivial⟩

theorem isDefined (h : Rule) : Run.Assembles a (h.isDefined : Run α Bool) fun _ _ => True :=
  fun _ _ _ hd => ⟨a, .refl, rfl, (Rule.of_isDefined hd).symm, trivial⟩

section Forcing

variable {build : Deferred α → Run α (Parser α)} {h : Rule} (hh : .rule h ∈ a.built)
  (hbuild : ∀ a d, Run.Assembles a (build d) fun a' p => p.MadeOf a'.built)

include hh hbuild

/-- **A pending definition is entered, built and left**, and nothing else is running then than
before. -/
theorem of_force_of_pending (ha : a.Reachable) {d : Deferred α} {r : Except Fault (Parser α)}
    {t : Session α} (hp : (a.session.slot? h).map Slot.stage = some (.pending d))
    (hf : h.force build a.session = some (r, t)) :
    ∃ a' p, (a.beginBuild h).Later a' ∧ a'.running = h.place :: a.running ∧ p.MadeOf a'.built ∧
      r = .ok p ∧ t = a'.session.finishBuild h p := by
  have henter : a.Later (a.beginBuild h) := .single (.enter hh hp)
  obtain ⟨p, u, hthunk, rfl, rfl⟩ := Rule.of_force_of_pending hp hf
  have hrun : Run.Assembles (a.beginBuild h) (h.runThunk build d) fun a' p => p.MadeOf a'.built :=
    (log _ _).bind fun a' _ _ _ => hbuild a' d
  obtain ⟨a', hlater, hrunning, rfl, hp⟩ := hrun (ha.later henter) p u hthunk
  have hslot : a'.session.slotOf? h.place = some { forcing := true } :=
    ((ha.later henter).later hlater).slotOf?_running (hrunning ▸ List.mem_cons_self)
  refine ⟨a', p, hlater, hrunning, hp, ?_, rfl⟩
  rw [Session.slotAt?_eq, hslot]
  rfl

theorem force :
    Run.Assembles a (h.force build) fun a' r => ∀ p, r = .ok p → p.MadeOf a'.built := by
  intro ha r t hf
  obtain ⟨d, _, _, hpending, -⟩ | ⟨rfl, hbuilt⟩ := Rule.force_cases hf
  · obtain ⟨⟨⟨_, s⟩, built⟩, p, hlater, rfl, hp, rfl, rfl⟩ :=
      of_force_of_pending hh hbuild ha hpending hf
    have hh' : .rule h ∈ built := hlater.prefix_built.subset hh
    have hleft : a.Later ⟨⟨a.running, s.finishBuild h p⟩, built⟩ :=
      .head (.enter hh hpending) (hlater.tail (.leave hh' hp))
    refine ⟨_, hleft, rfl, rfl, ?_⟩
    rintro _ ⟨⟩
    exact hp
  · refine ⟨a, .refl, rfl, rfl, fun p hr => ?_⟩
    obtain ⟨slot, hslot, hvalue⟩ := Session.exists_slotOf?_of_built (hbuilt p hr)
    exact ha.sound.madeOf_of_value hslot hvalue

end Forcing

end Run.Assembles

/-- **All that scripts do is made of steps.** -/
def ScriptDiscipline.assembling (α : Type) : ScriptDiscipline α where
  World := Assembly α
  Grows := Assembly.Later
  Holds a p := p.MadeOf a.built
  Does := Run.Assembles
  refl _ := .refl
  trans := .trans
  holds_mono h hp := hp.mono h.prefix_built.subset
  holds_part := .part
  pure := .pure
  bind := .bind
  failure _ := nofun
  read _ hf ha b t hb := hf _ ha b t hb
  log := .log
  Allows _ := True
  Admits a id := id < a.session.arenas.length
  holds_box h := h
  consult _ hf ha b t hb := hf _ (fun _ _ _ => ha.sound.madeOf_of_lookup)
    (fun _ _ _ => ha.sound.ledger.lt_of_lookup) ha b t hb
  fresh := .fresh
  skip _ := .of_aside (.quiet rfl rfl rfl (Nat.le_add_right _ _))
  change _ _ _ := .of_aside (.quiet rfl rfl rfl (Nat.le_refl _))
  bindName name := fun hb => .of_aside (.bindName name hb)
  newArena _ := .of_aside (.newArena _)
  dropArena _ := .of_aside (.dropArena _)
  addSlot hid _ := .addSlot hid _
  define hh hp := .define hh.rule_mem hp
  isDefined _ := .isDefined _
  force hbuild _ _ hh := .force hh.rule_mem fun a d => hbuild a d fun _ _ => trivial

theorem Calls.assembles_build (n : Nat) (a : Assembly α) (d : Deferred α) :
    Run.Assembles a ((Calls.upTo n).build d) fun a' p => p.MadeOf a'.built := by
  cases n with
  | zero => exact fun _ => nofun
  | succ n =>
    exact ScriptDiscipline.deferred (D := .assembling α) (ScriptDiscipline.upTo _ n) d
      fun _ _ => trivial

/-! ## Tasks -/

/-- **What can be carried out with what has been built**, between the steps of a script or in the
middle of one, and the parser that comes of it, if any. -/
inductive Task (a : Assembly α) : {β : Type} → Run α β → (β → Option (Parser α)) → Prop
  | script (n : Nat) (steps : List (Step α)) :
      Task a (steps.mapM (Step.run (.upTo n))) fun _ => none
  | step (n : Nat) (step : Step α) : Task a (step.run (.upTo n)) fun _ => none
  | definition (n : Nat) (d : Deferred α) : Task a (d.build (.upTo n)) some
  | expr (e : Expr α) : Task a e.build Except.toOption
  | parse (n : Nat) {p : Parser α} (x : Text) (hp : p.MadeOf a.built) :
      Task a (p.parse (.upTo n) x) fun _ => none
  | parseAll (n : Nat) {p : Parser α} (x : Text) (hp : p.MadeOf a.built) :
      Task a (p.parseAll (.upTo n) x) fun _ => none
  | label (n : Nat) {p : Parser α} (hp : p.MadeOf a.built) :
      Task a (p.label (.upTo n)) fun _ => none
  | describe (n : Nat) {p : Parser α} (v : Visited) (hp : p.MadeOf a.built) :
      Task a (p.describe (.upTo n) v) fun _ => none
  | kind (n : Nat) {p : Parser α} (v : Visited) (hp : p.MadeOf a.built) :
      Task a (p.kind (.upTo n) v) fun _ => none
  | force (n : Nat) {h : Rule} (hh : .rule h ∈ a.built) :
      Task a (h.force (Calls.upTo n).build) Except.toOption
  | create {id : ArenaId} (hid : id < a.session.arenas.length) (d : Option (Deferred α)) :
      Task a (modifyGet (·.addSlot id { deferred := d })) fun h => some (.rule h)
  | define {h : Rule} {p : Parser α} (hh : .rule h ∈ a.built) (hp : p.MadeOf a.built) :
      Task a (h.define p) fun _ => none
  | isDefined {h : Rule} (hh : .rule h ∈ a.built) : Task a h.isDefined fun _ => none

/-- **Every task is made of steps**, and what comes of it is made of what has been built then. -/
theorem Task.assembles {m : Run α β} {give : β → Option (Parser α)} (hm : Task a m give) :
    Run.Assembles a m fun a' b => ∀ p, give b = some p → p.MadeOf a'.built := by
  let D := ScriptDiscipline.assembling α
  have hc (n : Nat) : D.Respects (Calls.upTo n) := D.upTo n
  have hnone {m : Run α β} (h : D.Runs a m) :
      Run.Assembles a m fun a' _ => ∀ p : Parser α, none = some p → p.MadeOf a'.built :=
    h.mono fun _ _ _ _ hp => nomatch hp
  have hyields {ε : Type} {m : Run α (Except ε (Parser α))} (h : D.Yields a m) :
      Run.Assembles a m fun a' r => ∀ p, r.toOption = some p → p.MadeOf a'.built :=
    h.mono fun _ r hr p hp => by
      cases r with
      | ok q => exact hr p (congrArg Except.ok (Option.some.inj hp))
      | error e => cases hp
  cases hm with
  | script n steps => exact hnone (ScriptDiscipline.steps (hc n) steps fun _ _ => trivial)
  | step n step => exact hnone (ScriptDiscipline.run (hc n) step fun _ _ => trivial)
  | definition n d =>
    have hd : D.Does a (d.build (.upTo n)) D.Holds :=
      ScriptDiscipline.deferred (hc n) d fun _ _ => trivial
    exact hd.mono fun _ _ hp _ hgive => Option.some.inj hgive ▸ hp
  | expr e => exact hyields (ScriptDiscipline.build e fun _ _ => trivial)
  | parse n x hp => exact hnone (Discipline.parse (hc n) _ x hp)
  | parseAll n x hp => exact hnone (Discipline.parseAll (hc n) _ x hp)
  | label n hp => exact hnone (Discipline.label (hc n) _ hp)
  | describe n v hp => exact hnone (Discipline.describe (hc n) _ v hp)
  | kind n v hp => exact hnone (Discipline.kind (hc n) _ v hp)
  | force n hh => exact hyields ((hc n).force (.of_rule hh))
  | create hid d => exact (Run.Assembles.addSlot hid d).mono fun _ _ hh _ hgive =>
      Option.some.inj hgive ▸ hh
  | define hh hp => exact hnone (.define hh hp)
  | isDefined hh => exact hnone (.isDefined _)

end GrammarGraph
