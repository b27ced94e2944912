import GrammarGraph.Proofs.Access
import GrammarGraph.Proofs.Assembly

/-!
# Proofs/Attachment — a handle leads to its own slot, however the lists grow

    enter h ──▸ slots are added, other rules are entered and left ──▸ leave h
      slot of h taken                                            slot of h stored

A site is an assembly whose slots are got at through their lists (`Access`).  What is attempted in
it may fail, at an index or because of a borrow (`Attempts`); in a site that can be reached, it
never does.  A site goes on as the assembly does: a step of one is a step of the other
(`Attempts.exists_ok`, `Assembles.attempts`).  So the index of a handle is inside its list at all
times, nothing is borrowed while definitions are being built, and what comes of a definition is
stored in the slot that it was taken from.
-/

namespace GrammarGraph

variable {α β : Type}

/-! ## Sites -/

/-- An assembly, and how the lists of slots are borrowed. -/
structure Site (α : Type) extends Assembly α where
  borrows : ArenaId → Borrow

namespace Site

def memory (c : Site α) : Memory α := ⟨c.session, c.borrows⟩

/-- No list is borrowed. -/
def Free (c : Site α) : Prop := ∀ id, c.borrows id = .shared 0

/-- What comes of something done with slots.  What is running and what has been built then may
depend on its result. -/
def after (c : Site α) (m : Access α β) (running : β → List Place) (built : β → List (Parser α)) :
    Except AccessError (Site α) :=
  (m c.memory).map fun x => ⟨⟨⟨running x.1, x.2.session⟩, built x.1⟩, x.2.borrows⟩

/-- What is running once the definition of a rule has been looked for. -/
def runningAfter (c : Site α) (h : Rule) : Found α → List Place
  | .taken _ => h.place :: c.running
  | .built _ | .missing _ => c.running

end Site

/-- **What may be attempted**, between the steps of a script or while definitions are being built,
with handles and parsers that have been built; and what comes of it. -/
inductive Attempts (c : Site α) : Except AccessError (Site α) → Prop
  | aside {a} (h : Aside c.toAssembly a) : Attempts c (.ok ⟨a, c.borrows⟩)
  | create {id} (hid : id < c.session.arenas.length) (definition : Option (Deferred α)) :
      Attempts c (c.after (Access.create id definition) (fun _ => c.running)
        fun h => c.built ++ [.rule h])
  | size (id : ArenaId) :
      Attempts c (c.after (Access.size id) (fun _ => c.running) fun _ => c.built)
  | define {h : Rule} {p : Parser α} (hh : .rule h ∈ c.built) (hp : p.MadeOf c.built) :
      Attempts c (c.after (Access.define h p) (fun _ => c.running) fun _ => c.built)
  | isDefined {h : Rule} (hh : .rule h ∈ c.built) :
      Attempts c (c.after (Access.isDefined h) (fun _ => c.running) fun _ => c.built)
  | enter {h : Rule} (hh : .rule h ∈ c.built) :
      Attempts c (c.after (Access.enter h) (c.runningAfter h) fun _ => c.built)
  | leave {h : Rule} {p : Parser α} {rest : List Place} (hh : .rule h ∈ c.built)
      (hp : p.MadeOf c.built) (hrunning : c.running = h.place :: rest) :
      Attempts c (c.after (Access.leave h p) (fun _ => rest) fun _ => c.built)

namespace Site

/-- Nothing has been built yet. -/
def start (logging : Bool) : Site α := ⟨.start logging, fun _ => .shared 0⟩

/-- **One attempt after another**, none of which has failed. -/
abbrev Later : Site α → Site α → Prop := Relation.ReflTransGen fun c c' => Attempts c (.ok c')

/-- **The sites that can be reached.** -/
def Reachable (c : Site α) : Prop := ∃ logging, Later (.start logging) c

theorem Reachable.later {c c' : Site α} (h : c.Reachable) (hc : c.Later c') : c'.Reachable :=
  h.imp fun _ hstart => hstart.trans hc

end Site

/-! ## Sites go on as assemblies do -/

variable {c c' : Site α}

/-- **No attempt fails**, and what comes of it is what comes of the assembly. -/
theorem Attempts.exists_ok {r : Except AccessError (Site α)} (h : Attempts c r)
    (hsound : c.Sound) (hfree : c.Free) :
    ∃ c', r = .ok c' ∧ c'.borrows = c.borrows ∧ c.toAssembly.Later c'.toAssembly := by
  cases h with
  | aside h => exact ⟨_, rfl, rfl, .single (.aside h)⟩
  | create hid definition =>
    rw [Site.after, Access.create_eq (hfree _) hid]
    exact ⟨_, rfl, rfl, .single (.create hid definition)⟩
  | size id =>
    rw [Site.after, Access.size_eq (hfree _)]
    exact ⟨_, rfl, rfl, .refl⟩
  | @define h p hh hp =>
    obtain ⟨slot, hs⟩ := hsound.exists_slotAt? hh
    obtain ⟨r, t, hd, haccess⟩ := Access.define_eq (m := c.memory) (p := p) (hfree _) hs
    rw [Site.after, haccess]
    refine ⟨_, rfl, rfl, ?_⟩
    cases r with
    | ok => exact .single (.define hh hp hd)
    | error e =>
      obtain rfl := Rule.of_define_error hd
      exact .refl
  | @isDefined h hh =>
    obtain ⟨slot, hs⟩ := hsound.exists_slotAt? hh
    obtain ⟨b, t, hd, haccess⟩ := Access.isDefined_eq (m := c.memory) (hfree _) hs
    obtain rfl := Rule.of_isDefined hd
    rw [Site.after, haccess]
    exact ⟨_, rfl, rfl, .refl⟩
  | @enter h hh =>
    obtain ⟨slot, hs⟩ := hsound.exists_slotAt? hh
    rw [Site.after, Access.enter_eq (hfree _) hs]
    match hstage : (c.memory.session.slot? h).map Slot.stage with
    | none | some (.built _) | some .building | some .empty => exact ⟨_, rfl, rfl, .refl⟩
    | some (.pending d) => exact ⟨_, rfl, rfl, .single (.enter hh hstage)⟩
  | @leave h p rest hh hp hrunning =>
    obtain ⟨slot, hs⟩ := hsound.exists_slotAt? hh
    rw [Site.after, Access.leave_eq (hfree _) hs]
    obtain ⟨⟨⟨_, s⟩, built⟩, borrows⟩ := c
    obtain rfl := hrunning
    exact ⟨_, rfl, rfl, .single (.leave hh hp)⟩

section Lifting

variable {a a' : Assembly α} {borrows : ArenaId → Borrow} (hsound : a.Sound)
  (hfree : Site.Free ⟨a, borrows⟩)

include hsound hfree

/-- **What may come of an assembly is attempted with success**, where nothing is borrowed. -/
theorem Assembles.attempts (h : Assembles a a') :
    Attempts ⟨a, borrows⟩ (.ok ⟨a', borrows⟩) := by
  cases h with
  | aside h => exact .aside h
  | @create running s built id hid definition =>
    have hattempt := Attempts.create (c := ⟨⟨⟨running, s⟩, built⟩, borrows⟩) hid definition
    rwa [Site.after, Access.create_eq (hfree _) hid] at hattempt
  | @define running s s' built h p hh hp hd =>
    obtain ⟨slot, hs⟩ := hsound.exists_slotAt? hh
    obtain ⟨r, t, hd', haccess⟩ :=
      Access.define_eq (m := ⟨s, borrows⟩) (p := p) (hfree _) hs
    obtain ⟨rfl, rfl⟩ := Prod.mk.inj (Option.some.inj (hd.symm.trans hd'))
    have hattempt := Attempts.define (c := ⟨⟨⟨running, s⟩, built⟩, borrows⟩) hh hp
    rwa [Site.after, Site.memory, haccess] at hattempt
  | @enter running s built h d hh hp =>
    obtain ⟨slot, hs⟩ := hsound.exists_slotAt? hh
    have hattempt := Attempts.enter (c := ⟨⟨⟨running, s⟩, built⟩, borrows⟩) hh
    rwa [Site.after, Access.enter_eq (hfree _) hs, Site.memory, hp] at hattempt
  | @leave running s built h p hh hp =>
    obtain ⟨slot, hs⟩ := hsound.exists_slotAt? hh
    have hattempt :=
      Attempts.leave (c := ⟨⟨⟨h.place :: running, s⟩, built⟩, borrows⟩) hh hp rfl
    rwa [Site.after, Access.leave_eq (hfree _) hs] at hattempt

theorem Assembly.Later.sites (h : a.Later a') : Site.Later ⟨a, borrows⟩ ⟨a', borrows⟩ := by
  induction h with
  | refl => exact .refl
  | tail hlater hm ih => exact ih.tail (hm.attempts (hsound.later hlater) hfree)

end Lifting

namespace Site

theorem Later.assembly (h : c.Later c') (hsound : c.Sound) (hfree : c.Free) :
    c.toAssembly.Later c'.toAssembly ∧ c'.borrows = c.borrows := by
  induction h with
  | refl => exact ⟨.refl, rfl⟩
  | tail _ hm ih =>
    obtain ⟨hlater, hborrows⟩ := ih
    obtain ⟨_, heq, hsame, hstep⟩ :=
      hm.exists_ok (hsound.later hlater) (fun id => hborrows ▸ hfree id)
    obtain rfl := Except.ok.inj heq
    exact ⟨hlater.trans hstep, hsame.trans hborrows⟩

/-- **A site that can be reached** is an assembly that can be reached, in which nothing is
borrowed. -/
theorem Reachable.assembly (h : c.Reachable) : c.toAssembly.Reachable ∧ c.Free := by
  obtain ⟨logging, hlater⟩ := h
  obtain ⟨hassembly, hborrows⟩ := hlater.assembly (.start logging) fun _ => rfl
  exact ⟨⟨logging, hassembly⟩, fun id => congrFun hborrows id⟩

end Site

/-! ## Entering and leaving -/

/-- **The definition of a rule is taken out of its slot**, and of no other. -/
structure Enters (c : Site α) (h : Rule) (d : Deferred α) (c' : Site α) : Prop where
  attempt : Attempts c (.ok c')
  mem : .rule h ∈ c.built
  found : Access.enter h c.memory = .ok (.taken d, c'.memory)
  running : c'.running = h.place :: c.running
  slots : ∀ x, c'.session.slotOf? x =
    if x = h.place then some { forcing := true } else c.session.slotOf? x

/-- **What has been built is stored in the slot of the rule**, and in no other. -/
structure Leaves (c : Site α) (h : Rule) (p : Parser α) (c' : Site α) : Prop where
  attempt : Attempts c (.ok c')
  stored : Access.leave h p c.memory = .ok (p, c'.memory)
  running : c.running = h.place :: c'.running
  building : c.session.slotOf? h.place = some { forcing := true }
  slots : ∀ x, c'.session.slotOf? x =
    if x = h.place then some { value := some p } else c.session.slotOf? x

namespace Site.Reachable

variable {h : Rule} {d : Deferred α} {p : Parser α}

theorem enters (hc : c.Reachable) (hh : .rule h ∈ c.built)
    (hp : (c.session.slot? h).map Slot.stage = some (.pending d)) :
    Enters c h d ⟨c.toAssembly.beginBuild h, c.borrows⟩ := by
  obtain ⟨hassembly, hfree⟩ := hc.assembly
  have henter : Assembles c.toAssembly (c.toAssembly.beginBuild h) := .enter hh hp
  obtain ⟨slot, hslot, -⟩ := Option.map_eq_some_iff.1 hp
  have hs : c.memory.session.slotAt? h = some slot := Session.slotOf?_of_slot? hslot
  have hfound := Access.enter_eq (hfree _) hs
  rw [Site.memory, hp] at hfound
  refine ⟨henter.attempts hassembly.sound hfree, hh, hfound, rfl, fun x => ?_⟩
  by_cases hx : x = h.place
  · rw [if_pos hx, hx]
    exact (hassembly.later (.single henter)).slotOf?_running List.mem_cons_self
  · rw [if_neg hx]
    exact (Session.slotOf?_beginBuild hs x).trans (if_neg hx)

theorem leaves (hc : c.Reachable) (hh : .rule h ∈ c.built) (hp : p.MadeOf c.built)
    {rest : List Place} (hrunning : c.running = h.place :: rest) :
    Leaves c h p ⟨⟨⟨rest, c.session.finishBuild h p⟩, c.built⟩, c.borrows⟩ := by
  obtain ⟨hassembly, hfree⟩ := hc.assembly
  have hbuilding : c.session.slotOf? h.place = some { forcing := true } :=
    hassembly.slotOf?_running (hrunning ▸ List.mem_cons_self)
  have hs : c.memory.session.slotAt? h = some { forcing := true } := hbuilding
  have hattempt := Attempts.leave hh hp hrunning
  rw [Site.after, Access.leave_eq (hfree _) hs] at hattempt
  exact ⟨hattempt, Access.leave_eq (hfree _) hs, hrunning, hbuilding,
    Session.slotOf?_finishBuild hbuilding p⟩

end Site.Reachable

/-! ## Attachment -/

/-- **Handles stay attached to their slots**, in a site and from then on. -/
structure Attachment (c : Site α) : Prop where
  /-- The index of a handle is inside the list of its arena. -/
  inside : ∀ h ∈ c.handles, ∃ a, c.session.arenas[h.arena]? = some a ∧ h.slot < a.slots.length
  /-- No two handles that have been created lead to the same slot. -/
  apart : (c.handles.map Rule.place).Nodup
  /-- The rules whose definitions are being built are those whose slots say so. -/
  running_iff : ∀ x, c.session.slotOf? x = some { forcing := true } ↔ x ∈ c.running
  /-- They have handles. -/
  running : ∀ x ∈ c.running, ∃ h ∈ c.handles, h.place = x
  /-- Nothing is borrowed, whatever definitions are being built. -/
  free : c.Free
  /-- Nothing that is attempted fails at an index or because of a borrow. -/
  safe : ∀ r, Attempts c r → ∃ c', r = .ok c'
  /-- Whatever is done while a definition is being built, what has been built is stored in the slot
  that the definition was taken from, and in no other. -/
  returns : ∀ h d c₁, Enters c h d c₁ → ∀ c₂, c₁.Later c₂ → c₂.running = c₁.running →
    ∀ p, p.MadeOf c₂.built → ∃ c₃, Leaves c₂ h p c₃ ∧ c₃.running = c.running
  /-- Forcing a rule whose definition is pending is to take it out, to build it and to store it. -/
  forces : ∀ h d n r t, .rule h ∈ c.built →
    (c.session.slot? h).map Slot.stage = some (.pending d) →
    h.force (Calls.upTo n).build c.session = some (r, t) →
      ∃ c₁ c₂ c₃ p, Enters c h d c₁ ∧ c₁.Later c₂ ∧ c₂.running = c₁.running ∧
        Leaves c₂ h p c₃ ∧ c₃.session = t ∧ r = .ok p
  /-- Whatever is carried out is made of attempts. -/
  operate : ∀ {β : Type} {m : Run α β} {give : β → Option (Parser α)} {b : β} {t : Session α},
    Task c.toAssembly m give → m c.session = some (b, t) →
      ∃ c', c.Later c' ∧ c'.running = c.running ∧ c'.session = t ∧
        ∀ p, give b = some p → p.MadeOf c'.built

/-- **Handles stay attached to their slots**, wherever grammars are put together, whatever
definitions are being built. -/
theorem attachment (hc : c.Reachable) : Attachment c := by
  obtain ⟨hassembly, hfree⟩ := hc.assembly
  have hsound := hassembly.sound
  constructor
  case inside =>
    intro h hh
    obtain ⟨slot, hslot⟩ := hsound.placed h hh
    obtain ⟨a, ha, hindex⟩ := Option.bind_eq_some_iff.1 hslot
    exact ⟨a, ha, (List.getElem?_eq_some_iff.1 hindex).1⟩
  case apart => exact hsound.apart
  case running_iff =>
    obtain ⟨es, hes⟩ := hassembly.tells
    exact hes.running
  case running => exact hsound.running
  case free => exact hfree
  case safe =>
    intro r hr
    obtain ⟨c', hok, -, -⟩ := hr.exists_ok hsound hfree
    exact ⟨c', hok⟩
  case returns =>
    intro h d c₁ henter c₂ hlater hrunning p hp
    have hlater : c.Later c₂ := .head henter.attempt hlater
    have hh := (hlater.assembly hsound hfree).1.prefix_built.subset henter.mem
    exact ⟨_, (hc.later hlater).leaves hh hp (hrunning.trans henter.running), rfl⟩
  case forces =>
    intro h d n r t hh hp hf
    obtain ⟨a, p, hlater, hrunning, hpa, rfl, rfl⟩ :=
      Run.Assembles.of_force_of_pending hh (Calls.assembles_build n) hassembly hp hf
    have henter := hc.enters hh hp
    have hbuild : Site.Later ⟨c.toAssembly.beginBuild h, c.borrows⟩ ⟨a, c.borrows⟩ :=
      hlater.sites (hassembly.later (.single (.enter hh hp))).sound hfree
    have hleave := (hc.later (.head henter.attempt hbuild)).leaves
      (hlater.prefix_built.subset hh) hpa hrunning
    exact ⟨_, _, _, p, henter, hbuild, hrunning, hleave, rfl, rfl⟩
  case operate =>
    intro β m give b t hm hb
    obtain ⟨a, hlater, hrunning, ht, hgive⟩ := hm.assembles hassembly b t hb
    exact ⟨⟨a, c.borrows⟩, hlater.sites hsound hfree, hrunning, ht, hgive⟩

/-- A rule whose definition adds another rule to the list that its own slot is in. -/
theorem attachment_while_growing : ∃ (c c₁ c₂ c₃ : Site Unit) (h : Rule) (d : Deferred Unit)
    (p : Parser Unit), c.Reachable ∧ Enters c h d c₁ ∧ c₁.Later c₂ ∧
      c₁.session.slotOf? ⟨0, 1⟩ = none ∧ c₂.session.slotOf? ⟨0, 1⟩ = some {} ∧
      Leaves c₂ h p c₃ ∧ c₃.session.slotOf? ⟨0, 0⟩ = some { value := some p } ∧
      c₃.session.slotOf? ⟨0, 1⟩ = some {} := by
  let outer : Rule := ⟨0, 0, 0⟩
  let inner : Rule := ⟨1, 0, 1⟩
  let d : Deferred Unit := ⟨"outer", [.declare "inner" "rules"], .literal "x".toList⟩
  let body : Parser Unit := .literal 2 "x".toList
  let opened : Session Unit := ({} : Session Unit).newArena "rules"
  let a : Assembly Unit := ⟨⟨[], (opened.addSlot 0 { deferred := some d }).2⟩, [.rule outer]⟩
  let grown := ((a.session.beginBuild outer).addSlot 0 {}).2
  let a' : Assembly Unit :=
    ⟨⟨[outer.place], { grown with nextId := 3 }⟩, [.rule outer, .rule inner, body]⟩
  have hstart : Assembly.Later (.start false) a :=
    (Relation.ReflTransGen.single (.aside (.newArena "rules"))).tail
      (.create Nat.zero_lt_one (some d))
  have hgrow : Assembles (a.beginBuild outer)
      ⟨⟨[outer.place], grown⟩, [.rule outer, .rule inner]⟩ := .create Nat.zero_lt_one none
  have hbuild : (a.beginBuild outer).Later a' := by
    refine (Relation.ReflTransGen.single hgrow).tail (.aside (.node (p := body) rfl rfl ?_))
    simp [body, Parser.parts]
  have hfree : Site.Free ⟨a, fun _ => .shared 0⟩ := fun _ => rfl
  have hc : Site.Reachable ⟨a, fun _ => .shared 0⟩ :=
    ⟨false, hstart.sites (.start false) fun _ => rfl⟩
  have henter := hc.enters (h := outer) (d := d) (List.mem_singleton_self _) rfl
  have hsound := (hc.later (.single henter.attempt)).assembly.1.sound
  have hbody : body.MadeOf a'.built := by simp [Parser.MadeOf, Parser.nodes, body, a']
  obtain ⟨c₃, hleave, -⟩ := (attachment hc).returns outer d _ henter ⟨a', fun _ => .shared 0⟩
    (hbuild.sites hsound hfree) rfl body hbody
  exact ⟨_, _, _, c₃, outer, d, body, hc, henter, hbuild.sites hsound hfree, rfl, rfl, hleave,
    (hleave.slots _).trans (if_pos rfl), (hleave.slots _).trans (if_neg (by decide))⟩

end GrammarGraph
