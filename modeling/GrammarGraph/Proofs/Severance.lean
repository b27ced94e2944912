import GrammarGraph.Proofs.Graph
import GrammarGraph.Proofs.Ownership
import Mathlib.Data.List.Basic

/-!
# Proofs/Severance — giving up an arena makes no difference to others

    s ────computation───▸ t
    │                     │
    │ the name given up   │ the name given up
    ▾                     ▾
    s' ───computation───▸ t'

Some rules have nothing to do with an arena: they live in other arenas, no parser of theirs refers
to a rule of it, and no definition of theirs calls it by its name, or anything that leads to it
(`Apart`).  Whatever is done with such rules comes to the same before and after the arena is given
up (`Elsewhere.severs`): it may build rules, create others and open or drop other arenas on the
way, and what it does is apart from the arena as well.
-/

namespace GrammarGraph

variable {α β γ : Type}

/-! ## Rules that are apart from an arena -/

/-- **An arena to be given up**, the name by which it is, and what those may mention that have
nothing to do with it. -/
structure Severance where
  name : String
  arena : ArenaId
  Allows : Mention → Prop

/-- No more is mentioned than is allowed. -/
abbrev Severance.Permits (v : Severance) (mentions : List Mention) : Prop :=
  ∀ m ∈ mentions, v.Allows m

/-- All handles in the parser lead to these places. -/
def Parser.Within (w : Place → Prop) (p : Parser α) : Prop := ∀ h, .rule h ∈ p.nodes → w h.place

/-- **The rules at these places have nothing to do with the arena**, nor has anything else that they
lead to or call by its name. -/
structure Apart (v : Severance) (w : Place → Prop) (s : Session α) : Prop where
  outside : ∀ x, w x → x.arena ≠ v.arena
  built : ∀ x slot p, w x → s.slotOf? x = some slot → slot.value = some p → p.Within w
  deferred : ∀ x slot d, w x → s.slotOf? x = some slot → slot.deferred = some d →
    v.Permits d.mentions
  names : ∀ name b, v.Allows (.parser name) → s.bindings.lookup name = some b →
    b.toParser.Within w
  barred : ∀ name, s.arenaNames.lookup name = some v.arena → ¬v.Allows (.arena name)

/-- Rules that are apart from an arena, which is there and has the name. -/
structure Severed (v : Severance) (w : Place → Prop) (s : Session α) : Prop
    extends Apart v w s where
  named : s.arenaNames.lookup v.name = some v.arena
  below : v.arena < s.arenas.length

variable {v : Severance} {w w' : Place → Prop} {s t : Session α} {p q : Parser α} {h : Rule}

namespace Parser.Within

theorem mono (h : p.Within w) (hw : ∀ x, w x → w' x) : p.Within w' := fun r hr => hw _ (h r hr)

theorem part {c : Parser α} (h : p.Within w) (hc : c ∈ p.parts) : c.Within w :=
  fun r hr => h r (Parser.nodes_subset_of_part hc hr)

theorem place {r : Rule} (h : (Parser.rule r : Parser α).Within w) : w r.place :=
  h r (List.mem_singleton_self _)

theorem rule {r : Rule} (h : w r.place) : (Parser.rule r : Parser α).Within w := by
  intro r' hr'
  obtain ⟨⟩ := List.mem_singleton.1 hr'
  exact h

theorem node (hp : p.isNode) (hparts : ∀ c ∈ p.parts, c.Within w) : p.Within w := by
  intro r hr
  obtain rfl | ⟨c, hc, hr⟩ := Parser.mem_nodes_of_isNode hp hr
  · cases hp
  · exact hparts c hc r hr

end Parser.Within

/-! ## Giving up the arena -/

/-- A list with one thing more at its end, changed before that. -/
theorem modify_append_of_lt {l l' : List β} {i : Nat} {f : β → β} (hi : i < l.length) :
    (l ++ l').modify i f = l.modify i f ++ l' := by
  refine List.ext_getElem? fun j => ?_
  by_cases hj : j < l.length
  · rw [List.getElem?_modify, List.getElem?_append_left hj,
      List.getElem?_append_left (by rwa [List.length_modify]), List.getElem?_modify]
  · have hij : i ≠ j := fun h => hj (h ▸ hi)
    rw [List.getElem?_modify_ne f _ hij, List.getElem?_append_right (Nat.le_of_not_lt hj),
      List.getElem?_append_right (by rw [List.length_modify]; exact Nat.le_of_not_lt hj),
      List.length_modify]

theorem Session.dropArena_of_lookup {name : String} {id : ArenaId}
    (hname : s.arenaNames.lookup name = some id) : s.dropArena name =
      { s with arenas := s.arenas.modify id Arena.drop
               arenaNames := s.arenaNames.filter (·.1 != name) } := by
  rw [Session.dropArena, hname]
  rfl

theorem Session.dropArena_of_none {name : String} (hname : s.arenaNames.lookup name = none) :
    s.dropArena name = s := by
  rw [Session.dropArena, hname]

namespace Severed

/-- Changes that leave rules and the names of everything as they are. -/
theorem congr (hs : Severed v w s) (ha : t.arenas = s.arenas) (hn : t.arenaNames = s.arenaNames)
    (hb : t.bindings = s.bindings) : Severed v w t where
  outside := hs.outside
  built x slot p hx hslot := hs.built x slot p hx (Session.slotOf?_congr ha x ▸ hslot)
  deferred x slot d hx hslot := hs.deferred x slot d hx (Session.slotOf?_congr ha x ▸ hslot)
  names name b hname hlookup := hs.names name b hname (hb ▸ hlookup)
  barred name hname := hs.barred name (hn ▸ hname)
  named := hn ▸ hs.named
  below := ha ▸ hs.below

/-- One slot changed. -/
theorem changeArena (hs : Severed v w s) {f : Arena α → Arena α} (g : Slot α → Slot α)
    (hf : ∀ a, (f a).slots = a.slots.modify h.slot g)
    (hbuilt : ∀ slot p, w h.place → s.slotOf? h.place = some slot → (g slot).value = some p →
      p.Within w)
    (hdeferred : ∀ slot d, w h.place → s.slotOf? h.place = some slot →
      (g slot).deferred = some d → v.Permits d.mentions) :
    Severed v w (s.changeArena h.arena f) where
  outside := hs.outside
  built x slot p hx hslot hp := by
    obtain ⟨rfl, slot', hslot', rfl⟩ | hslot := Session.of_slotOf?_changeArena hf hslot
    · exact hbuilt slot' p hx hslot' hp
    · exact hs.built x slot p hx hslot hp
  deferred x slot d hx hslot hd := by
    obtain ⟨rfl, slot', hslot', rfl⟩ | hslot := Session.of_slotOf?_changeArena hf hslot
    · exact hdeferred slot' d hx hslot' hd
    · exact hs.deferred x slot d hx hslot hd
  names := hs.names
  barred := hs.barred
  named := hs.named
  below := Session.length_changeArena s h.arena f ▸ hs.below

theorem beginBuild (hs : Severed v w s) : Severed v w (s.beginBuild h) :=
  hs.changeArena Slot.beginBuild (fun _ => rfl) (fun slot p => hs.built _ slot p)
    fun _ _ _ _ hd => nomatch hd

/-- What is in a slot once its definition has been built is what is answered. -/
theorem within_finishBuild (hs : Severed v w s) {slot : Slot α} (hh : w h.place)
    (hslot : s.slotOf? h.place = some slot) (hp : p.Within w) :
    (slot.finishBuild p).1.Within w := by
  rw [Slot.finishBuild]
  cases hvalue : slot.value with
  | none => exact hp
  | some q => exact hs.built _ slot q hh hslot hvalue

theorem finishBuild (hs : Severed v w s) (hp : p.Within w) : Severed v w (s.finishBuild h p) := by
  refine hs.changeArena (fun slot => (slot.finishBuild p).2) (fun _ => rfl)
    (fun slot q hh hslot hq => ?_) fun slot d => hs.deferred _ slot d
  obtain rfl := Option.some.inj hq
  exact hs.within_finishBuild hh hslot hp

theorem dropArena_eq (hs : Severed v w s) : s.dropArena v.name =
    { s with arenas := s.arenas.modify v.arena Arena.drop
             arenaNames := s.arenaNames.filter (·.1 != v.name) } :=
  Session.dropArena_of_lookup hs.named

theorem slot?_dropArena (hs : Severed v w s) (hh : w h.place) :
    (s.dropArena v.name).slot? h = s.slot? h := by
  refine Session.slot?_dropArena fun hname => hs.outside _ hh ?_
  exact Option.some.inj (hname.symm.trans hs.named)

/-- What may be mentioned is another name. -/
theorem ne_of_allows (hs : Severed v w s) {name : String} (hname : v.Allows (.arena name)) :
    name ≠ v.name := by
  rintro rfl
  exact hs.barred v.name hs.named hname

/-- Who may not mention the arena sees no difference. -/
theorem resembles (hs : Severed v w s) : (s.dropArena v.name).Resembles v.Allows s where
  nextId := by rw [hs.dropArena_eq]
  bindings := by rw [hs.dropArena_eq]
  visitedSets := by rw [hs.dropArena_eq]
  log := by rw [hs.dropArena_eq]
  builds := by rw [hs.dropArena_eq]
  names name hname := by rw [Session.lookup_dropArena, if_neg (hs.ne_of_allows hname)]
  sizes id := by
    rw [Session.getElem?_dropArena, Option.map_map]
    refine Option.map_congr fun a _ => ?_
    rw [Function.comp_apply]
    split <;> rfl

theorem dropArena_bind (hs : Severed v w s) (name : String) {b : Binding α} :
    (s.dropArena v.name).bind name b = (s.bind name b).dropArena v.name := by
  have hnamed : (s.bind name b).arenaNames.lookup v.name = some v.arena := hs.named
  rw [hs.dropArena_eq, Session.dropArena_of_lookup hnamed]
  rfl

/-- A name given to what leads nowhere else. -/
theorem bindName (hs : Severed v w s) (name : String) {b : Binding α} (hb : b.toParser.Within w) :
    Severed v w (s.bind name b) where
  outside := hs.outside
  built := hs.built
  deferred := hs.deferred
  names other b' hother hlookup := by
    have hrename : (Session.rename s.bindings name b).lookup other = some b' := hlookup
    rw [Session.rename, List.lookup_cons] at hrename
    split at hrename
    · obtain rfl := Option.some.inj hrename
      exact hb
    · next hne =>
      rw [Session.lookup_filter, if_neg (by simpa using hne)] at hrename
      exact hs.names other b' hother hrename
  barred := hs.barred
  named := hs.named
  below := hs.below

/-- Another arena is changed before or after. -/
theorem dropArena_changeArena (hs : Severed v w s) {id : ArenaId} (hid : id ≠ v.arena)
    (f : Arena α → Arena α) :
    (s.changeArena id f).dropArena v.name = (s.dropArena v.name).changeArena id f := by
  have hname : (s.changeArena id f).arenaNames.lookup v.name = some v.arena := hs.named
  rw [Session.dropArena_of_lookup hname, hs.dropArena_eq, Session.changeArena, Session.changeArena]
  simp only [List.modify_modify_ne f Arena.drop s.arenas hid]

/-- Another arena is given up before or after. -/
theorem dropArena_dropArena (hs : Severed v w s) {name : String}
    (hallows : v.Allows (.arena name)) :
    (s.dropArena name).dropArena v.name = (s.dropArena v.name).dropArena name := by
  have hname := hs.ne_of_allows hallows
  have hother : (s.dropArena v.name).arenaNames.lookup name = s.arenaNames.lookup name := by
    rw [Session.lookup_dropArena, if_neg hname]
  have hown : (s.dropArena name).arenaNames.lookup v.name = some v.arena := by
    rw [Session.lookup_dropArena, if_neg (Ne.symm hname), hs.named]
  cases hlookup : s.arenaNames.lookup name with
  | none =>
    rw [Session.dropArena_of_none hlookup, Session.dropArena_of_none (hother.trans hlookup)]
  | some id =>
    have hid : id ≠ v.arena := fun h => hs.barred name (h ▸ hlookup) hallows
    rw [hlookup] at hother
    rw [Session.dropArena_of_lookup hown, Session.dropArena_of_lookup hother, hs.dropArena_eq,
      Session.dropArena_of_lookup hlookup]
    simp only [List.modify_modify_ne Arena.drop Arena.drop s.arenas hid]
    rw [List.filter_comm]

theorem dropArena (hs : Severed v w s) {name : String} (hname : v.Allows (.arena name)) :
    Severed v w (s.dropArena name) where
  outside := hs.outside
  built x slot p hx hslot := hs.built x slot p hx (Session.slotOf?_dropArena name x ▸ hslot)
  deferred x slot d hx hslot := hs.deferred x slot d hx (Session.slotOf?_dropArena name x ▸ hslot)
  names other b hother hlookup := by
    refine hs.names other b hother ?_
    rw [Session.dropArena] at hlookup
    split at hlookup <;> exact hlookup
  barred other hother := hs.barred other (Session.of_lookup_dropArena hother).2
  named := by rw [Session.lookup_dropArena, if_neg (Ne.symm (hs.ne_of_allows hname)), hs.named]
  below := Session.length_dropArena s name ▸ hs.below

theorem newArena (hs : Severed v w s) {name : String} (hname : v.Allows (.arena name)) :
    Severed v w (s.newArena name) where
  outside := hs.outside
  built x slot p hx hslot := hs.built x slot p hx (Session.slotOf?_newArena name x ▸ hslot)
  deferred x slot d hx hslot := hs.deferred x slot d hx (Session.slotOf?_newArena name x ▸ hslot)
  names other b hother hlookup := (hs.dropArena hname).names other b hother hlookup
  barred other hother := by
    rw [Session.lookup_newArena] at hother
    split at hother
    · exact absurd (Option.some.inj hother).symm (Nat.ne_of_lt hs.below)
    · exact hs.barred other hother
  named := by rw [Session.lookup_newArena, if_neg (Ne.symm (hs.ne_of_allows hname)), hs.named]
  below := Nat.lt_of_lt_of_le hs.below (Session.After.newArena s name).length_le

/-- Another arena is opened before or after. -/
theorem dropArena_newArena (hs : Severed v w s) {name : String}
    (hallows : v.Allows (.arena name)) :
    (s.newArena name).dropArena v.name = (s.dropArena v.name).newArena name := by
  have hname := hs.ne_of_allows hallows
  have hdrop := hs.dropArena hallows
  rw [Session.dropArena_of_lookup (hs.newArena hallows).named, Session.newArena, Session.newArena,
    ← hs.dropArena_dropArena hallows, hdrop.dropArena_eq]
  simp only [modify_append_of_lt hdrop.below, Session.rename, List.length_modify,
    List.filter_cons_of_pos, bne_iff_ne, hname, ne_eq, not_false_eq_true]
  rw [List.filter_comm]

/-- A rule is created before or after. -/
theorem addSlot_dropArena (hs : Severed v w s) {id : ArenaId} (hid : id ≠ v.arena)
    {slot : Slot α} : (s.dropArena v.name).addSlot id slot =
      ((s.addSlot id slot).1, (s.addSlot id slot).2.dropArena v.name) := by
  have hnamed : (s.addSlot id slot).2.arenaNames.lookup v.name = some v.arena := hs.named
  have hchanged : (s.changeArena id (·.addSlot slot)).arenaNames.lookup v.name = some v.arena :=
    hs.named
  have harena : (s.dropArena v.name).arenas[id]? = s.arenas[id]? := by
    rw [hs.dropArena_eq]
    exact List.getElem?_modify_ne Arena.drop s.arenas (Ne.symm hid)
  rw [Session.addSlot, ← hs.dropArena_changeArena hid, harena,
    Session.dropArena_of_lookup hchanged, Session.dropArena_of_lookup hnamed]
  rfl

/-- A new rule, whose definition has nothing to do with the arena either. -/
theorem addSlot (hs : Severed v w s) {id : ArenaId} (hid : id ≠ v.arena) {d : Option (Deferred α)}
    (hd : ∀ d', d = some d' → v.Permits d'.mentions) :
    Severed v (fun x => w x ∨ x = (s.addSlot id { deferred := d }).1.place)
      (s.addSlot id { deferred := d }).2 := by
  have hmono (x : Place) (hx : w x) : w x ∨ x = (s.addSlot id { deferred := d }).1.place := .inl hx
  refine { outside := ?outside, built := ?built, deferred := ?deferred, names := ?names
           barred := hs.barred, named := hs.named
           below := Session.length_changeArena s id _ ▸ hs.below }
  case outside =>
    rintro x (hx | rfl)
    · exact hs.outside x hx
    · exact hid
  case built =>
    intro x slot p hx hslot hp
    obtain rfl | ⟨hne, hslot⟩ := Session.of_slotOf?_addSlot hslot
    · cases hp
    · exact (hs.built x slot p (hx.resolve_right hne) hslot hp).mono hmono
  case deferred =>
    intro x slot d' hx hslot hd'
    obtain rfl | ⟨hne, hslot⟩ := Session.of_slotOf?_addSlot hslot
    · exact hd d' hd'
    · exact hs.deferred x slot d' (hx.resolve_right hne) hslot hd'
  case names => exact fun name b hname hlookup => (hs.names name b hname hlookup).mono hmono

end Severed

/-! ## Computations -/

/-- **The computation comes to the same once the arena has been given up**, but for that, and what
it does is apart from the arena; it leads to a result with `R`. -/
def Run.Severs (v : Severance) (w : Place → Prop) (m : Run α β)
    (R : (Place → Prop) → β → Prop) : Prop :=
  ∀ s, Severed v w s →
    m (s.dropArena v.name) = (m s).map (fun y => (y.1, y.2.dropArena v.name)) ∧
    ∀ b t, m s = some (b, t) → ∃ w', (∀ x, w x → w' x) ∧ Severed v w' t ∧ R w' b

namespace Run.Severs

variable {m : Run α β} {R : (Place → Prop) → β → Prop}

theorem pure {b : β} (hR : R w b) : Run.Severs v w (Pure.pure b : Run α β) R := by
  refine fun s hs => ⟨rfl, fun b' t hb => ?_⟩
  obtain ⟨rfl, rfl⟩ := Run.pure_eq_some_iff.1 hb
  exact ⟨w, fun _ h => h, hs, hR⟩

theorem bind {f : β → Run α γ} {Q : (Place → Prop) → γ → Prop} (hm : Run.Severs v w m R)
    (hf : ∀ w' b, (∀ x, w x → w' x) → R w' b → Run.Severs v w' (f b) Q) :
    Run.Severs v w (m >>= f) Q := by
  intro s hs
  obtain ⟨hsame, hlater⟩ := hm s hs
  rw [Run.bind_apply, Run.bind_apply, hsame]
  cases hb : m s with
  | none => exact ⟨rfl, nofun⟩
  | some y =>
    obtain ⟨b, t⟩ := y
    obtain ⟨w', hw, ht, hR⟩ := hlater b t hb
    obtain ⟨hsame', hlater'⟩ := hf w' b hw hR t ht
    refine ⟨hsame', fun c u hc => ?_⟩
    obtain ⟨w'', hw', hu, hQ⟩ := hlater' c u hc
    exact ⟨w'', fun x hx => hw' x (hw x hx), hu, hQ⟩

theorem mono {Q : (Place → Prop) → β → Prop} (hm : Run.Severs v w m R)
    (h : ∀ w' b, R w' b → Q w' b) : Run.Severs v w m Q := by
  intro s hs
  obtain ⟨hsame, hlater⟩ := hm s hs
  refine ⟨hsame, fun b t hb => ?_⟩
  obtain ⟨w', hw, ht, hR⟩ := hlater b t hb
  exact ⟨w', hw, ht, h w' b hR⟩

/-- What is read is the same once the arena has been given up. -/
theorem read {f : Session α → Run α β}
    (hsame : ∀ s, Severed v w s → f (s.dropArena v.name) = f s)
    (hf : ∀ s, Severed v w s → Run.Severs v w (f s) R) : Run.Severs v w (get >>= f) R := by
  intro s hs
  rw [Run.get_bind, Run.get_bind, hsame s hs]
  exact hf s hs s hs

/-- What is changed can be changed before or after the arena is given up. -/
theorem of_modifyGet {f : Session α → β × Session α}
    (hf : ∀ s, Severed v w s →
      f (s.dropArena v.name) = ((f s).1, (f s).2.dropArena v.name) ∧
      ∃ w', (∀ x, w x → w' x) ∧ Severed v w' (f s).2 ∧ R w' (f s).1) :
    Run.Severs v w (modifyGet f : Run α β) R := by
  intro s hs
  obtain ⟨hsame, hlater⟩ := hf s hs
  refine ⟨congrArg some hsame, fun b t hb => ?_⟩
  obtain ⟨rfl, rfl⟩ := Prod.mk.inj (Option.some.inj hb)
  exact hlater

theorem of_modify {f : Session α → Session α}
    (hf : ∀ s, Severed v w s →
      f (s.dropArena v.name) = (f s).dropArena v.name ∧ Severed v w (f s)) :
    Run.Severs v w (modify f : Run α PUnit) fun _ _ => True := by
  refine of_modifyGet fun s hs => ?_
  obtain ⟨hsame, ht⟩ := hf s hs
  exact ⟨congrArg (Prod.mk PUnit.unit) hsame, w, fun _ h => h, ht, trivial⟩

/-- Changes to what is neither an arena nor a name of anything in one. -/
theorem of_change {f : Session α → Session α} (ha : ∀ s, (f s).arenas = s.arenas)
    (hn : ∀ s, (f s).arenaNames = s.arenaNames) (hb : ∀ s, (f s).bindings = s.bindings)
    (hsame : ∀ s arenas names, f { s with arenas := arenas, arenaNames := names } =
      { f s with arenas := arenas, arenaNames := names }) :
    Run.Severs v w (modify f : Run α PUnit) fun _ _ => True := by
  refine of_modify fun s hs => ?_
  have ht : Severed v w (f s) := hs.congr (ha s) (hn s) (hb s)
  refine ⟨?_, ht⟩
  rw [hs.dropArena_eq, ht.dropArena_eq, hsame, ha, hn]

theorem log (level : LogLevel) (message : String) :
    Run.Severs v w (Run.log level message : Run α Unit) fun _ _ => True := by
  refine of_change (fun s => ?_) (fun s => ?_) (fun s => ?_) fun s _ _ => ?_
  all_goals
    split <;> rfl

theorem fresh {R : (Place → Prop) → NodeId → Prop} (hR : ∀ id, R w id) :
    Run.Severs v w (Run.fresh : Run α NodeId) R := by
  refine of_modifyGet fun s hs => ?_
  have ht : Severed v w { s with nextId := s.nextId + 1 } := hs.congr rfl rfl rfl
  refine ⟨?_, w, fun _ h => h, ht, hR _⟩
  rw [hs.dropArena_eq, ht.dropArena_eq]

/-- An answer that is the same once the arena has been given up, and changes nothing. -/
theorem of_answer {b : β} (hs : Severed v w s) (hb : m s = some (b, s))
    (hb' : m (s.dropArena v.name) = some (b, s.dropArena v.name)) (hR : R w b) :
    m (s.dropArena v.name) = (m s).map (fun y => (y.1, y.2.dropArena v.name)) ∧
      ∀ c t, m s = some (c, t) → ∃ w', (∀ x, w x → w' x) ∧ Severed v w' t ∧ R w' c := by
  rw [hb, hb']
  refine ⟨rfl, fun c t hc => ?_⟩
  obtain ⟨rfl, rfl⟩ := Prod.mk.inj (Option.some.inj hc)
  exact ⟨w, fun _ h => h, hs, hR⟩

theorem define (hh : w h.place) (hp : p.Within w) :
    Run.Severs v w (h.define p) fun _ _ => True := by
  intro s hs
  have hd := Rule.define_apply (s := s) (h := h) (p := p)
  have hd' := Rule.define_apply (s := s.dropArena v.name) (h := h) (p := p)
  rw [hs.slot?_dropArena hh] at hd'
  cases hslot : s.slot? h with
  | none =>
    rw [hslot] at hd hd'
    exact of_answer hs hd hd' trivial
  | some slot =>
    rw [hslot, Option.map_some] at hd hd'
    cases hstage : slot.stage with
    | pending | building | built =>
      rw [hstage] at hd hd'
      exact of_answer hs hd hd' trivial
    | empty =>
      rw [hstage] at hd hd'
      have ht : Severed v w (s.changeSlot h fun slot => (slot.store p).2) := by
        refine hs.changeArena (fun slot => (slot.store p).2) (fun _ => rfl)
          (fun slot' q _ hslot' hq => ?_) fun slot' d hh hslot' hd => ?_
        · rw [Session.slotOf?_of_slot? hslot] at hslot'
          obtain rfl := Option.some.inj hslot'
          rw [Slot.value_store hstage] at hq
          exact Option.some.inj hq ▸ hp
        · rw [Session.slotOf?_of_slot? hslot] at hslot'
          obtain rfl := Option.some.inj hslot'
          rw [Slot.deferred_store hstage] at hd
          cases hd
      rw [hd, hd']
      refine ⟨?_, fun r t hr => ?_⟩
      · exact congrArg (fun t => some (Except.ok (), t))
          (hs.dropArena_changeArena (hs.outside _ hh) _).symm
      · obtain ⟨-, rfl⟩ := Prod.mk.inj (Option.some.inj hr)
        exact ⟨w, fun _ h => h, ht, trivial⟩

theorem isDefined (hh : w h.place) :
    Run.Severs v w (h.isDefined : Run α Bool) fun _ _ => True := by
  intro s hs
  have hd := Rule.isDefined_apply (s := s) (h := h)
  have hd' := Rule.isDefined_apply (s := s.dropArena v.name) (h := h)
  rw [hs.slot?_dropArena hh] at hd'
  cases hslot : (s.slot? h).map Slot.stage with
  | none =>
    rw [hslot] at hd hd'
    exact of_answer hs hd hd' trivial
  | some stage =>
    rw [hslot] at hd hd'
    cases stage with
    | empty | pending | building | built => exact of_answer hs hd hd' trivial

/-- **A rule that is apart from the arena is forced**, if its definition is built apart from it. -/
theorem force {build : Deferred α → Run α (Parser α)}
    (hbuild : ∀ w d, v.Permits d.mentions →
      Run.Severs v w (build d) fun w' p => p.Within w') (hh : w h.place) :
    Run.Severs v w (h.force build) fun w' r => ∀ p, r = .ok p → p.Within w' := by
  intro s hs
  by_cases hp : ∃ d, (s.slot? h).map Slot.stage = some (.pending d)
  · obtain ⟨d, hp⟩ := hp
    obtain ⟨slot, hslot, hstage⟩ := Option.map_eq_some_iff.1 hp
    have hplace := Session.slotOf?_of_slot? hslot
    have hd := hs.deferred _ slot d hh hplace (Slot.deferred_of_pending hstage)
    have harena : h.arena ≠ v.arena := hs.outside _ hh
    have hrun : Run.Severs v w (h.runThunk build d) fun w' p => p.Within w' :=
      (log _ _).bind fun w' _ _ _ => hbuild w' d hd
    obtain ⟨hsame, hlater⟩ := hrun _ hs.beginBuild
    have hp' : ((s.dropArena v.name).slot? h).map Slot.stage = some (.pending d) :=
      hs.slot?_dropArena hh ▸ hp
    rw [Rule.force_of_pending hp, Rule.force_of_pending hp', Session.beginBuild,
      ← hs.dropArena_changeArena harena]
    change (h.runThunk build d ((s.beginBuild h).dropArena v.name)).map _ = _ ∧ _
    rw [hsame]
    cases hthunk : h.runThunk build d (s.beginBuild h) with
    | none => exact ⟨rfl, nofun⟩
    | some y =>
      obtain ⟨p, t⟩ := y
      obtain ⟨w', hw, ht, hpw⟩ := hlater p t hthunk
      refine ⟨?_, fun r u hr => ?_⟩
      · have hfinish :
            (t.dropArena v.name).finishBuild h p = (t.finishBuild h p).dropArena v.name :=
          (ht.dropArena_changeArena harena _).symm
        rw [Option.map_some, Option.map_some]
        dsimp only
        rw [hfinish, Session.slotAt?_eq, Session.slotOf?_dropArena]
        rfl
      · obtain ⟨rfl, rfl⟩ := Prod.mk.inj (Option.some.inj hr)
        refine ⟨w', hw, ht.finishBuild hpw, ?_⟩
        rintro _ ⟨⟩
        rw [Session.slotAt?_eq]
        cases hslot : t.slotOf? h.place with
        | none => exact hpw
        | some slot => exact ht.within_finishBuild (hw _ hh) hslot hpw
  · obtain ⟨r, hr⟩ := exists_forces (not_exists.1 hp)
    refine of_answer hs (hr build) ((hr.of_slot? (hs.slot?_dropArena hh)) build) fun p hp => ?_
    subst hp
    obtain ⟨slot, hslot, hvalue⟩ := hr.exists_slot
    exact hs.built _ slot p hh (Session.slotOf?_of_slot? hslot) hvalue

end Run.Severs

/-- **What has nothing to do with an arena** comes to the same once it has been given up. -/
def ScriptDiscipline.severing (v : Severance) (α : Type) : ScriptDiscipline α where
  World := Place → Prop
  Grows w w' := ∀ x, w x → w' x
  Holds w p := p.Within w
  Does := Run.Severs v
  refl _ _ h := h
  trans h h' x hx := h' x (h x hx)
  holds_mono h hp := hp.mono h
  holds_part := .part
  pure := .pure
  bind := .bind
  failure _ _ := ⟨rfl, nofun⟩
  read hcongr hf := .read (fun s hs => hcongr _ _ (by rw [hs.dropArena_eq])) fun s _ => hf s
  log := .log
  Allows := v.Allows
  Admits _ id := id ≠ v.arena
  holds_box h := h
  consult hsame hf := .read (fun s hs => hsame _ _ hs.resembles) fun s hs =>
    hf s hs.names fun name id hname hid h => hs.barred name (h ▸ hid) hname
  fresh hnode hparts := .fresh fun id => .node (hnode id).1 (hparts id)
  skip _ := .of_change (fun _ => rfl) (fun _ => rfl) (fun _ => rfl) fun _ _ _ => rfl
  change _ _ _ := .of_change (fun _ => rfl) (fun _ => rfl) (fun _ => rfl) fun _ _ _ => rfl
  bindName name _ hb := .of_modify fun s hs => ⟨hs.dropArena_bind name, hs.bindName name hb⟩
  newArena hname := .of_modify fun s hs => ⟨(hs.dropArena_newArena hname).symm, hs.newArena hname⟩
  dropArena hname :=
    .of_modify fun s hs => ⟨(hs.dropArena_dropArena hname).symm, hs.dropArena hname⟩
  addSlot hid hd := .of_modifyGet fun s hs =>
    ⟨hs.addSlot_dropArena hid, _, fun _ => .inl, hs.addSlot hid hd, .rule (.inr rfl)⟩
  define hh hp := .define hh.place hp
  isDefined hh := .isDefined hh.place
  force hbuild _ _ hh := .force hbuild hh.place

/-! ## Operations -/

/-- **Operations that have nothing to do with an arena**: they are about rules that are apart from
it, and mention no more than is allowed. -/
inductive Elsewhere (v : Severance) (w : Place → Prop) : {β : Type} → Run α β → Prop
  | script (n : Nat) {steps : List (Step α)} (hs : v.Permits (Step.mentionsIn steps)) :
      Elsewhere v w (steps.mapM (Step.run (.upTo n)))
  | step (n : Nat) {step : Step α} (hs : v.Permits step.mentions) :
      Elsewhere v w (step.run (.upTo n))
  | definition (n : Nat) {d : Deferred α} (hd : v.Permits d.mentions) :
      Elsewhere v w (d.build (.upTo n))
  | expr {e : Expr α} (he : v.Permits e.mentions) : Elsewhere v w e.build
  | parse (n : Nat) {p : Parser α} (x : Text) (hp : p.Within w) :
      Elsewhere v w (p.parse (.upTo n) x)
  | parseAll (n : Nat) {p : Parser α} (x : Text) (hp : p.Within w) :
      Elsewhere v w (p.parseAll (.upTo n) x)
  | label (n : Nat) {p : Parser α} (hp : p.Within w) : Elsewhere v w (p.label (.upTo n))
  | describe (n : Nat) {p : Parser α} (seen : Visited) (hp : p.Within w) :
      Elsewhere v w (p.describe (.upTo n) seen)
  | kind (n : Nat) {p : Parser α} (seen : Visited) (hp : p.Within w) :
      Elsewhere v w (p.kind (.upTo n) seen)
  | force (n : Nat) {h : Rule} (hh : w h.place) : Elsewhere v w (h.force (Calls.upTo n).build)
  | create {id : ArenaId} {d : Option (Deferred α)} (hid : id ≠ v.arena)
      (hd : ∀ d', d = some d' → v.Permits d'.mentions) :
      Elsewhere v w (modifyGet (·.addSlot id { deferred := d }))
  | define {h : Rule} {p : Parser α} (hh : w h.place) (hp : p.Within w) : Elsewhere v w (h.define p)
  | isDefined {h : Rule} (hh : w h.place) : Elsewhere v w h.isDefined

/-- **Whatever has nothing to do with the arena** comes to the same before and after. -/
theorem Elsewhere.severs {m : Run α β} (hm : Elsewhere v w m) :
    Run.Severs v w m fun _ _ => True := by
  let D := ScriptDiscipline.severing v α
  have hc (n : Nat) : D.Respects (Calls.upTo n) := D.upTo n
  cases hm with
  | script n hs => exact ScriptDiscipline.steps (hc n) _ hs
  | step n hs => exact ScriptDiscipline.run (hc n) _ hs
  | definition n hd =>
    have hbuild : D.Does w _ D.Holds := ScriptDiscipline.deferred (hc n) _ hd
    exact hbuild.mono fun _ _ _ => trivial
  | expr he =>
    have hbuild : D.Yields w _ := ScriptDiscipline.build _ he
    exact hbuild.mono fun _ _ _ => trivial
  | parse n x hp => exact Discipline.parse (hc n) _ x hp
  | parseAll n x hp => exact Discipline.parseAll (hc n) _ x hp
  | label n hp => exact Discipline.label (hc n) _ hp
  | describe n seen hp => exact Discipline.describe (hc n) _ seen hp
  | kind n seen hp => exact Discipline.kind (hc n) _ seen hp
  | force n hh => exact ((hc n).force (.rule hh)).mono fun _ _ _ => trivial
  | create hid hd => exact (D.addSlot hid hd).mono fun _ _ _ => trivial
  | define hh hp => exact .define hh hp
  | isDefined hh => exact .isDefined hh

end GrammarGraph
