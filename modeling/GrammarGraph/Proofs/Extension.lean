import GrammarGraph.Proofs.Rule
import GrammarGraph.Proofs.Script

/-!
# Proofs/Extension — what is never taken back

    session ──any computation──▸ session

Two things that hold of a session hold ever after: that a rule is defined as some parser, and that
an arena is gone.  So the session in which a computation ends knows the definitions of all rules
that were entered on the way, even of those whose arena has been given up since.
-/

namespace GrammarGraph

variable {α β : Type} {s t u : Session α} {h : Rule} {p : Parser α}

theorem Arena.isAlive_eq_false_iff {a : Arena α} :
    a.isAlive = false ↔ a.owners = 0 ∧ a.builds = 0 := by
  simp [Arena.isAlive]

namespace Session

/-- The parser that a rule has been defined as, whether or not its arena is alive. -/
def definition? (s : Session α) (h : Rule) : Option (Parser α) := (s.slotAt? h).bind Slot.value

/-- There was an arena of this identity, and it cannot be used any more. -/
def Gone (s : Session α) (id : ArenaId) : Prop := ∃ a, s.arenas[id]? = some a ∧ a.isAlive = false

theorem not_gone_of_slot? {slot : Slot α} (hs : s.slot? h = some slot) : ¬s.Gone h.arena := by
  rintro ⟨a, ha, hdead⟩
  rw [slot?, isAlive, ha, Option.any_some, hdead] at hs
  cases hs

/-- An arena whose slot is there can be used unless it is gone. -/
theorem slot?_of_not_gone {slot : Slot α} (hs : s.slotOf? h.place = some slot)
    (hg : ¬s.Gone h.arena) : s.slot? h = some slot := by
  obtain ⟨a, ha, -⟩ := Option.bind_eq_some_iff.1 hs
  have halive : s.isAlive h = true := by
    rw [isAlive, show s.arenas[h.arena]? = some a from ha, Option.any_some]
    exact eq_true_of_ne_false fun hdead => hg ⟨a, ha, hdead⟩
  rw [slot?, if_pos halive]
  exact hs

/-- **What may come of a session**: slots stay with the parsers in them, and arenas that are gone
stay gone. -/
structure Extends (s t : Session α) : Prop where
  slot : ∀ x slot, s.slotOf? x = some slot → ∃ slot', t.slotOf? x = some slot' ∧
    ∀ p, slot.value = some p → slot'.value = some p
  gone : ∀ id, s.Gone id → t.Gone id

namespace Extends

theorem refl (s : Session α) : s.Extends s where
  slot _ slot hs := ⟨slot, hs, fun _ h => h⟩
  gone _ h := h

theorem trans (h : s.Extends t) (h' : t.Extends u) : s.Extends u where
  slot x slot hs := by
    obtain ⟨slot', hs', hvalue⟩ := h.slot x slot hs
    obtain ⟨slot'', hs'', hvalue'⟩ := h'.slot x slot' hs'
    exact ⟨slot'', hs'', fun p hp => hvalue' p (hvalue p hp)⟩
  gone id hid := h'.gone id (h.gone id hid)

/-- **A definition stays.** -/
theorem definition? (hst : s.Extends t) (hp : s.definition? h = some p) :
    t.definition? h = some p := by
  obtain ⟨slot, hslot, hvalue⟩ := Option.bind_eq_some_iff.1 hp
  obtain ⟨slot', hslot', hstays⟩ := hst.slot h.place slot hslot
  exact Option.bind_eq_some_iff.2 ⟨slot', hslot', hstays p hvalue⟩

/-! ## Changes -/

/-- Changes that do not touch the arenas. -/
theorem of_arenas (ha : t.arenas = s.arenas) : s.Extends t where
  slot x slot hs := ⟨slot, (slotOf?_congr ha x).trans hs, fun _ h => h⟩
  gone id := by
    rintro ⟨a, harena, hdead⟩
    exact ⟨a, ha ▸ harena, hdead⟩

/-- One arena changed, to one that is gone if it was gone. -/
theorem gone_changeArena {id i : ArenaId} {f : Arena α → Arena α}
    (hf : ∀ a, s.arenas[id]? = some a → a.isAlive = false → (f a).isAlive = false)
    (hi : s.Gone i) : (s.changeArena id f).Gone i := by
  obtain ⟨a, ha, hdead⟩ := hi
  rw [Gone, changeArena, List.getElem?_modify, ha]
  by_cases h : id = i
  · subst h
    exact ⟨f a, congrArg some (if_pos rfl), hf a ha hdead⟩
  · exact ⟨a, congrArg some (if_neg h), hdead⟩

/-- One slot of one arena changed, with its parser kept. -/
theorem changeArena {id : ArenaId} {i : Nat} {f : Arena α → Arena α} (g : Slot α → Slot α)
    (hslots : ∀ a, (f a).slots = a.slots.modify i g)
    (hvalue : ∀ slot p, slot.value = some p → (g slot).value = some p)
    (hgone : ∀ a, s.arenas[id]? = some a → a.isAlive = false → (f a).isAlive = false) :
    s.Extends (s.changeArena id f) where
  slot x slot hs := by
    rw [slotOf?_changeArena hslots, hs]
    split
    · exact ⟨g slot, rfl, hvalue slot⟩
    · exact ⟨slot, rfl, fun _ h => h⟩
  gone _ := gone_changeArena hgone

theorem dropArena (name : String) : s.Extends (s.dropArena name) where
  slot x slot hs := ⟨slot, (slotOf?_dropArena name x).trans hs, fun _ h => h⟩
  gone id hid := by
    rw [Session.dropArena]
    split
    · refine gone_changeArena (fun a _ hdead => ?_) hid
      obtain ⟨howners, hbuilds⟩ := Arena.isAlive_eq_false_iff.1 hdead
      exact Arena.isAlive_eq_false_iff.2 ⟨howners ▸ Nat.zero_sub 1, hbuilds⟩
    · exact hid

theorem newArena (name : String) : s.Extends (s.newArena name) where
  slot x slot hs := ⟨slot, (slotOf?_newArena name x).trans hs, fun _ h => h⟩
  gone id hid := by
    obtain ⟨a, ha, hdead⟩ := (dropArena name).gone id hid
    refine ⟨a, ?_, hdead⟩
    exact List.getElem?_append_left (List.getElem?_eq_some_iff.1 ha).1 |>.trans ha

theorem addSlot (id : ArenaId) (slot : Slot α) : s.Extends (s.addSlot id slot).2 where
  slot x slot' hs := by
    refine ⟨slot', ?_, fun _ h => h⟩
    by_cases hid : id < s.arenas.length
    · obtain ⟨hnone, hslots⟩ := slotOf?_addSlot hid slot
      rw [hslots, if_neg, hs]
      rintro rfl
      rw [hnone] at hs
      cases hs
    · rw [slotOf?_addSlot_of_le (Nat.le_of_not_lt hid), hs]
  gone _ := gone_changeArena (f := fun a => a.addSlot slot) fun _ _ hdead => hdead

/-- A definition that begins to be built is one of an arena that is alive. -/
theorem beginBuild {slot : Slot α} (hs : s.slot? h = some slot) : s.Extends (s.beginBuild h) :=
  changeArena Slot.beginBuild (fun _ => rfl) (fun _ _ h => h)
    fun a ha hdead => absurd ⟨a, ha, hdead⟩ (not_gone_of_slot? hs)

theorem finishBuild (p : Parser α) : s.Extends (s.finishBuild h p) := by
  refine changeArena (fun slot => (slot.finishBuild p).2) (fun _ => rfl) (fun slot q hq => ?_)
    fun a _ hdead => ?_
  · rw [Slot.finishBuild, hq]
    rfl
  · obtain ⟨howners, hbuilds⟩ := Arena.isAlive_eq_false_iff.1 hdead
    exact Arena.isAlive_eq_false_iff.2 ⟨howners, hbuilds ▸ Nat.zero_sub 1⟩

theorem define {r : Except GrammarError Unit} (hd : h.define p s = some (r, t)) : s.Extends t := by
  cases r with
  | error e => exact Rule.of_define_error hd ▸ .refl s
  | ok =>
    obtain ⟨slot, hslot, hempty, rfl⟩ := Rule.of_define hd
    have hstore (slot : Slot α) (q : Parser α) (hq : slot.value = some q) :
        (slot.store p).2.value = some q := by
      obtain ⟨_, deferred, forcing⟩ := slot
      obtain rfl := hq
      cases deferred <;> cases forcing <;> rfl
    exact changeArena (fun slot => (slot.store p).2) (fun _ => rfl) hstore fun _ _ hdead => hdead

end Extends

end Session

/-! ## Computations -/

/-- **Forcing a rule**: what is answered is, from then on, the definition of the rule. -/
theorem Rule.extends_force {build : Deferred α → Run α (Parser α)}
    (hbuild : ∀ d s p t, build d s = some (p, t) → s.Extends t) {r : Except Fault (Parser α)}
    (hf : h.force build s = some (r, t)) :
    s.Extends t ∧ ∀ p, r = .ok p → t.definition? h = some p := by
  obtain ⟨definition, p, u, hp, hthunk, rfl, rfl⟩ | ⟨rfl, hbuilt⟩ := force_cases hf
  · obtain ⟨slot, hslot, -⟩ := Option.map_eq_some_iff.1 hp
    obtain ⟨_, v, hlog, hthunk⟩ := Run.bind_eq_some_iff.1 hthunk
    have hv : (s.beginBuild h).Extends v := by
      obtain ⟨log, hlog'⟩ := Run.exists_log_eq .trace ("building lazy rule " ++ h.id.mark)
        (s.beginBuild h)
      obtain ⟨-, rfl⟩ := Prod.mk.inj (Option.some.inj (hlog'.symm.trans hlog))
      exact .of_arenas rfl
    have hu := ((Session.Extends.beginBuild hslot).trans hv).trans (hbuild _ _ _ _ hthunk)
    refine ⟨hu.trans (.finishBuild p), ?_⟩
    rintro _ ⟨⟩
    -- The slot is still there when the definition has been built.
    obtain ⟨slot', hslot', -⟩ := hu.slot _ _ (Session.slotOf?_of_slot? hslot)
    rw [Session.definition?, Session.slotAt?_eq, Session.slotAt?_eq,
      Session.slotOf?_finishBuild hslot', if_pos rfl, hslot']
    rfl
  · refine ⟨.refl _, fun p hr => ?_⟩
    obtain ⟨slot, hslot, hvalue⟩ := Session.exists_slotOf?_of_built (hbuilt p hr)
    rw [Session.definition?, Session.slotAt?_eq, hslot]
    exact hvalue

/-- **All that scripts do extends the session they do it in.** -/
def ScriptDiscipline.extending (α : Type) : ScriptDiscipline α where
  World := Session α
  Grows := Session.Extends
  Holds _ _ := True
  Does s m R := ∀ b t, m s = some (b, t) → s.Extends t ∧ R t b
  refl := .refl
  trans := .trans
  holds_mono _ _ := trivial
  holds_part _ _ := trivial
  pure hR b t hb := by
    obtain ⟨rfl, rfl⟩ := Run.pure_eq_some_iff.1 hb
    exact ⟨.refl _, hR⟩
  bind hm hf c u hc := by
    obtain ⟨b, t, hb, hc⟩ := Run.bind_eq_some_iff.1 hc
    obtain ⟨ht, hR⟩ := hm b t hb
    exact (hf t b ht hR c u hc).imp_left ht.trans
  failure := nofun
  read _ hf b t hb := hf _ b t hb
  log level message b t hb := by
    obtain ⟨log, hlog⟩ := Run.exists_log_eq level message _
    obtain ⟨-, rfl⟩ := Prod.mk.inj (Option.some.inj (hlog.symm.trans hb))
    exact ⟨.of_arenas rfl, trivial⟩
  Allows _ := True
  Admits _ _ := True
  holds_box _ := trivial
  consult _ hf b t hb := hf _ (fun _ _ _ _ => trivial) (fun _ _ _ _ => trivial) b t hb
  fresh _ _ id t hid := by
    obtain ⟨-, rfl⟩ := Prod.mk.inj (Option.some.inj hid)
    exact ⟨.of_arenas rfl, trivial⟩
  skip _ _ t ht := by
    obtain ⟨-, rfl⟩ := Prod.mk.inj (Option.some.inj ht)
    exact ⟨.of_arenas rfl, trivial⟩
  change _ _ _ _ t ht := by
    obtain ⟨-, rfl⟩ := Prod.mk.inj (Option.some.inj ht)
    exact ⟨.of_arenas rfl, trivial⟩
  bindName _ := fun _ _ t ht => by
    obtain ⟨-, rfl⟩ := Prod.mk.inj (Option.some.inj ht)
    exact ⟨.of_arenas rfl, trivial⟩
  newArena _ _ t ht := by
    obtain ⟨-, rfl⟩ := Prod.mk.inj (Option.some.inj ht)
    exact ⟨.newArena _, trivial⟩
  dropArena _ _ t ht := by
    obtain ⟨-, rfl⟩ := Prod.mk.inj (Option.some.inj ht)
    exact ⟨.dropArena _, trivial⟩
  addSlot _ _ _ t ht := by
    obtain ⟨-, rfl⟩ := Prod.mk.inj (Option.some.inj ht)
    exact ⟨.addSlot _ _, trivial⟩
  define _ _ _ _ hd := ⟨.define hd, trivial⟩
  isDefined _ _ _ hd := ⟨Rule.of_isDefined hd ▸ .refl _, trivial⟩
  force hbuild _ _ _ r t hf :=
    have hextends (d : Deferred α) (s p t) (hb) := (hbuild s d (fun _ _ => trivial) p t hb).1
    ⟨(Rule.extends_force hextends hf).1, fun _ _ => trivial⟩

theorem Calls.extends_build (n : Nat) {d : Deferred α}
    (hb : (Calls.upTo n).build d s = some (p, t)) : s.Extends t := by
  cases n with
  | zero => cases hb
  | succ n =>
    have hd := ScriptDiscipline.deferred (w := s) (ScriptDiscipline.upTo (.extending α) n) d
      fun _ _ => trivial
    exact (hd p t hb).1

end GrammarGraph
