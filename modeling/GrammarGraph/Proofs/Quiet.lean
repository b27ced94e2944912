import GrammarGraph.Proofs.Extension

/-!
# Proofs/Quiet — a session with its logging turned off

    session ──run──▸ result, session
       ↓ quiet          ↓ quiet
    session ──run──▸ result, session

`Session.quiet` turns the logging off and erases all records, and nothing else.  `Run.Shadows` says
of two computations that the second does in the quiet session what the first does in the session.

A computation with the logging on may ask for rules ahead of time.  That comes to the same thing as
long as no arena is given up in between, so these computations are shadowed where definitions are
calm (`Session.Calm`), and the arenas are as alive afterwards as they were before
(`Session.Spares`).
-/

namespace GrammarGraph

variable {α β γ δ : Type}

/-! ## Erasing what is logged -/

mutual

/-- **An answer without its records**, those of the builds in it included. -/
def Answer.quiet : Answer α → Answer α
  | ⟨reply, builds, _⟩ => ⟨reply, Answer.quietBuilds builds, []⟩

/-- Reports of builds without records. -/
def Answer.quietBuilds : List (Build (Answer α)) → List (Build (Answer α))
  | [] => []
  | ⟨rule, answers, built⟩ :: rest => ⟨rule, Answer.quietAll answers, built⟩ :: quietBuilds rest

/-- Answers without records. -/
def Answer.quietAll : List (Answer α) → List (Answer α)
  | [] => []
  | answer :: rest => answer.quiet :: quietAll rest

end

theorem Answer.quietAll_eq (answers : List (Answer α)) :
    Answer.quietAll answers = answers.map Answer.quiet := by
  induction answers with
  | nil => rfl
  | cons answer rest ih => rw [quietAll, ih, List.map_cons]

theorem Answer.quietBuilds_append (bs bs' : List (Build (Answer α))) :
    Answer.quietBuilds (bs ++ bs') = Answer.quietBuilds bs ++ Answer.quietBuilds bs' := by
  induction bs with
  | nil => rfl
  | cons b bs ih => rw [List.cons_append, quietBuilds, ih, quietBuilds, List.cons_append]

/-- **The session with its logging turned off**, and nothing logged. -/
def Session.quiet (s : Session α) : Session α :=
  { s with logging := false, log := [], builds := Answer.quietBuilds s.builds }

/-! ## Calm definitions -/

mutual

/-- **Whether a step leaves arenas to their owners**: neither it nor a definition that it defers
opens or drops one. -/
def Step.isCalm : Step α → Bool
  | .newArena _ | .dropArena _ => false
  | .defer _ _ steps _ => Step.areCalm steps
  | _ => true

/-- Whether all steps of a list leave arenas to their owners. -/
def Step.areCalm : List (Step α) → Bool
  | [] => true
  | step :: rest => step.isCalm && Step.areCalm rest

end

namespace Session

variable {s t u : Session α}

/-- **No definition that is still to be built opens or drops an arena.** -/
def Calm (s : Session α) : Prop :=
  ∀ x slot d, s.slotOf? x = some slot → slot.deferred = some d → Step.areCalm d.steps

/-- How many owners the arenas have, and how many definitions are being built in them. -/
def lives (s : Session α) : List (Nat × Nat) := s.arenas.map fun a => (a.owners, a.builds)

/-- **What may come of a session without an arena being opened or given up**, and without a
definition being deferred that is not calm. -/
structure Spares (s t : Session α) : Prop where
  grows : s.Extends t
  lives : t.lives = s.lives
  calm : s.Calm → t.Calm

/-- An arena changed in one of its slots, where nothing is deferred that was not before. -/
theorem Calm.changeArena (hs : s.Calm) {id : ArenaId} {i : Nat} {f : Arena α → Arena α}
    {g : Slot α → Slot α} (hf : ∀ a, (f a).slots = a.slots.modify i g)
    (hg : ∀ slot d, (g slot).deferred = some d → slot.deferred = some d) :
    (s.changeArena id f).Calm := by
  intro x slot d hslot hd
  obtain ⟨-, before, hbefore, rfl⟩ | hslot := of_slotOf?_changeArena hf hslot
  · exact hs x before d hbefore (hg before d hd)
  · exact hs x slot d hslot hd

theorem Calm.addSlot (hs : s.Calm) (id : ArenaId) {slot : Slot α}
    (hcalm : ∀ d, slot.deferred = some d → Step.areCalm d.steps) : (s.addSlot id slot).2.Calm := by
  intro x slot' d hslot hd
  obtain rfl | ⟨-, hslot⟩ := of_slotOf?_addSlot hslot
  · exact hcalm d hd
  · exact hs x slot' d hslot hd

/-- An arena changed, as far as its life is concerned. -/
theorem lives_changeArena {id : ArenaId} {f : Arena α → Arena α} {g : Nat × Nat → Nat × Nat}
    (hg : ∀ a : Arena α, ((f a).owners, (f a).builds) = g (a.owners, a.builds)) :
    (s.changeArena id f).lives = s.lives.modify id g := by
  refine List.ext_getElem? fun i => ?_
  rw [lives, lives, changeArena, List.getElem?_map, List.getElem?_modify, List.getElem?_modify,
    List.getElem?_map]
  cases s.arenas[i]? with
  | none => rfl
  | some a =>
    by_cases h : id = i
    · simp [h, hg]
    · simp [h]

/-- An arena changed in something else than its life. -/
theorem lives_changeArena_of_eq {id : ArenaId} {f : Arena α → Arena α}
    (hf : ∀ a : Arena α, ((f a).owners, (f a).builds) = (a.owners, a.builds)) :
    (s.changeArena id f).lives = s.lives :=
  (lives_changeArena (g := fun x => x) hf).trans (List.modify_id id s.lives)

theorem Calm.changeSlot_store (hs : s.Calm) (h : Rule) (p : Parser α) :
    (s.changeSlot h fun slot => (slot.store p).2).Calm := by
  refine hs.changeArena (g := fun slot => (slot.store p).2) (fun _ => rfl) fun slot d hd => ?_
  obtain ⟨value, deferred, forcing⟩ := slot
  cases value <;> cases deferred <;> cases forcing <;> exact hd

theorem Calm.beginBuild (hs : s.Calm) (h : Rule) : (s.beginBuild h).Calm :=
  hs.changeArena (g := Slot.beginBuild) (fun _ => rfl) nofun

theorem Calm.finishBuild (hs : s.Calm) (h : Rule) (p : Parser α) : (s.finishBuild h p).Calm :=
  hs.changeArena (g := fun slot => (slot.finishBuild p).2) (fun _ => rfl) fun _ _ hd => hd

namespace Spares

theorem refl (s : Session α) : s.Spares s := ⟨.refl s, rfl, id⟩

theorem trans (h : s.Spares t) (h' : t.Spares u) : s.Spares u :=
  ⟨h.grows.trans h'.grows, h'.lives.trans h.lives, h'.calm ∘ h.calm⟩

/-- Changes that do not touch the arenas. -/
theorem of_arenas (ha : t.arenas = s.arenas) : s.Spares t where
  grows := .of_arenas ha
  lives := by rw [Session.lives, ha, Session.lives]
  calm hs x slot d hslot := hs x slot d (slotOf?_congr ha x ▸ hslot)

/-- An arena that is gone was gone before. -/
theorem gone (h : s.Spares t) {id : ArenaId} (hid : t.Gone id) : s.Gone id := by
  obtain ⟨a, ha, hdead⟩ := hid
  have hlife : s.lives[id]? = some (a.owners, a.builds) := by
    rw [← h.lives, Session.lives, List.getElem?_map, ha]
    rfl
  rw [Session.lives, List.getElem?_map] at hlife
  obtain ⟨b, hb, hsame⟩ := Option.map_eq_some_iff.1 hlife
  obtain ⟨howners, hbuilds⟩ := Prod.mk.inj hsame
  exact ⟨b, hb, by rw [Arena.isAlive, howners, hbuilds]; exact hdead⟩

/-! ## Changes -/

theorem addSlot (id : ArenaId) {slot : Slot α}
    (hcalm : ∀ d, slot.deferred = some d → Step.areCalm d.steps) :
    s.Spares (s.addSlot id slot).2 where
  grows := .addSlot id slot
  lives := lives_changeArena_of_eq (f := fun a => a.addSlot slot) fun _ => rfl
  calm hs := hs.addSlot id hcalm

theorem beginBuild_finishBuild {h : Rule} {p : Parser α} {slot : Slot α}
    (hslot : s.slot? h = some slot) (hu : (s.beginBuild h).Spares u) :
    s.Spares (u.finishBuild h p) where
  grows := ((Extends.beginBuild hslot).trans hu.grows).trans (.finishBuild p)
  lives := by
    rw [finishBuild, lives_changeArena (g := fun x => (x.1, x.2 - 1)) fun _ => rfl, hu.lives,
      beginBuild, lives_changeArena (g := fun x => (x.1, x.2 + 1)) fun _ => rfl,
      List.modify_modify_eq]
    exact List.modify_id _ _
  calm hs := (hu.calm (hs.beginBuild h)).finishBuild h p

theorem define {h : Rule} {p : Parser α} {r : Except GrammarError Unit}
    (hd : h.define p s = some (r, t)) : s.Spares t := by
  cases r with
  | error e => exact Rule.of_define_error hd ▸ .refl s
  | ok =>
    have hgrows : s.Extends t := .define hd
    obtain ⟨slot, hslot, -, rfl⟩ := Rule.of_define hd
    exact ⟨hgrows, lives_changeArena_of_eq fun _ => rfl, fun hs => hs.changeSlot_store h p⟩

end Spares

end Session

/-! ## Computations -/

namespace Run

variable {E : β → β} {F : γ → γ} {m m' : Run α β}

/-- **The second computation does in a quiet session what the first does in the session**, but for
what `E` erases from the result.  The arenas of the session are spared. -/
def Shadows (E : β → β) (m m' : Run α β) : Prop :=
  ∀ s, s.Calm → m' s.quiet = (m s).map (fun x => (E x.1, x.2.quiet)) ∧
    ∀ b t, m s = some (b, t) → s.Spares t

/-- **The computation does the same in a quiet session**, with the same result. -/
abbrev Agrees (m : Run α β) : Prop := Shadows id m m

namespace Shadows

theorem pure {b b' : β} (h : E b = b') : Shadows E (Pure.pure b : Run α β) (Pure.pure b') := by
  intro s _
  subst h
  refine ⟨rfl, fun c t hc => ?_⟩
  obtain ⟨-, rfl⟩ := pure_eq_some_iff.1 hc
  exact .refl s

theorem bind {f f' : β → Run α γ} (hm : Shadows E m m') (hf : ∀ b, Shadows F (f b) (f' (E b))) :
    Shadows F (m >>= f) (m' >>= f') := by
  intro s hs
  obtain ⟨hsame, hspares⟩ := hm s hs
  rw [bind_apply, bind_apply, hsame]
  cases hb : m s with
  | none => exact ⟨rfl, nofun⟩
  | some x =>
    obtain ⟨b, t⟩ := x
    have hst := hspares b t hb
    obtain ⟨hsame', hspares'⟩ := hf b t (hst.calm hs)
    exact ⟨hsame', fun c u hc => hst.trans (hspares' c u hc)⟩

end Shadows

theorem Agrees.bind {f : β → Run α γ} (hm : Agrees m) (hf : ∀ b, Agrees (f b)) :
    Agrees (m >>= f) := Shadows.bind hm hf

namespace Shadows

theorem failure : Shadows E (Alternative.failure : Run α β) Alternative.failure := by
  intro s _
  refine ⟨rfl, ?_⟩
  rintro b t ⟨⟩

theorem read {f f' : Session α → Run α β} (h : ∀ s, Shadows E (f s) (f' s.quiet)) :
    Shadows E (get >>= f) (get >>= f') :=
  fun s hs => h s s hs

/-- Reading what is not about the log. -/
theorem consult {f : Session α → Run α β} (hquiet : ∀ s, f s.quiet = f s)
    (h : ∀ s, Agrees (f s)) : Agrees (get >>= f) :=
  read fun s => hquiet s ▸ h s

/-- A change to what is not logged, with a result. -/
theorem modifyGet {f : Session α → β × Session α}
    (hsame : ∀ s, f s.quiet = ((f s).1, (f s).2.quiet))
    (hspares : ∀ s : Session α, s.Spares (f s).2) :
    Agrees (MonadStateOf.modifyGet f : Run α β) := by
  intro s _
  refine ⟨congrArg some (hsame s), fun b t hb => ?_⟩
  obtain ⟨-, rfl⟩ := Prod.mk.inj (Option.some.inj hb)
  exact hspares s

/-- A change that leaves the arenas as they are. -/
theorem change {f f' : Session α → Session α} (hsame : ∀ s, f' s.quiet = (f s).quiet)
    (harenas : ∀ s, (f s).arenas = s.arenas) :
    Shadows id (modify f : Run α PUnit) (modify f') := by
  intro s _
  refine ⟨congrArg some (congrArg (Prod.mk PUnit.unit) (hsame s)), fun b t hb => ?_⟩
  obtain ⟨-, rfl⟩ := Prod.mk.inj (Option.some.inj hb)
  exact .of_arenas (harenas s)

theorem log (level : LogLevel) (message : String) :
    Agrees (Run.log level message : Run α Unit) := by
  refine change (fun s => ?_) fun s => ?_
  · cases s.logging <;> simp [Session.quiet]
  · split <;> rfl

/-- **Something that is run ahead of a computation, and logged**, if it does nothing that the
computation would not do. -/
theorem ahead {first : Run α δ} {level : LogLevel} {message : δ → String} (hfirst : Agrees first)
    (hm : Agrees m) (habsorb : ∀ s, s.Calm → ((first s).bind fun x => m x.2) = m s) :
    Shadows id (do Run.log level (message (← first)); m) m := by
  intro s hs
  have hboth : Agrees (do Run.log level (message (← first)); m) :=
    hfirst.bind fun d => (log level _).bind fun _ => hm
  refine ⟨?_, (hboth s hs).2⟩
  rw [bind_apply, (hm s hs).1, ← habsorb s hs]
  cases hd : first s with
  | none => rfl
  | some x =>
    obtain ⟨d, t⟩ := x
    have ht : t.Calm := ((hfirst s hs).2 d t hd).calm hs
    obtain ⟨records, hrecords⟩ := exists_log_eq level (message d) t
    have hlogged := (hm { t with log := records } (Session.Spares.of_arenas rfl |>.calm ht)).1
    rw [Option.bind_some, ← (hm t ht).1, Option.bind_some, bind_apply, hrecords]
    exact hlogged

end Shadows

end Run

/-! ## Rules -/

namespace Rule

variable {s t : Session α} {h : Rule} {build : Deferred α → Run α (Parser α)}

theorem agrees_define (h : Rule) (p : Parser α) : Run.Agrees (h.define p) := by
  intro s _
  refine ⟨?_, fun r t hr => .define hr⟩
  rw [define_apply, define_apply, show s.quiet.slot? h = s.slot? h from rfl]
  split <;> rfl

theorem agrees_isDefined (h : Rule) : Run.Agrees (h.isDefined : Run α Bool) := by
  intro s _
  refine ⟨?_, fun b t hb => of_isDefined hb ▸ .refl _⟩
  rw [isDefined_apply, isDefined_apply, show s.quiet.slot? h = s.slot? h from rfl]
  split <;> rfl

/-- **Forcing a rule does the same in a quiet session**, if that is so of building definitions. -/
theorem agrees_force (hbuild : ∀ d : Deferred α, Step.areCalm d.steps → Run.Agrees (build d))
    (h : Rule) : Run.Agrees (h.force build) := by
  intro s hs
  by_cases hp : ∃ definition, (s.slot? h).map Slot.stage = some (.pending definition)
  · obtain ⟨definition, hp⟩ := hp
    obtain ⟨slot, hslot, hstage⟩ := Option.map_eq_some_iff.1 hp
    have hcalm : Step.areCalm definition.steps :=
      hs _ _ _ (Session.slotOf?_of_slot? hslot) (Slot.deferred_of_pending hstage)
    have hthunk : Run.Agrees (h.runThunk build definition) :=
      (Run.Shadows.log _ _).bind fun _ => hbuild definition hcalm
    obtain ⟨hsame, hspares⟩ := hthunk _ (hs.beginBuild h)
    have hquiet : h.force build s.quiet =
        (h.runThunk build definition (s.beginBuild h).quiet).map fun x =>
          (.ok (((x.2.slotAt? h).map fun slot => (slot.finishBuild x.1).1).getD x.1),
            x.2.finishBuild h x.1) := force_of_pending hp
    rw [hquiet, hsame, force_of_pending hp]
    refine ⟨by cases h.runThunk build definition (s.beginBuild h) <;> rfl, fun r t hr => ?_⟩
    obtain ⟨⟨p, u⟩, hpu, hr⟩ := Option.map_eq_some_iff.1 hr
    obtain ⟨-, rfl⟩ := Prod.mk.inj hr
    exact .beginBuild_finishBuild hslot (hspares p u hpu)
  · have hquiet : h.force build s.quiet =
        (h.force build s).map fun x => (x.1, x.2.quiet) := by
      rw [force_apply, force_apply, show s.quiet.slot? h = s.slot? h from rfl]
      split
      · rfl
      · rfl
      · rfl
      · rfl
      · next definition hpending => exact absurd ⟨definition, hpending⟩ hp
    refine ⟨hquiet, fun r t hr => ?_⟩
    obtain ⟨rfl, -⟩ := of_force_of_ne (not_exists.1 hp) hr
    exact .refl _

/-- **A rule that is asked for again** answers as it did, while the arenas are spared. -/
theorem force_again {p : Parser α} {t u : Session α} (hf : h.force build s = some (.ok p, t))
    (hspares : s.Spares u) (hp : u.definition? h = some p) :
    h.force build u = some (.ok p, u) := by
  have hgone : ¬s.Gone h.arena := by
    cases hslot : s.slot? h with
    | none =>
      rw [force_apply, hslot] at hf
      cases hf
    | some slot => exact Session.not_gone_of_slot? hslot
  obtain ⟨slot, hslot, hvalue⟩ := Option.bind_eq_some_iff.1 hp
  have hstage : slot.stage = .built p := by
    rw [Slot.stage, hvalue]
  rw [force_apply, Session.slot?_of_not_gone hslot fun hu => hgone (hspares.gone hu),
    Option.map_some, hstage]

end Rule

end GrammarGraph
