import GrammarGraph.Proofs.Rule
import GrammarGraph.Proofs.Script

/-!
# Proofs/History — what happens to the rules of a session

    declared ──defined──▸          deferred ──entered──▸ ──returned──▸

Definitions are built in the middle of parses, while definitions of other rules are being built.  A
history puts all that happens to rules, at any depth, in the order in which it happens; a moment of
it is a session together with the rules whose definitions are being built.

Whatever is done in a session, wherever it is done, is part of a history (`Operation.follows`).
-/

namespace GrammarGraph

variable {α β : Type}

/-! ## Moments and events -/

/-- A session, and the rules whose definitions are being built in it, the innermost first. -/
structure Moment (α : Type) where
  running : List Place
  session : Session α

/-- Something that happens to a rule. -/
inductive Event (α : Type)
  /-- The rule is created without a definition. -/
  | declared
  /-- The rule is created with a definition that is put off. -/
  | deferred (definition : Deferred α)
  /-- The rule is given a definition. -/
  | defined (p : Parser α)
  /-- The deferred definition begins to be built. -/
  | entered
  /-- The deferred definition has been built. -/
  | returned (p : Parser α)

/-- Events, with the places where they happen. -/
abbrev Events (α : Type) := List (Place × Event α)

/-- The event by which a rule is created. -/
def Event.created : Option (Deferred α) → Event α
  | none => .declared
  | some definition => .deferred definition

/-- **What can come after a moment.**  Only the events listed touch a slot. -/
inductive Moves : Moment α → Events α → Moment α → Prop
  /-- Anything that does not touch the arenas. -/
  | quiet {running s s'} (h : s'.arenas = s.arenas) : Moves ⟨running, s⟩ [] ⟨running, s'⟩
  | newArena {running s} (name : String) : Moves ⟨running, s⟩ [] ⟨running, s.newArena name⟩
  | dropArena {running s} (name : String) : Moves ⟨running, s⟩ [] ⟨running, s.dropArena name⟩
  | create {running s id} (hid : id < s.arenas.length) (definition : Option (Deferred α)) :
      Moves ⟨running, s⟩ [((s.addSlot id { deferred := definition }).1.place, .created definition)]
        ⟨running, (s.addSlot id { deferred := definition }).2⟩
  | define {running s s'} {h : Rule} {p : Parser α} (hd : h.define p s = some (.ok (), s')) :
      Moves ⟨running, s⟩ [(h.place, .defined p)] ⟨running, s'⟩
  | enter {running s} {h : Rule} {definition : Deferred α}
      (hp : (s.slot? h).map Slot.stage = some (.pending definition)) :
      Moves ⟨running, s⟩ [(h.place, .entered)] ⟨h.place :: running, s.beginBuild h⟩
  | leave {running s} {h : Rule} (p : Parser α) :
      Moves ⟨h.place :: running, s⟩ [(h.place, .returned p)] ⟨running, s.finishBuild h p⟩

theorem Moves.length_le {c c' : Moment α} {e : Events α} (h : Moves c e c') : e.length ≤ 1 := by
  cases h with
  | quiet | newArena | dropArena => exact Nat.zero_le 1
  | create | define | enter | leave => exact Nat.le_refl 1

/-- **One moment after another**, with the events in between. -/
inductive Path : Moment α → Events α → Moment α → Prop
  | refl {c} : Path c [] c
  | move {c c' c'' es e} (h : Path c es c') (hm : Moves c' e c'') : Path c (es ++ e) c''

/-- **The histories of sessions**, each with the moment it has come to. -/
def History (es : Events α) (c : Moment α) : Prop :=
  ∃ logging, Path ⟨[], { logging := logging }⟩ es c

theorem Path.trans {c c' c'' : Moment α} {es es' : Events α} (h : Path c es c')
    (h' : Path c' es' c'') : Path c (es ++ es') c'' := by
  induction h' with
  | refl => rwa [List.append_nil]
  | move _ hm ih =>
    rw [← List.append_assoc]
    exact ih.move hm

theorem Moves.path {c c' : Moment α} {e : Events α} (h : Moves c e c') : Path c e c' :=
  .move .refl h

/-! ## Computations -/

/-- **The computation is made of moves**, leaves no definition in the middle of being built, and
leads to a result with `R`. -/
def Run.Follows (running : List Place) (m : Run α β) (R : β → Prop) : Prop :=
  ∀ s b s', m s = some (b, s') → (∃ es, Path ⟨running, s⟩ es ⟨running, s'⟩) ∧ R b

namespace Run.Follows

variable {running : List Place} {γ : Type} {m : Run α β} {R : β → Prop}

theorem pure {b : β} (h : R b) : Run.Follows running (Pure.pure b : Run α β) R := by
  intro s b' s' hb
  obtain ⟨rfl, rfl⟩ := Run.pure_eq_some_iff.1 hb
  exact ⟨⟨[], .refl⟩, h⟩

theorem bind {f : β → Run α γ} {P : γ → Prop} (hm : Run.Follows running m R)
    (hf : ∀ b, R b → Run.Follows running (f b) P) : Run.Follows running (m >>= f) P := by
  intro s c s' hc
  obtain ⟨b, t, hb, hc⟩ := Run.bind_eq_some_iff.1 hc
  obtain ⟨⟨es, hes⟩, hR⟩ := hm s b t hb
  obtain ⟨⟨es', hes'⟩, hP⟩ := hf b hR t c s' hc
  exact ⟨⟨es ++ es', hes.trans hes'⟩, hP⟩

theorem of_modify {f : Session α → Session α}
    (hf : ∀ s, ∃ es, Path ⟨running, s⟩ es ⟨running, f s⟩) :
    Run.Follows running (modify f : Run α PUnit) fun _ => True := by
  intro s b s' hb
  obtain ⟨-, rfl⟩ := Prod.mk.inj (Option.some.inj hb)
  exact ⟨hf s, trivial⟩

/-- Changes that do not touch the arenas. -/
theorem quiet {f : Session α → Session α} (hf : ∀ s, (f s).arenas = s.arenas) :
    Run.Follows running (modify f : Run α PUnit) fun _ => True :=
  of_modify fun s => ⟨[], (Moves.quiet (hf s)).path⟩

theorem log (level : LogLevel) (message : String) :
    Run.Follows running (Run.log level message : Run α Unit) fun _ => True := by
  refine quiet fun s => ?_
  split
  · rfl
  · rfl

theorem fresh : Run.Follows running (Run.fresh : Run α NodeId) fun _ => True := by
  intro s id s' hid
  obtain ⟨rfl, rfl⟩ := Prod.mk.inj (Option.some.inj hid)
  have hquiet : Moves ⟨running, s⟩ [] ⟨running, { s with nextId := s.nextId + 1 }⟩ := .quiet rfl
  exact ⟨⟨[], hquiet.path⟩, trivial⟩

theorem addSlot (arena : ArenaId) (definition : Option (Deferred α)) :
    Run.Follows running (modifyGet (·.addSlot arena { deferred := definition })) fun _ => True := by
  intro s h s' hh
  obtain ⟨rfl, rfl⟩ := Prod.mk.inj (Option.some.inj hh)
  refine ⟨?_, trivial⟩
  by_cases harena : arena < s.arenas.length
  · exact ⟨_, (Moves.create harena definition).path⟩
  · have hsame : (s.addSlot arena { deferred := definition }).2.arenas = s.arenas :=
      List.modify_eq_self (Nat.le_of_not_lt harena)
    exact ⟨[], (Moves.quiet hsame).path⟩

end Run.Follows

namespace Rule

variable {running : List Place} {h : Rule}

theorem follows_define (p : Parser α) : Run.Follows running (h.define p) fun _ => True := by
  intro s r s' hd
  cases r with
  | ok => exact ⟨⟨_, (Moves.define hd).path⟩, trivial⟩
  | error e =>
    rw [of_define_error hd]
    exact ⟨⟨[], .refl⟩, trivial⟩

theorem follows_isDefined : Run.Follows running (h.isDefined : Run α Bool) fun _ => True := by
  intro s b s' hd
  rw [of_isDefined hd]
  exact ⟨⟨[], .refl⟩, trivial⟩

/-- What happens while a pending definition is built. -/
theorem follows_runThunk {build : Deferred α → Run α (Parser α)} {definition : Deferred α}
    (hbuild : Run.Follows running (build definition) fun _ => True) :
    Run.Follows running (h.runThunk build definition) fun _ => True :=
  (Run.Follows.log _ _).bind fun _ _ => hbuild

theorem follows_force {build : Deferred α → Run α (Parser α)}
    (hbuild : ∀ running definition, Run.Follows running (build definition) fun _ => True) :
    Run.Follows running (h.force build) fun _ => True := by
  intro s r s' hf
  refine ⟨?_, trivial⟩
  obtain ⟨definition, p, t, hp, hthunk, -, rfl⟩ | ⟨rfl, -⟩ := force_cases hf
  · obtain ⟨⟨es, hes⟩, -⟩ := follows_runThunk (hbuild _ definition) _ _ _ hthunk
    exact ⟨_, ((Moves.enter hp).path.trans hes).move (.leave p)⟩
  · exact ⟨[], .refl⟩

end Rule

/-- **All that scripts do is made of moves.** -/
def ScriptDiscipline.following (α : Type) : ScriptDiscipline α where
  World := List Place
  Grows v w := w = v
  Holds _ _ := True
  Does running m R := Run.Follows running m (R running)
  refl _ := rfl
  trans h h' := h'.trans h
  holds_mono _ _ := trivial
  holds_part _ _ := trivial
  pure := Run.Follows.pure
  bind hm hf := hm.bind fun b hb => hf _ b rfl hb
  failure := nofun
  read _ hf s := hf s s
  log := Run.Follows.log
  Allows _ := True
  Admits _ _ := True
  holds_box _ := trivial
  consult _ hf s := hf s (fun _ _ _ _ => trivial) (fun _ _ _ _ => trivial) s
  fresh _ _ := .fresh
  skip _ := .quiet fun _ => rfl
  change _ _ _ := .quiet fun _ => rfl
  bindName _ := fun _ => .quiet fun _ => rfl
  newArena _ := .of_modify fun _ => ⟨[], (Moves.newArena _).path⟩
  dropArena _ := .of_modify fun _ => ⟨[], (Moves.dropArena _).path⟩
  addSlot _ _ := .addSlot _ _
  define _ _ := Rule.follows_define _
  isDefined _ := Rule.follows_isDefined
  force hbuild _ _ _ s r s' hf :=
    have hfollows (w) (d : Deferred α) := hbuild w d fun _ _ => trivial
    ⟨(Rule.follows_force hfollows s r s' hf).1, fun _ _ => trivial⟩

/-! ## Operations -/

/-- **What can be carried out in a session**, between the steps of a script or in the middle of
one: whole scripts, steps, definitions and expressions, and what these do with parsers and rules. -/
inductive Operation (α : Type) : {β : Type} → Run α β → Prop
  | script (n : Nat) (steps : List (Step α)) : Operation α (steps.mapM (Step.run (.upTo n)))
  | step (n : Nat) (step : Step α) : Operation α (step.run (.upTo n))
  | definition (n : Nat) (d : Deferred α) : Operation α (d.build (.upTo n))
  | expr (e : Expr α) : Operation α e.build
  | parse (n : Nat) (p : Parser α) (s : Text) : Operation α (p.parse (.upTo n) s)
  | parseAll (n : Nat) (p : Parser α) (s : Text) : Operation α (p.parseAll (.upTo n) s)
  | label (n : Nat) (p : Parser α) : Operation α (p.label (.upTo n))
  | describe (n : Nat) (p : Parser α) (v : Visited) : Operation α (p.describe (.upTo n) v)
  | kind (n : Nat) (p : Parser α) (v : Visited) : Operation α (p.kind (.upTo n) v)
  | force (n : Nat) (h : Rule) : Operation α (h.force (Calls.upTo n).build)
  | create (id : ArenaId) (definition : Option (Deferred α)) :
      Operation α (modifyGet (·.addSlot id { deferred := definition }))
  | define (h : Rule) (p : Parser α) : Operation α (h.define p)
  | isDefined (h : Rule) : Operation α h.isDefined

/-- **Every operation is as a discipline says**, if that speaks of all scripts, arenas and
parsers. -/
theorem Operation.runs {D : ScriptDiscipline α} (hallows : ∀ m, D.Allows m)
    (hadmits : ∀ w id, D.Admits w id) (hholds : ∀ w p, D.Holds w p) {m : Run α β}
    (hm : Operation α m) (w : D.World) : D.Runs w m := by
  have hc (n : Nat) : D.Respects (Calls.upTo n) := D.upTo n
  have hpermits (mentions : List Mention) : D.Permits mentions := fun m _ => hallows m
  cases hm with
  | script n steps => exact ScriptDiscipline.steps (hc n) steps (hpermits _)
  | step n step => exact ScriptDiscipline.run (hc n) step (hpermits _)
  | definition n d =>
    exact Discipline.runs_of_does (ScriptDiscipline.deferred (hc n) d (hpermits _))
  | expr e => exact Discipline.runs_of_does (ScriptDiscipline.build e (hpermits _))
  | parse n p s => exact Discipline.parse (hc n) p s (hholds w p)
  | parseAll n p s => exact Discipline.parseAll (hc n) p s (hholds w p)
  | label n p => exact Discipline.label (hc n) p (hholds w p)
  | describe n p v => exact Discipline.describe (hc n) p v (hholds w p)
  | kind n p v => exact Discipline.kind (hc n) p v (hholds w p)
  | force n h => exact Discipline.runs_of_does ((hc n).force (hholds w (.rule h)))
  | create id definition =>
    exact Discipline.runs_of_does (D.addSlot (hadmits w id) fun d _ => hpermits d.mentions)
  | define h p => exact D.define (hholds w (.rule h)) (hholds w p)
  | isDefined h => exact D.isDefined (hholds w (.rule h))

/-- **Every operation is made of moves.** -/
theorem Operation.follows {m : Run α β} (hm : Operation α m) (running : List Place) :
    Run.Follows running m fun _ => True :=
  hm.runs (D := .following α) (fun _ => trivial) (fun _ _ => trivial) (fun _ _ => trivial) running

theorem Calls.follows_build (n : Nat) (running : List Place) (d : Deferred α) :
    Run.Follows running ((Calls.upTo n).build d) fun _ => True := by
  cases n with
  | zero => exact nofun
  | succ n => exact (Operation.definition n d).follows running

end GrammarGraph
