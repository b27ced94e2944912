import GrammarGraph.Proofs.Building
import GrammarGraph.Proofs.Detachment
import GrammarGraph.Proofs.Rerouting

/-!
# Proofs/Permanence — a grammar that is built does not change any more

    c ──anything──▸ c'          the rules that are reached are built in both, as the same parsers

A slot that is built stays as it is, whatever happens in a session (`Moment.Later.stays`).  So once
every rule that is reached is built, what is reached never changes either, and what is asked of the
grammar is answered as before, as long as the arenas of its rules are kept (`permanence`).  It makes
no difference what happens elsewhere: definitions of other rules may run any script in between, or
be running still.
-/

namespace GrammarGraph

variable {α β : Type} {s t : Session α} {p q : Parser α} {c c' : Moment α}

/-! ## Built grammars -/

/-- **Every rule that is reached is built**, and its arena is alive. -/
def Built (s : Session α) (p : Parser α) : Prop :=
  ∀ h, Reaches s p (.rule h) → ∃ q, (s.slot? h).map Slot.stage = some (.built q)

theorem Built.settled (hb : Built s p) : Settled s p := by
  intro h hr
  obtain ⟨q, hq⟩ := hb h hr
  rw [hq]
  exact ⟨nofun, nofun⟩

/-- What is reached depends on the slots of the rules that are reached. -/
theorem Reaches.of_slots (hslots : ∀ h, Reaches s p (.rule h) → t.slot? h = s.slot? h)
    (hr : Reaches s p q) : Reaches t p q := by
  induction hr with
  | refl => exact .refl
  | part _ hc ih => exact ih.part hc
  | definition hr hf ih => exact ih.definition (hf.of_slot? (hslots _ hr))

theorem Reaches.to_slots (hslots : ∀ h, Reaches s p (.rule h) → t.slot? h = s.slot? h)
    (hr : Reaches t p q) : Reaches s p q := by
  induction hr with
  | refl => exact .refl
  | part _ hc ih => exact ih.part hc
  | definition _ hf ih => exact ih.definition (hf.of_slot? (hslots _ ih).symm)

/-! ## What is built stays -/

/-- A slot that is built is left as it is by whatever comes next. -/
theorem Leads.stays {es : Events α} (h : Leads c c') (ht : Tells es c) {x : Place}
    (hs : c.session.slotOf? x = some { value := some p }) :
    c'.session.slotOf? x = some { value := some p } := by
  cases h with
  | operate hm hb =>
    obtain ⟨⟨es', hpath⟩, -⟩ := hm.follows _ _ _ _ hb
    exact ht.stays hpath hs
  | enter hp => exact ht.stays (Moves.enter hp).path hs
  | leave q => exact ht.stays (Moves.leave q).path hs
  | share => exact (Session.slotOf?_shareArena _ _ _ _).trans hs
  | report => exact hs

theorem Moment.Later.course (h : c.Later c') (hc : Course c) : Course c' :=
  hc.imp fun _ hlater => hlater.trans h

/-- **What is built stays as it is**, whatever happens. -/
theorem Moment.Later.stays (h : c.Later c') (hc : Course c) {x : Place}
    (hs : c.session.slotOf? x = some { value := some p }) :
    c'.session.slotOf? x = some { value := some p } := by
  induction h with
  | refl => exact hs
  | tail hlater h ih =>
    obtain ⟨es, ht⟩ := (Moment.Later.course hlater hc).tells
    exact h.stays ht ih

/-- A rule that is built is there as before, as long as its arena is kept. -/
theorem Moment.Later.slot?_eq (h : c.Later c') (hc : Course c) {r : Rule}
    (hs : (c.session.slot? r).map Slot.stage = some (.built p)) (hkept : ¬Abandoned c' r.arena) :
    c'.session.slot? r = c.session.slot? r := by
  obtain ⟨slot, hslot, hstage⟩ := Option.map_eq_some_iff.1 hs
  obtain ⟨es, ht⟩ := hc.tells
  obtain rfl := ((ht.story_of_slot? hslot).stage_eq_iff _).1 hstage
  rw [hslot]
  exact (h.course hc).ledger.slot?_of_not_abandoned
    (h.stays hc (Session.slotOf?_of_slot? hslot)) hkept

/-! ## Permanence -/

/-- **What a grammar answers changes nothing but the log**: no slot, and no identity is given
out. -/
def LeavesAlone (s : Session α) (p : Parser α) : Prop :=
  ∀ {β : Type} (question : Question α β) n b u,
    question.ask (Calls.upTo n) p s = some (b, u) → s.Logged u

/-- **A grammar is the same in a later session**: it reaches the same, it is built, and it answers
alike.  What it answered at some depth it settles on, and the other way round. -/
structure SameGrammar (s t : Session α) (p : Parser α) : Prop where
  reaches_iff : ∀ q, Reaches t p q ↔ Reaches s p q
  forces_iff : ∀ h, Reaches s p (.rule h) → ∀ r, Forces t h r ↔ Forces s h r
  built : Built t p
  leavesAlone : LeavesAlone t p
  settles : ∀ {β : Type} (question : Question α β) n b u,
    question.ask (Calls.upTo n) p s = some (b, u) →
      Settles t (fun n => question.ask (Calls.upTo n) p) b
  settled : ∀ {β : Type} (question : Question α β) n b u,
    question.ask (Calls.upTo n) p t = some (b, u) →
      Settles s (fun n => question.ask (Calls.upTo n) p) b

theorem Built.leavesAlone (hb : Built s p) : LeavesAlone s p := by
  intro β question n b u h
  have hfollows := (hb.settled.rerouting fun _ _ => rfl).follows n (.same .refl)
  exact (hfollows.ask question s b u ⟨s.log, rfl⟩ h).1

/-- Where the slots of its rules are the same, the grammar is. -/
theorem Built.sameGrammar (hb : Built s p)
    (hslots : ∀ h, Reaches s p (.rule h) → t.slot? h = s.slot? h) : SameGrammar s t p := by
  have hbuilt : Built t p := by
    intro h hr
    have hr := hr.to_slots hslots
    rw [hslots h hr]
    exact hb h hr
  have hrerouting := hb.settled.rerouting hslots
  have hsame : Rerouted s t (fun h => Reaches s p (.rule h)) p p := .same .refl
  constructor
  case reaches_iff => exact fun q => ⟨.to_slots hslots, .of_slots hslots⟩
  case forces_iff =>
    intro h hr r
    exact ⟨fun hf => hf.of_slot? (hslots h hr).symm, fun hf => hf.of_slot? (hslots h hr)⟩
  case built => exact hbuilt
  case leavesAlone => exact hbuilt.leavesAlone
  case settles => exact fun question n b u h => hrerouting.settles hsame h
  case settled => exact fun question n b u h => hrerouting.symm.settles hsame.symm h

/-- **A grammar that is built is permanent.**  Nothing it is asked changes it; and whatever happens
afterwards, as long as no arena of its rules is abandoned, it is the same grammar. -/
theorem permanence (hc : Course c) (hb : Built c.session p) :
    LeavesAlone c.session p ∧ ∀ c', c.Later c' →
      (∀ h, Reaches c.session p (.rule h) → ¬Abandoned c' h.arena) →
        SameGrammar c.session c'.session p := by
  refine ⟨hb.leavesAlone, fun c' h hkept => hb.sameGrammar fun r hr => ?_⟩
  obtain ⟨q, hq⟩ := hb r hr
  exact h.slot?_eq hc hq (hkept r hr)

/-- A deferred definition that would define another rule anew. -/
def meddlesome : Deferred Unit := ⟨"other", [.define "as" (.literal ['b'])], .literal ['c']⟩

/-- A grammar for as many `a` as there are, next to an arena with that definition. -/
def asBuilt (nextId : Nat) (others : Arena Unit) (names : List (String × ArenaId)) :
    Session Unit :=
  let more := .sequence 3 .both (.literal 1 ['a']) (.optional 2 (.boxed (.rule ⟨0, 0, 0⟩)))
  { nextId := nextId, arenas := [{ slots := [{ value := some more }] }, others],
    bindings := [("other", .rule ⟨4, 1, 0⟩), ("as", .rule ⟨0, 0, 0⟩)], arenaNames := names }

/-- When the grammar has been built. -/
def early : Session Unit :=
  asBuilt 5 { slots := [{ deferred := some meddlesome }] } [("o", 1), ("g", 0)]

/-- While that definition is being built. -/
def midway (nextId : Nat) : Session Unit :=
  asBuilt nextId { slots := [{ forcing := true }], builds := 1 } [("o", 1), ("g", 0)]

/-- When it has been tried twice to define the grammar anew, and the other arena is gone. -/
def late : Session Unit :=
  asBuilt 8 { slots := [{ value := some (.literal 7 ['c']) }], owners := 0 } [("g", 0)]

theorem early_built : Built early (.rule ⟨0, 0, 0⟩) := by
  intro h hr
  have hmem : h ∈ [⟨0, 0, 0⟩, ⟨0, 0, 0⟩] := hr.mem_graphRules
  obtain rfl : h = ⟨0, 0, 0⟩ := by simpa using hmem
  exact ⟨_, rfl⟩

theorem early_course : Course ⟨[], early⟩ := by
  have hsteps : (List.mapM (Step.run (.upTo 0)) [.newArena "g", .declare "as" "g",
      .define "as" (.sequence .both (.literal ['a']) (.optional (.ref "as"))), .newArena "o",
      .defer "other" "o" meddlesome.steps meddlesome.expr] {}).map (·.2) = some early := by
    refine (Step.mapM_run_cons (t := { arenas := [{}], arenaNames := [("g", 0)] }) rfl).trans ?_
    refine (Step.mapM_run_cons
      (t := { nextId := 1, arenas := [{ slots := [{}] }], arenaNames := [("g", 0)],
              bindings := [("as", .rule ⟨0, 0, 0⟩)] }) rfl).trans ?_
    refine (Step.mapM_run_cons (Step.run_define (h := ⟨0, 0, 0⟩) rfl rfl
      (.sequence .literal (.optional (.rule rfl))))).trans ?_
    refine (Step.mapM_run_cons
      (t := { asBuilt 4 {} [("o", 1), ("g", 0)] with
              bindings := [("as", .rule ⟨0, 0, 0⟩)] }) rfl).trans ?_
    exact (Step.mapM_run_cons (t := early) rfl).trans rfl
  obtain ⟨⟨answers, s⟩, hrun, rfl⟩ := Option.map_eq_some_iff.1 hsteps
  exact (Course.start false).leads (.operate (.script 0 _) hrun)

/-- By a step, and in the middle of a definition. -/
theorem late_later : Moment.Later ⟨[], early⟩ ⟨[], late⟩ := by
  have hpending : (Session.slot? { early with nextId := 6 } ⟨4, 1, 0⟩).map Slot.stage =
      some (.pending meddlesome) := rfl
  have hdefine : (Step.define "as" (.literal ['b'])).run (.upTo 0) (midway 6) =
      some (⟨.refused (.grammar (.alreadyDefined 0)), [], []⟩, midway 7) := rfl
  have hbuild : meddlesome.build (.upTo 0) (midway 6) = some (.literal 7 ['c'], _) :=
    Deferred.build_of_builds ((Step.mapM_singleton _).trans (congrArg _ hdefine)) .literal
  have hthunk : Rule.runThunk ⟨4, 1, 0⟩ (Calls.upTo 1).build meddlesome (midway 6) = _ :=
    (Run.bind_of_eq_some (t := midway 6) rfl).trans hbuild
  have hforce := (Rule.force_of_pending hpending).trans (congrArg _ hthunk)
  have hsteps : (List.mapM (Step.run (.upTo 1)) [.define "as" (.literal ['b']), .force "other",
      .dropArena "o"] early).map (·.2) = some late := by
    refine (Step.mapM_run_cons (t := { early with nextId := 6 }) rfl).trans ?_
    refine (Step.mapM_run_cons (Step.run_force (h := ⟨4, 1, 0⟩) rfl hforce)).trans ?_
    exact (Step.mapM_run_cons (t := late) rfl).trans rfl
  obtain ⟨⟨answers, s⟩, hrun, rfl⟩ := Option.map_eq_some_iff.1 hsteps
  exact .single (.operate (.script 1 _) hrun)

/-- The grammar is to be defined anew, by a step and in the middle of a definition, and the arena of
that definition is given up. -/
theorem permanence_defined_anew :
    Course ⟨[], early⟩ ∧ Built early (.rule ⟨0, 0, 0⟩) ∧ Moment.Later ⟨[], early⟩ ⟨[], late⟩ ∧
      Detached late ⟨4, 1, 0⟩ ∧ SameGrammar early late (.rule ⟨0, 0, 0⟩) := by
  have hkept : ¬Abandoned ⟨[], late⟩ 0 := fun ha => ha.1 "g" rfl
  have hsame := (permanence early_course early_built).2 ⟨[], late⟩ late_later fun h hr => by
    have hmem : h ∈ [⟨0, 0, 0⟩, ⟨0, 0, 0⟩] := hr.mem_graphRules
    obtain rfl : h = ⟨0, 0, 0⟩ := by simpa using hmem
    exact hkept
  exact ⟨early_course, early_built, late_later, .of_slot? rfl, hsame⟩

end GrammarGraph
