import GrammarGraph.Proofs.Quiet

/-!
# Proofs/Logging — what is computed does not depend on the logging

    label of the right branch ─▸ right branch     with the logging on
                                 right branch     with the logging off

With the logging on, a choice that falls back to its right branch asks for the label of that branch
first, which may build rules before their time.  Where definitions leave arenas to their owners this
is made up for at once: parsing the branch asks for the same rules, in the same order, and finds
them built (`Parser.parse_label`).  So a script answers the same with the logging on and off, the
records themselves apart (`Script.run_quiet`).

A definition that drops its own arena while it is being built tells the two apart.
-/

namespace GrammarGraph

variable {α β : Type}

open Run (Agrees Shadows)

/-- **What is done with the definitions of rules is the same in a quiet session.** -/
structure Calls.Agree (calls : Calls α) : Prop where
  parse : ∀ p x, Agrees (calls.parse p x)
  parseAll : ∀ p x, Agrees (calls.parseAll p x)
  label : ∀ p, Agrees (calls.label p)
  describe : ∀ p v, Agrees (calls.describe p v)
  kind : ∀ p v, Agrees (calls.kind p v)
  build : ∀ d : Deferred α, Step.areCalm d.steps → Agrees (calls.build d)
  /-- Building a definition takes nothing back. -/
  grows : ∀ d s p t, calls.build d s = some (p, t) → s.Extends t
  /-- A parser whose label has been asked for parses as it would have done anyway. -/
  parse_label : ∀ p x s, s.Calm →
    ((calls.label p s).bind fun y => calls.parse p x y.2) = calls.parse p x s

namespace Calls.Agree

variable {calls : Calls α} (hc : calls.Agree)

include hc

theorem force (h : Rule) : Agrees (h.force calls.build) := h.agrees_force hc.build

/-- Going on with what a rule is defined as, or doing without. -/
theorem force_bind {h : Rule} {f : Except Fault (Parser α) → Run α β}
    (hok : ∀ p, Agrees (f (.ok p))) (herror : ∀ fault, Agrees (f (.error fault))) :
    Agrees (h.force calls.build >>= f) := by
  refine (hc.force h).bind fun r => ?_
  cases r with
  | error fault => exact herror fault
  | ok p => exact hok p

end Calls.Agree

/-! ## Labels -/

namespace Parser

variable {calls : Calls α}

theorem agrees_label (hc : calls.Agree) : ∀ p : Parser α, Agrees (p.label calls)
  | .literal _ _ | .pattern _ _ | .map _ _ _ | .sequence _ _ _ _ | .choice _ _ _ | .optional _ _
  | .star _ _ | .exactly _ _ _ | .named _ _ _ => .pure rfl
  | .boxed inner => agrees_label hc inner
  | .rule _ => hc.force_bind hc.label fun _ => .pure rfl

/-- **Asking for a label makes no difference** to a parse that follows. -/
theorem parse_label (hc : calls.Agree) (x : Text) {s : Session α} (hs : s.Calm) : ∀ p : Parser α,
    ((p.label calls s).bind fun y => p.parse calls x y.2) = p.parse calls x s
  | .literal _ _ | .pattern _ _ | .map _ _ _ | .sequence _ _ _ _ | .choice _ _ _ | .optional _ _
  | .star _ _ | .exactly _ _ _ | .named _ _ _ => rfl
  | .boxed inner => parse_label hc x hs inner
  | .rule h => by
    cases hf : h.force calls.build s with
    | none => rw [Parser.label, Run.bind_apply, Parser.parse, Run.bind_apply, hf]; rfl
    | some y =>
      obtain ⟨r, t⟩ := y
      have hst : s.Spares t := (hc.force h s hs).2 r t hf
      rw [Parser.label, Run.bind_of_eq_some hf]
      cases r with
      | error fault =>
        obtain rfl := Rule.of_force_error hf
        rfl
      | ok p =>
        have hparse : (Parser.rule h).parse calls x s = calls.parse p x t := Run.bind_of_eq_some hf
        rw [hparse, ← hc.parse_label p x t (hst.calm hs)]
        change ((calls.label p t).bind fun y => (Parser.rule h).parse calls x y.2) = _
        cases hlabel : calls.label p t with
        | none => rfl
        | some y =>
          obtain ⟨label, u⟩ := y
          have htu : t.Spares u := (hc.label p t (hst.calm hs)).2 label u hlabel
          have hdefined : t.definition? h = some p :=
            (Rule.extends_force hc.grows hf).2 p rfl
          have hagain : h.force calls.build u = some (.ok p, u) :=
            Rule.force_again hf (hst.trans htu) (htu.grows.definition? hdefined)
          exact Run.bind_of_eq_some hagain

/-! ## Parsing -/

section Repetition

variable {label : String} {item : Text → Run α (Parsed α)}

theorem agrees_rounds (hitem : ∀ x, Agrees (item x)) (x : Text) :
    Agrees (rounds label item x) := by
  induction hn : x.length using Nat.strongRecOn generalizing x with
  | _ n ih =>
    rw [rounds]
    refine (hitem x).bind fun result => ?_
    split
    · exact .pure rfl
    · next r =>
      split
      · next h =>
        refine (ih _ (hn ▸ h) r rfl).bind fun result => ?_
        split <;> exact .pure rfl
      · exact (Shadows.log _ _).bind fun _ => .pure rfl

theorem agrees_countedRounds (hitem : ∀ x, Agrees (item x)) :
    ∀ (n : Nat) (x : Text), Agrees (countedRounds label item n x)
  | 0, _ => .pure rfl
  | n + 1, x => by
    rw [countedRounds]
    refine (hitem x).bind fun result => ?_
    split
    · exact .pure rfl
    · refine (agrees_countedRounds hitem n _).bind fun result => ?_
      split <;> exact .pure rfl

end Repetition

theorem agrees_parse (hc : calls.Agree) (p : Parser α) : ∀ x : Text, Agrees (p.parse calls x) := by
  induction p with
  | literal id text =>
    intro x
    rw [parse]
    split <;> exact .pure rfl
  | pattern id p =>
    intro x
    rw [parse]
    split <;> exact .pure rfl
  | map _ inner f ih =>
    intro x
    rw [parse]
    refine (ih x).bind fun result => ?_
    split <;> exact .pure rfl
  | sequence _ keep left right ihl ihr =>
    intro x
    rw [parse]
    refine (ihl x).bind fun result => ?_
    split
    · exact .pure rfl
    · refine (ihr _).bind fun result => ?_
      split <;> exact .pure rfl
  | choice _ left right ihl ihr =>
    intro x
    rw [parse]
    refine (ihl x).bind fun result => ?_
    split
    · exact .pure rfl
    · refine .read fun s => ?_
      rw [if_neg (show ¬s.quiet.logging = true from Bool.false_ne_true)]
      split
      · refine .ahead (agrees_label hc right) ((ihr x).bind fun _ => .pure rfl) fun t ht => ?_
        rw [Run.bind_apply, ← parse_label hc x ht right, Option.bind_assoc]
        rfl
      · exact (ihr x).bind fun _ => .pure rfl
  | optional _ inner ih =>
    intro x
    rw [parse]
    refine (ih x).bind fun result => ?_
    split <;> exact .pure rfl
  | star _ inner ih =>
    intro x
    rw [parse]
    refine (agrees_rounds ih x).bind fun result => ?_
    split <;> exact .pure rfl
  | exactly _ count inner ih =>
    intro x
    rw [parse_exactly]
    split
    · refine (agrees_countedRounds ih count.rounds x).bind fun result => ?_
      split <;> exact .pure rfl
    · exact .failure
  | named _ name inner ih =>
    intro x
    rw [parse]
    exact (ih x).bind fun _ => .pure rfl
  | boxed inner ih => exact ih
  | rule h => exact fun x => hc.force_bind (fun p => hc.parse p x) fun _ => .pure rfl

/-! ## Parsing the whole of a text -/

theorem agrees_parseAll (hc : calls.Agree) (p : Parser α) (x : Text) :
    Agrees (p.parseAll calls x) := by
  have whole (q : Parser α) : Agrees (do
      let result ← q.parse calls x
      return whole (← q.label calls) x result) :=
    (agrees_parse hc q x).bind fun _ => (agrees_label hc q).bind fun _ => .pure rfl
  induction p with
  | boxed inner ih => exact ih
  | rule h => exact hc.force_bind (fun p => hc.parseAll p x) fun _ => .pure rfl
  | star _ inner ih =>
    rw [parseAll]
    refine (agrees_rounds (agrees_parse hc inner) x).bind fun result => ?_
    split <;> exact .pure rfl
  | literal | pattern | map | sequence | choice | optional | exactly | named => exact whole _

/-! ## Describing -/

theorem agrees_visit {id : NodeId} {kind : Visited → Run α (Shape Description × Visited)}
    (hkind : ∀ v, Agrees (kind v)) (v : Visited) : Agrees (visit id kind v) := by
  rw [visit]
  split
  · exact .pure rfl
  · exact (hkind _).bind fun _ => .pure rfl

theorem agrees_enter (hc : calls.Agree) {kind : Visited → Run α (Shape Description × Visited)}
    (hkind : ∀ v, Agrees (kind v)) (v : Visited) :
    ∀ p : Parser α, Agrees (enter calls kind p v)
  | .boxed inner => agrees_enter hc hkind v inner
  | .rule _ => hc.force_bind (fun p => hc.describe p v) fun _ => agrees_visit (fun _ => .pure rfl) v
  | .literal _ _ | .pattern _ _ | .map _ _ _ | .sequence _ _ _ _ | .choice _ _ _ | .optional _ _
  | .star _ _ | .exactly _ _ _ | .named _ _ _ => agrees_visit hkind v

theorem agrees_kind (hc : calls.Agree) (p : Parser α) : ∀ v : Visited, Agrees (p.kind calls v) := by
  have unary (tag : Unary) {inner : Parser α} (ih : ∀ v, Agrees (inner.kind calls v))
      (v : Visited) : Agrees (kind.unary calls tag inner (inner.kind calls) v) :=
    (agrees_enter hc ih v inner).bind fun _ => .pure rfl
  have binary (tag : Binary) {left right : Parser α} (ihl : ∀ v, Agrees (left.kind calls v))
      (ihr : ∀ v, Agrees (right.kind calls v)) (v : Visited) :
      Agrees (kind.binary calls tag left right (left.kind calls) (right.kind calls) v) :=
    (agrees_enter hc ihl v left).bind fun _ => (agrees_enter hc ihr _ right).bind fun _ => .pure rfl
  induction p with
  | literal | pattern => exact fun _ => .pure rfl
  | map _ inner _ ih | optional _ inner ih | star _ inner ih | exactly _ _ inner ih
  | named _ _ inner ih => exact unary _ ih
  | sequence _ _ left right ihl ihr | choice _ left right ihl ihr => exact binary _ ihl ihr
  | boxed inner ih => exact ih
  | rule h => exact fun v => hc.force_bind (fun p => hc.kind p v) fun _ => .pure rfl

theorem agrees_describe (hc : calls.Agree) (p : Parser α) (v : Visited) :
    Agrees (p.describe calls v) :=
  agrees_enter hc (agrees_kind hc p) v p

end Parser

/-! ## Expressions -/

namespace Expr

theorem agrees_readPattern (library : Pattern.Library) (source : String)
    (options : Pattern.Options) :
    Agrees (readPattern library source options : Run α (Except GrammarError Pattern)) := by
  rw [readPattern]
  cases library.read? options source with
  | none => exact .pure rfl
  | some expression =>
    dsimp only
    split
    · refine (Shadows.log _ _).bind fun _ => ?_
      split <;> exact .pure rfl
    · split <;> exact .pure rfl

theorem agrees_fresh : Agrees (Run.fresh : Run α NodeId) :=
  .modifyGet (fun _ => rfl) fun _ => .of_arenas rfl

theorem agrees_onto {node : NodeId → Parser α → Parser α} (inner : Except Refusal (Parser α)) :
    Agrees (onto node inner) := by
  cases inner with
  | error e => exact .pure rfl
  | ok p => exact agrees_fresh.bind fun _ => .pure rfl

theorem agrees_build (expr : Expr α) : Agrees expr.build := by
  induction expr with
  | ref name =>
    refine .consult (fun _ => rfl) fun s => ?_
    split <;> exact .pure rfl
  | literal text => exact agrees_fresh.bind fun _ => .pure rfl
  | pattern source options =>
    rw [build]
    refine (agrees_readPattern _ source options).bind fun result => ?_
    cases result with
    | error e => exact .pure rfl
    | ok p => exact agrees_fresh.bind fun _ => .pure rfl
  | map inner f ih | optional inner ih | star inner ih | exactly _ inner _ ih
  | named name inner ih => exact ih.bind agrees_onto
  | sequence keep left right ihl ihr | choice left right ihl ihr =>
    rw [build]
    refine ihl.bind fun r => ?_
    cases r with
    | error e => exact .pure rfl
    | ok p => exact ihr.bind agrees_onto
  | malformed message => exact .pure rfl

end Expr

/-! ## Steps -/

namespace Step

variable {calls : Calls α}

theorem agrees_withParser {expr : Expr α} {f : Parser α → Run α (Reply α)}
    (hf : ∀ p, Agrees (f p)) : Agrees (withParser expr f) := by
  refine expr.agrees_build.bind fun r => ?_
  cases r with
  | error e => exact .pure rfl
  | ok p => exact hf p

theorem agrees_withRule {name : String} {f : Rule → Run α (Reply α)}
    (hf : ∀ h, Agrees (f h)) : Agrees (withRule name f) := by
  refine .consult (fun _ => rfl) fun s => ?_
  split
  · exact hf _
  · exact .pure rfl

theorem agrees_withArena {name : String} {f : ArenaId → Run α (Reply α)}
    (hf : ∀ id, Agrees (f id)) : Agrees (withArena name f) := by
  refine .consult (fun _ => rfl) fun s => ?_
  split
  · exact hf _
  · exact .pure rfl

theorem agrees_withVisited {name : Option String} {f : Visited → Run α (β × Visited)}
    (hf : ∀ v, Agrees (f v)) : Agrees (withVisited name f) := by
  cases name with
  | none => exact (hf []).bind fun _ => .pure rfl
  | some name =>
    refine .consult (fun _ => rfl) fun s => (hf _).bind fun _ => ?_
    exact .bind (.change (fun _ => rfl) fun _ => rfl) fun _ => .pure rfl

theorem agrees_newRule (name arena : String) {slot : Slot α}
    (hcalm : ∀ d, slot.deferred = some d → Step.areCalm d.steps) :
    Agrees (newRule name arena slot) := by
  refine agrees_withArena fun id => ?_
  refine (Shadows.modifyGet (fun _ => rfl) fun _ => .addSlot id hcalm).bind fun h => ?_
  exact .bind (.change (fun _ => rfl) fun _ => rfl) fun _ => .pure rfl

theorem agrees_meaning (expr : Expr α) (p : Parser α) : Agrees (meaning expr p) := by
  cases expr with
  | ref name => exact .consult (fun _ => rfl) fun _ => .pure rfl
  | _ => exact .pure rfl

theorem agrees_debugText (hc : calls.Agree) (expr : Expr α) (p : Parser α) :
    Agrees (debugText calls expr p) := by
  refine (agrees_meaning expr p).bind fun b => ?_
  cases b with
  | rule h => exact .pure rfl
  | parser q => exact (p.agrees_label hc).bind fun _ => .pure rfl

/-- **A step that leaves arenas to their owners replies the same in a quiet session.** -/
theorem agrees_reply (hc : calls.Agree) :
    ∀ step : Step α, step.isCalm → Agrees (step.reply calls)
  | .bind name expr, _ => agrees_withParser fun p => (agrees_meaning expr p).bind fun _ =>
    .bind (.change (fun _ => rfl) fun _ => rfl) fun _ => .pure rfl
  | .identity expr, _ => agrees_withParser fun _ => .pure rfl
  | .label expr, _ => agrees_withParser fun p => (p.agrees_label hc).bind fun _ => .pure rfl
  | .debug expr, _ => agrees_withParser fun p =>
    (agrees_debugText hc expr p).bind fun _ => .pure rfl
  | .parse expr input, _ => agrees_withParser fun p => by
    refine (p.agrees_parse hc input).bind fun result => ?_
    split <;> exact .pure rfl
  | .parseAll expr input, _ => agrees_withParser fun p => by
    refine (p.agrees_parseAll hc input).bind fun result => ?_
    split <;> exact .pure rfl
  | .describe expr visited form, _ => agrees_withParser fun p => by
    refine (agrees_withVisited (p.agrees_describe hc)).bind fun d => ?_
    cases form with
    | _ => exact .pure rfl
  | .kind expr visited, _ => agrees_withParser fun p =>
    (agrees_withVisited (p.agrees_kind hc)).bind fun _ => .pure rfl
  | .source expr, _ => by
    rw [reply]
    split
    · exact agrees_withParser fun _ => .pure rfl
    · exact .pure rfl
  | .arenaSize name, _ =>
    agrees_withArena fun _ => .consult (fun _ => rfl) fun _ => .pure rfl
  | .declare name arena, _ => agrees_newRule name arena nofun
  | .defer name arena steps expr, hcalm => agrees_newRule name arena fun d hd => by
    obtain rfl := Option.some.inj hd
    exact hcalm
  | .define name expr, _ => agrees_withRule fun h => agrees_withParser fun p => by
    refine (h.agrees_define p).bind fun result => ?_
    split <;> exact .pure rfl
  | .isDefined name, _ => agrees_withRule fun h => h.agrees_isDefined.bind fun _ => .pure rfl
  | .force name, _ => agrees_withRule fun h => hc.force_bind (fun _ => .pure rfl)
    fun _ => .pure rfl
  | .report error, _ => .pure rfl
  | .exhibit count d, _ => .consult (fun _ => rfl) fun _ =>
    .bind (.change (fun _ => rfl) fun _ => rfl) fun _ => .pure rfl
  | .malformed message, _ => .pure rfl
  | .malformedAfter expr message, _ => agrees_withParser fun _ => .pure rfl

/-- A step that replies the same in a quiet session answers the same there. -/
theorem run_quiet_of_reply {step : Step α} {s : Session α}
    (hreply : step.reply calls (Session.quiet { s with builds := [], log := [] }) =
      (step.reply calls { s with builds := [], log := [] }).map fun x => (x.1, x.2.quiet)) :
    step.run calls s.quiet = (step.run calls s).map fun x => (x.1.quiet, x.2.quiet) := by
  have hstart : { s.quiet with builds := [], log := [] } =
      Session.quiet { s with builds := [], log := [] } := rfl
  rw [run_apply, run_apply, hstart, hreply]
  cases step.reply calls { s with builds := [], log := [] } <;> rfl

/-- What a step answers with is its reply, and the arenas are then as the reply left them. -/
theorem exists_reply_of_run {step : Step α} {s t : Session α} {answer : Answer α}
    (hrun : step.run calls s = some (answer, t)) :
    ∃ r u, step.reply calls { s with builds := [], log := [] } = some (r, u) ∧
      t.arenas = u.arenas := by
  rw [run_apply] at hrun
  obtain ⟨⟨r, u⟩, hu, heq⟩ := Option.map_eq_some_iff.1 hrun
  obtain ⟨-, rfl⟩ := Prod.mk.inj heq
  exact ⟨r, u, hu, rfl⟩

theorem shadows_run (hc : calls.Agree) {step : Step α} (hcalm : step.isCalm) :
    Shadows Answer.quiet (step.run calls) (step.run calls) := by
  intro s hs
  have hstart : s.Spares { s with builds := [], log := [] } := .of_arenas rfl
  obtain ⟨hreply, hspares⟩ := agrees_reply hc step hcalm _ (hstart.calm hs)
  refine ⟨run_quiet_of_reply hreply, fun answer t hrun => ?_⟩
  obtain ⟨reply, u, hu, harenas⟩ := exists_reply_of_run hrun
  exact (hstart.trans (hspares reply u hu)).trans (.of_arenas harenas)

theorem shadows_mapM (hc : calls.Agree) : ∀ {steps : List (Step α)}, areCalm steps →
    Shadows (List.map Answer.quiet) (steps.mapM (run calls)) (steps.mapM (run calls))
  | [], _ => .pure rfl
  | step :: steps, hcalm => by
    obtain ⟨hstep, hsteps⟩ := Bool.and_eq_true_iff.1 hcalm
    rw [List.mapM_cons]
    exact (shadows_run hc hstep).bind fun _ => (shadows_mapM hc hsteps).bind fun _ => .pure rfl

end Step

/-! ## Deferred definitions -/

/-- **A calm definition builds the same in a quiet session.** -/
theorem Deferred.agrees_build {calls : Calls α} (hc : calls.Agree) (d : Deferred α)
    (hcalm : Step.areCalm d.steps) : Agrees (d.build calls) := by
  have hreport (p : Parser α) (answers : List (Answer α)) (built : Except Refusal NodeId) :
      Shadows id
        (do modify fun s => { s with builds := s.builds ++ [⟨d.name, answers, built⟩] }; return p)
        (do
          modify fun s =>
            { s with builds := s.builds ++ [⟨d.name, answers.map Answer.quiet, built⟩] }
          return p : Run α (Parser α)) := by
    refine .bind (.change (fun s => ?_) fun _ => rfl) fun _ => .pure rfl
    rw [Session.quiet, Session.quiet, Answer.quietBuilds_append, Answer.quietBuilds,
      Answer.quietAll_eq, Answer.quietBuilds]
  refine (Step.shadows_mapM hc hcalm).bind fun answers => ?_
  refine Shadows.bind d.expr.agrees_build fun r => ?_
  cases r with
  | ok p => exact hreport p answers _
  | error e => exact Shadows.bind Expr.agrees_fresh fun id => hreport _ answers _

/-! ## Going deeper -/

/-- **What is done with parsers is the same in a quiet session**, however deep it goes. -/
theorem Calls.agree_upTo : ∀ n, (Calls.upTo n : Calls α).Agree
  | 0 =>
    { parse := fun _ _ => .failure
      parseAll := fun _ _ => .failure
      label := fun _ => .failure
      describe := fun _ _ => .failure
      kind := fun _ _ => .failure
      build := fun _ _ => .failure
      grows := fun _ _ _ _ => extends_build 0
      parse_label := fun _ _ _ _ => rfl }
  | n + 1 =>
    { parse := fun p => p.agrees_parse (agree_upTo n)
      parseAll := fun p => p.agrees_parseAll (agree_upTo n)
      label := fun p => p.agrees_label (agree_upTo n)
      describe := fun p => p.agrees_describe (agree_upTo n)
      kind := fun p => p.agrees_kind (agree_upTo n)
      build := fun d => d.agrees_build (agree_upTo n)
      grows := fun _ _ _ _ => extends_build (n + 1)
      parse_label := fun p x _ hs => p.parse_label (agree_upTo n) x hs }

/-! ## Scripts -/

/-- Whether the definitions that a step defers are calm.  The step itself may open and drop
arenas. -/
def Step.defersCalmly : Step α → Bool
  | .newArena _ | .dropArena _ => true
  | step => step.isCalm

namespace Session

variable {s : Session α}

/-- Nothing is deferred in a new session. -/
theorem Calm.new (logging : Bool) : Calm ({ logging := logging } : Session α) := nofun

theorem Calm.newArena (hs : s.Calm) (name : String) : (s.newArena name).Calm :=
  fun x slot d hslot => hs x slot d (slotOf?_newArena name x ▸ hslot)

theorem Calm.dropArena (hs : s.Calm) (name : String) : (s.dropArena name).Calm :=
  fun x slot d hslot => hs x slot d (slotOf?_dropArena name x ▸ hslot)

theorem quiet_dropArena (s : Session α) (name : String) :
    s.quiet.dropArena name = (s.dropArena name).quiet := by
  rw [Session.dropArena, Session.dropArena, show s.quiet.arenaNames = s.arenaNames from rfl]
  split <;> rfl

theorem quiet_newArena (s : Session α) (name : String) :
    s.quiet.newArena name = (s.newArena name).quiet := by
  rw [Session.newArena, Session.newArena, quiet_dropArena]
  rfl

end Session

namespace Step

variable {calls : Calls α} {s : Session α}

/-- **A step answers the same in a quiet session**, and leaves what is deferred calm. -/
theorem answer_quiet (hc : calls.Agree) (hs : s.Calm) {step : Step α} (hstep : step.defersCalmly) :
    step.run calls s.quiet = (step.run calls s).map (fun x => (x.1.quiet, x.2.quiet)) ∧
      ∀ answer t, step.run calls s = some (answer, t) → t.Calm := by
  have hstart : Session.Calm { s with builds := [], log := [] } :=
    (Session.Spares.of_arenas rfl).calm hs
  cases step with
  | newArena name =>
    refine ⟨run_quiet_of_reply ?_, fun answer t ht => ?_⟩
    · exact congrArg (fun t => some (Reply.done, t)) (Session.quiet_newArena _ name)
    · obtain ⟨_, _, hreply, harenas⟩ := exists_reply_of_run ht
      obtain ⟨-, rfl⟩ := Prod.mk.inj (Option.some.inj hreply)
      exact (Session.Spares.of_arenas harenas).calm (hstart.newArena name)
  | dropArena name =>
    refine ⟨run_quiet_of_reply ?_, fun answer t ht => ?_⟩
    · exact congrArg (fun t => some (Reply.dropped _, t)) (Session.quiet_dropArena _ name)
    · obtain ⟨_, _, hreply, harenas⟩ := exists_reply_of_run ht
      obtain ⟨-, rfl⟩ := Prod.mk.inj (Option.some.inj hreply)
      exact (Session.Spares.of_arenas harenas).calm (hstart.dropArena name)
  | _ =>
    obtain ⟨hrun, hspares⟩ := shadows_run hc hstep s hs
    exact ⟨hrun, fun answer t ht => (hspares answer t ht).calm hs⟩

theorem mapM_quiet (hc : calls.Agree) : ∀ {steps : List (Step α)} {s : Session α},
    (∀ step ∈ steps, step.defersCalmly) → s.Calm → steps.mapM (run calls) s.quiet =
      (steps.mapM (run calls) s).map fun x => (x.1.map Answer.quiet, x.2.quiet)
  | [], _, _, _ => rfl
  | step :: steps, s, hcalm, hs => by
    obtain ⟨hstep, hsteps⟩ := List.forall_mem_cons.1 hcalm
    obtain ⟨hrun, hafter⟩ := answer_quiet hc hs hstep
    rw [List.mapM_cons, Run.bind_apply, Run.bind_apply, hrun]
    cases hanswer : step.run calls s with
    | none => rfl
    | some x =>
      obtain ⟨answer, t⟩ := x
      have hrest := mapM_quiet hc hsteps (hafter answer t hanswer)
      rw [Option.map_some, Option.bind_some, Option.bind_some, Run.bind_apply, Run.bind_apply,
        hrest]
      cases steps.mapM (run calls) t <;> rfl

end Step

namespace Script

/-- **Logging does not change what is computed**, as long as deferred definitions leave arenas to
their owners: a script that is run with the logging off gives the answers that it gives with the
logging on, but for the records in them, and leads to the same session. -/
theorem run_quiet {steps : List (Step α)} {s : Session α}
    (hsteps : ∀ step ∈ steps, step.defersCalmly) (hs : s.Calm) :
    run steps s.quiet = (run steps s).map fun x => (x.1.map Answer.quiet, x.2.quiet) :=
  Step.mapM_quiet (Calls.agree_upTo (depth steps s)) hsteps hs

/-- A rule that is not needed before the right branch of a choice is parsed, with another rule that
is created while it is built. -/
def builtAhead : List (Step Empty) :=
  [.newArena "rules", .defer "x" "rules" [.declare "y" "rules"] (.literal ['a']),
    .parse (.choice (.literal ['b']) (.ref "x")) ['a']]

theorem builtAhead_quiet :
    (∀ step ∈ builtAhead, step.defersCalmly) ∧
      run builtAhead (Session.quiet { logging := true }) =
        (run builtAhead { logging := true }).map fun x => (x.1.map Answer.quiet, x.2.quiet) :=
  ⟨by decide, run_quiet (by decide) (.new true)⟩

/-- The same rule, but while it is built its arena is given up. -/
def droppedAhead : List (Step Empty) :=
  [.newArena "rules", .defer "x" "rules" [.dropArena "rules"] (.literal ['a']),
    .parse (.choice (.literal ['b']) (.ref "x")) ['a']]

/-- **A definition that drops its own arena** is told apart by the logging: built for its label, the
rule is gone by the time it is to parse. -/
theorem droppedAhead_differs :
    (answers true droppedAhead).map (·.map (·.reply)) ≠
      (answers false droppedAhead).map (·.map (·.reply)) := by
  intro h
  -- The last reply is an error with the logging on, and an output with the logging off.
  have hkinds := congrArg (Option.map (List.map Reply.ctorIdx)) h
  revert hkinds
  decide +kernel

end Script

end GrammarGraph
