import GrammarGraph.Proofs.Engine

/-!
# Proofs/Script — what holds of the steps of scripts

Scripts do more than the engine: they give out identities and names, open and drop arenas, create
rules and define them.  A `ScriptDiscipline` says of these pieces what a `Discipline` says of those
of the engine, and it passes on to expressions, steps, whole scripts and deferred definitions.

Scripts call things by their names (`Mention`), and a discipline may be one of those scripts only
that mention no more than is allowed.

Forcing a rule is a piece as well: it is as the discipline says if building a definition is.  This
is what lets the knot of parsing and building be tied once (`ScriptDiscipline.upTo`).
-/

namespace GrammarGraph

variable {α β : Type}

/-- The parser that a name stands for. -/
def Binding.toParser : Binding α → Parser α
  | .parser p => p
  | .rule h => .rule h

/-- Whether a parser is a node, rather than a box or a handle. -/
def Parser.isNode : Parser α → Bool
  | .boxed _ | .rule _ => false
  | _ => true

/-! ## What scripts mention -/

/-- Something that a script calls by its name. -/
inductive Mention
  | parser (name : String)
  | arena (name : String)
deriving DecidableEq, Repr

/-- What an expression calls by its name. -/
def Expr.mentions : Expr α → List Mention
  | .ref name => [.parser name]
  | .literal _ | .pattern _ _ | .malformed _ => []
  | .map inner _ | .optional inner | .star inner | .exactly _ inner _ | .named _ inner =>
    inner.mentions
  | .sequence _ left right | .choice left right => left.mentions ++ right.mentions

mutual

/-- What a step calls by its name, the steps inside it included.  A name that is only given is not
called. -/
def Step.mentions : Step α → List Mention
  | .bind _ expr | .identity expr | .label expr | .debug expr | .parse expr _ | .parseAll expr _
  | .describe expr _ _ | .kind expr _ | .source expr | .malformedAfter expr _ => expr.mentions
  | .newArena arena | .dropArena arena | .arenaSize arena | .declare _ arena => [.arena arena]
  | .defer _ arena steps expr => .arena arena :: (Step.mentionsIn steps ++ expr.mentions)
  | .define name expr => .parser name :: expr.mentions
  | .isDefined name | .force name => [.parser name]
  | .report _ | .exhibit _ _ | .malformed _ => []

/-- What a list of steps calls by its name. -/
def Step.mentionsIn : List (Step α) → List Mention
  | [] => []
  | step :: rest => step.mentions ++ Step.mentionsIn rest

end

/-- What a deferred definition calls by its name. -/
def Deferred.mentions (d : Deferred α) : List Mention := Step.mentionsIn d.steps ++ d.expr.mentions

/-- **Sessions that scripts cannot tell apart**, if they mention no more than is allowed. -/
structure Session.Resembles (allowed : Mention → Prop) (s t : Session α) : Prop where
  nextId : s.nextId = t.nextId
  bindings : s.bindings = t.bindings
  visitedSets : s.visitedSets = t.visitedSets
  log : s.log = t.log
  builds : s.builds = t.builds
  names : ∀ name, allowed (.arena name) → s.arenaNames.lookup name = t.arenaNames.lookup name
  sizes : ∀ id : ArenaId, s.arenas[id]?.map (fun a => a.slots.length) =
    t.arenas[id]?.map (fun a => a.slots.length)

/-! ## Disciplines of scripts -/

/-- **What can be said of scripts** and passes from pieces to what is made of them. -/
structure ScriptDiscipline (α : Type) extends Discipline α where
  /-- What may be called by its name. -/
  Allows : Mention → Prop
  /-- In the world, rules may be created in the arena. -/
  Admits : World → ArenaId → Prop
  holds_box : ∀ {w p}, Holds w p → Holds w (.boxed p)
  /-- What the names of a session stand for is known. -/
  consult : ∀ {β w} {f : Session α → Run α β} {R}, (∀ s t, s.Resembles Allows t → f s = f t) →
    (∀ s, (∀ name b, Allows (.parser name) → s.bindings.lookup name = some b →
        Holds w b.toParser) →
      (∀ name id, Allows (.arena name) → s.arenaNames.lookup name = some id → Admits w id) →
        Does w (f s) R) → Does w (get >>= f) R
  /-- A new node, made of parts that are known. -/
  fresh : ∀ {w} {node : NodeId → Parser α}, (∀ id, (node id).isNode ∧ (node id).id = id) →
    (∀ id, ∀ c ∈ (node id).parts, Holds w c) → Does w Run.fresh fun v id => Holds v (node id)
  /-- Identities that are not used for anything. -/
  skip : ∀ {w} (count : Nat),
    Does w (modify fun s => { s with nextId := s.nextId + count }) fun _ _ => True
  /-- Changes to what has been visited, built and logged. -/
  change : ∀ {w} (f : List (String × Visited) → List (String × Visited))
    (g : List (Build (Answer α)) → List (Build (Answer α))) (k : List LogRecord → List LogRecord),
    Does w (modify fun s =>
      { s with visitedSets := f s.visitedSets, builds := g s.builds, log := k s.log })
      fun _ _ => True
  bindName : ∀ {w} (name : String) {b : Binding α}, Holds w b.toParser →
    Does w (modify (·.bind name b)) fun _ _ => True
  newArena : ∀ {w name}, Allows (.arena name) → Does w (modify (·.newArena name)) fun _ _ => True
  dropArena : ∀ {w name}, Allows (.arena name) →
    Does w (modify (·.dropArena name)) fun _ _ => True
  /-- A new rule, with or without a deferred definition. -/
  addSlot : ∀ {w arena} {deferred : Option (Deferred α)}, Admits w arena →
    (∀ d, deferred = some d → ∀ m ∈ d.mentions, Allows m) →
    Does w (modifyGet (·.addSlot arena { deferred := deferred })) fun v h => Holds v (.rule h)
  define : ∀ {w h p}, Holds w (.rule h) → Holds w p → Does w (h.define p) fun _ _ => True
  isDefined : ∀ {w h}, Holds w (.rule h) → Does w h.isDefined fun _ _ => True
  force : ∀ {build : Deferred α → Run α (Parser α)},
    (∀ w d, (∀ m ∈ d.mentions, Allows m) → Does w (build d) Holds) →
    ∀ {w h}, Holds w (.rule h) →
      Does w (h.force build) fun v r => ∀ p, r = .ok p → Holds v p

/-- A pattern is read without anything but the log being touched. -/
theorem Discipline.readPattern {D : Discipline α} {w : D.World} (library : Pattern.Library)
    (source : String) (options : Pattern.Options) :
    D.Runs w (Expr.readPattern library source options) := by
  rw [Expr.readPattern]
  cases library.read? options source with
  | none => exact runs_pure
  | some expression =>
    dsimp only
    split
    · refine Runs.bind (D.log _ _) fun _ _ _ => ?_
      split <;> exact runs_pure
    · split <;> exact runs_pure

namespace ScriptDiscipline

open Discipline

variable {D : ScriptDiscipline α} {calls : Calls α}

variable (D) in
/-- No more is mentioned than is allowed. -/
abbrev Permits (mentions : List Mention) : Prop := ∀ m ∈ mentions, D.Allows m

/-- Anything may be read where nothing needs to be known of it. -/
theorem look {w : D.World} {f : Session α → Run α β} {R : D.World → β → Prop}
    (hsame : ∀ s t, s.Resembles D.Allows t → f s = f t) (hf : ∀ s, D.Does w (f s) R) :
    D.Does w (get >>= f) R :=
  D.consult hsame fun s _ _ => hf s

/-! ## Expressions -/

/-- A new node on top of parts that are known. -/
theorem fresh_node {w : D.World} {node : NodeId → Parser α}
    (hnode : ∀ id, (node id).isNode ∧ (node id).id = id)
    (hparts : ∀ id, ∀ c ∈ (node id).parts, D.Holds w c) :
    D.Yields w (do return .ok (node (← Run.fresh)) : Run α (Except Refusal (Parser α))) := by
  refine D.bind (D.fresh hnode hparts) fun v id _ hid => D.pure ?_
  rintro _ ⟨⟩
  exact hid

theorem onto {w : D.World} {node : NodeId → Parser α → Parser α} {inner : Except Refusal (Parser α)}
    (hnode : ∀ p id, (node id p).isNode ∧ (node id p).id = id)
    (hparts : ∀ p, inner = .ok p → ∀ id, ∀ c ∈ (node id p).parts, D.Holds w c) :
    D.Yields w (Expr.onto node inner) := by
  cases inner with
  | error e => exact D.pure nofun
  | ok p => exact fresh_node (hnode p) (hparts p rfl)

/-- **An expression builds a parser that is known.** -/
theorem build (expr : Expr α) (hexpr : D.Permits expr.mentions) :
    ∀ {w : D.World}, D.Yields w expr.build := by
  induction expr with
  | ref name =>
    intro w
    have hname : D.Allows (.parser name) := hexpr _ (List.mem_singleton_self _)
    refine D.consult (fun s t h => by rw [h.bindings]) fun s hs _ => ?_
    match h : s.bindings.lookup name with
    | none => exact D.pure nofun
    | some (.parser p) =>
      refine D.pure ?_
      rintro _ ⟨⟩
      exact D.holds_box (hs name _ hname h)
    | some (.rule r) =>
      refine D.pure ?_
      rintro _ ⟨⟩
      exact D.holds_box (hs name _ hname h)
  | literal text => exact fresh_node (fun _ => ⟨rfl, rfl⟩) (fun _ => nofun)
  | pattern source options =>
    intro w
    rw [Expr.build]
    refine (readPattern _ source options).bind fun v result _ => ?_
    cases result with
    | error e => exact D.pure nofun
    | ok p => exact fresh_node (fun _ => ⟨rfl, rfl⟩) (fun _ => nofun)
  | map inner f ih | optional inner ih | star inner ih | exactly _ inner _ ih
  | named name inner ih =>
    intro w
    rw [Expr.build]
    refine D.bind (ih hexpr) fun v r _ hr => onto (fun _ _ => ⟨rfl, rfl⟩) fun p hp id c hc => ?_
    obtain rfl := List.mem_singleton.1 hc
    exact hr c hp
  | sequence keep left right ihl ihr | choice left right ihl ihr =>
    intro w
    obtain ⟨hleft, hright⟩ := List.forall_mem_append.1 hexpr
    rw [Expr.build]
    refine D.bind (ihl hleft) fun v r _ hl => ?_
    cases r with
    | error e => exact D.pure nofun
    | ok p =>
      refine D.bind (ihr hright) fun v' r hv hr =>
        onto (fun _ _ => ⟨rfl, rfl⟩) fun q hq id c hc => ?_
      obtain rfl | hc := List.mem_cons.1 hc
      · exact D.holds_mono hv (hl c rfl)
      · obtain rfl := List.mem_singleton.1 hc
        exact hr c hq
  | malformed message => exact D.pure nofun

/-! ## Steps -/

section Steps

variable {w : D.World}

theorem withParser {expr : Expr α} (hexpr : D.Permits expr.mentions)
    {f : Parser α → Run α (Reply α)} (hf : ∀ v p, D.Grows w v → D.Holds v p → D.Runs v (f p)) :
    D.Runs w (Step.withParser expr f) := by
  refine D.bind (build expr hexpr) fun v r hv hr => ?_
  cases r with
  | error e => exact runs_pure
  | ok p => exact hf v p hv (hr p rfl)

theorem withRule {name : String} (hname : D.Allows (.parser name)) {f : Rule → Run α (Reply α)}
    (hf : ∀ h, D.Holds w (.rule h) → D.Runs w (f h)) : D.Runs w (Step.withRule name f) := by
  refine D.consult (fun s t h => by rw [h.bindings]) fun s hs _ => ?_
  match h : s.bindings.lookup name with
  | some (.rule r) => exact hf r (hs name _ hname h)
  | some (.parser _) => exact runs_pure
  | none => exact runs_pure

theorem withArena {name : String} (hname : D.Allows (.arena name))
    {f : ArenaId → Run α (Reply α)} (hf : ∀ id, D.Admits w id → D.Runs w (f id)) :
    D.Runs w (Step.withArena name f) := by
  refine D.consult (fun s t h => by rw [h.names name hname]) fun s _ hs => ?_
  match h : s.arenaNames.lookup name with
  | some id => exact hf id (hs name id hname h)
  | none => exact runs_pure

theorem withVisited {name : Option String} {f : Visited → Run α (β × Visited)}
    (hf : ∀ v, D.Runs w (f v)) : D.Runs w (Step.withVisited name f) := by
  cases name with
  | none => exact (hf []).bind fun _ _ _ => runs_pure
  | some name =>
    refine look (fun s t h => by rw [h.visitedSets]) fun s => (hf _).bind fun _ x _ => ?_
    exact Runs.bind (D.change (Session.rename · name x.2) id id) fun _ _ _ => runs_pure

theorem newRule (name : String) {arena : String} {deferred : Option (Deferred α)}
    (harena : D.Allows (.arena arena)) (hdeferred : ∀ d, deferred = some d → D.Permits d.mentions) :
    D.Runs w (Step.newRule name arena { deferred := deferred }) := by
  refine withArena harena fun id hid => D.bind (D.addSlot hid hdeferred) fun v h _ hh => ?_
  exact Runs.bind (D.bindName name (b := .rule h) hh) fun _ _ _ => runs_pure

theorem meaning {expr : Expr α} (hexpr : D.Permits expr.mentions) {p : Parser α}
    (hp : D.Holds w p) : D.Does w (Step.meaning expr p) fun v b => D.Holds v b.toParser := by
  cases expr with
  | ref name =>
    refine D.consult (fun s t h => by rw [h.bindings]) fun s hs _ => D.pure ?_
    match h : s.bindings.lookup name with
    | none => exact hp
    | some b => exact hs name b (hexpr _ (List.mem_singleton_self _)) h
  | _ => exact D.pure hp

theorem debugText (hc : D.Respects calls) {expr : Expr α} (hexpr : D.Permits expr.mentions)
    {p : Parser α} (hp : D.Holds w p) : D.Runs w (Step.debugText calls expr p) := by
  refine D.bind (meaning hexpr hp) fun v b hv _ => ?_
  cases b with
  | rule h => exact runs_pure
  | parser q => exact (label hc p (D.holds_mono hv hp)).bind fun _ _ _ => runs_pure

/-- **A step is as the discipline says.** -/
theorem reply (hc : D.Respects calls) : ∀ step : Step α, D.Permits step.mentions →
    D.Runs w (step.reply calls)
  | .bind name expr, hs => withParser hs fun v p _ hp => D.bind (meaning hs hp) fun v' b _ hb =>
    Runs.bind (D.bindName name hb) fun _ _ _ => runs_pure
  | .identity expr, hs => withParser hs fun _ _ _ _ => runs_pure
  | .label expr, hs => withParser hs fun v p _ hp => (label hc p hp).bind fun _ _ _ => runs_pure
  | .debug expr, hs => withParser hs fun v p _ hp =>
    (debugText hc hs hp).bind fun _ _ _ => runs_pure
  | .parse expr input, hs => withParser hs fun v p _ hp => by
    refine (parse hc p input hp).bind fun v' result _ => ?_
    match result with
    | .ok (_, _) => exact runs_pure
    | .error _ => exact runs_pure
  | .parseAll expr input, hs => withParser hs fun v p _ hp => by
    refine (parseAll hc p input hp).bind fun v' result _ => ?_
    cases result with
    | ok _ => exact runs_pure
    | error _ => exact runs_pure
  | .describe expr visited form, hs => withParser hs fun v p _ hp => by
    refine (withVisited fun _ => describe hc p _ hp).bind fun v' d _ => ?_
    cases form with
    | _ => exact runs_pure
  | .kind expr visited, hs => withParser hs fun v p _ hp =>
    (withVisited fun _ => kind hc p _ hp).bind fun _ _ _ => runs_pure
  | .source expr, hs => by
    rw [Step.reply]
    split
    · exact withParser hs fun _ _ _ _ => runs_pure
    · exact runs_pure
  | .newArena name, hs =>
    Runs.bind (D.newArena (hs _ (List.mem_singleton_self _))) fun _ _ _ => runs_pure
  | .dropArena name, hs => by
    have hname := hs _ (List.mem_singleton_self _)
    exact look (fun s t h => by rw [h.names name hname]) fun _ =>
      Runs.bind (D.dropArena hname) fun _ _ _ => runs_pure
  | .arenaSize name, hs => withArena (hs _ (List.mem_singleton_self _)) fun id _ =>
    look (fun s t h => by rw [h.sizes id]) fun _ => runs_pure
  | .declare name arena, hs => newRule name (hs _ (List.mem_singleton_self _)) nofun
  | .defer name arena steps expr, hs => by
    obtain ⟨harena, hdeferred⟩ := List.forall_mem_cons.1 hs
    refine newRule name harena fun d hd => ?_
    obtain rfl := Option.some.inj hd
    exact hdeferred
  | .define name expr, hs => by
    obtain ⟨hname, hexpr⟩ := List.forall_mem_cons.1 hs
    refine withRule hname fun h hh => withParser hexpr fun v p hv hp => ?_
    refine Runs.bind (D.define (D.holds_mono hv hh) hp) fun v' result _ => ?_
    cases result with
    | ok _ => exact runs_pure
    | error _ => exact runs_pure
  | .isDefined name, hs => withRule (hs _ (List.mem_singleton_self _)) fun h hh =>
    Runs.bind (D.isDefined hh) fun _ _ _ => runs_pure
  | .force name, hs => withRule (hs _ (List.mem_singleton_self _)) fun h hh =>
    hc.force_bind hh (fun _ _ _ => runs_pure) fun _ _ => runs_pure
  | .report error, _ => runs_pure
  | .exhibit count d, _ => look (fun s t h => by rw [h.nextId]) fun _ =>
    Runs.bind (D.skip count) fun _ _ _ => runs_pure
  | .malformed message, _ => runs_pure
  | .malformedAfter expr message, hs => withParser hs fun _ _ _ _ => runs_pure

theorem run (hc : D.Respects calls) (step : Step α) (hstep : D.Permits step.mentions) :
    D.Runs w (step.run calls) := by
  refine look (fun s t h => by rw [h.builds, h.log]) fun outer =>
    Runs.bind (D.change id (fun _ => []) fun _ => []) fun v _ _ =>
      (reply hc step hstep).bind fun v' r _ =>
        look (fun s t h => by rw [h.builds, h.log]) fun inner => ?_
  exact Runs.bind (D.change id (fun _ => outer.builds) fun _ => outer.log) fun _ _ _ => runs_pure

theorem steps (hc : D.Respects calls) (steps : List (Step α))
    (hsteps : D.Permits (Step.mentionsIn steps)) : D.Runs w (steps.mapM (Step.run calls)) := by
  induction steps generalizing w with
  | nil => exact runs_pure
  | cons step steps ih =>
    obtain ⟨hstep, hsteps⟩ := List.forall_mem_append.1 hsteps
    rw [List.mapM_cons]
    exact (run hc step hstep).bind fun _ _ _ => (ih hsteps).bind fun _ _ _ => runs_pure

/-- **A deferred definition builds a parser that is known.** -/
theorem deferred (hc : D.Respects calls) (d : Deferred α) (hd : D.Permits d.mentions) :
    D.Does w (d.build calls) D.Holds := by
  obtain ⟨hsteps, hexpr⟩ := List.forall_mem_append.1 hd
  have hbuilt {v : D.World} {p : Parser α} (hp : D.Holds v p) (report : Build (Answer α)) :
      D.Does v (do modify fun s => { s with builds := s.builds ++ [report] }; return p) D.Holds :=
    D.bind (D.change id (· ++ [report]) id) fun v' _ hv _ => D.pure (D.holds_mono hv hp)
  refine (steps hc d.steps hsteps).bind fun v answers _ =>
    D.bind (build d.expr hexpr) fun v' r _ hr => ?_
  cases r with
  | ok p => exact hbuilt (hr p rfl) _
  | error e =>
    have hfresh : D.Does v' Run.fresh fun v id => D.Holds v (.literal id "<failed build>".toList) :=
      D.fresh (fun _ => ⟨rfl, rfl⟩) fun _ => nofun
    exact D.bind hfresh fun v'' id _ hid => hbuilt hid _

end Steps

/-! ## Going deeper -/

/-- **The knot is tied**: parsing and building are as the discipline says, however deep they go. -/
theorem upTo (D : ScriptDiscipline α) : ∀ n, D.Respects (Calls.upTo n : Calls α)
  | 0 => respects_zero (D.force fun _ _ _ => D.failure)
  | n + 1 => respects_succ (upTo D n) (D.force fun _ d hd => deferred (upTo D n) d hd)

end ScriptDiscipline

/-! ## Steps -/

namespace Step

variable {calls : Calls α} {s : Session α}

/-- **A step is its reply**, with what was built and logged in the meantime. -/
theorem run_apply (step : Step α) : step.run calls s =
    (step.reply calls { s with builds := [], log := [] }).map fun x =>
      (⟨x.1, x.2.builds, x.2.log⟩, { x.2 with builds := s.builds, log := s.log }) := by
  rw [run, Run.get_bind, Run.modify_bind, Run.bind_apply]
  cases step.reply calls { s with builds := [], log := [] } <;> rfl

theorem mapM_singleton (step : Step α) :
    [step].mapM (run calls) s = (step.run calls s).map fun x => ([x.1], x.2) := by
  rw [List.mapM_cons, Run.bind_apply]
  cases step.run calls s <;> rfl

/-- A name that stands for something. -/
theorem withParser_ref {name : String} {b : Binding α} {f : Parser α → Run α (Reply α)}
    (hname : s.bindings.lookup name = some b) :
    withParser (.ref name) f s = f (.boxed b.toParser) s := by
  rw [withParser, Expr.build, bind_assoc, Run.get_bind, hname]
  cases b <;> rfl

/-- A name that stands for a rule. -/
theorem withParser_rule {name : String} {h : Rule} {f : Parser α → Run α (Reply α)}
    (hname : s.bindings.lookup name = some (.rule h)) :
    withParser (.ref name) f s = f (.boxed (.rule h)) s :=
  withParser_ref hname

end Step

end GrammarGraph
