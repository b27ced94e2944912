import GrammarGraph.Proofs.Rule
import GrammarGraph.Proofs.Script

/-!
# Proofs/Building — what expressions build and steps bind

    e, from identity i ──build──▸ p, up to identity j

In a session with given names an expression builds the same parser from the same identity on, and
does nothing else (`Expr.Builds`).  There is one rule for each kind of expression, so that what a
script builds can be read off it.
-/

namespace GrammarGraph

variable {α : Type} {names : List (String × Binding α)} {i j k : NodeId} {e e' : Expr α}
  {p q : Parser α} {s t : Session α}

namespace Expr

/-- **The expression builds this parser** in a session with these names, out of the identities
from `i` up to `j`. -/
def Builds (names : List (String × Binding α)) (e : Expr α) (i : NodeId) (p : Parser α)
    (j : NodeId) : Prop :=
  ∀ s : Session α, s.bindings = names → s.nextId = i →
    e.build s = some (.ok p, { s with nextId := j })

namespace Builds

theorem ref {name : String} (hname : names.lookup name = some (.parser p)) :
    Builds names (.ref name) i (.boxed p) i := by
  rintro s rfl rfl
  rw [build, Run.get_bind, hname]
  rfl

theorem rule {name : String} {h : Rule} (hname : names.lookup name = some (.rule h)) :
    Builds names (.ref name) i (.boxed (.rule h)) i := by
  rintro s rfl rfl
  rw [build, Run.get_bind, hname]
  rfl

theorem literal {text : Text} : Builds names (.literal text) i (.literal i text) (i + 1) := by
  rintro s - rfl
  rfl

theorem pattern {source : String} {options : Pattern.Options} {r : Pattern}
    (hread : readPattern Regex.library source options =
      (pure (.ok r) : Run α (Except GrammarError Pattern))) :
    Builds names (.pattern source options) i (.pattern i r) (i + 1) := by
  rintro s - rfl
  rw [build, hread]
  rfl

theorem map {f : Output α → Output α} (h : Builds names e i p j) :
    Builds names (.map e f) i (.map j p f) (j + 1) :=
  fun s hnames hid => Run.bind_of_eq_some (h s hnames hid)

theorem optional (h : Builds names e i p j) :
    Builds names (.optional e) i (.optional j p) (j + 1) :=
  fun s hnames hid => Run.bind_of_eq_some (h s hnames hid)

theorem star (h : Builds names e i p j) : Builds names (.star e) i (.star j p) (j + 1) :=
  fun s hnames hid => Run.bind_of_eq_some (h s hnames hid)

theorem named {name : String} (h : Builds names e i p j) :
    Builds names (.named name e) i (.named j name p) (j + 1) :=
  fun s hnames hid => Run.bind_of_eq_some (h s hnames hid)

theorem sequence {keep : Keep} (h : Builds names e i p j) (h' : Builds names e' j q k) :
    Builds names (.sequence keep e e') i (.sequence k keep p q) (k + 1) := fun s hnames hid =>
  (Run.bind_of_eq_some (h s hnames hid)).trans
    (Run.bind_of_eq_some (h' { s with nextId := j } hnames rfl))

theorem choice (h : Builds names e i p j) (h' : Builds names e' j q k) :
    Builds names (.choice e e') i (.choice k p q) (k + 1) := fun s hnames hid =>
  (Run.bind_of_eq_some (h s hnames hid)).trans
    (Run.bind_of_eq_some (h' { s with nextId := j } hnames rfl))

end Builds

end Expr

theorem Rule.define_of_empty {h : Rule} (hempty : (s.slot? h).map Slot.stage = some .empty) :
    h.define p s = some (.ok (), s.changeSlot h fun slot => (slot.store p).2) := by
  rw [define_apply, hempty]

namespace Step

variable {calls : Calls α} {step : Step α} {steps : List (Step α)}

theorem withParser_of_builds (h : e.Builds s.bindings s.nextId p j)
    (f : Parser α → Run α (Reply α)) : withParser e f s = f p { s with nextId := j } := by
  rw [withParser, Run.bind_of_eq_some (h s rfl rfl)]

theorem withRule_of_lookup {name : String} {h : Rule}
    (hname : s.bindings.lookup name = some (.rule h)) (f : Rule → Run α (Reply α)) :
    withRule name f s = f h s := by
  rw [withRule, Run.get_bind, hname]

/-- **A name is given to what the expression builds.** -/
theorem run_bind (h : e.Builds s.bindings s.nextId p j)
    (hmeaning : ∀ s, meaning e p s = some (.parser p, s)) (name : String) :
    (Step.bind name e).run calls s =
      some (⟨.identity p.id, [], []⟩, { s.bind name (.parser p) with nextId := j }) := by
  rw [run_apply, reply, withParser_of_builds (s := { s with builds := [], log := [] }) h,
    Run.bind_of_eq_some (hmeaning _)]
  rfl

/-- **A rule that is not defined yet is defined** as what the expression builds. -/
theorem run_define {name : String} {h : Rule} (hname : s.bindings.lookup name = some (.rule h))
    (hempty : (s.slot? h).map Slot.stage = some .empty)
    (hbuilds : e.Builds s.bindings s.nextId p j) : (Step.define name e).run calls s =
      some (⟨.accepted, [], []⟩,
        { s.changeSlot h fun slot => (slot.store p).2 with nextId := j }) := by
  have hdefine := Rule.define_of_empty (s := { s with nextId := j, builds := [], log := [] })
    (p := p) hempty
  rw [run_apply, reply, withRule_of_lookup (s := { s with builds := [], log := [] }) hname,
    withParser_of_builds (s := { s with builds := [], log := [] }) hbuilds,
    Run.bind_of_eq_some hdefine]
  rfl

/-- A rule that can be had is forced. -/
theorem run_force {name : String} {h : Rule} (hname : s.bindings.lookup name = some (.rule h))
    (hforce : h.force calls.build { s with builds := [], log := [] } = some (.ok p, t)) :
    (Step.force name).run calls s =
      some (⟨.identity p.id, t.builds, t.log⟩, { t with builds := s.builds, log := s.log }) := by
  rw [run_apply, reply, withRule_of_lookup (s := { s with builds := [], log := [] }) hname,
    Run.bind_of_eq_some hforce]
  rfl

/-- The session after some steps is that after the others, if the first leads to it. -/
theorem mapM_run_cons {a : Answer α} (h : step.run calls s = some (a, t)) :
    ((step :: steps).mapM (run calls) s).map (·.2) = (steps.mapM (run calls) t).map (·.2) := by
  rw [List.mapM_cons, Run.bind_of_eq_some h]
  exact Run.map_snd_bind_pure

end Step

/-- **What a definition builds**, once its steps have been carried out. -/
theorem Deferred.build_of_builds {calls : Calls α} {d : Deferred α} {answers : List (Answer α)}
    (hsteps : d.steps.mapM (Step.run calls) s = some (answers, t))
    (h : d.expr.Builds t.bindings t.nextId p j) : d.build calls s =
      some (p, { t with nextId := j, builds := t.builds ++ [⟨d.name, answers, .ok p.id⟩] }) := by
  rw [Deferred.build, Run.bind_of_eq_some hsteps]
  dsimp only
  rw [Run.bind_of_eq_some (h t rfl rfl)]
  rfl

end GrammarGraph
