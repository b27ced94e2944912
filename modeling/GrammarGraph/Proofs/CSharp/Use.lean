import GrammarGraph.Proofs.CSharp.Start
import GrammarGraph.Proofs.Derivation
import GrammarGraph.Proofs.Ownership
import GrammarGraph.Proofs.Script
import Mathlib.Data.List.Basic

/-!
# Proofs/CSharp/Use — sessions in which the grammar is in use

    start ──request──▸ session ──request──▸ session ──…

Whoever has the grammar asks for its rules, in any order and as often as they like: parses, labels,
descriptions, definitions.  None of this changes what the names of the grammar stand for, and the
one thing it does to a rule is to build the generic arguments (`InUse.live`).  They may also try to
define its rules anew; this is refused, and takes no more than identities (`Served.live`).
-/

namespace GrammarGraph

/-- Whether a step asks something of a name, rather than giving a name to something. -/
def Step.isRequest {α : Type} : Step α → Bool
  | .identity (.ref _) | .label (.ref _) | .debug (.ref _) | .parse (.ref _) _
  | .parseAll (.ref _) _ | .describe (.ref _) _ _ | .kind (.ref _) _ | .force _ | .isDefined _ =>
    true
  | _ => false

namespace CSharp

open Discipline Rules

/-- **Sessions in which the grammar is in use.** -/
inductive InUse : Session Value → Prop
  | start {logging log s} (h : Grammar.start logging = some (log, s)) : InUse s
  | step {n s answer t} {step : Step Value} (hs : InUse s) (hstep : step.isRequest)
      (h : step.run (Calls.upTo n) s = some (answer, t)) : InUse t

theorem Live.congr {s t : Session Value} (h : Live s) (ha : t.arenas = s.arenas)
    (hb : t.bindings = s.bindings) : Live t := by
  cases h with
  | pending hn hs => exact .pending (hb.trans hn) (ha.trans hs)
  | built id hn hs => exact .built id (hb.trans hn) (ha.trans hs)

/-- Only the further arguments are ever renamed. -/
theorem Live.lookup_of_ne {s : Session Value} (hs : Live s) {name : String}
    (hname : name ≠ "further arguments") : s.bindings.lookup name = names.lookup name := by
  cases hs with
  | pending hb _ => rw [hb]
  | built _ hb _ =>
    rw [hb, Session.rename, List.lookup_cons, beq_false_of_ne hname, Session.lookup_filter,
      if_neg hname]

/-! ## Requests -/

/-- The discipline of sessions with the grammar. -/
abbrev staying : Discipline Value := Discipline.keeping Live fun _ _ => Live.log

theorem staying_respects (n : Nat) : staying.Respects (Calls.upTo n) :=
  (keeping_defines (fun _ _ => Live.log) keeps_force).respects n

/-- Anything may be read. -/
theorem staying_read {β : Type} {f : Session Value → Run Value β} {R : Unit → β → Prop}
    (hf : ∀ s, staying.Does () (f s) R) : staying.Does () (get >>= f) R :=
  Run.Keeps.read hf

section Requests

variable {name : String} {calls : Calls Value}

theorem runs_withParser {f : Parser Value → Run Value (Reply Value)}
    (hf : ∀ p, staying.Runs () (f p)) : staying.Runs () (Step.withParser (.ref name) f) := by
  rw [Step.withParser, Expr.build, bind_assoc]
  refine staying_read fun s => ?_
  split
  · exact hf _
  · exact hf _
  · exact runs_pure

theorem runs_withRule {f : Rule → Run Value (Reply Value)} (hf : ∀ h, staying.Runs () (f h)) :
    staying.Runs () (Step.withRule name f) := by
  refine staying_read fun s => ?_
  split
  · exact hf _
  · exact runs_pure

theorem runs_withVisited {β : Type} {visited : Option String}
    {f : Visited → Run Value (β × Visited)} (hf : ∀ v, staying.Runs () (f v)) :
    staying.Runs () (Step.withVisited visited f) := by
  cases visited with
  | none => exact (hf []).bind fun _ _ _ => runs_pure
  | some name =>
    refine staying_read fun s => (hf _).bind fun _ _ _ => ?_
    exact Runs.bind (Run.Keeps.modify fun _ h => h.congr rfl rfl) fun _ _ _ => runs_pure

theorem runs_debugText (hc : staying.Respects calls) (p : Parser Value) :
    staying.Runs () (Step.debugText calls (.ref name) p) := by
  refine staying_read fun s => ?_
  split
  · exact runs_pure
  · exact (label hc p trivial).bind fun _ _ _ => runs_pure

theorem runs_isDefined (h : Rule) : staying.Runs () h.isDefined := by
  intro s b t hs hb
  exact ⟨Rule.of_isDefined hb ▸ hs, trivial⟩

/-- **A request leaves the grammar as it is.** -/
theorem runs_reply (hc : staying.Respects calls) : ∀ {step : Step Value}, step.isRequest →
    staying.Runs () (step.reply calls)
  | .identity (.ref _), _ => runs_withParser fun _ => runs_pure
  | .label (.ref _), _ => runs_withParser fun p =>
    (label hc p trivial).bind fun _ _ _ => runs_pure
  | .debug (.ref _), _ => runs_withParser fun p =>
    (runs_debugText hc p).bind fun _ _ _ => runs_pure
  | .parse (.ref _) s, _ => runs_withParser fun p => by
    refine (parse hc p s trivial).bind fun _ result _ => ?_
    match result with
    | .ok (_, _) => exact runs_pure
    | .error _ => exact runs_pure
  | .parseAll (.ref _) s, _ => runs_withParser fun p => by
    refine (parseAll hc p s trivial).bind fun _ result _ => ?_
    match result with
    | .ok _ => exact runs_pure
    | .error _ => exact runs_pure
  | .describe (.ref _) visited form, _ => runs_withParser fun p => by
    refine (runs_withVisited fun v => describe hc p v trivial).bind fun _ _ _ => ?_
    cases form with
    | _ => exact runs_pure
  | .kind (.ref _) visited, _ => runs_withParser fun p =>
    (runs_withVisited fun v => kind hc p v trivial).bind fun _ _ _ => runs_pure
  | .force _, _ => runs_withRule fun h =>
    hc.force_bind trivial (fun _ _ _ => runs_pure) fun _ _ => runs_pure
  | .isDefined _, _ => runs_withRule fun h => (runs_isDefined h).bind fun _ _ _ => runs_pure

end Requests

/-- A step that leaves the grammar as it is does so with what is built and logged in it. -/
theorem Live.run {n : Nat} {s t : Session Value} {step : Step Value} {answer : Answer Value}
    (hs : Live s) (hreply : staying.Runs () (step.reply (Calls.upTo n)))
    (h : step.run (Calls.upTo n) s = some (answer, t)) : Live t := by
  rw [Step.run_apply] at h
  obtain ⟨⟨reply, u⟩, hu, ht⟩ := Option.map_eq_some_iff.1 h
  obtain ⟨-, rfl⟩ := Prod.mk.inj ht
  have hbegin : Live { s with builds := [], log := [] } := hs.congr rfl rfl
  exact (hreply _ _ _ hbegin hu).1.congr rfl rfl

/-- **The grammar stays what it is** however it is used. -/
theorem InUse.live {s : Session Value} (h : InUse s) : Live s := by
  induction h with
  | @start logging log s h =>
    obtain ⟨log', hstart⟩ := start_eq logging
    obtain ⟨-, rfl⟩ := Prod.mk.inj (Option.some.inj (hstart.symm.trans h))
    exact live_session logging
  | step _ hstep h ih => exact ih.run (runs_reply (staying_respects _) hstep) h

/-! ## Definitions that are refused -/

/-- No slot of the grammar is empty. -/
theorem Live.stage_ne_empty {s : Session Value} (hs : Live s) {h : Rule} {slot : Slot Value}
    (hslot : s.slot? h = some slot) : slot.stage ≠ .empty := by
  have hmem {slots : List (Slot Value)} (ha : s.arenas = [{ slots := slots }]) :
      slot ∈ slots := by
    rw [slot?_eq ha] at hslot
    split at hslot
    · exact List.mem_of_getElem? hslot
    · cases hslot
  cases hs with
  | pending _ ha =>
    obtain rfl | rfl := List.mem_pair.1 (hmem ha)
    · exact nofun
    · exact nofun
  | built _ _ ha =>
    obtain rfl | rfl := List.mem_pair.1 (hmem ha)
    · exact nofun
    · exact nofun

theorem keeps_define (h : Rule) (p : Parser Value) :
    Run.Keeps Live (h.define p) fun _ => True := by
  intro s r t hs hr
  cases r with
  | error e => exact ⟨Rule.of_define_error hr ▸ hs, trivial⟩
  | ok u =>
    obtain ⟨slot, hslot, hempty, -⟩ := Rule.of_define hr
    exact absurd hempty (hs.stage_ne_empty hslot)

theorem keeps_fresh : Run.Keeps Live (Run.fresh : Run Value NodeId) fun _ => True := by
  intro s id t hs h
  obtain ⟨-, rfl⟩ := Prod.mk.inj (Option.some.inj h)
  exact ⟨hs.congr rfl rfl, trivial⟩

theorem keeps_onto (node : NodeId → Parser Value → Parser Value)
    (inner : Except Refusal (Parser Value)) :
    Run.Keeps Live (Expr.onto node inner) fun _ => True := by
  cases inner with
  | error e => exact .pure trivial
  | ok p => exact keeps_fresh.bind fun _ _ => .pure trivial

/-- What is built of the rules of the grammar takes no more than identities. -/
theorem keeps_build (expr : Expr Value) : Run.Keeps Live expr.build fun _ => True := by
  induction expr with
  | ref name =>
    refine .read fun s => ?_
    split
    · exact .pure trivial
    · exact .pure trivial
    · exact .pure trivial
  | literal text => exact keeps_fresh.bind fun _ _ => .pure trivial
  | pattern source options =>
    have hread : Run.Keeps Live (Expr.readPattern Regex.library source options) fun _ => True :=
      readPattern (D := staying) (w := ()) _ source options
    refine hread.bind fun result _ => ?_
    cases result with
    | ok p => exact keeps_fresh.bind fun _ _ => .pure trivial
    | error e => exact .pure trivial
  | map inner f ih | optional inner ih | star inner ih | exactly _ inner _ ih
  | named name inner ih => exact ih.bind fun _ _ => keeps_onto _ _
  | sequence keep left right ihl ihr | choice left right ihl ihr =>
    refine ihl.bind fun result _ => ?_
    cases result with
    | ok p => exact ihr.bind fun _ _ => keeps_onto _ _
    | error e => exact .pure trivial
  | malformed message => exact .pure trivial

theorem keeps_reply_define (name : String) (expr : Expr Value) (calls : Calls Value) :
    Run.Keeps Live ((Step.define name expr).reply calls) fun _ => True := by
  refine .read fun s => ?_
  split
  · next h _ =>
    refine (keeps_build expr).bind fun result _ => ?_
    cases result with
    | error e => exact .pure trivial
    | ok p =>
      refine (keeps_define h p).bind fun result _ => ?_
      cases result with
      | ok u => exact .pure trivial
      | error e => exact .pure trivial
  · exact .pure trivial

/-- **Sessions in which the grammar has served**: it has been asked for its rules, and there have
been attempts to define them anew, by whatever could be built. -/
inductive Served : Session Value → Prop
  | inUse {s} (hs : InUse s) : Served s
  | request {n s answer t} {step : Step Value} (hs : Served s) (hstep : step.isRequest)
      (h : step.run (Calls.upTo n) s = some (answer, t)) : Served t
  | define {n s answer t} (name : String) (expr : Expr Value) (hs : Served s)
      (h : (Step.define name expr).run (Calls.upTo n) s = some (answer, t)) : Served t

/-- **The grammar stays what it is** whatever is tried. -/
theorem Served.live {s : Session Value} (h : Served s) : Live s := by
  induction h with
  | inUse hs => exact hs.live
  | request _ hstep h ih => exact ih.run (runs_reply (staying_respects _) hstep) h
  | define name expr _ h ih => exact ih.run (keeps_reply_define name expr _) h

end CSharp

end GrammarGraph
