import GrammarGraph.Proofs.Failure
import GrammarGraph.Proofs.Rule

/-!
# Proofs/Defect — defects are true, and arrive as they are

    E ══▸ ⋯ ══▸ F ✗          F comes upon a defect, E fails with that very error

Errors that blame the grammar are put into no context.  So such an error is the same wherever it is
seen on its way out: it tells the label, the text and the fault of the evaluation that has come upon
the defect (`Detects`), and it arrives unless something on the way recovers from it.
-/

namespace GrammarGraph

variable {α : Type}

/-- Why a rule cannot be had. -/
theorem Rule.fault_mem {h : Rule} {build : Deferred α → Run α (Parser α)} {s t : Session α}
    {fault : Fault} (hf : h.force build s = some (.error fault, t)) :
    fault ∈ [Fault.undefined, .reentrant, .detached] := by
  have hstage := Rule.exists_force_error_iff.1 ⟨t, hf⟩
  match hslot : (s.slot? h).map Slot.stage with
  | none | some .empty | some .building =>
    rw [hslot] at hstage
    subst hstage
    decide
  | some (.built _) | some (.pending _) =>
    rw [hslot] at hstage
    exact hstage.elim

namespace Evaluation

variable {E F : Evaluation α} {e : ParseError} {t : Text}

/-- A defect is reported only where one has come out of what is run. -/
theorem isDefinition_of_report (h : (E.report F e).isDefinition) : e.isDefinition := by
  have hwithin {l : String} {s : Text} (h : (e.within l s).isDefinition) : e.isDefinition := by
    rw [ParseError.within] at h
    split at h
    · assumption
    · cases h
  obtain ⟨n, p, x, σ⟩ := E
  cases p with
  | sequence | choice | exactly | named => exact hwithin h
  | _ => exact h

/-- **The evaluation comes upon a defect at a text**: the item of a repetition has succeeded and
left the text as it was, or the rule has been forced and could not be had. -/
inductive Detects (E : Evaluation α) : Text → ParseError → Prop
  | stalled {id inner υ} {F : Evaluation α} (hE : E.parser = .star id inner) (hF : Enters E F)
      (hstay : F.Leaves F.input υ) :
      Detects E F.input
        (.definition (id.label Unary.star.tag) (Text.preview F.input) .zeroProgress)
  | refused {h fault σ} (hE : E.parser = .rule h)
      (hf : h.force (Calls.upTo E.depth).build E.session = some (.error fault, σ))
      (hfault : fault ∈ [Fault.undefined, .reentrant, .detached]) :
      Detects E E.input (.definition h.label (Text.preview E.input) fault)

theorem Detects.suffix (h : E.Detects t e) : t <:+ E.input := by
  cases h with
  | stalled _ hF _ => exact hF.suffix
  | refused => exact List.suffix_refl _

theorem Detects.isDefinition (h : E.Detects t e) : e.isDefinition := by
  cases h with
  | stalled | refused => rfl

/-- Whoever comes upon a defect fails with it. -/
theorem Detects.fails (h : E.Detects t e) : E.Fails e := by
  obtain ⟨n, p, x, σ⟩ := E
  cases h with
  | stalled hE hF hstay =>
    obtain rfl := hE
    cases hF with
    | star hturns => exact fails_of_raises (.stalled hturns hstay)
  | refused hE hf =>
    obtain rfl := hE
    exact fails_of_raises (.refused hf)

/-- A defect that is raised has been come upon. -/
theorem Raises.detects (h : E.Raises e) (hdefect : e.isDefinition) : ∃ t, E.Detects t e := by
  cases h with
  | literal | pattern => cases hdefect
  | stalled hturns hy => exact ⟨_, .stalled rfl (.star hturns) hy⟩
  | refused hf => exact ⟨_, .refused rfl hf (Rule.fault_mem hf)⟩

/-- What is exposed is given an end of the text. -/
theorem suffix_of_exposes (h : Relation.ReflTransGen Exposes E F) : F.input <:+ E.input := by
  induction h with
  | refl => exact List.suffix_refl _
  | tail _ hF ih => exact hF.enters.suffix.trans ih

/-- **A defect arrives as it is**, if nothing on the way recovers from it. -/
theorem fails_of_isDefinition (h : Relation.ReflTransGen Exposes E F) (hF : F.Fails e)
    (hdefect : e.isDefinition) : E.Fails e := by
  induction h using Relation.ReflTransGen.head_induction_on with
  | refl => exact hF
  | @head E G hG _ ih => exact report_of_isDefinition hdefect E G ▸ fails_of_exposes hG ih

/-- **A defect has been come upon** by something that the parse does not recover from. -/
theorem exists_detects_of_fails (h : E.Fails e) (hdefect : e.isDefinition) :
    ∃ F t, Relation.ReflTransGen Exposes E F ∧ F.Detects t e := by
  induction E using wellFounded_enters.induction generalizing e with
  | _ E ih =>
    obtain hraises | ⟨F, c, hF, hc, rfl⟩ := fails_iff.1 h
    · obtain ⟨t, ht⟩ := hraises.detects hdefect
      exact ⟨E, t, .refl, ht⟩
    · have hdefect := isDefinition_of_report hdefect
      obtain ⟨G, t, hG, ht⟩ := ih F hF.enters hc hdefect
      rw [report_of_isDefinition hdefect]
      exact ⟨G, t, .head hF hG, ht⟩

/-- **Defects are true, and arrive as they are**: a parse fails with an error that blames the
grammar if and only if something that it runs, and does not recover from, has come upon the defect
that the error tells of, at an end of the input; and such an error of anything it runs and does not
recover from is its own error. -/
theorem defects_arrive (E : Evaluation α) :
    (∀ e, E.Fails e ∧ e.isDefinition ↔
      ∃ F t, Relation.ReflTransGen Exposes E F ∧ t <:+ E.input ∧ F.Detects t e) ∧
    ∀ F e, Relation.ReflTransGen Exposes E F → F.Fails e → e.isDefinition → E.Fails e := by
  refine ⟨fun e => ⟨?_, ?_⟩, fun F e => fails_of_isDefinition⟩
  · rintro ⟨h, hdefect⟩
    obtain ⟨F, t, hF, ht⟩ := exists_detects_of_fails h hdefect
    exact ⟨F, t, hF, ht.suffix.trans (suffix_of_exposes hF), ht⟩
  · rintro ⟨F, t, hF, -, ht⟩
    exact ⟨fails_of_isDefinition hF ht.fails ht.isDefinition, ht.isDefinition⟩

/-- A rule that is being built. -/
def underway : Session Empty := { arenas := [{ slots := [{ forcing := true }], builds := 1 }] }

/-- The rule is the second branch of a choice, under a name.  That it is being built is told of the
rule, and neither of the name nor of the choice. -/
theorem defects_arrive_underway :
    let E : Evaluation Empty :=
      ⟨0, .choice 3 (.literal 1 ['x']) (.named 2 "again" (.rule ⟨0, 0, 0⟩)), ['y'], underway⟩
    let F : Evaluation Empty := ⟨0, .rule ⟨0, 0, 0⟩, ['y'], underway⟩
    Relation.ReflTransGen Exposes E F ∧ F.Fails (.definition "lazy#0" ['y'] .reentrant) ∧
      E.Fails (.definition "lazy#0" ['y'] .reentrant) := by
  intro E F
  have hleft : (Parser.literal 1 ['x']).parse (Calls.upTo 0) ['y'] underway =
      some (.error (.mismatch "\"x\"" ['y']), underway) := rfl
  have hF : Relation.ReflTransGen Exposes E F := .head (.second hleft rfl) (.head .named .refl)
  have hfails : F.Fails (.definition "lazy#0" ['y'] .reentrant) := ⟨underway, rfl⟩
  exact ⟨hF, hfails, (defects_arrive E).2 F _ hF hfails rfl⟩

end Evaluation

end GrammarGraph
