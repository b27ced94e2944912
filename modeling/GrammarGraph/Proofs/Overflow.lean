import GrammarGraph.Proofs.Depth

/-!
# Proofs/Overflow — a repetition without room breaks off all that it is run in

    E ──▸ ⋯ ──▸ F ──▸ no room          none of them has a result

A counted repetition makes room for its outputs before its first round.  Where there can be none,
it has no result, and neither has anything that runs it: nothing recovers from that, as it is no
failure (`Enters.run_eq_none`).
-/

namespace GrammarGraph

variable {α : Type}

namespace Evaluation

variable {E F : Evaluation α}

/-- **There is no room for the outputs** of the counted repetition that is run. -/
inductive Overflows : Evaluation α → Prop
  | intro {n id count inner x σ} (h : ¬count.Fits) : Overflows ⟨n, .exactly id count inner, x, σ⟩

theorem Overflows.run_eq_none (h : E.Overflows) : E.run = none := by
  obtain ⟨hfits⟩ := h
  rw [run, Parser.parse_exactly, if_neg hfits]
  rfl

/-- **What has no result leaves what runs it without one.** -/
theorem Enters.run_eq_none (h : Enters E F) (hF : F.run = none) : E.run = none := by
  rw [run] at hF ⊢
  cases h with
  | map | left | first | optional | named =>
    rw [Parser.parse]
    exact Run.bind_of_eq_none hF
  | right hleft =>
    obtain ⟨v, hleft⟩ := hleft
    rw [Parser.parse]
    exact (Run.bind_of_eq_some hleft).trans (Run.bind_of_eq_none hF)
  | second hleft ha =>
    rw [Parser.parse_choice]
    refine (Run.bind_of_eq_some hleft).trans ?_
    exact (Run.bind_of_eq_some ha).trans (Run.bind_of_eq_none hF)
  | @star n id inner k x y σ τ hturns =>
    obtain ⟨vs, -, htaken⟩ := hturns.exists_taken
    have hrounds : Parser.rounds (id.label Unary.star.tag) (inner.parse (Calls.upTo n)) x σ =
        none := by
      rw [Parser.rounds_of_taken htaken, Parser.rounds, Run.bind_of_eq_none hF, Option.map_none]
    rw [Parser.parse]
    exact Run.bind_of_eq_none hrounds
  | exactly hfits hk hturns =>
    obtain ⟨vs, rfl, htaken⟩ := hturns.exists_taken
    rw [Parser.parse_exactly, if_pos hfits]
    exact Run.bind_of_eq_none (Parser.countedRounds_eq_none htaken hk hF)
  | boxed => exact hF
  | rule hf =>
    rw [Parser.parse]
    exact (Run.bind_of_eq_some hf).trans hF

/-- So does what overflows, however far inside. -/
theorem run_eq_none_of_overflows (h : Relation.ReflTransGen Enters E F) (hF : F.Overflows) :
    E.run = none := by
  induction h using Relation.ReflTransGen.head_induction_on with
  | refl => exact hF.run_eq_none
  | head h _ ih => exact h.run_eq_none ih

end Evaluation

/-- A parser without a result has none on a text that is to be consumed whole. -/
theorem Parser.parseAll_eq_none_of_parse {n : Nat} {p : Parser α} {x : Text} {σ : Session α}
    (h : p.parse (Calls.upTo n) x σ = none) : p.parseAll (Calls.upTo n) x σ = none := by
  induction n using Nat.strongRecOn generalizing p σ with
  | _ n ih =>
    induction p with
    | boxed inner ihp => exact ihp h
    | rule handle =>
      rw [parse, Run.bind_apply] at h
      rw [parseAll, Run.bind_apply]
      cases hf : handle.force (Calls.upTo n).build σ with
      | none => rfl
      | some r =>
        rw [hf] at h
        obtain ⟨_ | q, τ⟩ := r
        · cases h
        · cases n with
          | zero => rfl
          | succ n => exact ih n (Nat.lt_succ_self n) h
    | star id inner =>
      rw [parse, Run.bind_apply] at h
      rw [parseAll]
      refine Run.bind_of_eq_none ?_
      cases hrounds : rounds (id.label Unary.star.tag) (inner.parse (Calls.upTo n)) x σ with
      | none => rfl
      | some r =>
        rw [hrounds] at h
        obtain ⟨_ | _, τ⟩ := r <;> cases h
    | literal | pattern | map | sequence | choice | optional | exactly | named =>
      exact Run.bind_of_eq_none h

end GrammarGraph
