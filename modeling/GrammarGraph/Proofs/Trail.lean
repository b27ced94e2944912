import GrammarGraph.Proofs.Blame

/-!
# Proofs/Trail — which node tells which link of an error

    E ══▸ F ══▸ G ══▸ H          evaluations, none recovered from
    e₀          e₁    e₂         links: that of E, that of G, and that of H, which has raised it

The error of a parse is a chain, and each of its links is told by one node.  Nodes that pass errors
on as they are tell none.  `Trail` says who has told what; there is a trail for every failure
(`exists_trail`), and it covers the chain (`Trail.chain_eq`).
-/

namespace GrammarGraph

variable {α : Type}

namespace Evaluation

variable {E F : Evaluation α} {e c : ParseError} {links : List (Parser α × ParseError)}

/-- What a parse fails with blames the grammar or the input. -/
theorem isMismatch_of_fails (h : E.Fails e) : e.isMismatch = !e.isDefinition := by
  obtain hdefect | ⟨F, x, -, -, hblames⟩ := traces_of_fails h
  · cases e with
    | definition => rfl
    | mismatch | mismatchWithin | unconsumed | unconsumedAfter => cases hdefect
  · have hmismatch := hblames.isMismatch
    cases e with
    | mismatch | mismatchWithin => rfl
    | unconsumed | unconsumedAfter | definition => cases hmismatch

/-- **The links of an error, each with the node that has told it**, outermost first. -/
inductive Trail : Evaluation α → ParseError → List (Parser α × ParseError) → Prop
  | raised {E : Evaluation α} {e : ParseError} (h : E.Raises e) : Trail E e [(E.parser, e)]
  | passed {E F : Evaluation α} {e : ParseError} {links : List (Parser α × ParseError)}
      (hF : Exposes E F) (h : Trail F e links) (he : E.report F e = e) : Trail E e links
  | told {E F : Evaluation α} {c : ParseError} {l : String} {x : Text}
      {links : List (Parser α × ParseError)} (hF : Exposes E F) (h : Trail F c links)
      (he : E.report F c = .mismatchWithin l x c) :
      Trail E (.mismatchWithin l x c) ((E.parser, .mismatchWithin l x c) :: links)

theorem Trail.fails (h : E.Trail e links) : E.Fails e := by
  induction h with
  | raised h => exact fails_of_raises h
  | passed hF _ he ih => exact he ▸ fails_of_exposes hF ih
  | told hF _ he ih => exact he ▸ fails_of_exposes hF ih

/-- **The trail covers the chain of the error.** -/
theorem Trail.chain_eq (h : E.Trail e links) : links.map (·.2) = e.chain := by
  induction h with
  | raised h =>
    cases h with
    | literal | pattern | stalled | refused => rfl
  | passed _ _ _ ih => exact ih
  | told _ _ _ ih => exact congrArg (_ :: ·) ih

/-- A node passes errors on as they are, or puts them into a context of its own. -/
theorem report_eq (E F : Evaluation α) :
    (∀ e, E.report F e = e) ∨ ∃ l x, ∀ e, E.report F e = e.within l x := by
  obtain ⟨n, p, x, σ⟩ := E
  cases p with
  | sequence | choice | exactly | named => exact .inr ⟨_, _, fun _ => rfl⟩
  | _ => exact .inl fun _ => rfl

/-- **Every failure has a trail.** -/
theorem exists_trail (h : E.Fails e) : ∃ links, E.Trail e links := by
  induction E using wellFounded_enters.induction generalizing e with
  | _ E ih =>
    obtain hraises | ⟨F, c, hF, hc, rfl⟩ := fails_iff.1 h
    · exact ⟨_, .raised hraises⟩
    · obtain ⟨links, hlinks⟩ := ih F hF.enters hc
      obtain he | ⟨l, x, he⟩ := E.report_eq F
      · exact ⟨links, (he c).symm ▸ .passed hF hlinks (he c)⟩
      · by_cases hdefect : c.isDefinition
        · have he : E.report F c = c := (he c).trans (ParseError.within_of_isDefinition hdefect l x)
          rw [he]
          exact ⟨links, .passed hF hlinks he⟩
        · have he : E.report F c = .mismatchWithin l (Text.preview x) c :=
            (he c).trans (if_neg hdefect)
          rw [he]
          exact ⟨_, .told hF hlinks he⟩

end Evaluation

end GrammarGraph
