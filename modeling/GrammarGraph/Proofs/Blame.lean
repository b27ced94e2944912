import GrammarGraph.Proofs.Failure

/-!
# Proofs/Blame — errors say what failed where

    E ──▸▸ n₀ ──▸▸ n₁ ──▸▸ ⋯ ──▸▸ nₖ           evaluations, each inside the one before
           e₀ ──── e₁ ──── ⋯ ──── eₖ           the error and its causes
           s₀  ⊒   s₁  ⊒   ⋯  ⊒   sₖ           the texts that they quote

A parse fails with a defect of the grammar, or with a chain of mismatches.  Every link of the chain
is about a node that was evaluated, and the last one about a text that did not match
(`Evaluation.Blames`).  Nodes that add nothing of their own are left out, and so is all that was
recovered from.
-/

namespace GrammarGraph

variable {α : Type}

namespace ParseError

/-- Whether the input is not what the grammar asks for. -/
def isMismatch : ParseError → Bool
  | .mismatch .. | .mismatchWithin .. => true
  | _ => false

/-- Whether some of the text was left. -/
def isUnconsumed : ParseError → Bool
  | .unconsumed .. | .unconsumedAfter .. => true
  | _ => false

theorem within_of_isDefinition {e : ParseError} (h : e.isDefinition) (label : String) (s : Text) :
    e.within label s = e := if_pos h

theorem within_of_isMismatch {e : ParseError} (h : e.isMismatch) (label : String) (s : Text) :
    e.within label s = .mismatchWithin label (Text.preview s) e := by
  cases e with
  | mismatch | mismatchWithin => rfl
  | unconsumed | unconsumedAfter | definition => cases h

end ParseError

namespace Evaluation

variable {E F : Evaluation α} {e : ParseError} {s : Text}

/-- **The error tells of this evaluation, and of this text**: its label and the start of the text
are those of the node, and its cause tells of an evaluation further in and of an end of the text.
What is told of last is a literal or a pattern that fails on its text. -/
inductive Blames : Evaluation α → Text → ParseError → Prop
  | terminal {E l} (hp : E.parser.isTerminal) (hl : E.parser.HasLabel l)
      (hf : E.Fails (.mismatch l (Text.preview E.input))) :
      Blames E E.input (.mismatch l (Text.preview E.input))
  | composite {E F l s t c} (hp : E.parser.isComposite) (hl : E.parser.HasLabel l)
      (hq : E.Quotes s) (hf : E.Fails (.mismatchWithin l (Text.preview s) c))
      (hF : Relation.TransGen Enters E F) (ht : t <:+ s) (hc : Blames F t c) :
      Blames E s (.mismatchWithin l (Text.preview s) c)

/-- The error is a defect, or it tells of something in this evaluation. -/
def Traces (E : Evaluation α) (e : ParseError) : Prop :=
  e.isDefinition ∨ ∃ F s, Relation.ReflTransGen Enters E F ∧ s <:+ E.input ∧ F.Blames s e

theorem Traces.of_enters (hF : Enters E F) (h : F.Traces e) : E.Traces e := by
  obtain hdefect | ⟨G, s, hG, hs, hblames⟩ := h
  · exact .inl hdefect
  · exact .inr ⟨G, s, .head hF hG, hs.trans hF.suffix, hblames⟩

theorem Quotes.suffix (h : E.Quotes s) : s <:+ E.input := by
  cases h with
  | own => exact List.suffix_refl _
  | round _ hF => exact hF.suffix

theorem Blames.isMismatch (h : E.Blames s e) : e.isMismatch := by
  cases h with
  | terminal | composite => rfl

theorem Blames.isMismatch_rootCause (h : E.Blames s e) : e.rootCause.isMismatch := by
  induction h with
  | terminal => rfl
  | composite _ _ _ _ _ _ _ ih => exact ih

/-- **All of the chain are mismatches.** -/
theorem Blames.isMismatch_of_mem (h : E.Blames s e) : ∀ c ∈ e.chain, c.isMismatch := by
  induction h with
  | terminal =>
    intro c hc
    obtain rfl := List.mem_singleton.1 hc
    rfl
  | composite _ _ _ _ _ _ _ ih =>
    intro c hc
    rcases List.mem_cons.1 hc with rfl | hc
    · rfl
    · exact ih c hc

theorem Blames.isMismatch_cause (h : E.Blames s e) :
    ∀ label t c, .mismatchWithin label t c ∈ e.chain → c.isMismatch := by
  induction h with
  | terminal => exact fun _ _ _ hc => nomatch List.mem_singleton.1 hc
  | composite _ _ _ _ _ _ hblames ih =>
    intro label t c hc
    rcases List.mem_cons.1 hc with hself | hc
    · obtain ⟨-, -, rfl⟩ := ParseError.mismatchWithin.inj hself
      exact hblames.isMismatch
    · exact ih label t c hc

/-! ## The form of errors -/

/-- **What an error of a parse says**, and what it never says: a defect is not the cause of a
mismatch, and no text is said to be left over. -/
structure Explains (E : Evaluation α) (e : ParseError) : Prop where
  traces : E.Traces e
  unwrapped : ∀ label s c, .mismatchWithin label s c ∈ e.chain → c.isDefinition = false
  consumed : ∀ c ∈ e.chain, c.isUnconsumed = false
  kind : e.isDefinition = e.rootCause.isDefinition

theorem Traces.explains (h : E.Traces e) : E.Explains e := by
  have hkind {c : ParseError} (hc : c.isMismatch) :
      c.isDefinition = false ∧ c.isUnconsumed = false := by
    cases c with
    | mismatch | mismatchWithin => exact ⟨rfl, rfl⟩
    | unconsumed | unconsumedAfter | definition => cases hc
  obtain hdefect | ⟨F, s, -, -, hblames⟩ := id h
  · cases e with
    | definition label s fault =>
      refine ⟨h, fun _ _ _ hc => (nomatch List.mem_singleton.1 hc), fun c hc => ?_, rfl⟩
      rw [List.mem_singleton.1 hc]
      rfl
    | mismatch | mismatchWithin | unconsumed | unconsumedAfter => cases hdefect
  · exact ⟨h, fun label t c hc => (hkind (hblames.isMismatch_cause label t c hc)).1,
      fun c hc => (hkind (hblames.isMismatch_of_mem c hc)).2,
      (hkind hblames.isMismatch).1.trans (hkind hblames.isMismatch_rootCause).1.symm⟩

/-! ## Parses that fail -/

/-- **Every error of a parse can be traced.** -/
theorem traces_of_fails (h : E.Fails e) : E.Traces e := by
  induction E using wellFounded_enters.induction generalizing e with
  | _ E ih =>
    cases failsBy_of_fails h with
    | terminal hp hl => exact .inr ⟨E, E.input, .refl, List.suffix_refl _, .terminal hp hl h⟩
    | passed hF hfails => exact (ih _ hF hfails).of_enters hF
    | @context F l s c hp hl hq hF hs hfails =>
      obtain hdefect | ⟨G, t, hG, ht, hblames⟩ := ih _ hF hfails
      · rw [ParseError.within_of_isDefinition hdefect]
        exact .inl hdefect
      · rw [ParseError.within_of_isMismatch hblames.isMismatch] at h ⊢
        exact .inr ⟨E, s, .refl, hq.suffix,
          .composite hp hl hq h (.head' hF hG) (ht.trans hs) hblames⟩
    | stalled | refused => exact .inl rfl

/-! ## Parses of the whole of a text -/

/-- The parser fails on the whole of the text. -/
def FailsWhole (E : Evaluation α) (e : ParseError) : Prop :=
  ∃ σ, E.parser.parseAll (Calls.upTo E.depth) E.input E.session = some (.error e, σ)

/-- The error is that of a parse, or it says that some of the text was left, and then perhaps
why. -/
inductive TracesWhole (E : Evaluation α) : ParseError → Prop
  | parse {error : ParseError} (h : E.Traces error) : TracesWhole E error
  | unconsumed {label input remaining} : TracesWhole E (.unconsumed label input remaining)
  | unconsumedAfter {label input remaining cause} (h : E.Traces cause) :
      TracesWhole E (.unconsumedAfter label input remaining cause)

theorem TracesWhole.of_enters (hF : Enters E F) (h : F.TracesWhole e) : E.TracesWhole e := by
  cases h with
  | parse h => exact .parse (h.of_enters hF)
  | unconsumed => exact .unconsumed
  | unconsumedAfter h => exact .unconsumedAfter (h.of_enters hF)

/-- A parser that is first parsed, and then asked for its label, if some of the text is left. -/
theorem tracesWhole_of_whole {n : Nat} {p : Parser α} {x : Text} {σ τ : Session α}
    (h : (do
      let result ← p.parse (Calls.upTo n) x
      return Parser.whole (← p.label (Calls.upTo n)) x result) σ = some (.error e, τ)) :
    TracesWhole ⟨n, p, x, σ⟩ e := by
  obtain ⟨result, υ, hparse, h⟩ := Run.bind_eq_some_iff.1 h
  obtain ⟨label, _, -, h⟩ := Run.bind_eq_some_iff.1 h
  have hwhole := (Run.pure_eq_some_iff.1 h).1
  obtain _ | ⟨_, _ | _⟩ := result
  · obtain rfl := Except.error.inj hwhole
    exact .parse (traces_of_fails ⟨υ, hparse⟩)
  · cases hwhole
  · obtain rfl := Except.error.inj hwhole
    exact .unconsumed

/-- **Every error of a parse of the whole of a text can be traced.** -/
theorem tracesWhole_of_failsWhole (h : E.FailsWhole e) : E.TracesWhole e := by
  induction E using wellFounded_enters.induction generalizing e with
  | _ E ih =>
    obtain ⟨n, p, x, σ⟩ := E
    obtain ⟨τ, h⟩ := h
    cases p with
    | boxed inner => exact (ih _ .boxed ⟨τ, h⟩).of_enters .boxed
    | rule handle =>
      dsimp only at h
      rw [Parser.parseAll] at h
      obtain ⟨result, υ, hforce, h⟩ := Run.bind_eq_some_iff.1 h
      obtain fault | p := result
      · obtain ⟨⟨⟩, -⟩ := Run.pure_eq_some_iff.1 h
        exact .parse (.inl rfl)
      · cases n with
        | zero => cases h
        | succ n => exact (ih _ (.rule hforce) ⟨τ, h⟩).of_enters (.rule hforce)
    | star id inner =>
      dsimp only at h
      rw [Parser.parseAll] at h
      obtain ⟨result, υ, hrounds, h⟩ := Run.bind_eq_some_iff.1 h
      obtain ⟨k, y, ρ, hturns, hends⟩ := ends_of_rounds hrounds
      obtain _ | ⟨_, _ | _, _⟩ := result
      · obtain ⟨rfl, -⟩ := hends
        obtain ⟨⟨⟩, -⟩ := Run.pure_eq_some_iff.1 h
        exact .parse (.inl rfl)
      · cases (Run.pure_eq_some_iff.1 h).1
      · obtain ⟨-, hlast⟩ := hends
        obtain ⟨⟨⟩, -⟩ := Run.pure_eq_some_iff.1 h
        exact .unconsumedAfter ((traces_of_fails hlast).of_enters (.star hturns))
    | literal | pattern | map | sequence | choice | optional | exactly | named =>
      exact tracesWhole_of_whole h

/-- **Errors say what failed where**: an error of a parse explains the failure, and so does one of a
parse of the whole of a text, unless some of the text was left; what made the parser stop there is
then explained, if it is told. -/
theorem errors_explain (E : Evaluation α) :
    (∀ e, E.Fails e → E.Explains e) ∧
    ∀ e, E.FailsWhole e → E.Explains e ∨
      (∃ label input remaining, e = .unconsumed label input remaining) ∨
      ∃ label input remaining c, e = .unconsumedAfter label input remaining c ∧ E.Explains c := by
  refine ⟨fun e h => (traces_of_fails h).explains, fun e h => ?_⟩
  cases tracesWhole_of_failsWhole h with
  | parse htraces => exact .inl htraces.explains
  | unconsumed => exact .inr (.inl ⟨_, _, _, rfl⟩)
  | unconsumedAfter htraces => exact .inr (.inr ⟨_, _, _, _, rfl, htraces.explains⟩)

/-- A rule that asks for `a` twice, under a name. -/
def twice : Session Empty :=
  let definition := .named 3 "twice" (.exactly 2 ⟨2, 24⟩ (.literal 1 ['a']))
  { arenas := [{ slots := [{ value := some definition }] }] }

/-- The name, the repetition and the literal tell of a second round that has failed. -/
theorem errors_explain_twice : ∃ e, Fails ⟨1, .rule ⟨0, 0, 0⟩, ['a', 'b'], twice⟩ e ∧
    Explains ⟨1, .rule ⟨0, 0, 0⟩, ['a', 'b'], twice⟩ e ∧
      e.chain.map (·.input) = [['a', 'b'], ['b'], ['b']] :=
  ⟨_, ⟨_, rfl⟩, (errors_explain _).1 _ ⟨_, rfl⟩, rfl⟩

end Evaluation

end GrammarGraph
