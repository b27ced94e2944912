import GrammarGraph.Proofs.Rounds

/-!
# Proofs/Failure — where failures come from

    E ══▸ F ══▸ G ✗          the failure of G is that of F and of E, with their contexts around it

A parser that fails has come upon something itself (`Raises`), or passes on the failure of one that
it runs, perhaps in a context of its own (`report`).  It runs others whose failures it recovers
from: the first branch of a choice, an optional part, the item of an unbounded repetition.  All the
rest are exposed (`Exposes`): if one of them fails, so does what runs it.

`fails_iff` says so in both directions, and is all that needs to be known of how parsers fail.
-/

namespace GrammarGraph

variable {α : Type}

namespace Evaluation

variable {E F : Evaluation α} {e : ParseError}

/-- **What an evaluation raises itself**: a mismatch, a repetition that is stopped, a rule that
cannot be had. -/
inductive Raises : Evaluation α → ParseError → Prop
  | literal {n id text x σ} (h : Text.dropPrefix? text x = none) :
      Raises ⟨n, .literal id text, x, σ⟩ (.mismatch (Text.label text) (Text.preview x))
  | pattern {n id x σ} {p : Pattern} (h : p.match? x = none) :
      Raises ⟨n, .pattern id p, x, σ⟩ (.mismatch p.label (Text.preview x))
  | stalled {n id inner k x y σ τ υ} (h : Turns n inner Shortens k x σ y τ)
      (hy : Leaves ⟨n, inner, y, τ⟩ y υ) :
      Raises ⟨n, .star id inner, x, σ⟩
        (.definition (id.label Unary.star.tag) (Text.preview y) .zeroProgress)
  | refused {n h fault x σ τ} (hf : h.force (Calls.upTo n).build σ = some (.error fault, τ)) :
      Raises ⟨n, .rule h, x, σ⟩ (.definition h.label (Text.preview x) fault)

/-- **The evaluations that an evaluation does not recover from**, of those it enters. -/
inductive Exposes : Evaluation α → Evaluation α → Prop
  | map {n id inner f x σ} : Exposes ⟨n, .map id inner f, x, σ⟩ ⟨n, inner, x, σ⟩
  | left {n id keep left right x σ} :
      Exposes ⟨n, .sequence id keep left right, x, σ⟩ ⟨n, left, x, σ⟩
  | right {n id keep left right x y σ τ} (h : Leaves ⟨n, left, x, σ⟩ y τ) :
      Exposes ⟨n, .sequence id keep left right, x, σ⟩ ⟨n, right, y, τ⟩
  | second {n id left right x σ e τ υ}
      (h : left.parse (Calls.upTo n) x σ = some (.error e, τ))
      (ha : Parser.announce (Calls.upTo n) id right τ = some (⟨⟩, υ)) :
      Exposes ⟨n, .choice id left right, x, σ⟩ ⟨n, right, x, υ⟩
  | exactly {n id count inner k x y σ τ} (hfits : count.Fits) (hk : k < count.rounds)
      (h : Turns n inner (fun _ _ => True) k x σ y τ) :
      Exposes ⟨n, .exactly id count inner, x, σ⟩ ⟨n, inner, y, τ⟩
  | named {n id name inner x σ} : Exposes ⟨n, .named id name inner, x, σ⟩ ⟨n, inner, x, σ⟩
  | boxed {n inner x σ} : Exposes ⟨n, .boxed inner, x, σ⟩ ⟨n, inner, x, σ⟩
  | rule {n h p x σ τ} (hf : h.force (Calls.upTo (n + 1)).build σ = some (.ok p, τ)) :
      Exposes ⟨n + 1, .rule h, x, σ⟩ ⟨n, p, x, τ⟩

theorem Exposes.enters (h : Exposes E F) : Enters E F := by
  cases h with
  | map => exact .map
  | left => exact .left
  | right h => exact .right h
  | second h ha => exact .second h ha
  | exactly hfits hk h => exact .exactly hfits hk h
  | named => exact .named
  | boxed => exact .boxed
  | rule hf => exact .rule hf

/-- **What an evaluation makes of the failure of another that it runs.** -/
def report (E F : Evaluation α) (e : ParseError) : ParseError :=
  match E.parser with
  | .sequence id keep _ _ => e.within (id.label (Binary.sequence keep).tag) E.input
  | .choice id _ _ => e.within (id.label Binary.choice.tag) E.input
  | .exactly id count _ => e.within (id.label (Unary.exactly count.rounds).tag) F.input
  | .named _ name _ => e.within name E.input
  | _ => e

/-- Errors that blame the grammar are put into no context. -/
theorem report_of_isDefinition (h : e.isDefinition) (E F : Evaluation α) : E.report F e = e := by
  obtain ⟨n, p, x, σ⟩ := E
  cases p with
  | sequence | choice | exactly | named => exact if_pos h
  | _ => rfl

/-! ## What is raised or exposed is a failure -/

theorem fails_of_raises (h : E.Raises e) : E.Fails e := by
  cases h with
  | @literal n id text x σ h =>
    refine ⟨σ, ?_⟩
    rw [run, Parser.parse, h]
    rfl
  | @pattern n id x σ p h =>
    refine ⟨σ, ?_⟩
    rw [run, Parser.parse, h]
    rfl
  | @stalled n id inner k x y σ τ υ h hy =>
    obtain ⟨vs, -, htaken⟩ := h.exists_taken
    obtain ⟨v, hv⟩ := hy
    obtain ⟨log, hlog⟩ := Run.exists_log_eq .debug
      (id.label Unary.star.tag ++ " made no progress on " ++ Text.label y) υ
    have hrounds := Parser.rounds_eq_error_iff.2
      ⟨vs, y, τ, v, y, υ, htaken, hv, Nat.lt_irrefl _, hlog, rfl⟩
    refine ⟨{ υ with log := log }, ?_⟩
    rw [run, Parser.parse]
    exact Run.bind_of_eq_some hrounds
  | @refused n h fault x σ τ hf =>
    refine ⟨τ, ?_⟩
    rw [run, Parser.parse]
    exact Run.bind_of_eq_some hf

theorem fails_of_exposes (hF : Exposes E F) (h : F.Fails e) : E.Fails (E.report F e) := by
  obtain ⟨υ, h⟩ := h
  refine ⟨υ, ?_⟩
  rw [run]
  cases hF with
  | map | left | named =>
    rw [Parser.parse]
    exact Run.bind_of_eq_some h
  | right hleft =>
    obtain ⟨v, hleft⟩ := hleft
    rw [Parser.parse]
    exact (Run.bind_of_eq_some hleft).trans (Run.bind_of_eq_some h)
  | second hleft ha =>
    rw [Parser.parse_choice]
    refine (Run.bind_of_eq_some hleft).trans ?_
    exact (Run.bind_of_eq_some ha).trans (Run.bind_of_eq_some h)
  | @exactly n id count inner k x y σ τ hfits hk hturns =>
    obtain ⟨vs, rfl, htaken⟩ := hturns.exists_taken
    have hrounds : Parser.countedRounds (id.label (Unary.exactly count.rounds).tag)
        (inner.parse (Calls.upTo n)) count.rounds x σ = some (.error (e.within _ y), υ) :=
      Parser.countedRounds_eq_error_iff.2 ⟨vs, y, τ, e, hk, htaken, h, rfl⟩
    rw [Parser.parse_exactly, if_pos hfits]
    exact Run.bind_of_eq_some hrounds
  | boxed => exact h
  | rule hf =>
    rw [Parser.parse]
    exact (Run.bind_of_eq_some hf).trans h

/-! ## There are no other failures -/

/-- What fails on failures only has failed on one. -/
theorem exists_error_of_bind {β γ : Type} {m : Run α (Except ParseError β)}
    {f : Except ParseError β → Run α (Except ParseError γ)} {g : ParseError → ParseError}
    {s t : Session α} (h : (m >>= f) s = some (.error e, t))
    (hok : ∀ b, ∃ c, f (.ok b) = pure (.ok c))
    (herror : ∀ c, f (.error c) = pure (.error (g c))) :
    ∃ c, m s = some (.error c, t) ∧ e = g c := by
  obtain ⟨result, u, hm, h⟩ := Run.bind_eq_some_iff.1 h
  obtain c | b := result
  · rw [herror] at h
    obtain ⟨⟨⟩, rfl⟩ := Run.pure_eq_some_iff.1 h
    exact ⟨c, hm, rfl⟩
  · obtain ⟨c, hc⟩ := hok b
    rw [hc] at h
    cases (Run.pure_eq_some_iff.1 h).1

/-- **An evaluation that fails raises its error, or reports that of one that it exposes.** -/
theorem raises_or_exposes_of_fails (h : E.Fails e) :
    E.Raises e ∨ ∃ F c, E.Exposes F ∧ F.Fails c ∧ e = E.report F c := by
  obtain ⟨n, p, x, σ⟩ := E
  obtain ⟨σ', h⟩ := h
  rw [run] at h
  cases p with
  | literal id text =>
    rw [Parser.parse] at h
    cases hd : Text.dropPrefix? text x with
    | some r =>
      rw [hd] at h
      cases (Run.pure_eq_some_iff.1 h).1
    | none =>
      rw [hd] at h
      obtain ⟨⟨⟩, -⟩ := Run.pure_eq_some_iff.1 h
      exact .inl (.literal hd)
  | pattern id p =>
    rw [Parser.parse] at h
    cases hm : p.match? x with
    | some r =>
      rw [hm] at h
      cases (Run.pure_eq_some_iff.1 h).1
    | none =>
      rw [hm] at h
      obtain ⟨⟨⟩, -⟩ := Run.pure_eq_some_iff.1 h
      exact .inl (.pattern hm)
  | map id inner f =>
    rw [Parser.parse] at h
    obtain ⟨_, hinner, rfl⟩ := exists_error_of_bind h (fun _ => ⟨_, rfl⟩) fun _ => rfl
    exact .inr ⟨_, e, .map, ⟨σ', hinner⟩, rfl⟩
  | sequence id keep left right =>
    rw [Parser.parse] at h
    obtain ⟨result, τ, hleft, h⟩ := Run.bind_eq_some_iff.1 h
    obtain c | ⟨v, y⟩ := result
    · obtain ⟨⟨⟩, -⟩ := Run.pure_eq_some_iff.1 h
      exact .inr ⟨_, c, .left, ⟨τ, hleft⟩, rfl⟩
    · obtain ⟨c, hright, rfl⟩ := exists_error_of_bind h (fun _ => ⟨_, rfl⟩) fun _ => rfl
      exact .inr ⟨_, c, .right ⟨v, hleft⟩, ⟨σ', hright⟩, rfl⟩
  | choice id left right =>
    rw [Parser.parse_choice] at h
    obtain ⟨result, τ, hleft, h⟩ := Run.bind_eq_some_iff.1 h
    obtain _ | _ := result
    · obtain ⟨_, υ, hannounce, h⟩ := Run.bind_eq_some_iff.1 h
      obtain ⟨c, hright, rfl⟩ := exists_error_of_bind h (fun _ => ⟨_, rfl⟩) fun _ => rfl
      exact .inr ⟨_, c, .second hleft hannounce, ⟨σ', hright⟩, rfl⟩
    · cases (Run.pure_eq_some_iff.1 h).1
  | optional id inner =>
    rw [Parser.parse] at h
    obtain ⟨result, τ, -, h⟩ := Run.bind_eq_some_iff.1 h
    obtain _ | ⟨_, _⟩ := result
    · cases (Run.pure_eq_some_iff.1 h).1
    · cases (Run.pure_eq_some_iff.1 h).1
  | star id inner =>
    rw [Parser.parse] at h
    obtain ⟨_, hrounds, rfl⟩ := exists_error_of_bind h (fun _ => ⟨_, rfl⟩) fun _ => rfl
    obtain ⟨k, y, ρ, hturns, rfl, υ, hy⟩ := ends_of_rounds hrounds
    exact .inl (.stalled hturns hy)
  | exactly id count inner =>
    rw [Parser.parse_exactly] at h
    split at h
    · next hfits =>
      obtain ⟨_, hrounds, rfl⟩ := exists_error_of_bind h (fun _ => ⟨_, rfl⟩) fun _ => rfl
      obtain ⟨vs, y, ρ, c, hlt, htaken, hc, rfl⟩ := Parser.countedRounds_eq_error_iff.1 hrounds
      exact .inr ⟨_, c, .exactly hfits hlt (turns_of_taken htaken), ⟨σ', hc⟩, rfl⟩
    · cases h
  | named id name inner =>
    rw [Parser.parse] at h
    obtain ⟨c, hinner, rfl⟩ := exists_error_of_bind h (fun _ => ⟨_, rfl⟩) fun _ => rfl
    exact .inr ⟨_, c, .named, ⟨σ', hinner⟩, rfl⟩
  | boxed inner => exact .inr ⟨_, e, .boxed, ⟨σ', h⟩, rfl⟩
  | rule handle =>
    rw [Parser.parse] at h
    obtain ⟨result, τ, hforce, h⟩ := Run.bind_eq_some_iff.1 h
    obtain fault | p := result
    · obtain ⟨⟨⟩, -⟩ := Run.pure_eq_some_iff.1 h
      exact .inl (.refused hforce)
    · cases n with
      | zero => cases h
      | succ n => exact .inr ⟨_, e, .rule hforce, ⟨σ', h⟩, rfl⟩

/-- **How evaluations fail.** -/
theorem fails_iff :
    E.Fails e ↔ E.Raises e ∨ ∃ F c, E.Exposes F ∧ F.Fails c ∧ e = E.report F c := by
  refine ⟨raises_or_exposes_of_fails, ?_⟩
  rintro (hraises | ⟨F, c, hF, hc, rfl⟩)
  · exact fails_of_raises hraises
  · exact fails_of_exposes hF hc

/-! ## Failures by what is entered -/

/-- **The ways to fail**: a text that does not match, a failure within that is passed on or put into
context, and a defect of the grammar. -/
inductive FailsBy : Evaluation α → ParseError → Prop
  | terminal {E l} (hp : E.parser.isTerminal) (hl : E.parser.HasLabel l) :
      FailsBy E (.mismatch l (Text.preview E.input))
  | passed {E F : Evaluation α} {e : ParseError} (h : Enters E F) (hF : F.Fails e) : FailsBy E e
  | context {E F l s c} (hp : E.parser.isComposite) (hl : E.parser.HasLabel l) (hq : E.Quotes s)
      (h : Enters E F) (hs : F.input <:+ s) (hF : F.Fails c) : FailsBy E (c.within l s)
  | stalled {E id inner k y τ υ} (hE : E.parser = .star id inner)
      (h : Turns E.depth inner Shortens k E.input E.session y τ)
      (hy : Leaves ⟨E.depth, inner, y, τ⟩ y υ) :
      FailsBy E (.definition (id.label Unary.star.tag) (Text.preview y) .zeroProgress)
  | refused {E h fault σ} (hE : E.parser = .rule h)
      (hf : h.force (Calls.upTo E.depth).build E.session = some (.error fault, σ)) :
      FailsBy E (.definition h.label (Text.preview E.input) fault)

/-- A failure within that is put into the context of the text that was given. -/
theorem FailsBy.own {l : String} (hp : E.parser.isComposite)
    (hl : E.parser.HasLabel l) (hE : ∀ id count inner, E.parser ≠ .exactly id count inner)
    (h : Enters E F) (hF : F.Fails e) : FailsBy E (e.within l E.input) :=
  .context hp hl (.own hE) h h.suffix hF

/-- **No evaluation fails in any other way.** -/
theorem failsBy_of_fails (h : E.Fails e) : FailsBy E e := by
  obtain hraises | ⟨F, c, hF, hc, rfl⟩ := raises_or_exposes_of_fails h
  · cases hraises with
    | literal => exact .terminal rfl fun _ => rfl
    | pattern => exact .terminal rfl fun _ => rfl
    | stalled hturns hy => exact .stalled rfl hturns hy
    | refused hf => exact .refused rfl hf
  · have henters := hF.enters
    cases hF with
    | map | boxed | rule => exact .passed henters hc
    | left | right | second | named =>
      exact .own rfl (fun _ => rfl) (fun _ _ _ h => by cases h) henters hc
    | exactly =>
      exact .context rfl (fun _ => rfl) (.round rfl henters) henters (List.suffix_refl _) hc

end Evaluation

end GrammarGraph
