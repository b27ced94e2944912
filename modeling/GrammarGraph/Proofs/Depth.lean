import GrammarGraph.Proofs.Rounds

/-!
# Proofs/Depth — a result does not depend on how deep one may go

    depth    0 ── no result ── ⋯ ──│── a result ── the same ── the same ── ⋯

A computation may go only so many definitions deep, and has no result if that is not enough.  Once
it has one, it has the same at every larger depth (`Calls.upTo_below`).  So what a parser answers
can be told without a depth (`Parser.Answers`): there is at most one answer, and none only if there
is none at any depth.

Nothing but the definitions of rules is asked for by depth, so all that is to be shown is that a
computation has more results if these have (`Run.Below`).  This includes the scripts that are run to
build a definition.
-/

namespace GrammarGraph

variable {α β γ : Type}

/-- **Wherever the first computation has a result, the second has the same.** -/
def Run.Below (m m' : Run α β) : Prop := ∀ s r, m s = some r → m' s = some r

/-- **What can be done with definitions can be done in the same way.** -/
structure Calls.Below (calls calls' : Calls α) : Prop where
  parse : ∀ p x, Run.Below (calls.parse p x) (calls'.parse p x)
  parseAll : ∀ p x, Run.Below (calls.parseAll p x) (calls'.parseAll p x)
  label : ∀ p, Run.Below (calls.label p) (calls'.label p)
  describe : ∀ p v, Run.Below (calls.describe p v) (calls'.describe p v)
  kind : ∀ p v, Run.Below (calls.kind p v) (calls'.kind p v)
  build : ∀ d, Run.Below (calls.build d) (calls'.build d)

namespace Run.Below

/-! ## Pieces of computations -/

section Pieces

variable {m m' : Run α β} {label : String} {item item' : Text → Run α (Parsed α)}

theorem refl : Below m m := fun _ _ h => h

theorem failure : Below Alternative.failure m := nofun

theorem bind {f f' : β → Run α γ} (hm : Below m m') (hf : ∀ b, Below (f b) (f' b)) :
    Below (m >>= f) (m' >>= f') := by
  rintro s ⟨c, u⟩ h
  obtain ⟨b, t, hb, hc⟩ := Run.bind_eq_some_iff.1 h
  exact Run.bind_eq_some_iff.2 ⟨b, t, hm s _ hb, hf b t _ hc⟩

/-- What is run first is the same. -/
theorem after {f f' : β → Run α γ} (hf : ∀ b, Below (f b) (f' b)) :
    Below (m >>= f) (m >>= f') :=
  refl.bind hf

/-- What is run next is the same. -/
theorem before {f : β → Run α γ} (hm : Below m m') : Below (m >>= f) (m' >>= f) :=
  hm.bind fun _ => refl

theorem rounds (hitem : ∀ y, Below (item y) (item' y)) (x : Text) :
    Below (Parser.rounds label item x) (Parser.rounds label item' x) := by
  induction hlength : x.length using Nat.strongRecOn generalizing x with
  | _ length ih =>
    rw [Parser.rounds, Parser.rounds]
    refine (hitem x).bind fun result => ?_
    obtain e | ⟨v, r⟩ := result
    · exact refl
    · dsimp only
      split
      · next hshort => exact (ih _ (hlength ▸ hshort) r rfl).before
      · exact refl

theorem countedRounds (hitem : ∀ y, Below (item y) (item' y)) (count : Nat) (x : Text) :
    Below (Parser.countedRounds label item count x) (Parser.countedRounds label item' count x) := by
  induction count generalizing x with
  | zero => exact refl
  | succ count ih =>
    refine (hitem x).bind fun result => ?_
    obtain e | ⟨v, r⟩ := result
    · exact refl
    · exact (ih r).before

theorem visit {id : NodeId} {kind kind' : Visited → Run α (Shape Description × Visited)}
    (hkind : ∀ v, Below (kind v) (kind' v)) (v : Visited) :
    Below (Parser.visit id kind v) (Parser.visit id kind' v) := by
  rw [Parser.visit, Parser.visit]
  split
  · exact refl
  · exact (hkind _).before

theorem withParser {expr : Expr α} {f f' : Parser α → Run α (Reply α)}
    (hf : ∀ p, Below (f p) (f' p)) : Below (Step.withParser expr f) (Step.withParser expr f') := by
  refine after fun r => ?_
  cases r with
  | error => exact refl
  | ok p => exact hf p

theorem withVisited {name : Option String} {f f' : Visited → Run α (β × Visited)}
    (hf : ∀ v, Below (f v) (f' v)) :
    Below (Step.withVisited name f) (Step.withVisited name f') := by
  cases name with
  | none => exact (hf []).before
  | some name => exact after fun _ => (hf _).before

end Pieces

/-! ## What asks for definitions -/

section Calls

variable {calls calls' : Calls α} (hc : calls.Below calls')

include hc

theorem force (h : Rule) : Below (h.force calls.build) (h.force calls'.build) := by
  refine after fun s => ?_
  split
  · exact refl
  · split
    · exact refl
    · split
      · exact refl
      · split
        · exact refl
        · exact after fun _ => after fun _ => (hc.build _).before

/-- Going on with what a rule is defined as, or doing without. -/
theorem force_bind (h : Rule) {f f' : Except Fault (Parser α) → Run α β}
    (hok : ∀ p, Below (f (.ok p)) (f' (.ok p)))
    (herror : ∀ fault, Below (f (.error fault)) (f' (.error fault))) :
    Below (h.force calls.build >>= f) (h.force calls'.build >>= f') := by
  refine (force hc h).bind fun r => ?_
  cases r with
  | ok p => exact hok p
  | error fault => exact herror fault

theorem label (p : Parser α) : Below (p.label calls) (p.label calls') := by
  induction p with
  | boxed inner ih => exact ih
  | rule h => exact force_bind hc h hc.label fun _ => refl
  | _ => exact refl

theorem announce (id : NodeId) (right : Parser α) :
    Below (Parser.announce calls id right) (Parser.announce calls' id right) := by
  refine after fun s => ?_
  split
  · exact (label hc right).before
  · exact refl

theorem parse (p : Parser α) (x : Text) : Below (p.parse calls x) (p.parse calls' x) := by
  induction p generalizing x with
  | literal | pattern => exact refl
  | map _ _ _ ih | optional _ _ ih | named _ _ _ ih => exact (ih x).before
  | sequence id keep left right ihl ihr =>
    refine (ihl x).bind fun result => ?_
    obtain e | ⟨v, r⟩ := result
    · exact refl
    · exact (ihr r).before
  | choice id left right ihl ihr =>
    rw [Parser.parse_choice, Parser.parse_choice]
    refine (ihl x).bind fun result => ?_
    obtain e | result := result
    · exact (announce hc id right).bind fun _ => (ihr x).before
    · exact refl
  | star id inner ih => exact (rounds ih x).before
  | exactly id count inner ih => exact after fun _ => (countedRounds ih count.rounds x).before
  | boxed inner ih => exact ih x
  | rule h => exact force_bind hc h (fun p => hc.parse p x) fun _ => refl

theorem parseAll (p : Parser α) (x : Text) : Below (p.parseAll calls x) (p.parseAll calls' x) := by
  induction p with
  | boxed inner ih => exact ih
  | rule h => exact force_bind hc h (fun p => hc.parseAll p x) fun _ => refl
  | star id inner => exact (rounds (parse hc inner) x).before
  | literal | pattern | map | sequence | choice | optional | exactly | named =>
    exact (parse hc _ x).before

theorem enter {kind kind' : Visited → Run α (Shape Description × Visited)}
    (hkind : ∀ v, Below (kind v) (kind' v)) (p : Parser α) (v : Visited) :
    Below (Parser.enter calls kind p v) (Parser.enter calls' kind' p v) := by
  induction p with
  | boxed inner ih => exact ih
  | rule h => exact force_bind hc h (fun p => hc.describe p v) fun _ => refl
  | literal | pattern | map | sequence | choice | optional | star | exactly | named =>
    exact visit hkind v

theorem kind (p : Parser α) (v : Visited) : Below (p.kind calls v) (p.kind calls' v) := by
  induction p generalizing v with
  | literal | pattern => exact refl
  | map _ _ _ ih | optional _ _ ih | star _ _ ih | exactly _ _ _ ih | named _ _ _ ih =>
    exact (enter hc ih _ v).before
  | sequence _ _ _ _ ihl ihr | choice _ _ _ ihl ihr =>
    exact (enter hc ihl _ v).bind fun d => (enter hc ihr _ d.2).before
  | boxed inner ih => exact ih v
  | rule h => exact force_bind hc h (fun p => hc.kind p v) fun _ => refl

theorem describe (p : Parser α) (v : Visited) : Below (p.describe calls v) (p.describe calls' v) :=
  enter hc (kind hc p) p v

/-! ## Scripts -/

theorem debugText (expr : Expr α) (p : Parser α) :
    Below (Step.debugText calls expr p) (Step.debugText calls' expr p) := by
  refine after fun b => ?_
  cases b with
  | rule => exact refl
  | parser => exact (label hc p).before

theorem reply (step : Step α) : Below (step.reply calls) (step.reply calls') := by
  cases step with
  | label => exact withParser fun p => (label hc p).before
  | debug => exact withParser fun p => (debugText hc _ p).before
  | parse => exact withParser fun p => (parse hc p _).before
  | parseAll => exact withParser fun p => (parseAll hc p _).before
  | describe => exact withParser fun p => (withVisited (describe hc p)).before
  | kind => exact withParser fun p => (withVisited (kind hc p)).before
  | force name =>
    refine after fun s => ?_
    split
    · exact (force hc _).before
    · exact refl
  | _ => exact refl

theorem run (step : Step α) : Below (step.run calls) (step.run calls') :=
  after fun _ => after fun _ => (reply hc step).before

theorem deferred (d : Deferred α) : Below (d.build calls) (d.build calls') := by
  refine before ?_
  induction d.steps with
  | nil =>
    rw [List.mapM_nil, List.mapM_nil]
    exact refl
  | cons step steps ih =>
    rw [List.mapM_cons, List.mapM_cons]
    exact (run hc step).bind fun _ => ih.before

end Calls

end Run.Below

/-! ## Going deeper -/

theorem Calls.none_below (calls : Calls α) : (Calls.none α).Below calls where
  parse _ _ := .failure
  parseAll _ _ := .failure
  label _ := .failure
  describe _ _ := .failure
  kind _ _ := .failure
  build _ := .failure

/-- **What has a result has the same at every larger depth.** -/
theorem Calls.upTo_below : ∀ {n m : Nat}, n ≤ m → (Calls.upTo n : Calls α).Below (Calls.upTo m)
  | 0, _, _ => none_below _
  | _ + 1, _ + 1, h =>
    have hc := upTo_below (Nat.le_of_succ_le_succ h)
    ⟨.parse hc, .parseAll hc, .label hc, .describe hc, .kind hc, .deferred hc⟩

/-! ## Answers -/

/-- **The parser answers this on the text**, and leaves the session behind, if one may go as deep as
one likes. -/
def Parser.Answers (p : Parser α) (x : Text) (σ : Session α) (r : Parsed α) (τ : Session α) :
    Prop :=
  ∃ n, p.parse (Calls.upTo n) x σ = some (r, τ)

variable {p : Parser α} {x y : Text} {σ τ : Session α} {r : Parsed α}

theorem Parser.parse_of_le {n m : Nat} (hn : n ≤ m)
    (h : p.parse (Calls.upTo n) x σ = some (r, τ)) :
    p.parse (Calls.upTo m) x σ = some (r, τ) :=
  Run.Below.parse (Calls.upTo_below hn) p x σ _ h

/-- There is at most one answer. -/
theorem Parser.Answers.unique {r' : Parsed α} {τ' : Session α} (h : p.Answers x σ r τ)
    (h' : p.Answers x σ r' τ') : r = r' ∧ τ = τ' := by
  obtain ⟨n, hn⟩ := h
  obtain ⟨m, hm⟩ := h'
  have hn := parse_of_le (Nat.le_max_left n m) hn
  have hm := parse_of_le (Nat.le_max_right n m) hm
  exact Prod.mk.inj (Option.some.inj (hn.symm.trans hm))

end GrammarGraph
