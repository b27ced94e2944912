import GrammarGraph.Proofs.Consumed
import Mathlib.Logic.Relation

/-!
# Proofs/Evaluation — what is evaluated inside an evaluation

    E ──▸ F ──▸ G          input of G  ⊑  input of F  ⊑  input of E

A parser that is run on a text runs other parsers on ends of that text, each in the session that
what was done before has left.  `Evaluation` is one parser being run, and `Enters` its step to a
parser that it runs itself.

* `Enters.suffix` — an evaluation is given the end of the text of any evaluation around it.
* `wellFounded_enters` — evaluations are nested only so deep.
-/

namespace GrammarGraph

variable {α : Type}

/-- A node that matches a text by itself. -/
def Parser.isTerminal : Parser α → Bool
  | .literal .. | .pattern .. => true
  | _ => false

/-- A node that puts what goes wrong in its parts into its own context. -/
def Parser.isComposite : Parser α → Bool
  | .sequence .. | .choice .. | .exactly .. | .named .. => true
  | _ => false

/-- Messages call the parser by this label, whatever its rules are defined as. -/
def Parser.HasLabel (p : Parser α) (l : String) : Prop := ∀ calls, p.label calls = pure l

/-- **A parser being run** on a text in a session, with so many definitions to go down. -/
structure Evaluation (α : Type) where
  depth : Nat
  parser : Parser α
  input : Text
  session : Session α

namespace Evaluation

variable {E F : Evaluation α} {n : Nat} {x y z : Text} {σ τ υ : Session α}

/-- The result, and the session after it. -/
def run (E : Evaluation α) : Option (Parsed α × Session α) :=
  E.parser.parse (Calls.upTo E.depth) E.input E.session

/-- The evaluation ends with this error. -/
def Fails (E : Evaluation α) (e : ParseError) : Prop := ∃ σ, E.run = some (.error e, σ)

/-- The evaluation succeeds, and leaves this text and this session. -/
def Leaves (E : Evaluation α) (r : Text) (σ : Session α) : Prop :=
  ∃ v, E.run = some (.ok (v, r), σ)

/-- **What is left is an end of what was given.** -/
theorem Leaves.suffix (h : E.Leaves y σ) : y <:+ E.input := by
  obtain ⟨v, hv⟩ := h
  obtain ⟨t, ht, -⟩ := derives_of_parse_eq_some hv
  exact ⟨t, ht.symm⟩

/-! ## Rounds -/

/-- **So many rounds of a repetition lead from one text and session to another.**  `goesOn` is what
must hold of the texts before and after a round for there to be another. -/
inductive Turns (n : Nat) (item : Parser α) (goesOn : Text → Text → Prop) :
    Nat → Text → Session α → Text → Session α → Prop
  | none {x : Text} {σ : Session α} : Turns n item goesOn 0 x σ x σ
  | more {k : Nat} {x y z : Text} {σ τ υ : Session α} (h : Leaves ⟨n, item, x, σ⟩ y τ)
      (hgo : goesOn x y) (hs : Turns n item goesOn k y τ z υ) :
      Turns n item goesOn (k + 1) x σ z υ

/-- A round has consumed something. -/
def Shortens (x y : Text) : Prop := y.length < x.length

theorem Turns.suffix {item : Parser α} {goesOn : Text → Text → Prop} {k : Nat}
    (h : Turns n item goesOn k x σ y τ) : y <:+ x := by
  induction h with
  | none => exact List.suffix_refl _
  | more h _ _ ih => exact ih.trans (Leaves.suffix h)

/-! ## Entering -/

/-- **The evaluations that an evaluation runs itself.**  A part that comes second is run in the
session that the first has left. -/
inductive Enters : Evaluation α → Evaluation α → Prop
  | map {n id inner f x σ} : Enters ⟨n, .map id inner f, x, σ⟩ ⟨n, inner, x, σ⟩
  | left {n id keep left right x σ} :
      Enters ⟨n, .sequence id keep left right, x, σ⟩ ⟨n, left, x, σ⟩
  | right {n id keep left right x y σ τ} (h : Leaves ⟨n, left, x, σ⟩ y τ) :
      Enters ⟨n, .sequence id keep left right, x, σ⟩ ⟨n, right, y, τ⟩
  | first {n id left right x σ} : Enters ⟨n, .choice id left right, x, σ⟩ ⟨n, left, x, σ⟩
  | second {n id left right x σ e τ υ}
      (h : left.parse (Calls.upTo n) x σ = some (.error e, τ))
      (ha : Parser.announce (Calls.upTo n) id right τ = some (⟨⟩, υ)) :
      Enters ⟨n, .choice id left right, x, σ⟩ ⟨n, right, x, υ⟩
  | optional {n id inner x σ} : Enters ⟨n, .optional id inner, x, σ⟩ ⟨n, inner, x, σ⟩
  | star {n id inner k x y σ τ} (h : Turns n inner Shortens k x σ y τ) :
      Enters ⟨n, .star id inner, x, σ⟩ ⟨n, inner, y, τ⟩
  | exactly {n id count inner k x y σ τ} (hfits : count.Fits) (hk : k < count.rounds)
      (h : Turns n inner (fun _ _ => True) k x σ y τ) :
      Enters ⟨n, .exactly id count inner, x, σ⟩ ⟨n, inner, y, τ⟩
  | named {n id name inner x σ} : Enters ⟨n, .named id name inner, x, σ⟩ ⟨n, inner, x, σ⟩
  | boxed {n inner x σ} : Enters ⟨n, .boxed inner, x, σ⟩ ⟨n, inner, x, σ⟩
  | rule {n h p x σ τ} (hf : h.force (Calls.upTo (n + 1)).build σ = some (.ok p, τ)) :
      Enters ⟨n + 1, .rule h, x, σ⟩ ⟨n, p, x, τ⟩

/-- **What is entered is given an end of the text.** -/
theorem Enters.suffix (h : Enters E F) : F.input <:+ E.input := by
  cases h with
  | right h => exact h.suffix
  | star h | exactly _ _ h => exact Turns.suffix h
  | _ => exact List.suffix_refl _

/-- **Evaluations are nested only so deep**: each step goes to a part, or down one definition. -/
theorem wellFounded_enters : WellFounded fun F E : Evaluation α => Enters E F := by
  refine Subrelation.wf (r := InvImage (Prod.Lex (· < ·) (· < ·)) fun E : Evaluation α =>
    (E.depth, sizeOf E.parser)) (fun {F E} h => ?_) (InvImage.wf _ (Prod.lex Nat.lt_wfRel
      Nat.lt_wfRel).wf)
  cases h with
  | rule => exact Prod.Lex.left _ _ (Nat.lt_succ_self _)
  | _ =>
    refine Prod.Lex.right _ ?_
    simp only [Parser.map.sizeOf_spec, Parser.sequence.sizeOf_spec, Parser.choice.sizeOf_spec,
      Parser.optional.sizeOf_spec, Parser.star.sizeOf_spec, Parser.exactly.sizeOf_spec,
      Parser.named.sizeOf_spec, Parser.boxed.sizeOf_spec]
    omega

/-! ## What is quoted -/

/-- The text that an evaluation quotes when it puts a failure into its context: a counted repetition
quotes that of the round that has failed, any other its own. -/
inductive Quotes (E : Evaluation α) : Text → Prop
  | own (hE : ∀ id count inner, E.parser ≠ .exactly id count inner) : Quotes E E.input
  | round {id count inner F} (hE : E.parser = .exactly id count inner) (h : Enters E F) :
      Quotes E F.input

end Evaluation

end GrammarGraph
