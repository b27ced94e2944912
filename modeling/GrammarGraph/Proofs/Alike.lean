import GrammarGraph.Proofs.Registry
import Mathlib.Data.List.Forall2

/-!
# Proofs/Alike — the same but for identities

    p ~ q          and#5 ~ and#9          identities that correspond, everything else equal

Which identities a node has depends on when it was built.  Two parsers, errors or descriptions are
alike, by a relation between identities, if they differ in nothing but identities that are related.
A label tells an identity or none, so labels are alike if they are equal or of one kind.
-/

namespace GrammarGraph

variable {α : Type} {S T : NodeId → NodeId → Prop}

/-! ## Parsers -/

/-- Handles of the same place. -/
structure Rule.Alike (S : NodeId → NodeId → Prop) (h h' : Rule) : Prop where
  id : S h.id h'.id
  place : h.place = h'.place

/-- **Parsers that are alike**, node by node. -/
inductive Parser.Alike (S : NodeId → NodeId → Prop) : Parser α → Parser α → Prop
  | literal {i j : NodeId} (h : S i j) (text : Text) : Alike S (.literal i text) (.literal j text)
  | pattern {i j : NodeId} (h : S i j) (p : Pattern) : Alike S (.pattern i p) (.pattern j p)
  | map {i j : NodeId} {p q : Parser α} (h : S i j) (f : Output α → Output α) (hp : Alike S p q) :
      Alike S (.map i p f) (.map j q f)
  | sequence {i j : NodeId} {p q p' q' : Parser α} (h : S i j) (keep : Keep) (hp : Alike S p p')
      (hq : Alike S q q') : Alike S (.sequence i keep p q) (.sequence j keep p' q')
  | choice {i j : NodeId} {p q p' q' : Parser α} (h : S i j) (hp : Alike S p p')
      (hq : Alike S q q') : Alike S (.choice i p q) (.choice j p' q')
  | optional {i j : NodeId} {p q : Parser α} (h : S i j) (hp : Alike S p q) :
      Alike S (.optional i p) (.optional j q)
  | star {i j : NodeId} {p q : Parser α} (h : S i j) (hp : Alike S p q) :
      Alike S (.star i p) (.star j q)
  | exactly {i j : NodeId} {p q : Parser α} (h : S i j) (count : Count) (hp : Alike S p q) :
      Alike S (.exactly i count p) (.exactly j count q)
  | named {i j : NodeId} {p q : Parser α} (h : S i j) (name : String) (hp : Alike S p q) :
      Alike S (.named i name p) (.named j name q)
  | boxed {p q : Parser α} (hp : Alike S p q) : Alike S (.boxed p) (.boxed q)
  | rule {h h' : Rule} (hh : h.Alike S h') : Alike S (.rule h) (.rule h')

namespace Parser.Alike

variable {p q : Parser α}

theorem mono (hST : ∀ i j, S i j → T i j) (h : p.Alike S q) : p.Alike T q := by
  induction h with
  | literal h text => exact .literal (hST _ _ h) text
  | pattern h p => exact .pattern (hST _ _ h) p
  | map h f _ ih => exact .map (hST _ _ h) f ih
  | sequence h keep _ _ ihl ihr => exact .sequence (hST _ _ h) keep ihl ihr
  | choice h _ _ ihl ihr => exact .choice (hST _ _ h) ihl ihr
  | optional h _ ih => exact .optional (hST _ _ h) ih
  | star h _ ih => exact .star (hST _ _ h) ih
  | exactly h count _ ih => exact .exactly (hST _ _ h) count ih
  | named h name _ ih => exact .named (hST _ _ h) name ih
  | boxed _ ih => exact .boxed ih
  | rule hh => exact .rule ⟨hST _ _ hh.id, hh.place⟩

theorem id (h : p.Alike S q) : S p.id q.id := by
  induction h with
  | literal h | pattern h | map h | sequence h | choice h | optional h | star h | exactly h
  | named h => exact h
  | boxed _ ih => exact ih
  | rule hh => exact hh.id

end Parser.Alike

/-- A parser whose identities are related to themselves is like itself. -/
theorem Parser.alike_self : ∀ {p : Parser α},
    (∀ q ∈ p.nodes, S q.id q.id) → p.Alike S p
  | .literal _ text, h => .literal (h _ List.mem_cons_self) text
  | .pattern _ p, h => .pattern (h _ List.mem_cons_self) p
  | .map _ _ f, h => .map (h _ List.mem_cons_self) f
      (alike_self fun q hq => h q (List.mem_cons_of_mem _ hq))
  | .sequence _ keep _ _, h => .sequence (h _ List.mem_cons_self) keep
      (alike_self fun q hq => h q (List.mem_cons_of_mem _ (List.mem_append_left _ hq)))
      (alike_self fun q hq => h q (List.mem_cons_of_mem _ (List.mem_append_right _ hq)))
  | .choice _ _ _, h => .choice (h _ List.mem_cons_self)
      (alike_self fun q hq => h q (List.mem_cons_of_mem _ (List.mem_append_left _ hq)))
      (alike_self fun q hq => h q (List.mem_cons_of_mem _ (List.mem_append_right _ hq)))
  | .optional _ _, h => .optional (h _ List.mem_cons_self)
      (alike_self fun q hq => h q (List.mem_cons_of_mem _ hq))
  | .star _ _, h => .star (h _ List.mem_cons_self)
      (alike_self fun q hq => h q (List.mem_cons_of_mem _ hq))
  | .exactly _ count _, h => .exactly (h _ List.mem_cons_self) count
      (alike_self fun q hq => h q (List.mem_cons_of_mem _ hq))
  | .named _ name _, h => .named (h _ List.mem_cons_self) name
      (alike_self fun q hq => h q (List.mem_cons_of_mem _ hq))
  | .boxed _, h => .boxed (alike_self h)
  | .rule _, h => .rule ⟨h _ List.mem_cons_self, rfl⟩

/-! ## Labels and errors -/

/-- Labels that are alike: the same text, or one kind with identities that correspond. -/
inductive LabelAlike (S : NodeId → NodeId → Prop) : String → String → Prop
  | text (label : String) : LabelAlike S label label
  | node {i j : NodeId} (h : S i j) (tag : String) : LabelAlike S (i.label tag) (j.label tag)

theorem LabelAlike.mono {g g' : String} (hST : ∀ i j, S i j → T i j) (h : LabelAlike S g g') :
    LabelAlike T g g' := by
  cases h with
  | text => exact .text g
  | node h tag => exact .node (hST _ _ h) tag

namespace ParseError

/-- **Errors that are alike**: of the same kinds, with the same inputs and faults. -/
inductive Alike (S : NodeId → NodeId → Prop) : ParseError → ParseError → Prop
  | mismatch {g g' : String} (hg : LabelAlike S g g') (input : Text) :
      Alike S (.mismatch g input) (.mismatch g' input)
  | mismatchWithin {g g' : String} {c c' : ParseError} (hg : LabelAlike S g g') (input : Text)
      (hc : Alike S c c') : Alike S (.mismatchWithin g input c) (.mismatchWithin g' input c')
  | unconsumed {g g' : String} (hg : LabelAlike S g g') (input remaining : Text) :
      Alike S (.unconsumed g input remaining) (.unconsumed g' input remaining)
  | unconsumedAfter {g g' : String} {c c' : ParseError} (hg : LabelAlike S g g')
      (input remaining : Text) (hc : Alike S c c') :
      Alike S (.unconsumedAfter g input remaining c) (.unconsumedAfter g' input remaining c')
  | definition {g g' : String} (hg : LabelAlike S g g') (input : Text) (fault : Fault) :
      Alike S (.definition g input fault) (.definition g' input fault)

namespace Alike

variable {e e' : ParseError}

theorem mono (hST : ∀ i j, S i j → T i j) (h : e.Alike S e') : e.Alike T e' := by
  induction h with
  | mismatch hg input => exact .mismatch (hg.mono hST) input
  | mismatchWithin hg input _ ih => exact .mismatchWithin (hg.mono hST) input ih
  | unconsumed hg input remaining => exact .unconsumed (hg.mono hST) input remaining
  | unconsumedAfter hg input remaining _ ih =>
    exact .unconsumedAfter (hg.mono hST) input remaining ih
  | definition hg input fault => exact .definition (hg.mono hST) input fault

theorem isDefinition (h : e.Alike S e') : e.isDefinition = e'.isDefinition := by
  cases h <;> rfl

/-- Put into contexts that are alike, they stay so. -/
theorem within (h : e.Alike S e') {g g' : String} (hg : LabelAlike S g g') (s : Text) :
    (e.within g s).Alike S (e'.within g' s) := by
  rw [ParseError.within, ParseError.within, ← h.isDefinition]
  split
  · exact h
  · exact .mismatchWithin hg _ h

end Alike

end ParseError

/-- Results that are alike: values that are related, or errors that are alike. -/
inductive ResultAlike {β γ : Type} (S : NodeId → NodeId → Prop) (R : β → γ → Prop) :
    Except ParseError β → Except ParseError γ → Prop
  | ok {b : β} {c : γ} (h : R b c) : ResultAlike S R (.ok b) (.ok c)
  | error {e e' : ParseError} (h : e.Alike S e') : ResultAlike S R (.error e) (.error e')

theorem ResultAlike.mono {β γ : Type} {R : β → γ → Prop} {r : Except ParseError β}
    {r' : Except ParseError γ} (hST : ∀ i j, S i j → T i j) (h : ResultAlike S R r r') :
    ResultAlike T R r r' := by
  cases h with
  | ok h => exact .ok h
  | error h => exact .error (h.mono hST)

theorem ResultAlike.inContext {β γ : Type} {R : β → γ → Prop} {r : Except ParseError β}
    {r' : Except ParseError γ} {g g' : String} (h : ResultAlike S R r r') (hg : LabelAlike S g g')
    (s : Text) : ResultAlike S R (Parser.inContext g s r) (Parser.inContext g' s r') := by
  cases h with
  | ok h => exact .ok h
  | error h => exact .error (h.within hg s)

/-! ## Descriptions -/

/-- Kinds of nodes whose parts are related. -/
inductive Shape.Alike {ρ : Type} (R : ρ → ρ → Prop) : Shape ρ → Shape ρ → Prop
  | leaf (kind : Leaf) : Alike R (.leaf kind) (.leaf kind)
  | unary {a b : ρ} (kind : Unary) (h : R a b) : Alike R (.unary kind a) (.unary kind b)
  | binary {a b a' b' : ρ} (kind : Binary) (h : R a a') (h' : R b b') :
      Alike R (.binary kind a b) (.binary kind a' b')

namespace Description

/-- **Descriptions that are alike**, entry by entry. -/
inductive Alike (S : NodeId → NodeId → Prop) : Description → Description → Prop
  | backRef {i j : NodeId} (h : S i j) : Alike S (.backRef i) (.backRef j)
  | leaf {i j : NodeId} (h : S i j) (kind : Leaf) : Alike S (.leaf i kind) (.leaf j kind)
  | unary {i j : NodeId} {d d' : Description} (h : S i j) (kind : Unary) (hd : Alike S d d') :
      Alike S (.unary i kind d) (.unary j kind d')
  | binary {i j : NodeId} {d d' e e' : Description} (h : S i j) (kind : Binary)
      (hd : Alike S d d') (he : Alike S e e') : Alike S (.binary i kind d e) (.binary j kind d' e')

namespace Alike

variable {d d' : Description}

theorem mono (hST : ∀ i j, S i j → T i j) (h : d.Alike S d') : d.Alike T d' := by
  induction h with
  | backRef h => exact .backRef (hST _ _ h)
  | leaf h kind => exact .leaf (hST _ _ h) kind
  | unary h kind _ ih => exact .unary (hST _ _ h) kind ih
  | binary h kind _ _ ihd ihe => exact .binary (hST _ _ h) kind ihd ihe

theorem expanded {i j : NodeId} {k k' : Shape Description} (h : S i j)
    (hk : k.Alike (Alike S) k') : (Description.expanded i k).Alike S (.expanded j k') := by
  cases hk with
  | leaf kind => exact .leaf h kind
  | unary kind hd => exact .unary h kind hd
  | binary kind hd he => exact .binary h kind hd he

end Alike

end Description

/-- What has been visited corresponds where identities do. -/
theorem contains_eq_of_forall₂ {v v' : Visited} {i j : NodeId}
    (hS : ∀ k l, S k l → (i = k ↔ j = l)) (hv : List.Forall₂ S v v') :
    v.contains i = v'.contains j := by
  induction hv with
  | nil => rfl
  | @cons k l v v' h _ ih =>
    rw [List.contains_cons, List.contains_cons, ih]
    refine congrArg (· || v'.contains j) ?_
    rw [Bool.eq_iff_iff, beq_iff_eq, beq_iff_eq]
    exact hS k l h

end GrammarGraph
