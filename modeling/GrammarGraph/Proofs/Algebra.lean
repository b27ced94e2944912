import GrammarGraph.Proofs.Iteration

/-!
# Proofs/Algebra — the laws of sequences and choices

    (p | q) | r  ≈  p | (q | r)          (p q) r  ≈  p (q r)          p (q | r)  ≈  p q | p r

Parsers are `Equivalent` if they reply alike to every text: with the same output and rest, or with
failures of one kind and one root cause.  The contexts that failures gather on their way out are not
compared, so it does not matter through how many nodes they go.  A defect is never put into a
context, and a law has to lead it out as it leads a mismatch.

Each law is read off the equations of its nodes.  On the right of the last one `p` is run twice, and
in a settled grammar it replies the same.

* `choice_assoc`, `sequence_assoc`, `sequence_choice`, `sequence_equivalent_both` — the laws.
* `map_congr` … `sequence_congr` — equivalent parts make equivalent nodes.  An unbounded repetition
  raises a defect itself, under its own label, so it is compared to one of the same identity
  (`star_congr`), or with that label told (`star_of_equivalent`).
-/

namespace GrammarGraph

open Evaluation

variable {α : Type} {s : Session α}

/-! ## Failures that are akin -/

namespace ParseError

variable {e f : ParseError} (label : String) (x : Text)

@[simp] theorem isDefinition_within : (e.within label x).isDefinition = e.isDefinition := by
  unfold within
  split
  · rfl
  · next h => exact (Bool.eq_false_iff.2 h).symm

@[simp] theorem rootCause_within : (e.within label x).rootCause = e.rootCause := by
  unfold within
  split
  · rfl
  · rfl

/-- **Two failures are of one kind and have one root cause.** -/
structure Akin (e f : ParseError) : Prop where
  isDefinition : e.isDefinition = f.isDefinition
  rootCause : e.rootCause = f.rootCause

namespace Akin

theorem refl (e : ParseError) : e.Akin e := ⟨rfl, rfl⟩

theorem symm (h : e.Akin f) : f.Akin e := ⟨h.isDefinition.symm, h.rootCause.symm⟩

/-- The context of a failure does not matter. -/
theorem within_left (h : e.Akin f) : (e.within label x).Akin f :=
  ⟨(isDefinition_within label x).trans h.isDefinition, (rootCause_within label x).trans h.rootCause⟩

theorem within_right (h : e.Akin f) : e.Akin (f.within label x) :=
  (h.symm.within_left label x).symm

end Akin

end ParseError

/-! ## Results that correspond -/

variable {β γ : Type}

/-- **Two results correspond**: outputs that are related with the same rest, or failures that are
akin. -/
inductive Corresponds (R : Output α → Output α → Prop) : Parsed α → Parsed α → Prop
  | ok {v w : Output α} {y : Text} (h : R v w) : Corresponds R (.ok (v, y)) (.ok (w, y))
  | error {e f : ParseError} (h : e.Akin f) : Corresponds R (.error e) (.error f)

namespace Corresponds

variable {R : Output α → Output α → Prop} {a b : Parsed α}

theorem refl (a : Parsed α) : Corresponds Eq a a := by
  obtain e | ⟨v, y⟩ := a
  · exact .error (.refl e)
  · exact .ok rfl

theorem symm (h : Corresponds Eq a b) : Corresponds Eq b a := by
  cases h with
  | ok h => exact .ok h.symm
  | error h => exact .error h.symm

theorem inContext_left (label : String) (x : Text) (h : Corresponds R a b) :
    Corresponds R (Parser.inContext label x a) b := by
  cases h with
  | ok h => exact .ok h
  | error h => exact .error (h.within_left label x)

theorem inContext_right (label : String) (x : Text) (h : Corresponds R a b) :
    Corresponds R a (Parser.inContext label x b) := by
  cases h with
  | ok h => exact .ok h
  | error h => exact .error (h.within_right label x)

/-- Outputs may be changed on both sides. -/
theorem map {S : Output α → Output α → Prop} {f g : Output α → Output α}
    (hfg : ∀ v w, R v w → S (f v) (g w)) (h : Corresponds R a b) :
    Corresponds S (a.map fun a => (f a.1, a.2)) (b.map fun b => (g b.1, b.2)) := by
  cases h with
  | ok h => exact .ok (hfg _ _ h)
  | error h => exact .error h

end Corresponds

/-! ## Optional values that are related -/

section Related

variable {S : β → β → Prop} {T : γ → γ → Prop} {a b : Option β}

theorem rel_iff : Option.Rel S a b ↔
    (∀ x, a = some x → ∃ y, b = some y ∧ S x y) ∧ ∀ y, b = some y → ∃ x, a = some x ∧ S x y := by
  cases a <;> cases b <;> simp

theorem rel_bind {f g : β → Option γ} (h : Option.Rel S a b)
    (hfg : ∀ x y, S x y → Option.Rel T (f x) (g y)) : Option.Rel T (a.bind f) (b.bind g) := by
  cases h with
  | some h => exact hfg _ _ h
  | none => exact .none

theorem rel_map {f g : β → γ} (h : Option.Rel S a b) (hfg : ∀ x y, S x y → T (f x) (g y)) :
    Option.Rel T (a.map f) (b.map g) := by
  cases h with
  | some h => exact .some (hfg _ _ h)
  | none => exact .none

/-- Going on from one value in two ways. -/
theorem rel_bind_self {f g : β → Option γ} (hfg : ∀ x, Option.Rel T (f x) (g x)) :
    Option.Rel T (a.bind f) (a.bind g) := by
  cases a with
  | some x => exact hfg x
  | none => exact .none

theorem rel_map_self {f g : β → γ} (hfg : ∀ x, T (f x) (g x)) :
    Option.Rel T (a.map f) (a.map g) := by
  cases a with
  | some x => exact .some (hfg x)
  | none => exact .none

end Related

/-! ## Equivalent parsers -/

namespace Parser

variable {p p' q q' r : Parser α} {R : Output α → Output α → Prop} {x y : Text}

/-- **Two parsers are equivalent up to a relation of outputs**: on every text, what one of them
replies corresponds to what the other does. -/
structure EquivalentVia (s : Session α) (R : Output α → Output α → Prop) (p q : Parser α) :
    Prop where
  left : ∀ x a, p.Replies s x a → ∃ b, q.Replies s x b ∧ Corresponds R a b
  right : ∀ x b, q.Replies s x b → ∃ a, p.Replies s x a ∧ Corresponds R a b

/-- Equivalent parsers, with the same outputs. -/
abbrev Equivalent (s : Session α) (p q : Parser α) : Prop := EquivalentVia s Eq p q

/-- Either both reply or neither does. -/
theorem equivalentVia_iff (hp : Settled s p) (hq : Settled s q) :
    EquivalentVia s R p q ↔
      ∀ x, Option.Rel (Corresponds R) (p.reply s x) (q.reply s x) := by
  simp only [rel_iff, hp.reply_eq_some_iff, hq.reply_eq_some_iff]
  exact ⟨fun h x => ⟨h.left x, h.right x⟩, fun h => ⟨fun x => (h x).1, fun x => (h x).2⟩⟩

namespace Equivalent

theorem refl (p : Parser α) : Equivalent s p p where
  left _ a ha := ⟨a, ha, .refl a⟩
  right _ a ha := ⟨a, ha, .refl a⟩

theorem symm (h : Equivalent s p q) : Equivalent s q p where
  left x a ha := (h.right x a ha).imp fun _ hb => ⟨hb.1, hb.2.symm⟩
  right x b hb := (h.left x b hb).imp fun _ ha => ⟨ha.1, ha.2.symm⟩

/-- It is enough that one of them replies as the other does, on either side. -/
theorem of_left (h : ∀ x a, p.Replies s x a → ∃ b, q.Replies s x b ∧ Corresponds Eq a b)
    (h' : ∀ x a, q.Replies s x a → ∃ b, p.Replies s x b ∧ Corresponds Eq a b) :
    Equivalent s p q where
  left := h
  right x b hb := (h' x b hb).imp fun _ ha => ⟨ha.1, ha.2.symm⟩

theorem ok {v : Output α} (h : Equivalent s p q) (hv : p.Replies s x (.ok (v, y))) :
    q.Replies s x (.ok (v, y)) := by
  obtain ⟨_, hb, ⟨rfl⟩⟩ := h.left x _ hv
  exact hb

theorem error {e : ParseError} (h : Equivalent s p q) (he : p.Replies s x (.error e)) :
    ∃ f, q.Replies s x (.error f) ∧ e.Akin f := by
  obtain ⟨_, hb, hef⟩ := h.left x _ he
  cases hef with
  | error hef => exact ⟨_, hb, hef⟩

/-- Equivalent parsers go through the same rounds. -/
theorem takes {goesOn : Text → Text → Prop} {vs : List (Output α)} (h : Equivalent s p q)
    (hs : Takes s p goesOn vs x y) : Takes s q goesOn vs x y := by
  induction hs with
  | none => exact .none
  | more hv hgo _ ih => exact .more (h.ok hv) hgo ih

end Equivalent

/-! ## Laws -/

/-- The output of a sequence, and of one that keeps both. -/
inductive Projects (keep : Keep) : Output α → Output α → Prop
  | intro (v w : Output α) : Projects keep (keep.combine v w) (.pair v w)

/-- Three outputs in pairs, the first two or the last two together. -/
inductive Reassociates : Output α → Output α → Prop
  | intro (u v w : Output α) : Reassociates (.pair (.pair u v) w) (.pair u (.pair v w))

section Laws

variable (hp : Settled s p) (hq : Settled s q) (hr : Settled s r) (i j k l m : NodeId)

include hp hq

/-- **Sequences differ in what they keep of the outputs, and in nothing else.** -/
theorem sequence_equivalent_both (keep : Keep) :
    EquivalentVia s (Projects keep) (.sequence i keep p q) (.sequence j .both p q) := by
  refine (equivalentVia_iff (hp.sequence hq i keep) (hp.sequence hq j .both)).2 fun x => ?_
  rw [reply_sequence i keep hp hq, reply_sequence j .both hp hq]
  refine rel_bind_self fun a => ?_
  obtain e | ⟨v, y⟩ := a
  · exact .some (.error ⟨by simp, by simp⟩)
  · refine rel_map_self fun b => ?_
    obtain f | ⟨w, z⟩ := b
    · exact .error ⟨by simp, by simp⟩
    · exact .ok (.intro v w)

include hr

/-- **Choices are associative.** -/
theorem choice_assoc :
    Equivalent s (.choice i (.choice j p q) r) (.choice k p (.choice l q r)) := by
  refine (equivalentVia_iff ((hp.choice hq j).choice hr i) (hp.choice (hq.choice hr l) k)).2
    fun x => ?_
  rw [reply_choice i (hp.choice hq j) hr, reply_choice j hp hq, reply_choice k hp (hq.choice hr l),
    reply_choice l hq hr, Option.bind_assoc]
  refine rel_bind_self fun a => ?_
  cases a with
  | ok a => exact .some (.refl _)
  | error e =>
    simp only [Option.bind_map, Option.map_bind]
    refine rel_bind_self fun b => ?_
    cases b with
    | ok b => exact .some (.refl _)
    | error f =>
      simp only [Function.comp_apply, Option.map_map]
      refine rel_map_self fun c => ?_
      cases c with
      | ok a => exact .refl _
      | error e => exact .error ⟨by simp, by simp⟩

/-- **Sequences are associative**, up to how their outputs are paired. -/
theorem sequence_assoc :
    EquivalentVia s Reassociates (.sequence i .both (.sequence j .both p q) r)
      (.sequence k .both p (.sequence l .both q r)) := by
  refine (equivalentVia_iff ((hp.sequence hq j .both).sequence hr i .both)
    (hp.sequence (hq.sequence hr l .both) k .both)).2 fun x => ?_
  rw [reply_sequence i .both (hp.sequence hq j .both) hr, reply_sequence j .both hp hq,
    reply_sequence k .both hp (hq.sequence hr l .both), Option.bind_assoc]
  refine rel_bind_self fun a => ?_
  obtain e | ⟨u, y⟩ := a
  · exact .some (.error ⟨by simp, by simp⟩)
  · simp only [reply_sequence l .both hq hr, Option.bind_map, Option.map_bind]
    refine rel_bind_self fun b => ?_
    obtain f | ⟨v, z⟩ := b
    · exact .some (.error ⟨by simp, by simp⟩)
    · change Option.Rel _ (Option.map _ (r.reply s z)) (Option.map _ (Option.map _ (r.reply s z)))
      rw [Option.map_map]
      refine rel_map_self fun c => ?_
      obtain g | ⟨w, t⟩ := c
      · exact .error ⟨by simp, by simp⟩
      · exact .ok (.intro u v w)

/-- **A sequence distributes over a choice of its second part.** -/
theorem sequence_choice (keep : Keep) :
    Equivalent s (.sequence i keep p (.choice j q r))
      (.choice k (.sequence l keep p q) (.sequence m keep p r)) := by
  refine (equivalentVia_iff (hp.sequence (hq.choice hr j) i keep)
    ((hp.sequence hq l keep).choice (hp.sequence hr m keep) k)).2 fun x => ?_
  rw [reply_sequence i keep hp (hq.choice hr j),
    reply_choice k (hp.sequence hq l keep) (hp.sequence hr m keep), reply_sequence l keep hp hq,
    reply_sequence m keep hp hr, Option.bind_assoc]
  -- The reply of `p` stands on both branches of the choice.
  obtain _ | e | ⟨v, y⟩ := p.reply s x
  · exact .none
  · exact .some (.error ⟨by simp, by simp⟩)
  · simp only [Option.bind_some, reply_choice j hq hr, Option.bind_map, Option.map_bind]
    refine rel_bind_self fun b => ?_
    obtain f | ⟨w, z⟩ := b
    · change Option.Rel _ (Option.map _ (Option.map _ (r.reply s y)))
        (Option.map _ (Option.map _ (r.reply s y)))
      rw [Option.map_map, Option.map_map]
      refine rel_map_self fun c => ?_
      obtain g | ⟨w, t⟩ := c
      · exact .error ⟨by simp, by simp⟩
      · exact .ok rfl
    · exact .some (.refl _)

end Laws

/-! ## Congruences -/

section Congruences

variable (hp : Settled s p) (hp' : Settled s p') (hq : Settled s q) (hq' : Settled s q')
  (h : Equivalent s p p') (h' : Equivalent s q q') (i j : NodeId)

include hp hp' h

theorem map_congr (f : Output α → Output α) : Equivalent s (.map i p f) (.map j p' f) := by
  refine (equivalentVia_iff (hp.map i f) (hp'.map j f)).2 fun x => ?_
  rw [reply_map i f hp, reply_map j f hp']
  exact rel_map ((equivalentVia_iff hp hp').1 h x) fun _ _ hab => hab.map fun _ _ => congrArg f

theorem named_congr (name name' : String) :
    Equivalent s (.named i name p) (.named j name' p') := by
  refine (equivalentVia_iff (hp.named i name) (hp'.named j name')).2 fun x => ?_
  rw [reply_named i name hp, reply_named j name' hp']
  refine rel_map ((equivalentVia_iff hp hp').1 h x) fun a b hab => ?_
  exact (hab.inContext_left name x).inContext_right name' x

theorem optional_congr : Equivalent s (.optional i p) (.optional j p') := by
  refine (equivalentVia_iff (hp.optional i) (hp'.optional j)).2 fun x => ?_
  rw [reply_optional i hp, reply_optional j hp']
  refine rel_map ((equivalentVia_iff hp hp').1 h x) fun a b hab => ?_
  cases hab with
  | ok hvw => exact .ok (congrArg _ hvw)
  | error => exact .ok rfl

/-- A counted repetition of an equivalent parser fails in the same round. -/
theorem exactly_of_equivalent (n : Count) {a : Parsed α}
    (ha : (Parser.exactly i n p).Replies s x a) :
    ∃ b, (Parser.exactly j n p').Replies s x b ∧ Corresponds Eq a b := by
  obtain e | ⟨v, y⟩ := a
  · obtain ⟨hfits, vs, y, c, hlt, htakes, hc, rfl⟩ := (replies_exactly_error_iff hp).1 ha
    obtain ⟨c', hc', hcc'⟩ := h.error hc
    exact ⟨_, (replies_exactly_error_iff hp').2 ⟨hfits, vs, y, c', hlt, h.takes htakes, hc', rfl⟩,
      .error ((hcc'.within_left _ y).within_right _ y)⟩
  · obtain ⟨hfits, vs, rfl, hlength, htakes⟩ := (replies_exactly_ok_iff hp).1 ha
    exact ⟨_, (replies_exactly_ok_iff hp').2 ⟨hfits, vs, rfl, hlength, h.takes htakes⟩, .refl _⟩

theorem exactly_congr (n : Count) : Equivalent s (.exactly i n p) (.exactly j n p') :=
  .of_left (fun _ _ => exactly_of_equivalent hp hp' h i j n)
    fun _ _ => exactly_of_equivalent hp' hp h.symm j i n

/-- A defect reported by another repetition. -/
def reportedBy (label : String) : ParseError → ParseError
  | .definition _ y fault => .definition label y fault
  | e => e

/-- **A repetition replies as that of an equivalent parser**, but for its label. -/
theorem star_of_equivalent {a : Parsed α} (ha : (Parser.star i p).Replies s x a) :
    (Parser.star j p').Replies s x (a.mapError (reportedBy (j.label Unary.star.tag))) := by
  obtain e | ⟨v, y⟩ := a
  · obtain ⟨vs, y, v, htakes, hv, rfl⟩ := (replies_star_error_iff hp).1 ha
    exact (replies_star_error_iff hp').2 ⟨vs, y, v, h.takes htakes, h.ok hv, rfl⟩
  · obtain ⟨vs, e, rfl, htakes, he⟩ := (replies_star_ok_iff hp).1 ha
    obtain ⟨f, hf, -⟩ := h.error he
    exact (replies_star_ok_iff hp').2 ⟨vs, f, rfl, h.takes htakes, hf⟩

/-- Where the label is the same, nothing else differs. -/
theorem star_congr : Equivalent s (.star i p) (.star i p') := by
  have hown {q : Parser α} (hq : Settled s q) {x : Text} {a : Parsed α}
      (ha : (Parser.star i q).Replies s x a) :
      a.mapError (reportedBy (NodeId.label i Unary.star.tag)) = a := by
    obtain e | _ := a
    · obtain ⟨_, _, _, -, -, rfl⟩ := (replies_star_error_iff hq).1 ha
      rfl
    · rfl
  refine .of_left (fun x a ha => ⟨a, ?_, .refl a⟩) fun x a ha => ⟨a, ?_, .refl a⟩
  · exact hown hp ha ▸ star_of_equivalent hp hp' h i i ha
  · exact hown hp' ha ▸ star_of_equivalent hp' hp h.symm i i ha

include hq hq' h'

theorem choice_congr : Equivalent s (.choice i p q) (.choice j p' q') := by
  refine (equivalentVia_iff (hp.choice hq i) (hp'.choice hq' j)).2 fun x => ?_
  rw [reply_choice i hp hq, reply_choice j hp' hq']
  refine rel_bind ((equivalentVia_iff hp hp').1 h x) fun a b hab => ?_
  cases hab with
  | ok hvw => exact .some (.ok hvw)
  | error =>
    refine rel_map ((equivalentVia_iff hq hq').1 h' x) fun c d hcd => ?_
    exact (hcd.inContext_left _ x).inContext_right _ x

theorem sequence_congr (keep : Keep) :
    Equivalent s (.sequence i keep p q) (.sequence j keep p' q') := by
  refine (equivalentVia_iff (hp.sequence hq i keep) (hp'.sequence hq' j keep)).2 fun x => ?_
  rw [reply_sequence i keep hp hq, reply_sequence j keep hp' hq']
  refine rel_bind ((equivalentVia_iff hp hp').1 h x) fun a b hab => ?_
  cases hab with
  | error he => exact .some (.error ((he.within_left _ x).within_right _ x))
  | @ok v _ y hvw =>
    subst hvw
    refine rel_map ((equivalentVia_iff hq hq').1 h' y) fun c d hcd => ?_
    have hcombine : Corresponds Eq (c.map fun a => (keep.combine v a.1, a.2))
        (d.map fun a => (keep.combine v a.1, a.2)) := hcd.map fun _ _ => congrArg _
    exact (hcombine.inContext_left _ x).inContext_right _ x

end Congruences

/-! ## Parsers that always reply -/

/-- The parser replies to every text. -/
def Total (s : Session α) (p : Parser α) : Prop := ∀ x, ∃ a, p.Replies s x a

section Total

variable (hp : Settled s p) (hq : Settled s q) (htp : Total s p) (htq : Total s q) (i : NodeId)

include hp htp

/-- A parser replies where its reply is made of that of another. -/
theorem total_of_reply {f : Text → Parsed α → Parsed α} (hq : Settled s q)
    (hreply : ∀ x, q.reply s x = (p.reply s x).map (f x)) : Total s q := by
  intro x
  obtain ⟨a, ha⟩ := htp x
  refine ⟨f x a, hq.reply_eq_some_iff.1 ?_⟩
  rw [hreply, hp.reply_eq_some_iff.2 ha]
  rfl

theorem total_map (f : Output α → Output α) : Total s (.map i p f) :=
  total_of_reply hp htp (hp.map i f) fun _ => reply_map i f hp

theorem total_named (name : String) : Total s (.named i name p) :=
  total_of_reply hp htp (hp.named i name) fun _ => reply_named i name hp

theorem total_optional : Total s (.optional i p) :=
  total_of_reply hp htp (hp.optional i) fun _ => reply_optional i hp

/-- There must be room for the outputs of a counted repetition. -/
theorem total_exactly_iff (n : Count) : Total s (.exactly i n p) ↔ n.Fits := by
  constructor
  · intro h
    obtain ⟨_, hreplies⟩ := h []
    exact fits_of_replies_exactly hreplies
  · exact fun hfits _ => exists_replies_exactly hp i hfits fun _ y _ _ => htp y

include hq htq

theorem total_choice : Total s (.choice i p q) := by
  intro x
  obtain ⟨a, ha⟩ := htp x
  obtain ⟨b, hb⟩ := htq x
  simp only [← (hp.choice hq i).reply_eq_some_iff, reply_choice i hp hq,
    hp.reply_eq_some_iff.2 ha, hq.reply_eq_some_iff.2 hb]
  cases a with
  | ok a => exact ⟨_, rfl⟩
  | error e => exact ⟨_, rfl⟩

theorem total_sequence (keep : Keep) : Total s (.sequence i keep p q) := by
  intro x
  obtain ⟨a, ha⟩ := htp x
  simp only [← (hp.sequence hq i keep).reply_eq_some_iff, reply_sequence i keep hp hq,
    hp.reply_eq_some_iff.2 ha]
  obtain e | ⟨v, y⟩ := a
  · exact ⟨_, rfl⟩
  · obtain ⟨b, hb⟩ := htq y
    rw [← hq.reply_eq_some_iff] at hb
    simp only [Option.bind_some, hb]
    exact ⟨_, rfl⟩

end Total

/-! ## The algebra -/

/-- **The algebra of sequences and choices.**  Choices are associative, sequences are so up to how
their outputs are paired, and distribute over choices; a sequence that keeps one output is that
projection of one that keeps both.  A node with a part replaced by an equivalent one is equivalent;
an unbounded repetition is so under its own identity, and under another replies the same but for the
label of the defect that it raises.  Nodes with parts that always reply do so as well, a counted
repetition if and only if there is room for its outputs. -/
theorem parser_algebra (hp : Settled s p) (hq : Settled s q) (hr : Settled s r) :
    (∀ i j k l, Equivalent s (.choice i (.choice j p q) r) (.choice k p (.choice l q r))) ∧
    (∀ i j k l, EquivalentVia s Reassociates (.sequence i .both (.sequence j .both p q) r)
      (.sequence k .both p (.sequence l .both q r))) ∧
    (∀ i j k l m keep, Equivalent s (.sequence i keep p (.choice j q r))
      (.choice k (.sequence l keep p q) (.sequence m keep p r))) ∧
    (∀ i j keep, EquivalentVia s (Projects keep) (.sequence i keep p q) (.sequence j .both p q)) ∧
    (∀ p' q', Settled s p' → Settled s q' → Equivalent s p p' → Equivalent s q q' → ∀ i j,
      Equivalent s (.choice i p q) (.choice j p' q') ∧
      (∀ keep, Equivalent s (.sequence i keep p q) (.sequence j keep p' q')) ∧
      (∀ f, Equivalent s (.map i p f) (.map j p' f)) ∧
      (∀ name name', Equivalent s (.named i name p) (.named j name' p')) ∧
      Equivalent s (.optional i p) (.optional j p') ∧
      (∀ n, Equivalent s (.exactly i n p) (.exactly j n p')) ∧
      Equivalent s (.star i p) (.star i p') ∧
      ∀ x a, (Parser.star i p).Replies s x a →
        (Parser.star j p').Replies s x (a.mapError (reportedBy (j.label Unary.star.tag)))) ∧
    (Total s p → Total s q → ∀ i,
      Total s (.choice i p q) ∧ (∀ keep, Total s (.sequence i keep p q)) ∧
      (∀ f, Total s (.map i p f)) ∧ (∀ name, Total s (.named i name p)) ∧
      Total s (.optional i p) ∧ (∀ n, Total s (.exactly i n p) ↔ n.Fits) ∧
      Total s (.star i p)) :=
  ⟨fun i j k l => choice_assoc hp hq hr i j k l, fun i j k l => sequence_assoc hp hq hr i j k l,
    fun i j k l m keep => sequence_choice hp hq hr i j k l m keep,
    fun i j keep => sequence_equivalent_both hp hq i j keep,
    fun _ _ hp' hq' h h' i j => ⟨choice_congr hp hp' hq hq' h h' i j,
      sequence_congr hp hp' hq hq' h h' i j, map_congr hp hp' h i j, named_congr hp hp' h i j,
      optional_congr hp hp' h i j, exactly_congr hp hp' h i j, star_congr hp hp' h i,
      fun _ _ => star_of_equivalent hp hp' h i j⟩,
    fun htp htq i => ⟨total_choice hp hq htp htq i, total_sequence hp hq htp htq i,
      total_map hp htp i, total_named hp htp i, total_optional hp htp i,
      total_exactly_iff hp htp i,
      fun _ => exists_replies_star hp i fun _ y _ => htp y⟩⟩

/-- A repeated choice of three letters, with the choice associated in either way. -/
theorem parser_algebra_letters :
    let a : Parser Empty := .literal 1 ['a']
    let b : Parser Empty := .literal 2 ['b']
    let c : Parser Empty := .literal 3 ['c']
    let p : Parser Empty := .choice 5 (.choice 4 a b) c
    let q : Parser Empty := .choice 7 a (.choice 6 b c)
    Settled {} p ∧ Settled {} q ∧ Equivalent {} p q ∧ Equivalent {} (.star 8 p) (.star 8 q) ∧
      Equivalent {} (.sequence 9 .both p a) (.sequence 10 .both q a) := by
  intro a b c p q
  have ha : Settled {} a := .literal 1 ['a']
  have hb : Settled {} b := .literal 2 ['b']
  have hc : Settled {} c := .literal 3 ['c']
  have hp : Settled {} p := (ha.choice hb 4).choice hc 5
  have hq : Settled {} q := ha.choice (hb.choice hc 6) 7
  have hpq : Equivalent {} p q := (parser_algebra ha hb hc).1 5 4 7 6
  have hcongr := (parser_algebra hp ha ha).2.2.2.2.1 q a hq ha hpq (.refl a)
  exact ⟨hp, hq, hpq, (hcongr 8 8).2.2.2.2.2.2.1, (hcongr 9 10).2.1 .both⟩

end Parser

end GrammarGraph
