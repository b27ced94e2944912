import GrammarGraph.Proofs.Registry

/-!
# Proofs/Graph — grammars as graphs

    p ──part──▸ q          rule h ──definition──▸ q

A parser is a tree, but through the definitions of rules it becomes a graph that may be shared and
cyclic.  Boxes and handles of rules are no nodes of it: they stand for what they lead to, and a
handle that leads nowhere stands for itself (`Resolves`).
-/

namespace GrammarGraph

variable {α : Type} {s : Session α} {p q : Parser α}

/-- The kind of a node, with its parts.  A handle is a node only if it leads nowhere. -/
def Parser.shape : Parser α → Shape (Parser α)
  | .literal _ text => .leaf (.literal text)
  | .pattern _ p => .leaf (.pattern p.source)
  | .map _ inner _ => .unary .map inner
  | .sequence _ keep left right => .binary (.sequence keep) left right
  | .choice _ left right => .binary .choice left right
  | .optional _ inner => .unary .optional inner
  | .star _ inner => .unary .star inner
  | .exactly _ count inner => .unary (.exactly count.rounds) inner
  | .named _ name inner => .unary (.named name) inner
  | .boxed inner => inner.shape
  | .rule _ => .leaf .unresolved

theorem Parser.mem_parts_of_shape {c : Parser α} (hp : p.isNode ∨ ∃ h, p = .rule h)
    (hc : c ∈ p.shape.children) : c ∈ p.parts := by
  cases p with
  | boxed => obtain ⟨⟨⟩⟩ | ⟨_, ⟨⟩⟩ := hp
  | _ => exact hc

/-! ## Rules that answer at once -/

/-- The rule answers at once, whatever definitions are built by. -/
def Forces (s : Session α) (h : Rule) (r : Except Fault (Parser α)) : Prop :=
  ∀ build, h.force build s = some (r, s)

theorem Forces.unique {h : Rule} {r r' : Except Fault (Parser α)} (hr : Forces s h r)
    (hr' : Forces s h r') : r = r' := by
  have hsame := (hr fun _ => failure).symm.trans (hr' fun _ => failure)
  exact (Prod.mk.inj (Option.some.inj hsame)).1

/-- Unless its definition is pending. -/
theorem exists_forces {h : Rule}
    (hp : ∀ definition, (s.slot? h).map Slot.stage ≠ some (.pending definition)) :
    ∃ r, Forces s h r := by
  have hforce : ∀ build, h.force build s = _ := fun build => Rule.force_apply
  match hstage : (s.slot? h).map Slot.stage with
  | some (.pending definition) => exact absurd hstage (hp definition)
  | none | some (.built _) | some .building | some .empty =>
    rw [hstage] at hforce
    exact ⟨_, hforce⟩

theorem Forces.not_pending {h : Rule} {r : Except Fault (Parser α)} (hr : Forces s h r) :
    ∀ definition, (s.slot? h).map Slot.stage ≠ some (.pending definition) := by
  intro definition hstage
  have hforce := hr fun _ => failure
  obtain ⟨_, _, hthunk, -, -⟩ := Rule.of_force_of_pending hstage hforce
  obtain ⟨_, _, -, hfailure⟩ := Run.bind_eq_some_iff.1 hthunk
  cases hfailure

/-- The answer depends on the slot alone. -/
theorem Forces.of_slot? {t : Session α} {h h' : Rule} {r : Except Fault (Parser α)}
    (hr : Forces s h r) (hslot : t.slot? h' = s.slot? h) : Forces t h' r := by
  intro build
  have hs := hr build
  rw [Rule.force_apply] at hs ⊢
  rw [hslot]
  match hstage : (s.slot? h).map Slot.stage with
  | some (.pending definition) => exact absurd hstage (hr.not_pending definition)
  | none | some (.built _) | some .building | some .empty =>
    rw [hstage] at hs
    obtain ⟨rfl, -⟩ := Prod.mk.inj (Option.some.inj hs)
    rfl

/-- What a rule is defined as is in its slot. -/
theorem Forces.exists_slot {h : Rule} (hp : Forces s h (.ok p)) :
    ∃ slot, s.slot? h = some slot ∧ slot.value = some p := by
  have hbuilt := (Rule.of_force_of_ne hp.not_pending (hp fun _ => failure)).2 p rfl
  obtain ⟨slot, hslot, hstage⟩ := Option.map_eq_some_iff.1 hbuilt
  exact ⟨slot, hslot, Slot.value_of_built hstage⟩

theorem Forces.of_built {h : Rule} {slot : Slot α} (hslot : s.slot? h = some slot)
    (hstage : slot.stage = .built p) : Forces s h (.ok p) := by
  intro build
  rw [Rule.force_apply, hslot, Option.map_some, hstage]

/-! ## Nodes -/

/-- **The node that a parser stands for**: boxes are opened, and rules followed to their
definitions. -/
inductive Resolves (s : Session α) : Parser α → Parser α → Prop
  | node {p : Parser α} (hp : p.isNode) : Resolves s p p
  | box {p q : Parser α} (hp : Resolves s p q) : Resolves s (.boxed p) q
  | rule {h : Rule} {p q : Parser α} (hf : Forces s h (.ok p)) (hp : Resolves s p q) :
      Resolves s (.rule h) q
  | unresolved {h : Rule} {fault : Fault} (hf : Forces s h (.error fault)) :
      Resolves s (.rule h) (.rule h)

theorem Resolves.unique {q' : Parser α} (h : Resolves s p q) (h' : Resolves s p q') : q = q' := by
  induction h with
  | node hp =>
    cases h' with
    | node => rfl
    | box | rule | unresolved => cases hp
  | box _ ih =>
    cases h' with
    | node hp => cases hp
    | box h' => exact ih h'
  | rule hf _ ih =>
    cases h' with
    | node hp => cases hp
    | rule hf' h' =>
      obtain rfl := Except.ok.inj (hf.unique hf')
      exact ih h'
    | unresolved hf' => cases hf.unique hf'
  | unresolved hf =>
    cases h' with
    | node hp => cases hp
    | rule hf' => cases hf.unique hf'
    | unresolved => rfl

/-- What is resolved is a node, or a handle that leads nowhere. -/
theorem Resolves.isNode_or (h : Resolves s p q) :
    q.isNode ∨ ∃ r fault, q = .rule r ∧ Forces s r (.error fault) := by
  induction h with
  | node hp => exact .inl hp
  | box _ ih => exact ih
  | rule _ _ ih => exact ih
  | unresolved hf => exact .inr ⟨_, _, rfl, hf⟩

theorem Resolves.mem_nodes (h : Resolves s p q) : q ∈ q.nodes := by
  obtain hq | ⟨r, fault, rfl, hf⟩ := h.isNode_or
  · cases q with
    | boxed | rule => cases hq
    | _ => exact List.mem_cons_self
  · exact List.mem_cons_self

/-! ## Reaching parsers -/

/-- **One parser is reached from another** by going to parts and to the definitions of rules. -/
inductive Reaches (s : Session α) (p : Parser α) : Parser α → Prop
  | refl : Reaches s p p
  | part {q c : Parser α} (h : Reaches s p q) (hc : c ∈ q.parts) : Reaches s p c
  | definition {h : Rule} {q : Parser α} (hr : Reaches s p (.rule h)) (hf : Forces s h (.ok q)) :
      Reaches s p q

theorem Resolves.reaches (h : Resolves s p q) {root : Parser α} (hr : Reaches s root p) :
    Reaches s root q := by
  induction h with
  | node _ => exact hr
  | box _ ih => exact ih (hr.part (List.mem_singleton_self _))
  | rule hf _ ih => exact ih (hr.definition hf)
  | unresolved _ => exact hr

/-- A reached part of a node. -/
theorem Reaches.child {root c : Parser α} (h : Reaches s root p) (hr : Resolves s p q)
    (hc : c ∈ q.shape.children) : Reaches s root c := by
  refine (hr.reaches h).part (Parser.mem_parts_of_shape ?_ hc)
  exact hr.isNode_or.imp_right fun ⟨r, _, hr, _⟩ => ⟨r, hr⟩

section Parts

variable {root a b c : Parser α} {k : Unary} {k' : Binary} (h : Reaches s root p)
  (hr : Resolves s p q)

include h hr

theorem Reaches.inner (hq : q.shape = .unary k c) : Reaches s root c := by
  refine h.child hr ?_
  rw [hq]
  exact List.mem_singleton_self _

theorem Reaches.left (hq : q.shape = .binary k' a b) : Reaches s root a := by
  refine h.child hr ?_
  rw [hq]
  exact List.mem_cons_self

theorem Reaches.right (hq : q.shape = .binary k' a b) : Reaches s root b := by
  refine h.child hr ?_
  rw [hq]
  exact List.mem_cons_of_mem _ (List.mem_singleton_self _)

end Parts

/-- What is reached is among what is closed under parts and definitions. -/
theorem Reaches.mem {S : Parser α → Prop} (h : Reaches s p q) (hp : S p)
    (hparts : ∀ q, S q → ∀ c ∈ q.parts, S c)
    (hdefs : ∀ h q, S (.rule h) → Forces s h (.ok q) → S q) : S q := by
  induction h with
  | refl => exact hp
  | part _ hc ih => exact hparts _ ih _ hc
  | definition _ hf ih => exact hdefs _ _ ih hf

/-- **A node of the grammar** of a parser. -/
def IsNodeOf (s : Session α) (p q : Parser α) : Prop := ∃ r, Reaches s p r ∧ Resolves s r q

/-! ## States in which a grammar is settled -/

/-- No rule that is reached is pending or being built. -/
def Settled (s : Session α) (p : Parser α) : Prop :=
  ∀ h, Reaches s p (.rule h) → (s.slot? h).map Slot.stage ≠ some .building ∧
    ∀ definition, (s.slot? h).map Slot.stage ≠ some (.pending definition)

/-- A parser out of its boxes. -/
def Parser.unboxed : Parser α → Parser α
  | .boxed inner => inner.unboxed
  | p => p

/-- One rule is defined as another, without a node in between. -/
def Aliases (s : Session α) (h h' : Rule) : Prop :=
  ∃ p, Forces s h (.ok p) ∧ p.unboxed = .rule h'

/-- **No rule that is reached is defined as itself**, by way of other rules and of no node. -/
def Grounded (s : Session α) (p : Parser α) : Prop :=
  ∀ h, Reaches s p (.rule h) → ¬Relation.TransGen (Aliases s) h h

/-! ## The finite universe of a grammar -/

/-- All nodes and handles in a parser and in the slots of a session. -/
def graphNodes (s : Session α) (p : Parser α) : List (Parser α) :=
  p.nodes ++ s.slots.flatMap fun slot => (slot.value.map Parser.nodes).getD []

theorem Session.mem_slots {h : Rule} {slot : Slot α} (hs : s.slot? h = some slot) :
    slot ∈ s.slots := by
  obtain ⟨arena, harena, hslot⟩ := Option.bind_eq_some_iff.1 (Session.slotOf?_of_slot? hs)
  exact List.mem_flatMap.2 ⟨arena, List.mem_of_getElem? harena, List.mem_of_getElem? hslot⟩

theorem Reaches.nodes_subset (h : Reaches s p q) : q.nodes ⊆ graphNodes s p := by
  induction h with
  | refl => exact List.subset_append_left _ _
  | part _ hc ih => exact List.Subset.trans (Parser.nodes_subset_of_part hc) ih
  | definition _ hf _ =>
    obtain ⟨slot, hslot, hvalue⟩ := hf.exists_slot
    refine List.Subset.trans ?_ (List.subset_append_right _ _)
    intro r hr
    refine List.mem_flatMap.2 ⟨slot, Session.mem_slots hslot, ?_⟩
    rw [hvalue]
    exact hr

/-- The rules in a parser and in the slots of a session. -/
def graphRules (s : Session α) (p : Parser α) : List Rule :=
  (graphNodes s p).filterMap fun
    | .rule h => some h
    | _ => none

theorem Reaches.mem_graphRules {h : Rule} (hr : Reaches s p (.rule h)) : h ∈ graphRules s p :=
  List.mem_filterMap.2 ⟨.rule h, hr.nodes_subset (List.mem_singleton_self _), rfl⟩

/-- How many of the things in a list have not been seen. -/
def unseen {β : Type} [DecidableEq β] (l seen : List β) : Nat := l.countP (· ∉ seen)

theorem unseen_le {β : Type} [DecidableEq β] (l : List β) {seen seen' : List β}
    (h : seen ⊆ seen') : unseen l seen' ≤ unseen l seen := by
  refine List.countP_mono_left fun b _ hb => ?_
  have hb' : b ∉ seen' := of_decide_eq_true hb
  exact decide_eq_true fun hmem => hb' (h hmem)

theorem unseen_lt {β : Type} [DecidableEq β] {l seen : List β} {b : β} (hb : b ∈ l)
    (hseen : b ∉ seen) : unseen l (b :: seen) < unseen l seen := by
  obtain ⟨l, l', rfl⟩ := List.append_of_mem hb
  have hl := unseen_le l (List.subset_cons_self b seen)
  have hl' := unseen_le l' (List.subset_cons_self b seen)
  have hin : decide (b ∉ b :: seen) = false := by simp
  have hout : decide (b ∉ seen) = true := decide_eq_true hseen
  rw [unseen, unseen] at hl hl' ⊢
  rw [List.countP_append, List.countP_append, List.countP_cons, List.countP_cons, hin, hout]
  simp only [if_true, Bool.false_eq_true, if_false]
  omega

theorem Reaches.knows {w : Registry α} (h : Reaches s p q) (hs : Registered w s) (hp : w.Knows p) :
    w.Knows q := by
  induction h with
  | refl => exact hp
  | part _ hc ih => exact ih.part hc
  | definition _ hf _ =>
    obtain ⟨slot, hslot, hvalue⟩ := hf.exists_slot
    exact hs.slots _ slot _ (Session.slotOf?_of_slot? hslot) hvalue

/-! ## Everything that is reached stands for a node -/

theorem Reaches.unboxed {root : Parser α} (h : Reaches s root p) : Reaches s root p.unboxed := by
  induction p with
  | boxed inner ih => exact ih (h.part (List.mem_singleton_self _))
  | _ => exact h

theorem Resolves.of_unboxed (h : Resolves s p.unboxed q) : Resolves s p q := by
  induction p with
  | boxed inner ih => exact .box (ih h)
  | _ => exact h

theorem Parser.unboxed_isNode_or (p : Parser α) : p.unboxed.isNode ∨ ∃ h, p.unboxed = .rule h := by
  induction p with
  | boxed inner ih => exact ih
  | rule h => exact .inr ⟨h, rfl⟩
  | _ => exact .inl rfl

section Grounded

variable {root : Parser α} (hs : Settled s root) (hg : Grounded s root)

include hs hg

/-- A handle is followed until it leads to a node, or nowhere.  It cannot lead to a handle that has
been seen on the way, and there are finitely many. -/
theorem exists_resolves_rule (n : Nat) : ∀ (seen : List Rule) (h : Rule),
    unseen (graphRules s root) seen < n → (∀ h' ∈ seen, Relation.TransGen (Aliases s) h' h) →
      Reaches s root (.rule h) → ∃ r, Resolves s (.rule h) r := by
  induction n with
  | zero => exact fun _ _ hn => absurd hn (Nat.not_lt_zero _)
  | succ n ih =>
    intro seen h hn hseen hr
    have hlt := unseen_lt hr.mem_graphRules fun hmem => hg h hr (hseen h hmem)
    obtain ⟨r, hf⟩ := exists_forces (hs h hr).2
    cases r with
    | error fault => exact ⟨_, .unresolved hf⟩
    | ok p =>
      have hp := (hr.definition hf).unboxed
      obtain hnode | ⟨h', hrule⟩ := p.unboxed_isNode_or
      · exact ⟨_, .rule hf (.of_unboxed (.node hnode))⟩
      · have halias : Aliases s h h' := ⟨p, hf, hrule⟩
        have hseen' : ∀ h'' ∈ h :: seen, Relation.TransGen (Aliases s) h'' h' := by
          intro h'' hmem
          obtain rfl | hmem := List.mem_cons.1 hmem
          · exact .single halias
          · exact (hseen h'' hmem).tail halias
        obtain ⟨q, hq⟩ := ih (h :: seen) h' (by omega) hseen' (hrule ▸ hp)
        exact ⟨q, .rule hf (.of_unboxed (hrule ▸ hq))⟩

/-- **Whatever is reached stands for a node**, where rules are settled and grounded. -/
theorem exists_resolves (hp : Reaches s root p) : ∃ q, Resolves s p q := by
  obtain hnode | ⟨h, hrule⟩ := p.unboxed_isNode_or
  · exact ⟨_, .of_unboxed (.node hnode)⟩
  · obtain ⟨q, hq⟩ :=
      exists_resolves_rule hs hg _ [] h (Nat.lt_succ_self _) nofun (hrule ▸ hp.unboxed)
    exact ⟨q, .of_unboxed (hrule ▸ hq)⟩

end Grounded

end GrammarGraph
