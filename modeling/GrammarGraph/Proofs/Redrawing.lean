import GrammarGraph.Proofs.Visits

/-!
# Proofs/Redrawing — well-formed descriptions are those that can be drawn again

    description ──graph──▸ identity ↦ kind, identities of parts ──draw from the root──▸ description

A description shows a graph: the kind of every identity that is expanded, and the identities of its
parts.  Drawing goes through such a graph as a walk goes through a grammar (`Draws`): it expands an
identity where it first meets it, marks it before it goes on to its parts, and refers back to it
wherever it meets it again.

Both are a matter of marks: what is drawn meets its entries in order (`Draws.goes`), and what meets
its entries in order is drawn from the graph that it shows (`Goes.draws`).

* `isWellFormed_iff_drawn` — a description is well formed if it is all that can be drawn of its
  graph.
-/

namespace GrammarGraph

/-! ## Graphs -/

/-- **A graph of nodes**: the kinds of identities, with the identities of their parts. -/
abbrev NodeGraph := List (NodeId × Shape NodeId)

namespace Shape

/-- The shape with something else for every part. -/
def map {ρ τ : Type} (f : ρ → τ) : Shape ρ → Shape τ
  | .leaf kind => .leaf kind
  | .unary kind inner => .unary kind (f inner)
  | .binary kind left right => .binary kind (f left) (f right)

end Shape

/-- No identity is given two kinds, or two lists of parts. -/
def NodeGraph.SingleValued (g : NodeGraph) : Prop :=
  ∀ i a b, (i, a) ∈ g → (i, b) ∈ g → a = b

namespace Description

/-- What an entry says of the node that it expands. -/
def node? (d : Description) : Option (NodeId × Shape NodeId) :=
  d.shape?.map fun shape => (d.id, shape.map id)

/-- **The graph that a description shows.** -/
def graph (d : Description) : NodeGraph := d.walk.filterMap node?

variable {d : Description}

theorem graph_unary (i : NodeId) (k : Unary) (inner : Description) :
    (Description.unary i k inner).graph = (i, .unary k inner.id) :: inner.graph := rfl

theorem graph_binary (i : NodeId) (k : Binary) (left right : Description) :
    (Description.binary i k left right).graph =
      (i, .binary k left.id right.id) :: (left.graph ++ right.graph) :=
  congrArg (List.cons _) List.filterMap_append

theorem map_fst_graph (d : Description) : d.graph.map (·.1) = expandedIds d.walk := by
  rw [graph, expandedIds, List.map_filterMap]
  induction d.walk with
  | nil => rfl
  | cons e l ih =>
    cases e <;> simp_all [node?, shape?]

/-- A graph in which every identity is expanded once. -/
theorem singleValued_of_nodup (h : (expandedIds d.walk).Nodup) : d.graph.SingleValued := by
  intro i a b ha hb
  rw [← map_fst_graph] at h
  exact (Prod.mk.inj (List.inj_on_of_nodup_map h ha hb rfl)).2

end Description

/-! ## Drawing -/

/-- **A graph is drawn from one of its identities on**, with what is marked before and after. -/
inductive Draws (g : NodeGraph) : NodeId → Visited → Description → Visited → Prop
  | seen {v i} (hi : i ∈ v) : Draws g i v (.backRef i) v
  | leaf {v i k} (hi : i ∉ v) (hg : (i, .leaf k) ∈ g) : Draws g i v (.leaf i k) (i :: v)
  | unary {v v' i k j d} (hi : i ∉ v) (hg : (i, .unary k j) ∈ g) (h : Draws g j (i :: v) d v') :
      Draws g i v (.unary i k d) v'
  | binary {v v' v'' i k j j' d e} (hi : i ∉ v) (hg : (i, .binary k j j') ∈ g)
      (hl : Draws g j (i :: v) d v') (hr : Draws g j' v' e v'') : Draws g i v (.binary i k d e) v''

namespace Draws

variable {g g' : NodeGraph} {i : NodeId} {v v' w : Visited} {d e : Description}

theorem mono (hg : g ⊆ g') (h : Draws g i v d v') : Draws g' i v d v' := by
  induction h with
  | seen hi => exact .seen hi
  | leaf hi hk => exact .leaf hi (hg hk)
  | unary hi hk _ ih => exact .unary hi (hg hk) ih
  | binary hi hk _ _ ihl ihr => exact .binary hi (hg hk) ihl ihr

/-- **Drawing a graph comes to one thing only.** -/
theorem unique (hg : g.SingleValued) (h : Draws g i v d v') (h' : Draws g i v e w) :
    d = e ∧ v' = w := by
  induction h generalizing e w with
  | seen hi =>
    cases h' with
    | seen => exact ⟨rfl, rfl⟩
    | leaf hi' | unary hi' | binary hi' => exact absurd hi hi'
  | leaf hi hk =>
    cases h' with
    | seen hi' => exact absurd hi' hi
    | unary _ hk' | binary _ hk' => cases hg _ _ _ hk hk'
    | leaf _ hk' =>
      cases hg _ _ _ hk hk'
      exact ⟨rfl, rfl⟩
  | unary hi hk _ ih =>
    cases h' with
    | seen hi' => exact absurd hi' hi
    | leaf _ hk' | binary _ hk' => cases hg _ _ _ hk hk'
    | unary _ hk' h' =>
      cases hg _ _ _ hk hk'
      obtain ⟨rfl, rfl⟩ := ih h'
      exact ⟨rfl, rfl⟩
  | binary hi hk _ _ ihl ihr =>
    cases h' with
    | seen hi' => exact absurd hi' hi
    | leaf _ hk' | unary _ hk' => cases hg _ _ _ hk hk'
    | binary _ hk' hl hr =>
      cases hg _ _ _ hk hk'
      obtain ⟨rfl, rfl⟩ := ihl hl
      obtain ⟨rfl, rfl⟩ := ihr hr
      exact ⟨rfl, rfl⟩

/-- **What is drawn meets its entries in order.** -/
theorem goes (h : Draws g i v d v') : Goes v d.walk v' := by
  induction h with
  | seen hi => exact .backRef hi (.nil _)
  | leaf hi => exact .expanded rfl hi (.nil _)
  | unary hi _ _ ih => exact .expanded rfl hi ih
  | binary hi _ _ _ ihl ihr => exact .expanded rfl hi (ihl.append ihr)

end Draws

namespace Goes

variable {v v' : Visited} {l l' : List Description} {d : Description}

/-- Entries in order can be cut anywhere. -/
theorem split (h : Goes v (l ++ l') v') : ∃ w, Goes v l w ∧ Goes w l' v' := by
  induction l generalizing v with
  | nil => exact ⟨v, .nil v, h⟩
  | cons e l ih =>
    cases h with
    | backRef hi h =>
      obtain ⟨w, hl, hl'⟩ := ih h
      exact ⟨w, .backRef hi hl, hl'⟩
    | expanded he hi h =>
      obtain ⟨w, hl, hl'⟩ := ih h
      exact ⟨w, .expanded he hi hl, hl'⟩

/-- **What meets its entries in order is drawn from the graph that it shows.** -/
theorem draws (h : Goes v d.walk v') : Draws d.graph d.id v d v' := by
  induction d generalizing v v' with
  | backRef i =>
    cases h with
    | backRef hi h =>
      cases h
      exact .seen hi
    | expanded he => cases he
  | leaf i k =>
    cases h with
    | expanded _ hi h =>
      cases h
      exact .leaf hi (List.mem_singleton_self _)
  | unary i k inner ih =>
    cases h with
    | expanded _ hi h =>
      rw [Description.graph_unary]
      exact .unary hi List.mem_cons_self ((ih h).mono (List.subset_cons_self _ _))
  | binary i k left right ihl ihr =>
    cases h with
    | expanded _ hi h =>
      obtain ⟨w, hl, hr⟩ := h.split
      rw [Description.graph_binary]
      have hleft : left.graph ⊆ (i, .binary k left.id right.id) :: (left.graph ++ right.graph) :=
        fun _ h => List.mem_cons_of_mem _ (List.mem_append_left _ h)
      have hright : right.graph ⊆ (i, .binary k left.id right.id) :: (left.graph ++ right.graph) :=
        fun _ h => List.mem_cons_of_mem _ (List.mem_append_right _ h)
      exact .binary hi List.mem_cons_self ((ihl hl).mono hleft) ((ihr hr).mono hright)

end Goes

namespace Description

variable {d : Description} {v : Visited} {l : List Description}

theorem goes_of_inOrder (h : inOrder v l) : ∃ v', Goes v l v' := by
  induction l generalizing v with
  | nil => exact ⟨v, .nil v⟩
  | cons e l ih =>
    cases e with
    | backRef i =>
      rw [inOrder, Bool.and_eq_true] at h
      obtain ⟨v', hl⟩ := ih h.2
      exact ⟨v', .backRef (List.contains_iff_mem.1 h.1) hl⟩
    | leaf i k | unary i k inner | binary i k left right =>
      simp only [inOrder, Bool.and_eq_true, Bool.not_eq_true', List.contains_eq_mem,
        decide_eq_false_iff_not] at h
      obtain ⟨v', hl⟩ := ih h.2
      exact ⟨v', .expanded rfl h.1 hl⟩

/-- **A description is well formed if it is what is drawn of the graph that it shows**, from its
outermost entry on and with nothing marked before. -/
theorem isWellFormed_iff_drawn (d : Description) :
    d.isWellFormed ↔ d.graph.SingleValued ∧ ∀ e, (∃ v, Draws d.graph d.id [] e v) ↔ e = d := by
  constructor
  · intro h
    obtain ⟨v, hgoes⟩ := goes_of_inOrder h
    have hnodup := hgoes.nodup List.nodup_nil
    rw [hgoes.eq_marks, List.append_nil, List.nodup_reverse] at hnodup
    have hsingle := singleValued_of_nodup hnodup
    refine ⟨hsingle, fun e => ⟨?_, ?_⟩⟩
    · rintro ⟨w, he⟩
      exact (he.unique hsingle hgoes.draws).1
    · rintro rfl
      exact ⟨v, hgoes.draws⟩
  · rintro ⟨-, h⟩
    obtain ⟨v, hd⟩ := (h d).2 rfl
    exact hd.goes.inOrder

end Description

end GrammarGraph
