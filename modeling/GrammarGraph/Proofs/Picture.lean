import GrammarGraph.Proofs.Walk
import Mathlib.Data.List.Forall2
import Mathlib.Logic.Relation

/-!
# Proofs/Picture — a description is a picture of the grammar

    description ──expansions──▸ nodes          description ──back references──▸ references

The walk that a description is made by enters every node of a grammar once.  So the entries that
are expanded show the nodes, one each, and what is left of the references to a node, all but the
first, are back references (`describe_picture`).
-/

namespace GrammarGraph

variable {α : Type} {s : Session α} {p q : Parser α}

/-! ## Entries -/

/-- Two shapes of one kind, with parts that are related in order. -/
inductive Shape.Rel {ρ τ : Type} (R : ρ → τ → Prop) : Shape ρ → Shape τ → Prop
  | leaf (k : Leaf) : Rel R (.leaf k) (.leaf k)
  | unary {a b} (k : Unary) (h : R a b) : Rel R (.unary k a) (.unary k b)
  | binary {a a' b b'} (k : Binary) (h : R a b) (h' : R a' b') :
      Rel R (.binary k a a') (.binary k b b')

/-- The entry has the identity of the node that the parser stands for. -/
def Stands (s : Session α) (p : Parser α) (d : Description) : Prop :=
  ∃ q, Resolves s p q ∧ d.id = q.id

/-- **The entry shows the node**: it has the node's identity and kind, and the identities of what
the parts of the node stand for. -/
def Shows (s : Session α) (q : Parser α) (d : Description) : Prop :=
  d.id = q.id ∧ ∃ shape, d.shape? = some shape ∧ q.shape.Rel (Stands s) shape

theorem map_id_of_shows {nodes : List (Parser α)} {l : List Description}
    (h : List.Forall₂ (Shows s) nodes l) : l.map Description.id = nodes.map Parser.id := by
  induction h with
  | nil => rfl
  | cons hd _ ih => rw [List.map_cons, List.map_cons, hd.1, ih]

namespace Description

/-- The entries that are expanded. -/
def expansions (d : Description) : List Description := d.walk.filter (·.shape?.isSome)

/-- The identities of the parts of an entry. -/
def childIds (d : Description) : List NodeId := ((d.shape?.map Shape.children).getD []).map id

end Description

theorem Walks.stands {v : Visited} {d : Description} {nodes : List (Parser α)}
    (h : Walks s p v d nodes) : Stands s p d := by
  cases h with
  | seen hr | leaf hr | unary hr | binary hr => exact ⟨_, hr, rfl⟩

/-- The entries that are expanded show the nodes that are entered. -/
theorem Walks.shows {v : Visited} {d : Description} {nodes : List (Parser α)}
    (h : Walks s p v d nodes) : List.Forall₂ (Shows s) nodes d.expansions := by
  induction h with
  | seen => exact .nil
  | leaf hr hv hq => exact .cons ⟨rfl, _, rfl, hq ▸ .leaf _⟩ .nil
  | unary hr hv hq hc ih => exact .cons ⟨rfl, _, rfl, hq ▸ .unary _ hc.stands⟩ ih
  | @binary _ _ _ _ _ _ d e _ _ hr hv hq hl hr' ihl ihr =>
    have hwalk (id : NodeId) (k : Binary) : (Description.binary id k d e).expansions =
        .binary id k d e :: (d.expansions ++ e.expansions) := by
      simp [Description.expansions, Description.walk, Description.shape?]
    rw [hwalk]
    exact .cons ⟨rfl, _, rfl, hq ▸ .binary _ hl.stands hr'.stands⟩ (List.rel_append ihl ihr)

/-! ## Counting references -/

/-- How often the parts of nodes stand for the node with an identity. -/
noncomputable def references (s : Session α) (nodes : List (Parser α)) (i : NodeId) : Nat := by
  classical
  exact (nodes.flatMap (·.shape.children)).countP fun c => ∃ r, Resolves s c r ∧ r.id = i

theorem references_cons (q : Parser α) (nodes : List (Parser α)) (i : NodeId) :
    references s (q :: nodes) i = references s [q] i + references s nodes i := by
  rw [references, references, references, List.flatMap_cons, List.flatMap_singleton,
    List.countP_append]

namespace Description

/-- In a tree, every entry but the outermost is a part of one entry. -/
theorem count_walk (d : Description) (i : NodeId) : (d.walk.map id).count i =
    (if d.id = i then 1 else 0) + (d.walk.flatMap childIds).count i := by
  induction d with
  | backRef j | leaf j k =>
    simp only [walk, List.map_cons, List.map_nil, List.flatMap_cons, List.flatMap_nil,
      List.count_cons, List.count_nil, childIds, shape?, Option.map_some, Option.map_none,
      Option.getD_some, Option.getD_none, Shape.children, List.append_nil, beq_iff_eq]
    omega
  | unary j k inner ih =>
    simp only [walk, List.map_cons, List.flatMap_cons, List.count_cons, List.count_append, ih,
      childIds, shape?, Option.map_some, Option.getD_some, Shape.children, List.map_nil,
      List.count_nil, beq_iff_eq]
    simp only [id]
    omega
  | binary j k left right ihl ihr =>
    simp only [walk, List.map_cons, List.map_append, List.flatMap_cons, List.flatMap_append,
      List.count_cons, List.count_append, ihl, ihr, childIds, shape?, Option.map_some,
      Option.getD_some, Shape.children, List.map_nil, List.count_nil, beq_iff_eq]
    simp only [id]
    omega

/-- Entries are back references or expanded. -/
theorem count_id (l : List Description) (i : NodeId) : (l.map id).count i =
    l.count (.backRef i) + ((l.filter (·.shape?.isSome)).map id).count i := by
  induction l with
  | nil => rfl
  | cons d l ih =>
    cases d with
    | backRef j =>
      simp [id, shape?, List.count_cons, ih]
      omega
    | leaf j k | unary j k inner | binary j k left right =>
      simp [id, shape?, List.count_cons, ih]
      omega

/-- Back references have no parts. -/
theorem flatMap_childIds (l : List Description) :
    l.flatMap childIds = (l.filter (·.shape?.isSome)).flatMap childIds := by
  induction l with
  | nil => rfl
  | cons d l ih =>
    cases d with
    | backRef j => simpa [childIds, shape?] using ih
    | leaf j k | unary j k inner | binary j k left right => simp [shape?, ih]

end Description

/-- A part stands for the node with an identity if the entry for it has that identity. -/
theorem Stands.id_eq_iff {d : Description} (h : Stands s p d) (i : NodeId) :
    (∃ r, Resolves s p r ∧ r.id = i) ↔ d.id = i := by
  obtain ⟨q, hq, hid⟩ := h
  constructor
  · rintro ⟨r, hr, rfl⟩
    rw [hid, hq.unique hr]
  · intro hi
    exact ⟨q, hq, hid.symm.trans hi⟩

/-- An entry has as many references to an identity as the node that it shows. -/
theorem Shows.count_childIds {d : Description} (h : Shows s q d) (i : NodeId) :
    d.childIds.count i = references s [q] i := by
  obtain ⟨-, shape, hshape, hrel⟩ := h
  rw [Description.childIds, hshape, references, List.flatMap_singleton]
  generalize q.shape = shape' at hrel
  cases hrel with
  | leaf k => rfl
  | unary k h => simp [Shape.children, List.count_cons, h.id_eq_iff]
  | binary k h h' =>
    simp [Shape.children, List.count_cons, List.countP_cons, h.id_eq_iff, h'.id_eq_iff]

theorem count_references {nodes : List (Parser α)} {l : List Description}
    (h : List.Forall₂ (Shows s) nodes l) (i : NodeId) :
    (l.flatMap Description.childIds).count i = references s nodes i := by
  induction h with
  | nil => rfl
  | cons hd _ ih =>
    rw [List.flatMap_cons, List.count_append, hd.count_childIds, ih, ← references_cons]

/-! ## Pictures -/

/-- **The description is a picture of the grammar.** -/
structure Picture (s : Session α) (p : Parser α) (d : Description) (nodes : List (Parser α)) :
    Prop where
  /-- The nodes are those of the grammar, each under an identity of its own. -/
  mem_iff : ∀ q, q ∈ nodes ↔ IsNodeOf s p q
  nodup : (nodes.map Parser.id).Nodup
  /-- The outermost entry stands for the parser. -/
  root : Stands s p d
  /-- Every node is expanded once, and shown as it is. -/
  expansions : List.Forall₂ (Shows s) nodes d.expansions
  /-- Nothing but nodes is referred to, and every reference to a node but the first is a back
  reference. -/
  known : ∀ i, .backRef i ∈ d.walk → i ∈ nodes.map Parser.id
  backRefs : ∀ i ∈ nodes.map Parser.id, d.walk.count (.backRef i) + 1 =
    (if d.id = i then 1 else 0) + references s nodes i

namespace Walks

variable {d : Description} {nodes : List (Parser α)}

theorem nodup_ids (h : Walks s p [] d nodes) : (nodes.map Parser.id).Nodup := by
  have hnodup := h.nodup List.nodup_nil
  rwa [marked, List.append_nil, List.nodup_reverse] at hnodup

theorem backRefs (h : Walks s p [] d nodes) {i : NodeId} (hi : i ∈ nodes.map Parser.id) :
    d.walk.count (.backRef i) + 1 =
      (if d.id = i then 1 else 0) + references s nodes i := by
  have hexpanded : (d.expansions.map Description.id).count i = 1 := by
    rw [map_id_of_shows h.shows]
    exact List.nodup_iff_count_eq_one.1 h.nodup_ids i hi
  calc d.walk.count (.backRef i) + 1
      = (d.walk.map Description.id).count i := by
        rw [Description.count_id, ← hexpanded, Description.expansions]
    _ = (if d.id = i then 1 else 0) + (d.expansions.flatMap Description.childIds).count i := by
        rw [Description.count_walk, Description.flatMap_childIds, Description.expansions]
    _ = (if d.id = i then 1 else 0) + references s nodes i := by rw [count_references h.shows]

theorem picture {w : Registry α} (h : Walks s p [] d nodes) (hs : Registered w s)
    (hw : w.Knows p) : Picture s p d nodes where
  mem_iff q := ⟨h.isNodeOf .refl q, h.mem_of_isNodeOf hs hw⟩
  nodup := h.nodup_ids
  root := h.stands
  expansions := h.shows
  known i hi := by
    have hmem := h.mem_marked_of_backRef i hi
    rwa [marked, List.append_nil, List.mem_reverse] at hmem
  backRefs _ hi := h.backRefs hi

end Walks

/-- **A description is a picture of the grammar**, where no rule of the grammar is pending or being
built and none is defined as itself. -/
theorem describe_picture {s s' : Session α} {e : Expr α} {p : Parser α} (hs : Reached s)
    (hp : e.build s = some (.ok p, s')) (hsettled : Settled s' p) (hgrounded : Grounded s' p) :
    ∃ d nodes, Picture s' p d nodes ∧
      ∃ depth, ∀ n, depth ≤ n → p.describe (Calls.upTo n) [] s' =
        some ((d, (nodes.map Parser.id).reverse), s') := by
  obtain ⟨w, hw, hknows⟩ := hs.knows_of_build hp
  obtain ⟨d, nodes, hwalk⟩ := exists_walk hsettled hgrounded _ [] p (Nat.lt_succ_self _) .refl
  refine ⟨d, nodes, hwalk.picture hw hknows, ?_⟩
  obtain ⟨depth, hdepth⟩ := hwalk.describedAs
  rw [marked, List.append_nil] at hdepth
  exact ⟨depth, hdepth⟩

/-- The picture of a rule that stands for an `a` and perhaps more of the same. -/
theorem describe_recursive_rule : ∃ s : Session Unit, Reached s ∧ ∃ p, (Expr.ref "as").build s =
    some (.ok p, s) ∧ Settled s p ∧ Grounded s p ∧ ∃ d nodes, Picture s p d nodes ∧
      ∃ depth, ∀ n, depth ≤ n → p.describe (Calls.upTo n) [] s =
        some ((d, (nodes.map Parser.id).reverse), s) := by
  let h : Rule := ⟨0, 0, 0⟩
  let p : Parser Unit := .boxed (.rule h)
  let a : Parser Unit := .literal 1 ['a']
  let more : Parser Unit := .optional 2 p
  let q : Parser Unit := .sequence 3 .both a more
  let s : Session Unit :=
    { nextId := 4, arenas := [{ slots := [{ value := some q }] }], bindings := [("as", .rule h)],
      arenaNames := [("as", 0)] }
  have hs : Reached s := .script 0 [.newArena "as", .declare "as" "as",
    .define "as" (.sequence .both (.literal ['a']) (.optional (.ref "as")))] (.start false) rfl
  have hp : (Expr.ref "as").build s = some (.ok p, s) := rfl
  have hforces (r : Parser Unit) (hr : Forces s h (.ok r)) : r = q :=
    (Except.ok.inj (Prod.mk.inj (Option.some.inj (hr fun _ => failure))).1).symm
  have hrules (h' : Rule) (hr : Reaches s p (.rule h')) : h' = h := by
    refine hr.mem (S := fun r => ∀ h', .rule h' ∈ r.nodes → h' = h) ?_ ?_ ?_ h'
      (List.mem_singleton_self _)
    · intro h' hmem
      exact Parser.rule.inj (List.mem_singleton.1 hmem)
    · intro r hr c hc h' hmem
      exact hr h' (Parser.nodes_subset_of_part hc hmem)
    · intro h'' r hr hf h' hmem
      obtain rfl := hr h'' (List.mem_singleton_self _)
      rw [hforces r hf] at hmem
      simpa [q, a, more, p, Parser.nodes] using hmem
  have hsettled : Settled s p := by
    intro h' hr
    rw [hrules h' hr]
    exact ⟨nofun, fun _ => nofun⟩
  have hgrounded : Grounded s p := by
    intro h' hr halias
    rw [hrules h' hr] at halias
    obtain ⟨h'', ⟨r, hr, hrule⟩, -⟩ := Relation.TransGen.head'_iff.1 halias
    rw [hforces r hr] at hrule
    cases hrule
  exact ⟨s, hs, p, hp, hsettled, hgrounded, describe_picture hs hp hsettled hgrounded⟩

end GrammarGraph
