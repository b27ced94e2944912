import GrammarGraph.Proofs.Graph
import Mathlib.Data.List.Nodup

/-!
# Proofs/Walk — walking through a grammar

A description is made by walking the graph of a grammar from left to right, in depth first, and a
node is marked when it is entered.  `Walks` is that walk; it lists the nodes in the order in which
they are entered.

* Every walk comes to an end, because each step enters a node that has not been entered before
  (`exists_walk`).
* What is walked over is described (`Walks.describedAs`).
* A walk misses nothing, because it leaves no marked node before the parts of that node are marked
  (`Walks.closed`, `Walks.mem_of_isNodeOf`).
-/

namespace GrammarGraph

variable {α : Type} {s : Session α} {p q : Parser α}

/-! ## Walks -/

/-- The nodes marked after a walk. -/
def marked (v : Visited) (nodes : List (Parser α)) : Visited := (nodes.map Parser.id).reverse ++ v

/-- **The walk over a grammar**: where it starts, what is marked before it, the description it
makes and the nodes it enters, in this order. -/
inductive Walks (s : Session α) : Parser α → Visited → Description → List (Parser α) → Prop
  | seen {p q v} (hr : Resolves s p q) (hv : q.id ∈ v) : Walks s p v (.backRef q.id) []
  | leaf {p q v k} (hr : Resolves s p q) (hv : q.id ∉ v) (hq : q.shape = .leaf k) :
      Walks s p v (.leaf q.id k) [q]
  | unary {p q v k c d nodes} (hr : Resolves s p q) (hv : q.id ∉ v) (hq : q.shape = .unary k c)
      (hc : Walks s c (q.id :: v) d nodes) : Walks s p v (.unary q.id k d) (q :: nodes)
  | binary {p q v k left right d e nodes nodes'} (hr : Resolves s p q) (hv : q.id ∉ v)
      (hq : q.shape = .binary k left right) (hl : Walks s left (q.id :: v) d nodes)
      (hr' : Walks s right (marked (q.id :: v) nodes) e nodes') :
      Walks s p v (.binary q.id k d e) (q :: (nodes ++ nodes'))

theorem marked_cons (v : Visited) (q : Parser α) (nodes : List (Parser α)) :
    marked v (q :: nodes) = marked (q.id :: v) nodes := by
  simp [marked]

theorem marked_append (v : Visited) (nodes nodes' : List (Parser α)) :
    marked v (nodes ++ nodes') = marked (marked v nodes) nodes' := by
  simp [marked]

theorem subset_marked (v : Visited) (nodes : List (Parser α)) : v ⊆ marked v nodes :=
  List.subset_append_right _ _

/-- **Every walk comes to an end.** -/
theorem exists_walk {root : Parser α} (hs : Settled s root) (hg : Grounded s root) (n : Nat) :
    ∀ (v : Visited) (p : Parser α), unseen ((graphNodes s root).map Parser.id) v < n →
      Reaches s root p → ∃ d nodes, Walks s p v d nodes := by
  induction n with
  | zero => exact fun _ _ hn => absurd hn (Nat.not_lt_zero _)
  | succ n ih =>
    intro v p hn hp
    obtain ⟨q, hr⟩ := exists_resolves hs hg hp
    by_cases hv : q.id ∈ v
    · exact ⟨_, _, .seen hr hv⟩
    · have hmem : q.id ∈ (graphNodes s root).map Parser.id :=
        List.mem_map_of_mem ((hr.reaches hp).nodes_subset hr.mem_nodes)
      have hlt := unseen_lt hmem hv
      rcases hq : q.shape with k | ⟨k, c⟩ | ⟨k, left, right⟩
      · exact ⟨_, _, .leaf hr hv hq⟩
      · obtain ⟨d, nodes, hd⟩ := ih (q.id :: v) c (by omega) (hp.inner hr hq)
        exact ⟨_, _, .unary hr hv hq hd⟩
      · obtain ⟨d, nodes, hd⟩ := ih (q.id :: v) left (by omega) (hp.left hr hq)
        -- What was marked on the left is marked on the right, so there is no more left to enter.
        have hle := unseen_le ((graphNodes s root).map Parser.id) (subset_marked (q.id :: v) nodes)
        obtain ⟨e, nodes', he⟩ :=
          ih (marked (q.id :: v) nodes) right (by omega) (hp.right hr hq)
        exact ⟨_, _, .binary hr hv hq hd he⟩

/-! ## Descriptions are made by walks -/

section Describing

variable {calls : Calls α} {v v' : Visited}

theorem visit_seen {id : NodeId} {kind : Visited → Run α (Shape Description × Visited)}
    (hv : id ∈ v) : Parser.visit id kind v s = some ((.backRef id, v), s) := by
  rw [Parser.visit, if_pos (List.contains_iff_mem.2 hv)]
  rfl

theorem visit_new {id : NodeId} {kind : Visited → Run α (Shape Description × Visited)}
    {shape : Shape Description} (hv : id ∉ v) (hkind : kind (id :: v) s = some ((shape, v'), s)) :
    Parser.visit id kind v s = some ((.expanded id shape, v'), s) := by
  rw [Parser.visit, if_neg fun h => hv (List.contains_iff_mem.1 h)]
  exact Run.bind_of_eq_some hkind

theorem describe_node (hp : p.isNode) :
    p.describe calls v = Parser.visit p.id (p.kind calls) v := by
  cases p with
  | boxed | rule => cases hp
  | _ => rfl

theorem describe_rule_ok {h : Rule} (hf : Forces s h (.ok p)) :
    (Parser.rule h).describe calls v s = calls.describe p v s :=
  Run.bind_of_eq_some (hf calls.build)

theorem describe_seen {h : Rule} {fault : Fault} (hf : Forces s h (.error fault)) (hv : h.id ∈ v) :
    (Parser.rule h).describe calls v s = some ((.backRef h.id, v), s) :=
  (Run.bind_of_eq_some (hf calls.build)).trans (visit_seen hv)

theorem describe_unresolved {h : Rule} {fault : Fault} (hf : Forces s h (.error fault))
    (hv : h.id ∉ v) : (Parser.rule h).describe calls v s =
      some ((.leaf h.id .unresolved, h.id :: v), s) := by
  refine (Run.bind_of_eq_some (hf calls.build)).trans ?_
  rw [Parser.visit, if_neg fun hc => hv (List.contains_iff_mem.1 hc)]
  rfl

theorem kind_leaf {k : Leaf} (hp : p.isNode) (hq : p.shape = .leaf k) :
    p.kind calls v s = some ((.leaf k, v), s) := by
  cases p with
  | boxed | rule => cases hp
  | literal | pattern => cases hq; rfl
  | _ => cases hq

theorem kind_unary {k : Unary} {c : Parser α} {d : Description} (hp : p.isNode)
    (hq : p.shape = .unary k c) (hc : c.describe calls v s = some ((d, v'), s)) :
    p.kind calls v s = some ((.unary k d, v'), s) := by
  cases p with
  | boxed | rule => cases hp
  | map | optional | star | exactly | named =>
    cases hq
    exact Run.bind_of_eq_some hc
  | _ => cases hq

theorem kind_binary {k : Binary} {left right : Parser α} {d e : Description} {v'' : Visited}
    (hp : p.isNode) (hq : p.shape = .binary k left right)
    (hl : left.describe calls v s = some ((d, v'), s))
    (hr : right.describe calls v' s = some ((e, v''), s)) :
    p.kind calls v s = some ((.binary k d e, v''), s) := by
  cases p with
  | boxed | rule => cases hp
  | sequence | choice =>
    cases hq
    exact (Run.bind_of_eq_some hl).trans (Run.bind_of_eq_some hr)
  | _ => cases hq

/-- The parser is described like this, wherever definitions may be deep enough. -/
def DescribedAs (s : Session α) (p : Parser α) (v : Visited) (x : Description × Visited) : Prop :=
  ∃ depth, ∀ n, depth ≤ n → p.describe (Calls.upTo n) v s = some (x, s)

/-- A parser is described as the node that it stands for. -/
theorem DescribedAs.of_resolves {x : Description × Visited} (hr : Resolves s p q)
    (hx : DescribedAs s q v x) : DescribedAs s p v x := by
  induction hr with
  | node _ => exact hx
  | box _ ih => exact ih hx
  | rule hf _ ih =>
    obtain ⟨depth, hdepth⟩ := ih hx
    refine ⟨depth + 1, fun n hn => ?_⟩
    obtain ⟨m, rfl⟩ := Nat.exists_eq_add_of_le' hn
    rw [describe_rule_ok hf]
    exact hdepth (m + depth) (Nat.le_add_left _ _)
  | unresolved _ => exact hx

/-- **What is walked over is described.** -/
theorem Walks.describedAs {d : Description} {nodes : List (Parser α)} (h : Walks s p v d nodes) :
    DescribedAs s p v (d, marked v nodes) := by
  induction h with
  | seen hr hv =>
    refine .of_resolves hr ⟨0, fun n _ => ?_⟩
    obtain hq | ⟨r, fault, rfl, hf⟩ := hr.isNode_or
    · rw [describe_node hq]
      exact visit_seen hv
    · exact describe_seen hf hv
  | leaf hr hv hs =>
    refine .of_resolves hr ⟨0, fun n _ => ?_⟩
    obtain hq | ⟨r, fault, rfl, hf⟩ := hr.isNode_or
    · rw [describe_node hq]
      exact visit_new hv (kind_leaf hq hs)
    · cases hs
      exact describe_unresolved hf hv
  | unary hr hv hs _ ih =>
    obtain ⟨depth, hdepth⟩ := ih
    refine .of_resolves hr ⟨depth, fun n hn => ?_⟩
    obtain hq | ⟨r, fault, rfl, hf⟩ := hr.isNode_or
    · rw [describe_node hq, marked_cons]
      exact visit_new hv (kind_unary hq hs (hdepth n hn))
    · cases hs
  | binary hr hv hs _ _ ihl ihr =>
    obtain ⟨depth, hdepth⟩ := ihl
    obtain ⟨depth', hdepth'⟩ := ihr
    refine .of_resolves hr ⟨max depth depth', fun n hn => ?_⟩
    have hleft := hdepth n (Nat.le_trans (Nat.le_max_left _ _) hn)
    have hright := hdepth' n (Nat.le_trans (Nat.le_max_right _ _) hn)
    obtain hq | ⟨r, fault, rfl, hf⟩ := hr.isNode_or
    · rw [describe_node hq, marked_cons, marked_append]
      exact visit_new hv (kind_binary hq hs hleft hright)
    · cases hs

end Describing

/-! ## What is marked -/

/-- No node is entered twice. -/
theorem Walks.nodup {v : Visited} {d : Description} {nodes : List (Parser α)}
    (h : Walks s p v d nodes) (hv : v.Nodup) : (marked v nodes).Nodup := by
  induction h with
  | seen => exact hv
  | leaf _ hq _ => exact List.nodup_cons.2 ⟨hq, hv⟩
  | unary _ hq _ _ ih =>
    rw [marked_cons]
    exact ih (List.nodup_cons.2 ⟨hq, hv⟩)
  | binary _ hq _ _ _ ihl ihr =>
    rw [marked_cons, marked_append]
    exact ihr (ihl (List.nodup_cons.2 ⟨hq, hv⟩))

/-- Only nodes of the grammar are entered. -/
theorem Walks.isNodeOf {root : Parser α} {v : Visited} {d : Description} {nodes : List (Parser α)}
    (h : Walks s p v d nodes) (hp : Reaches s root p) : ∀ q ∈ nodes, IsNodeOf s root q := by
  induction h with
  | seen => exact nofun
  | leaf hr _ _ =>
    intro q hq
    obtain rfl := List.mem_singleton.1 hq
    exact ⟨_, hp, hr⟩
  | unary hr _ hq _ ih =>
    exact List.forall_mem_cons.2 ⟨⟨_, hp, hr⟩, ih (hp.inner hr hq)⟩
  | binary hr _ hq _ _ ihl ihr =>
    exact List.forall_mem_cons.2 ⟨⟨_, hp, hr⟩,
      List.forall_mem_append.2 ⟨ihl (hp.left hr hq), ihr (hp.right hr hq)⟩⟩

/-- What a walk starts from is marked after it. -/
theorem Walks.mem_marked {v : Visited} {d : Description} {nodes : List (Parser α)}
    (h : Walks s p v d nodes) (hr : Resolves s p q) : q.id ∈ marked v nodes := by
  cases h with
  | seen hr' hv =>
    rw [hr.unique hr']
    exact hv
  | leaf hr' | unary hr' | binary hr' =>
    rw [hr.unique hr', marked_cons]
    exact subset_marked _ _ List.mem_cons_self

/-- Only what is marked is referred back to. -/
theorem Walks.mem_marked_of_backRef {v : Visited} {d : Description} {nodes : List (Parser α)}
    (h : Walks s p v d nodes) : ∀ i, .backRef i ∈ d.walk → i ∈ marked v nodes := by
  induction h with
  | seen _ hv =>
    intro i hi
    obtain rfl := Description.backRef.inj (List.mem_singleton.1 hi)
    exact hv
  | leaf => exact fun i hi => absurd (List.mem_singleton.1 hi) nofun
  | unary _ _ _ _ ih =>
    intro i hi
    rw [marked_cons]
    exact ih i ((List.mem_cons.1 hi).resolve_left nofun)
  | binary _ _ _ _ _ ihl ihr =>
    intro i hi
    rw [marked_cons, marked_append]
    obtain hi | hi := List.mem_append.1 ((List.mem_cons.1 hi).resolve_left nofun)
    · exact subset_marked _ _ (ihl i hi)
    · exact ihr i hi

/-- **A walk misses nothing**: the parts of every node that is entered are marked after it. -/
theorem Walks.closed {v : Visited} {d : Description} {nodes : List (Parser α)}
    (h : Walks s p v d nodes) :
    ∀ q ∈ nodes, ∀ c ∈ q.shape.children, ∀ r, Resolves s c r → r.id ∈ marked v nodes := by
  induction h with
  | seen => exact nofun
  | leaf _ _ hs =>
    intro q hq c hc
    obtain rfl := List.mem_singleton.1 hq
    rw [hs] at hc
    cases hc
  | unary _ _ hs hd ih =>
    rw [marked_cons]
    refine List.forall_mem_cons.2 ⟨fun c hc r hr => ?_, ih⟩
    rw [hs] at hc
    obtain rfl := List.mem_singleton.1 hc
    exact hd.mem_marked hr
  | @binary _ q v _ _ _ _ _ nodes nodes' _ _ hs hl hr ihl ihr =>
    rw [marked_cons, marked_append]
    have hmono := subset_marked (marked (q.id :: v) nodes) nodes'
    refine List.forall_mem_cons.2 ⟨fun c hc r hr' => ?_, List.forall_mem_append.2 ⟨?_, ihr⟩⟩
    · rw [hs] at hc
      obtain rfl | hc := List.mem_cons.1 hc
      · exact hmono (hl.mem_marked hr')
      · obtain rfl := List.mem_singleton.1 hc
        exact hr.mem_marked hr'
    · exact fun q hq c hc r hr' => hmono (ihl q hq c hc r hr')

/-- Two nodes of a grammar with the same identity are the same node. -/
theorem IsNodeOf.eq_of_id {w : Registry α} {root : Parser α} (hs : Registered w s)
    (hw : w.Knows root) (hp : IsNodeOf s root p) (hq : IsNodeOf s root q) (hid : p.id = q.id) :
    p = q := by
  obtain ⟨r, hr, hrp⟩ := hp
  obtain ⟨t, ht, htq⟩ := hq
  exact Registry.Knows.eq_of_id ((hrp.reaches hr).knows hs hw) ((htq.reaches ht).knows hs hw)
    hrp.mem_nodes htq.mem_nodes hid

/-- **All nodes of the grammar are entered** by a walk that starts with nothing marked. -/
theorem Walks.mem_of_isNodeOf {w : Registry α} {d : Description} {nodes : List (Parser α)}
    (h : Walks s p [] d nodes) (hs : Registered w s) (hw : w.Knows p) (hq : IsNodeOf s p q) :
    q ∈ nodes := by
  have hmem {q : Parser α} (hq : IsNodeOf s p q) (hid : q.id ∈ marked [] nodes) : q ∈ nodes := by
    rw [marked, List.append_nil, List.mem_reverse] at hid
    obtain ⟨q', hq', hid⟩ := List.mem_map.1 hid
    rwa [← (h.isNodeOf .refl q' hq').eq_of_id hs hw hq hid]
  -- What is reached stands for a node that is marked, going from node to parts and definitions.
  have hmarked {r : Parser α} (hr : Reaches s p r) :
      ∀ q, Resolves s r q → q.id ∈ marked [] nodes := by
    induction hr with
    | refl => exact fun q hq => h.mem_marked hq
    | @part q₀ c hr hc ih =>
      intro q hq
      cases q₀ with
      | boxed =>
        obtain rfl := List.mem_singleton.1 hc
        exact ih q (.box hq)
      | rule => cases hc
      | _ =>
        have hnode := hmem ⟨_, hr, .node rfl⟩ (ih _ (.node rfl))
        exact h.closed _ hnode c hc q hq
    | definition _ hf ih => exact fun q hq => ih q (.rule hf hq)
  obtain ⟨r, hr, hrq⟩ := hq
  exact hmem ⟨r, hr, hrq⟩ (hmarked hr q hrq)

end GrammarGraph
