import GrammarGraph.Proofs.Picture

/-!
# Proofs/Visits — walks that share what they have visited

    v ──describe──▸ v₁ ──describe──▸ v₂ …          each walk goes on where the one before it stopped

A walk may come upon rules whose definitions are built on the way, and building them may define
other rules: a handle that led nowhere when it was first met may stand for a node the next time.  So
what is walked over is not one graph, and `Walks` does not apply.  What holds all the same is a
matter of the marks alone: an entry is expanded only where its identity is marked for the first
time, and refers back only to a mark (`Goes`).  Walks one after the other are one long walk
(`walks_expand_once`).
-/

namespace GrammarGraph

variable {α : Type}

namespace Description

/-- The identities that are expanded in a walk. -/
def expandedIds (l : List Description) : List NodeId := (l.filter (·.shape?.isSome)).map id

/-- **Each identity is expanded once, and only then referred back to**, in a walk before which some
identities were expanded already. -/
structure ExpandsOnce (v : Visited) (l : List Description) : Prop where
  new : ∀ before d after, l = before ++ d :: after → d.shape?.isSome →
    d.id ∉ v ∧ d.id ∉ expandedIds before
  known : ∀ before i after, l = before ++ .backRef i :: after → i ∈ v ∨ i ∈ expandedIds before

variable {v : Visited} {d : Description} {l : List Description}

theorem expandedIds_cons (hd : d.shape?.isSome) : expandedIds (d :: l) = d.id :: expandedIds l := by
  simp [expandedIds, hd]

theorem inOrder_cons (hd : d.shape?.isSome) (hv : d.id ∉ v) (h : inOrder (d.id :: v) l) :
    inOrder v (d :: l) := by
  cases d with
  | backRef => cases hd
  | leaf | unary | binary => simp_all [inOrder, id]

namespace ExpandsOnce

theorem nil : ExpandsOnce v [] := ⟨by simp, by simp⟩

theorem backRef {i : NodeId} (hi : i ∈ v) (h : ExpandsOnce v l) :
    ExpandsOnce v (.backRef i :: l) where
  new before d after hl hd := by
    obtain ⟨rfl, hbackRef⟩ | ⟨before, rfl, rfl⟩ := List.cons_eq_append_iff.1 hl
    · obtain ⟨rfl, -⟩ := List.cons.inj hbackRef
      cases hd
    · exact h.new before d after rfl hd
  known before j after hl := by
    obtain ⟨rfl, hbackRef⟩ | ⟨before, rfl, rfl⟩ := List.cons_eq_append_iff.1 hl
    · cases hbackRef
      exact .inl hi
    · exact h.known before j after rfl

theorem cons (hd : d.shape?.isSome) (hv : d.id ∉ v) (h : ExpandsOnce (d.id :: v) l) :
    ExpandsOnce v (d :: l) where
  new before e after hl he := by
    obtain ⟨rfl, he⟩ | ⟨before, rfl, rfl⟩ := List.cons_eq_append_iff.1 hl
    · cases he
      exact ⟨hv, nofun⟩
    · obtain ⟨hnew, hbefore⟩ := h.new before e after rfl he
      rw [List.mem_cons, not_or] at hnew
      rw [expandedIds_cons hd, List.mem_cons, not_or]
      exact ⟨hnew.2, hnew.1, hbefore⟩
  known before i after hl := by
    obtain ⟨rfl, hbackRef⟩ | ⟨before, rfl, rfl⟩ := List.cons_eq_append_iff.1 hl
    · cases hbackRef
      cases hd
    · rw [expandedIds_cons hd, List.mem_cons, or_left_comm, ← or_assoc, ← List.mem_cons]
      exact h.known before i after rfl

end ExpandsOnce

end Description

open Description

/-! ## Marks -/

/-- **Entries that are met in this order**, with what is marked before and after them. -/
inductive Goes : Visited → List Description → Visited → Prop
  | nil (v) : Goes v [] v
  | backRef {v v' l i} (hi : i ∈ v) (h : Goes v l v') : Goes v (.backRef i :: l) v'
  | expanded {v v' l d} (hd : d.shape?.isSome) (hi : d.id ∉ v) (h : Goes (d.id :: v) l v') :
      Goes v (d :: l) v'

namespace Goes

variable {v v' v'' : Visited} {l l' : List Description}

/-- **Walks one after the other are one walk**, if each starts with the marks of the one before. -/
theorem append (h : Goes v l v') (h' : Goes v' l' v'') : Goes v (l ++ l') v'' := by
  induction h with
  | nil => exact h'
  | backRef hi _ ih => exact .backRef hi (ih h')
  | expanded hd hi _ ih => exact .expanded hd hi (ih h')

theorem expandsOnce (h : Goes v l v') : ExpandsOnce v l := by
  induction h with
  | nil => exact .nil
  | backRef hi _ ih => exact ih.backRef hi
  | expanded hd hi _ ih => exact ih.cons hd hi

theorem inOrder (h : Goes v l v') : inOrder v l := by
  induction h with
  | nil => rfl
  | backRef hi _ ih =>
    rw [Description.inOrder, Bool.and_eq_true]
    exact ⟨List.contains_iff_mem.2 hi, ih⟩
  | expanded hd hi _ ih => exact inOrder_cons hd hi ih

/-- What is marked afterwards is what was marked before, and what has been expanded. -/
theorem eq_marks (h : Goes v l v') : v' = (expandedIds l).reverse ++ v := by
  induction h with
  | nil => rfl
  | backRef _ _ ih => exact ih
  | expanded hd _ _ ih =>
    rw [ih, expandedIds_cons hd, List.reverse_cons, List.append_assoc, List.singleton_append]

/-- No identity is marked twice. -/
theorem nodup (h : Goes v l v') (hv : v.Nodup) : v'.Nodup := by
  induction h with
  | nil => exact hv
  | backRef _ _ ih => exact ih hv
  | expanded _ hi _ ih => exact ih (List.nodup_cons.2 ⟨hi, hv⟩)

theorem mem_iff (h : Goes v l v') (i : NodeId) : i ∈ v' ↔ i ∈ v ∨ i ∈ expandedIds l := by
  rw [h.eq_marks, List.mem_append, List.mem_reverse, or_comm]

end Goes

/-! ## What walks are made of -/

namespace Parser

/-- The computation describes a node by entries that are met in order. -/
abbrev GoesOn (v : Visited) (m : Run α (Description × Visited)) : Prop :=
  Run.Keeps (fun _ => True) m fun x => Goes v x.1.walk x.2

/-- The computation describes the parts of a node by entries that are met in order. -/
abbrev GoesInto (v : Visited) (m : Run α (Shape Description × Visited)) : Prop :=
  Run.Keeps (fun _ => True) m fun x => Goes v (x.1.children.flatMap walk) x.2

variable {v : Visited}

/-- A node is expanded before its parts. -/
theorem walk_expanded (i : NodeId) (shape : Shape Description) :
    (Description.expanded i shape).walk =
      .expanded i shape :: shape.children.flatMap walk := by
  cases shape with
  | leaf => rfl
  | unary => simp [Description.expanded, walk, Shape.children]
  | binary => simp [Description.expanded, walk, Shape.children]

theorem goesOn_visit {i : NodeId} {kind : Visited → Run α (Shape Description × Visited)}
    (hkind : ∀ v, GoesInto v (kind v)) : GoesOn v (visit i kind v) := by
  rw [visit]
  split
  · next hi => exact .pure (.backRef (List.contains_iff_mem.1 hi) (.nil v))
  · next hi =>
    refine (hkind (i :: v)).bind ?_
    rintro ⟨shape, v'⟩ h
    refine .pure ?_
    have hid : (Description.expanded i shape).id = i := by cases shape <;> rfl
    have hshape : (Description.expanded i shape).shape?.isSome := by cases shape <;> rfl
    rw [walk_expanded]
    refine .expanded hshape ?_ ?_
    · rw [hid]
      exact fun hmem => hi (List.contains_iff_mem.2 hmem)
    · rw [hid]
      exact h

theorem keeps_force (build : Deferred α → Run α (Parser α)) (h : Rule) :
    Run.Keeps (fun _ => True) (h.force build) fun _ => True :=
  fun _ _ _ _ _ => ⟨trivial, trivial⟩

section Calls

variable {calls : Calls α} (hdescribe : ∀ p v, GoesOn v (calls.describe p v))
  (hkind : ∀ p v, GoesInto v (calls.kind p v))

include hdescribe

theorem goesOn_enter {kind : Visited → Run α (Shape Description × Visited)}
    (hkind : ∀ v, GoesInto v (kind v)) (p : Parser α) (v : Visited) :
    GoesOn v (enter calls kind p v) := by
  induction p with
  | boxed inner ih => exact ih
  | rule h =>
    refine (keeps_force calls.build h).bind fun result _ => ?_
    cases result with
    | ok p => exact hdescribe p v
    | error fault => exact goesOn_visit fun v => .pure (.nil v)
  | _ => exact goesOn_visit hkind

include hkind

theorem goesInto_kind (p : Parser α) : ∀ v, GoesInto v (p.kind calls v) := by
  have unary (tag : Unary) {inner : Parser α} (ih : ∀ v, GoesInto v (inner.kind calls v))
      (v : Visited) : GoesInto v (kind.unary calls tag inner (inner.kind calls) v) := by
    refine (goesOn_enter hdescribe ih inner v).bind ?_
    rintro ⟨d, v'⟩ h
    refine .pure ?_
    simpa [Shape.children] using h
  have binary (tag : Binary) {left right : Parser α} (ihl : ∀ v, GoesInto v (left.kind calls v))
      (ihr : ∀ v, GoesInto v (right.kind calls v)) (v : Visited) :
      GoesInto v (kind.binary calls tag left right (left.kind calls) (right.kind calls) v) := by
    refine (goesOn_enter hdescribe ihl left v).bind ?_
    rintro ⟨d, v'⟩ hd
    refine (goesOn_enter hdescribe ihr right v').bind ?_
    rintro ⟨e, v''⟩ he
    refine .pure ?_
    simpa [Shape.children] using hd.append he
  induction p with
  | literal | pattern => exact fun v => .pure (.nil v)
  | map _ _ _ ih | optional _ _ ih | star _ _ ih | exactly _ _ _ ih | named _ _ _ ih =>
    exact unary _ ih
  | sequence _ _ _ _ ihl ihr | choice _ _ _ ihl ihr => exact binary _ ihl ihr
  | boxed _ ih => exact ih
  | rule h =>
    intro v
    refine (keeps_force calls.build h).bind fun result _ => ?_
    cases result with
    | ok p => exact hkind p v
    | error fault => exact .pure (.nil v)

end Calls

/-- **At every depth, from every session, descriptions and kinds are walks in order**, whatever is
built or defined on the way. -/
theorem goes_upTo (n : Nat) :
    (∀ (p : Parser α) v, GoesOn v ((Calls.upTo n).describe p v)) ∧
      ∀ (p : Parser α) v, GoesInto v ((Calls.upTo n).kind p v) := by
  induction n with
  | zero => exact ⟨fun _ _ => .failure, fun _ _ => .failure⟩
  | succ n ih =>
    have hkind (p : Parser α) := goesInto_kind ih.1 ih.2 p
    exact ⟨fun p v => goesOn_enter ih.1 (hkind p) p v, hkind⟩

end Parser

/-! ## Walks that share a set -/

/-- **Descriptions made one after the other with one set of visited nodes**, each in whatever
session there is by then. -/
inductive Shares (α : Type) : Visited → List Description → Visited → Prop
  | nil (v) : Shares α v [] v
  | cons {v v' v'' d ds n} {p : Parser α} {s t : Session α}
      (h : p.describe (Calls.upTo n) v s = some ((d, v'), t)) (hds : Shares α v' ds v'') :
      Shares α v (d :: ds) v''

theorem goes_of_describe {p : Parser α} {n : Nat} {v v' : Visited} {d : Description}
    {s t : Session α} (h : p.describe (Calls.upTo n) v s = some ((d, v'), t)) :
    Goes v d.walk v' :=
  ((Parser.goes_upTo (n + 1)).1 p v s (d, v') t trivial h).2

theorem Shares.goes {v v' : Visited} {ds : List Description} (h : Shares α v ds v') :
    Goes v (ds.flatMap walk) v' := by
  induction h with
  | nil v => exact .nil v
  | cons h _ ih => exact (goes_of_describe h).append ih

/-- **Walks that share what they have visited expand once**, one by one and all together.  What is
marked afterwards is what was marked before and what has been expanded; so a description that starts
with nothing marked is well formed, and so are many that go on from each other. -/
theorem walks_expand_once :
    (∀ n (p : Parser α) v s d v' t, p.describe (Calls.upTo n) v s = some ((d, v'), t) →
      ExpandsOnce v d.walk ∧ (∀ i, i ∈ v' ↔ i ∈ v ∨ i ∈ expandedIds d.walk) ∧
        (v = [] → d.isWellFormed)) ∧
    ∀ ds v', Shares α [] ds v' →
      ExpandsOnce [] (ds.flatMap walk) ∧ (expandedIds (ds.flatMap walk)).Nodup ∧
        ∀ i, i ∈ v' ↔ i ∈ expandedIds (ds.flatMap walk) := by
  constructor
  · intro n p v s d v' t h
    have hgoes := goes_of_describe h
    refine ⟨hgoes.expandsOnce, hgoes.mem_iff, ?_⟩
    rintro rfl
    exact hgoes.inOrder
  · intro ds v' h
    have hgoes := h.goes
    have hnodup := hgoes.nodup List.nodup_nil
    rw [hgoes.eq_marks, List.append_nil, List.nodup_reverse] at hnodup
    refine ⟨hgoes.expandsOnce, hnodup, fun i => ?_⟩
    rw [hgoes.mem_iff, or_iff_right List.not_mem_nil]

/-- Two rules: one without a definition, and one whose definition, when it is built, defines the
first. -/
def meddling : Session Unit :=
  let definition : Deferred Unit := ⟨"y", [.define "x" (.literal ['a'])], .literal ['b']⟩
  { nextId := 4, arenas := [{ slots := [{}, { deferred := some definition }] }],
    bindings := [("y", .rule ⟨1, 0, 1⟩), ("x", .rule ⟨0, 0, 0⟩)], arenaNames := [("g", 0)] }

/-- The first rule, the second, and the first again. -/
def meddled : Parser Unit :=
  .sequence 2 .both (.rule ⟨0, 0, 0⟩) (.sequence 3 .both (.rule ⟨1, 0, 1⟩) (.rule ⟨0, 0, 0⟩))

/-- One handle in two places of a walk: it leads nowhere in the first and to a node in the second,
and both are expanded.  The next walk with the same set refers back to the whole. -/
theorem walks_expand_once_meddling : ∃ d v' t t',
    meddled.describe (Calls.upTo 2) [] meddling = some ((d, v'), t) ∧
      meddled.describe (Calls.upTo 2) v' t = some ((.backRef 2, v'), t') ∧
      expandedIds d.walk = [2, 0, 3, 5, 4] ∧ d.isWellFormed ∧
      ExpandsOnce [] (d.walk ++ [.backRef 2]) := by
  have hfirst : ∃ t, meddled.describe (Calls.upTo 2) [] meddling =
      some ((.binary 2 (.sequence .both) (.leaf 0 .unresolved) (.binary 3 (.sequence .both)
        (.leaf 5 (.literal ['b'])) (.leaf 4 (.literal ['a']))), [4, 5, 3, 0, 2]), t) := ⟨_, rfl⟩
  obtain ⟨t, hfirst⟩ := hfirst
  have hsecond : meddled.describe (Calls.upTo 2) [4, 5, 3, 0, 2] t =
      some ((.backRef 2, [4, 5, 3, 0, 2]), t) := rfl
  refine ⟨_, _, t, t, hfirst, hsecond, rfl, ?_, ?_⟩
  · exact (walks_expand_once.1 2 _ _ _ _ _ _ hfirst).2.2 rfl
  · exact (walks_expand_once.2 _ _ (.cons hfirst (.cons hsecond (.nil _)))).1

end GrammarGraph
