import GrammarGraph.Proofs.Assembly
import Mathlib.Data.List.Chain

/-!
# Proofs/Identity — every reference goes down, but for those of handles

    node i ──child──▸ j < i          handle h ──content──▸ any j

Identities are given out one after another, and a node is built after its parts.  So an identity
belongs to one node or handle for good, and it is greater than those of the parts (`Child`).  Only
what a rule is defined as may have been built later than its handle (`Content`): a way that goes on
from node to part comes to an end, and a way that comes back to where it began has passed a handle.
-/

namespace GrammarGraph

variable {α β : Type} {a a' : Assembly α} {p q : Parser α} {i j : NodeId}

/-! ## Descending chains -/

/-- Numbers that go down do not go on for longer than the first of them. -/
theorem length_le_of_descending {l : List ℕ} :
    ∀ {i : ℕ}, (i :: l).IsChain (· > ·) → l.length ≤ i := by
  induction l with
  | nil => exact fun _ => Nat.zero_le _
  | cons j l ih =>
    intro i h
    obtain ⟨hij, h⟩ := List.isChain_cons_cons.1 h
    exact Nat.lt_of_le_of_lt (ih h) hij

/-- Numbers that go down do not come back to where they began. -/
theorem not_descending_of_return {l : List ℕ} {i : ℕ} : ¬(i :: (l ++ [i])).IsChain (· > ·) := by
  intro h
  exact Nat.lt_irrefl i (h.rel_cons (List.mem_append_right l (List.mem_singleton_self i)))

namespace Assembly

/-! ## References -/

/-- **From a node to one of its parts.**  A part that is a handle goes by the identity of the
handle. -/
def Child (a : Assembly α) (i j : NodeId) : Prop :=
  ∃ q ∈ a.built, ∃ c ∈ q.parts, q.id = i ∧ c.id = j

/-- **From a handle to what its rule is defined as.** -/
def Content (a : Assembly α) (i j : NodeId) : Prop :=
  ∃ h ∈ a.handles, ∃ p, a.session.definition? h = some p ∧ h.id = i ∧ p.id = j

/-- The references of the grammar as a graph. -/
def Refers (a : Assembly α) (i j : NodeId) : Prop := a.Child i j ∨ a.Content i j

namespace Sound

/-- **Children come before**: references to parts go down. -/
theorem lt_of_child (h : Sound a) (hij : a.Child i j) : j < i := by
  obtain ⟨q, hq, c, hc, rfl, rfl⟩ := hij
  exact (h.parts q hq c hc).2

/-- **An identity belongs to one node or handle.** -/
theorem eq_of_id (h : Sound a) (hp : p ∈ a.built) (hq : q ∈ a.built) (hid : p.id = q.id) :
    p = q := by
  have hentry := (Registry.ofList_eq_some_iff h.increasing).2 ⟨hp, hid⟩
  rw [(Registry.ofList_eq_some_iff h.increasing).2 ⟨hq, rfl⟩] at hentry
  exact (Option.some.inj hentry).symm

/-- **A way from parts to parts ends**, after no more steps than there are smaller identities. -/
theorem length_le_of_children (h : Sound a) {l : List NodeId} (hl : (i :: l).IsChain a.Child) :
    l.length ≤ i :=
  length_le_of_descending (hl.imp fun _ _ => h.lt_of_child)

/-- **A way that comes back has passed a handle.** -/
theorem exists_handle_of_cycle (h : Sound a) {l : List NodeId}
    (hl : (i :: (l ++ [i])).IsChain a.Refers) : ∃ r ∈ a.handles, r.id ∈ i :: l := by
  refine Classical.byContradiction fun hnone => ?_
  -- Without a handle on the way, all references are to parts.
  have hdown : ∀ j k, j ∈ i :: (l ++ [i]) → k ∈ i :: (l ++ [i]) → a.Refers j k → j > k := by
    intro j k hj _ hjk
    obtain hchild | ⟨r, hr, _, _, rfl, _⟩ := hjk
    · exact h.lt_of_child hchild
    · have hmem : r.id ∈ i :: l := by simpa [or_comm] using hj
      exact absurd ⟨r, hr, hmem⟩ hnone
  exact not_descending_of_return (hl.imp_of_mem_imp hdown)

/-- An identity of 64 bits is the identity, as long as no more have been given out than there
are. -/
theorem toNat_id (h : Sound a) (hid : a.session.nextId ≤ UInt64.size) (hq : q ∈ a.built) :
    (UInt64.ofNat q.id).toNat = q.id :=
  UInt64.toNat_ofNat_of_lt' (Nat.lt_of_lt_of_le (h.id_lt hq) hid)

end Sound

end Assembly

/-! ## The order of identities -/

/-- **Identities are unique and ordered**, in an assembly and from then on. -/
structure Identities (a : Assembly α) : Prop where
  /-- What has been built later has a greater identity. -/
  increasing : a.built.Pairwise (·.id < ·.id)
  /-- Identities fit into 64 bits as long as no more have been given out than that. -/
  word : a.session.nextId ≤ UInt64.size → ∀ q ∈ a.built, (UInt64.ofNat q.id).toNat = q.id
  /-- Whatever a name stands for is made of what has been built. -/
  names : ∀ b ∈ a.session.bindings, b.2.toParser.MadeOf a.built
  /-- So is whatever a rule is defined as. -/
  slots : ∀ x slot p, a.session.slotOf? x = some slot → slot.value = some p → p.MadeOf a.built
  /-- An identity stands for the same node or handle ever after. -/
  lasting : ∀ a', a.Later a' → a.built <+: a'.built ∧
    ∀ p ∈ a.built, ∀ q ∈ a'.built, p.id = q.id → p = q
  parts_lt : ∀ q ∈ a.built, ∀ c ∈ q.parts, c.MadeOf a.built ∧ c.id < q.id
  /-- Following references to parts ends. -/
  descent : ∀ i l, (i :: l).IsChain a.Child → l.length ≤ i
  /-- Every cycle passes through a handle. -/
  cycle : ∀ i l, (i :: (l ++ [i])).IsChain a.Refers → ∃ h ∈ a.handles, h.id ∈ i :: l
  /-- Whatever is carried out leads to an assembly again, with the same rules running; what comes
  of it is made of what has been built then. -/
  operate : ∀ {β : Type} {m : Run α β} {give : β → Option (Parser α)} {b : β} {t : Session α},
    Task a m give → m a.session = some (b, t) →
      ∃ a', a.Later a' ∧ a'.running = a.running ∧ a'.session = t ∧
        ∀ p, give b = some p → p.MadeOf a'.built

/-- **Identities are unique and ordered**, wherever grammars are put together, whatever rules are
running. -/
theorem identities (h : a.Reachable) : Identities a := by
  have hsound := h.sound
  constructor
  case increasing => exact hsound.increasing
  case word => exact fun hid q hq => hsound.toNat_id hid hq
  case names => exact fun b hb => hsound.knows_iff.1 (hsound.registered.names b hb)
  case slots => exact fun x slot p hx hp => hsound.madeOf_of_value hx hp
  case lasting =>
    intro a' hlater
    have hkept := hlater.prefix_built
    exact ⟨hkept, fun p hp q hq => (h.later hlater).sound.eq_of_id (hkept.subset hp) hq⟩
  case parts_lt => exact hsound.parts
  case descent => exact fun i l hl => hsound.length_le_of_children hl
  case cycle => exact fun i l hl => hsound.exists_handle_of_cycle hl
  case operate => exact fun hm hb => hm.assembles h _ _ hb

/-- A rule that refers to itself, while the definition of another rule is being built. -/
theorem identities_recursive : ∃ a : Assembly Unit, a.Reachable ∧ a.running = [⟨0, 1⟩] ∧
    [3, 2, 0, 3].IsChain a.Refers ∧ ∃ h ∈ a.handles, h.id ∈ [3, 2, 0] := by
  let outer : Rule := ⟨0, 0, 0⟩
  let inner : Rule := ⟨4, 0, 1⟩
  let text : Parser Unit := .literal 1 "(".toList
  let pair : Parser Unit := .sequence 2 .both text (.rule outer)
  let body : Parser Unit := .optional 3 pair
  let d : Deferred Unit := ⟨"inner", [], .ref "inner"⟩
  let opened : Session Unit := ({} : Session Unit).newArena "rules"
  let declared := (opened.addSlot 0 {}).2
  let put := { declared with nextId := 4 }.changeSlot outer fun slot => (slot.store body).2
  let deferred := (put.addSlot 0 { deferred := some d }).2
  let a : Assembly Unit := ⟨⟨[inner.place], deferred.beginBuild inner⟩,
    [.rule outer, text, pair, body, .rule inner]⟩
  have hbuilt : Assembly.Later ⟨⟨[], declared⟩, [.rule outer]⟩
      ⟨⟨[], { declared with nextId := 4 }⟩, [.rule outer, text, pair, body]⟩ := by
    refine ((Relation.ReflTransGen.single (.aside (.node (p := text) rfl rfl ?_))).tail
      (.aside (.node (p := pair) rfl rfl ?_))).tail (.aside (.node (p := body) rfl rfl ?_))
    all_goals simp [Parser.MadeOf, Parser.parts, Parser.nodes, text, pair, body]
  have hput : Assembly.Later ⟨⟨[], declared⟩, [.rule outer]⟩
      ⟨⟨[], put⟩, [.rule outer, text, pair, body]⟩ := by
    refine hbuilt.tail (.define (h := outer) (p := body) (by simp) ?_ rfl)
    simp [Parser.MadeOf, Parser.nodes, text, pair, body]
  have hdefer : Assembly.Later ⟨⟨[], put⟩, [.rule outer, text, pair, body]⟩
      ⟨⟨[], deferred⟩, a.built⟩ := .single (.create Nat.zero_lt_one (some d))
  have henter : Assembly.Later ⟨⟨[], deferred⟩, a.built⟩ a :=
    .single (.enter (by simp [a]) rfl)
  have hstart : Assembly.Later (.start false) ⟨⟨[], declared⟩, [.rule outer]⟩ :=
    (Relation.ReflTransGen.single (.aside (.newArena "rules"))).tail
      (.create Nat.zero_lt_one none)
  have hreachable : a.Reachable := ⟨false, ((hstart.trans hput).trans hdefer).trans henter⟩
  have houter : outer ∈ a.handles := by simp [Assembly.mem_handles_iff, a]
  have hcycle : (3 :: ([2, 0] ++ [3])).IsChain a.Refers := by
    refine .cons_cons (.inl ⟨body, ?_, pair, ?_, rfl, rfl⟩)
      (.cons_cons (.inl ⟨pair, ?_, .rule outer, ?_, rfl, rfl⟩)
        (.cons_cons (.inr ⟨outer, houter, body, rfl, rfl, rfl⟩) (.singleton 3)))
    all_goals simp [a, body, pair, Parser.parts]
  exact ⟨a, hreachable, rfl, hcycle, (identities hreachable).cycle 3 [2, 0] hcycle⟩

end GrammarGraph
