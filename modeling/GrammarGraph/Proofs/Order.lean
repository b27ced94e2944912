import GrammarGraph.Proofs.Comparison
import GrammarGraph.Proofs.Numbering

/-!
# Proofs/Order — it does not matter in which order rules get built

          ┌─ some queries ──▸ t ─ more queries ─▸ findings
    s ────┤                                          ~        alike, by one renaming
          └─ other queries ─▸ u ─ more queries ─▸ findings

Both sessions are told of by books, and the books say which identities correspond.  As both go on,
their books grow, and what corresponded still does: that is a `Comparison`.  In the end all that
corresponds is part of one renaming (`Book.exists_renaming`).
-/

namespace GrammarGraph

variable {α : Type}

/-! ## Two orders -/

section Orders

variable {s t u : Session α} {size : Place → Nat} {p : Parser α}

/-- **Two sessions that have come of one, each told of by its book**: what is done in both compares,
and where the second may go deeper than the first, it leads somewhere if that does. -/
def Comparison.ordering (s : Session α) (size : Place → Nat) (deeper : Prop) : Comparison α where
  World := Book s.nextId size × Book s.nextId size
  Grows w v := w.1.Grows v.1 ∧ w.2.Grows v.2
  Same w := Book.Same w.1 w.2
  Does w m m' R := ∀ t u, Recounts s w.1 t → Recounts s w.2 u →
    (∀ a t' b u', m t = some (a, t') → m' u = some (b, u') →
      ∃ v, (w.1.Grows v.1 ∧ w.2.Grows v.2) ∧ Recounts s v.1 t' ∧ Recounts s v.2 u' ∧ R v a b) ∧
    (deeper → (m t).isSome → (m' u).isSome)
  refl w := ⟨.refl w.1, .refl w.2⟩
  trans h h' := ⟨h.1.trans h'.1, h.2.trans h'.2⟩
  same_mono h _ _ hij := hij.mono h.1 h.2
  same_unique h h' := h.unique h'
  pure hR t u ht hu := by
    refine ⟨fun a t' b u' ha hb => ?_, fun _ _ => rfl⟩
    obtain ⟨rfl, rfl⟩ := Run.pure_eq_some_iff.1 ha
    obtain ⟨rfl, rfl⟩ := Run.pure_eq_some_iff.1 hb
    exact ⟨_, ⟨.refl _, .refl _⟩, ht, hu, hR⟩
  bind hm hf t u ht hu := by
    obtain ⟨hm, hdeeper⟩ := hm t u ht hu
    constructor
    · intro c t' d u' hc hd
      obtain ⟨a, t₁, ha, hc⟩ := Run.bind_eq_some_iff.1 hc
      obtain ⟨b, u₁, hb, hd⟩ := Run.bind_eq_some_iff.1 hd
      obtain ⟨v, hv, ht₁, hu₁, hR⟩ := hm a t₁ b u₁ ha hb
      obtain ⟨v', hv', ht', hu', hQ⟩ := (hf v a b hv hR t₁ u₁ ht₁ hu₁).1 c t' d u' hc hd
      exact ⟨v', ⟨hv.1.trans hv'.1, hv.2.trans hv'.2⟩, ht', hu', hQ⟩
    · intro hdeep hsome
      obtain ⟨⟨c, t'⟩, hc⟩ := Option.isSome_iff_exists.1 hsome
      obtain ⟨a, t₁, ha, hc⟩ := Run.bind_eq_some_iff.1 hc
      obtain ⟨⟨b, u₁⟩, hb⟩ := Option.isSome_iff_exists.1 (hdeeper hdeep (by rw [ha]; rfl))
      obtain ⟨v, hv, ht₁, hu₁, hR⟩ := hm a t₁ b u₁ ha hb
      rw [Run.bind_of_eq_some hb]
      exact (hf v a b hv hR t₁ u₁ ht₁ hu₁).2 hdeep (by rw [hc]; rfl)
  failure _ _ _ _ := ⟨nofun, nofun⟩
  read hf t u ht hu := hf t u (ht.logging.trans hu.logging.symm) t u ht hu
  log level message message' t u ht hu := by
    obtain ⟨log, hlog⟩ := Run.exists_log_eq level message t
    obtain ⟨log', hlog'⟩ := Run.exists_log_eq level message' u
    refine ⟨fun a t' b u' ha hb => ?_, fun _ _ => by rw [hlog']; rfl⟩
    obtain ⟨-, rfl⟩ := Prod.mk.inj (Option.some.inj (hlog.symm.trans ha))
    obtain ⟨-, rfl⟩ := Prod.mk.inj (Option.some.inj (hlog'.symm.trans hb))
    exact ⟨_, ⟨.refl _, .refl _⟩, ht.report t.builds log, hu.report u.builds log', trivial⟩

section Ordering

variable {deeper : Prop} {n n' : Nat} {w : Book s.nextId size × Book s.nextId size}
  (hs : Constructs s size) (hold : ∀ h p, Forces s h (.ok p) → p.IsOld s.nextId)

include hs hold

/-- **Rules that are alike are defined alike**: as they were, or as they have been built since. -/
theorem Comparison.ordering_force (hdeep : deeper → n < n') {h h' : Rule}
    (hh : h.Alike (Book.Same w.1 w.2) h') : (Comparison.ordering s size deeper).Yields w
      (h.force (Calls.upTo n).build) (h'.force (Calls.upTo n').build) := by
  intro t u ht hu
  have hslot : s.slot? h' = s.slot? h := Session.slot?_congr hh.place.symm
  by_cases hp : ∃ d, (s.slot? h).map Slot.stage = some (.pending d)
  · obtain ⟨d, hp⟩ := hp
    have hp' : (s.slot? h').map Slot.stage = some (.pending d) := by rw [hslot, hp]
    refine ⟨fun r t' r' u' hf hf' => ?_, fun hdeeper _ => ?_⟩
    · obtain ⟨b, hb, ht', i, p, hi, hfrom, rfl⟩ := ht.of_force_of_pending hs hp hf
      obtain ⟨b', hb', hu', j, q, hj, hfrom', rfl⟩ := hu.of_force_of_pending hs hp' hf'
      rw [← hh.place] at hj hfrom'
      refine ⟨(b, b'), ⟨hb, hb'⟩, ht', hu', (hs.alike hfrom hfrom').mono fun k l hkl => ?_⟩
      cases hkl with
      | old hk => exact .old hk
      | new hk => exact .new hi hj hk
    · obtain ⟨m, rfl⟩ := Nat.exists_eq_add_of_lt (hdeep hdeeper)
      obtain ⟨r, v, hf⟩ := hu.exists_force hs hp' (n + m)
      rw [hf]
      rfl
  · obtain ⟨r, hr⟩ := exists_forces (not_exists.1 hp)
    have hf := ht.forces hr (Calls.upTo n).build
    have hf' := hu.forces (hr.of_slot? hslot) (Calls.upTo n').build
    refine ⟨fun a t' b u' ha hb => ?_, fun _ _ => by rw [hf']; rfl⟩
    obtain ⟨rfl, rfl⟩ := Prod.mk.inj (Option.some.inj (hf.symm.trans ha))
    obtain ⟨rfl, rfl⟩ := Prod.mk.inj (Option.some.inj (hf'.symm.trans hb))
    refine ⟨w, ⟨.refl _, .refl _⟩, ht, hu, ?_⟩
    cases r with
    | ok p => exact Parser.alike_self fun q hq => .old (hold h p hr q hq)
    | error fault => rfl

/-- Both may go to any depth; the second leads somewhere if the first does and is less deep. -/
theorem Comparison.ordering_respects : ∀ n n', (deeper → n < n') →
    (Comparison.ordering s size deeper).Respects (Calls.upTo n) (Calls.upTo n')
  | 0, _, hdeep =>
    let D := Comparison.ordering s size deeper
    { parse _ _ := D.failure
      parseAll _ _ := D.failure
      label _ := D.failure
      describe _ _ := D.failure
      kind _ _ := D.failure
      force hh := ordering_force hs hold hdeep hh }
  | _ + 1, 0, hdeep =>
    have hstuck {β γ : Type} {w} {m : Run α β} {R : Book s.nextId size × Book s.nextId size →
        β → γ → Prop} : (Comparison.ordering s size deeper).Does w m Alternative.failure R :=
      fun _ _ _ _ => ⟨nofun, fun hdeeper => absurd (hdeep hdeeper) (Nat.not_lt_zero _)⟩
    { parse _ _ := hstuck
      parseAll _ _ := hstuck
      label _ := hstuck
      describe _ _ := hstuck
      kind _ _ := hstuck
      force hh := ordering_force hs hold hdeep hh }
  | n + 1, n' + 1, hdeep =>
    Comparison.respects_succ
      (ordering_respects n n' fun hdeeper => Nat.lt_of_succ_lt_succ (hdeep hdeeper))
      fun hh => ordering_force hs hold hdeep hh

end Ordering

/-- **A query finds out the same**, but for identities. -/
theorem Query.compares {deeper : Prop} {n n' : Nat} {w : Book s.nextId size × Book s.nextId size}
    (hc : (Comparison.ordering s size deeper).Respects (Calls.upTo n) (Calls.upTo n'))
    {q : Query α} (hq : q.parser.IsOld s.nextId) :
    (Comparison.ordering s size deeper).Does w (q.run (Calls.upTo n)) (q.run (Calls.upTo n'))
      fun v a b => a.Alike ((Comparison.ordering s size deeper).Same v) b := by
  let D := Comparison.ordering s size deeper
  have hp : D.Holds w q.parser q.parser := Parser.alike_self fun r hr => .old (hq r hr)
  cases q with
  | parse p x =>
    exact D.bind (Comparison.parse hc x hp) fun v r r' _ hr => D.pure (.parsed hr)
  | parseAll p x =>
    exact D.bind (Comparison.parseAll hc x hp) fun v r r' _ hr => D.pure (.parsedAll hr)
  | label p =>
    exact D.bind (Comparison.label hc hp) fun v r r' _ hr => D.pure (.label hr)
  | describe p =>
    exact D.bind (Comparison.describe hc hp .nil) fun v r r' _ hr => D.pure (.description hr.1)
  | force h =>
    have hh : h.Alike (D.Same w) h := ⟨hp.id, rfl⟩
    exact hc.force_bind hh (fun _ _ _ _ hpq => D.pure (.built hpq)) fun _ fault _ =>
      D.pure (.fault fault)
  | isDefined h =>
    have hsame : D.Does w (h.isDefined : Run α Bool) h.isDefined fun _ => Eq := by
      intro t u ht hu
      obtain ⟨x, hx, hxt⟩ := ht.isDefined h
      obtain ⟨y, hy, hyu⟩ := hu.isDefined h
      obtain ⟨rfl, -⟩ := Prod.mk.inj (Option.some.inj (hx.symm.trans hy))
      refine ⟨fun a t' b u' ha hb => ?_, fun _ _ => by rw [hyu]; rfl⟩
      obtain ⟨rfl, rfl⟩ := Prod.mk.inj (Option.some.inj (hxt.symm.trans ha))
      obtain ⟨rfl, rfl⟩ := Prod.mk.inj (Option.some.inj (hyu.symm.trans hb))
      exact ⟨w, ⟨.refl _, .refl _⟩, ht, hu, rfl⟩
    refine D.bind hsame fun v a b _ hab => D.pure ?_
    subst hab
    exact .defined a

theorem Query.compare_all {deeper : Prop} {n n' : Nat}
    (hc : (Comparison.ordering s size deeper).Respects (Calls.upTo n) (Calls.upTo n')) :
    ∀ {queries : List (Query α)} {w : Book s.nextId size × Book s.nextId size},
      (∀ q ∈ queries, q.parser.IsOld s.nextId) →
      (Comparison.ordering s size deeper).Does w (queries.mapM (Query.run (Calls.upTo n)))
        (queries.mapM (Query.run (Calls.upTo n'))) fun v =>
          List.Forall₂ (Finding.Alike ((Comparison.ordering s size deeper).Same v))
  | [], w, _ => (Comparison.ordering s size deeper).pure .nil
  | q :: queries, w, hq => by
    let D := Comparison.ordering s size deeper
    rw [List.mapM_cons, List.mapM_cons]
    refine D.bind (Query.compares hc (hq q List.mem_cons_self)) fun v a b _ hab => ?_
    refine D.bind (compare_all hc fun r hr => hq r (List.mem_cons_of_mem q hr))
      fun v' as bs hv' hall => ?_
    exact D.pure (.cons (hab.mono (D.same_mono hv')) hall)

/-- The identities of what a rule has been defined as have been given out. -/
theorem Reached.isOld (hs : Reached s) {h : Rule} (hf : Forces s h (.ok p)) : p.IsOld s.nextId := by
  obtain ⟨w, hw⟩ := hs.registered
  obtain ⟨slot, hslot, hvalue⟩ := hf.exists_slot
  exact hw.isOld (hw.slots _ slot p (Session.slotOf?_of_slot? hslot) hvalue)

/-- **What is found out does not depend on the order in which rules have been built.**  From any two
sessions that queries have led to, the same queries go on to have findings in both or in neither,
and these are alike by a single renaming of identities. -/
theorem order_irrelevant (hs : Reached s) (hd : Constructs s size) (ht : Led s t) (hu : Led s u)
    {queries : List (Query α)} (hq : ∀ q ∈ queries, q.parser.IsOld s.nextId) :
    ((∃ n, (queries.mapM (Query.run (Calls.upTo n)) t).isSome) ↔
      ∃ n, (queries.mapM (Query.run (Calls.upTo n)) u).isSome) ∧
    ∀ n as t' n' bs u', queries.mapM (Query.run (Calls.upTo n)) t = some (as, t') →
      queries.mapM (Query.run (Calls.upTo n')) u = some (bs, u') →
        ∃ f : NodeId → NodeId, Function.Injective f ∧ (∀ i, i < s.nextId → f i = i) ∧
          List.Forall₂ (Finding.Alike (f · = ·)) as bs := by
  have hold (h : Rule) (p : Parser α) (hf : Forces s h (.ok p)) := hs.isOld hf
  have hdeeper {t u : Session α} (ht : Led s t) (hu : Led s u) (n : Nat)
      (hsome : (queries.mapM (Query.run (Calls.upTo n)) t).isSome) :
      (queries.mapM (Query.run (Calls.upTo (n + 1))) u).isSome := by
    obtain ⟨b, hb⟩ := ht.exists_recounts hd
    obtain ⟨c, hc⟩ := hu.exists_recounts hd
    have hlt : True → n < n + 1 := fun _ => Nat.lt_succ_self n
    have hrespects := Comparison.ordering_respects hd hold n (n + 1) hlt
    exact (Query.compare_all hrespects (w := (b, c)) hq t u hb hc).2 trivial hsome
  refine ⟨⟨fun ⟨n, hn⟩ => ⟨n + 1, hdeeper ht hu n hn⟩,
    fun ⟨n, hn⟩ => ⟨n + 1, hdeeper hu ht n hn⟩⟩, fun n as t' n' bs u' has hbs => ?_⟩
  obtain ⟨b, hb⟩ := ht.exists_recounts hd
  obtain ⟨c, hc⟩ := hu.exists_recounts hd
  have hany : False → n < n' := False.elim
  have hrespects := Comparison.ordering_respects hd hold n n' hany
  obtain ⟨v, -, -, hv, hall⟩ :=
    (Query.compare_all hrespects (w := (b, c)) hq t u hb hc).1 as t' bs u' has hbs
  obtain ⟨f, hinjective, hf, hsame⟩ := v.1.exists_renaming v.2 hv.old hv.below
  exact ⟨f, hinjective, hf, hall.imp fun _ _ hab => hab.mono hsame⟩

end Orders

/-- Two rules in an arena, neither of them built so far. -/
def unbuilt : Session Empty :=
  { nextId := 2
    arenas := [{ slots := [{ deferred := some ⟨"x", [], .literal ['x']⟩ },
      { deferred := some ⟨"y", [], .literal ['y']⟩ }] }]
    bindings := [("y", .rule ⟨1, 0, 1⟩), ("x", .rule ⟨0, 0, 0⟩)]
    arenaNames := [("g", 0)] }

theorem unbuilt_plain : unbuilt.Plain := by
  intro x slot d hslot hd
  obtain ⟨a, ha, hslot⟩ := Option.bind_eq_some_iff.1 hslot
  obtain rfl := List.mem_singleton.1 (List.mem_of_getElem? ha)
  have hmem := List.mem_of_getElem? hslot
  simp only [List.mem_cons, List.not_mem_nil, or_false] at hmem
  rcases hmem with rfl | rfl
  all_goals
    cases hd
    rfl

/-- The rule that is built first has the smaller identity, whichever it is. -/
theorem order_irrelevant_unbuilt : ∃ t u, Reached unbuilt ∧ Constructs unbuilt unbuilt.sizeAt ∧
    Led unbuilt t ∧ Led unbuilt u ∧
      ∃ f : NodeId → NodeId, Function.Injective f ∧ (∀ i, i < 2 → f i = i) ∧
        List.Forall₂ (Finding.Alike (α := Empty) (f · = ·))
          [.description (.leaf 2 (.literal ['x'])), .description (.leaf 3 (.literal ['y']))]
          [.description (.leaf 3 (.literal ['x'])), .description (.leaf 2 (.literal ['y']))] := by
  have hs : Reached unbuilt := .script 0 [.newArena "g", .defer "x" "g" [] (.literal ['x']),
    .defer "y" "g" [] (.literal ['y'])] (.start false) rfl
  have hd : Constructs unbuilt unbuilt.sizeAt := .of_plain unbuilt_plain hs
  let x : Rule := ⟨0, 0, 0⟩
  let y : Rule := ⟨1, 0, 1⟩
  have ht : Led unbuilt _ := Led.refl.query 1 (.force x) rfl
  have hu : Led unbuilt _ := Led.refl.query 1 (.force y) rfl
  refine ⟨_, _, hs, hd, ht, hu, ?_⟩
  let queries : List (Query Empty) := [.describe (.rule x), .describe (.rule y)]
  have hold : ∀ q ∈ queries, q.parser.IsOld unbuilt.nextId := by
    intro q hq r hr
    simp only [queries, List.mem_cons, List.not_mem_nil, or_false] at hq
    rcases hq with rfl | rfl
    all_goals
      obtain rfl := List.mem_singleton.1 hr
      decide
  exact (order_irrelevant hs hd ht hu hold).2 1 _ _ 1 _ _ rfl rfl

end GrammarGraph
