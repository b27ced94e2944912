import GrammarGraph.Proofs.Book

/-!
# Proofs/Numbering — expressions number their nodes in order

    i, i+1, …, i+k-1    ~    j, j+1, …, j+k-1

An expression takes identities one after another, and what it builds depends on nothing else but
the names it mentions.  So wherever the numbers start, it builds the same structure.  Definitions
that are expressions alone do nothing but construct nodes (`Constructs.of_plain`).
-/

namespace GrammarGraph

variable {α β γ : Type}

/-! ## Computations that take identities -/

/-- Some identities have been given out; neither arenas nor names have changed. -/
structure Numbers (k : Nat) (t t' : Session α) : Prop where
  arenas : t'.arenas = t.arenas
  bindings : t'.bindings = t.bindings
  logging : t'.logging = t.logging
  nextId : t'.nextId = t.nextId + k

theorem Numbers.trans {k l : Nat} {t t' t'' : Session α} (h : Numbers k t t')
    (h' : Numbers l t' t'') : Numbers (k + l) t t'' where
  arenas := h'.arenas.trans h.arenas
  bindings := h'.bindings.trans h.bindings
  logging := h'.logging.trans h.logging
  nextId := by rw [h'.nextId, h.nextId]; exact Nat.add_assoc _ _ _

/-- **The computations take equally many identities**, one from `i` on and one from `j` on, and come
to related results. -/
def Shifts (names : List (String × Binding α)) (i j : Nat) (m m' : Run α β)
    (R : Nat → β → β → Prop) : Prop :=
  ∀ t u : Session α, t.bindings = names → u.bindings = names → t.nextId = i → u.nextId = j →
    ∃ k b c t' u', m t = some (b, t') ∧ m' u = some (c, u') ∧ Numbers k t t' ∧ Numbers k u u' ∧
      R k b c

namespace Shifts

variable {names : List (String × Binding α)} {i j : Nat}

theorem pure {b c : β} {R : Nat → β → β → Prop} (h : R 0 b c) :
    Shifts names i j (Pure.pure b) (Pure.pure c) R :=
  fun t u _ _ _ _ => ⟨0, b, c, t, u, rfl, rfl, ⟨rfl, rfl, rfl, rfl⟩, ⟨rfl, rfl, rfl, rfl⟩, h⟩

theorem bind {m m' : Run α β} {f f' : β → Run α γ} {R : Nat → β → β → Prop}
    {Q : Nat → γ → γ → Prop} (hm : Shifts names i j m m' R)
    (hf : ∀ k b c, R k b c → Shifts names (i + k) (j + k) (f b) (f' c) fun l => Q (k + l)) :
    Shifts names i j (m >>= f) (m' >>= f') Q := by
  intro t u ht hu hi hj
  obtain ⟨k, b, c, t₁, u₁, hb, hc, ht₁, hu₁, hR⟩ := hm t u ht hu hi hj
  obtain ⟨l, b', c', t₂, u₂, hb', hc', ht₂, hu₂, hQ⟩ := hf k b c hR t₁ u₁ (ht₁.bindings.trans ht)
    (hu₁.bindings.trans hu) (hi ▸ ht₁.nextId) (hj ▸ hu₁.nextId)
  exact ⟨k + l, b', c', t₂, u₂, Run.bind_eq_some_iff.2 ⟨b, t₁, hb, hb'⟩,
    Run.bind_eq_some_iff.2 ⟨c, u₁, hc, hc'⟩, ht₁.trans ht₂, hu₁.trans hu₂, hQ⟩

theorem mono {m m' : Run α β} {R Q : Nat → β → β → Prop} (hm : Shifts names i j m m' R)
    (h : ∀ k b c, R k b c → Q k b c) : Shifts names i j m m' Q := by
  intro t u ht hu hi hj
  obtain ⟨k, b, c, t', u', hb, hc, ht', hu', hR⟩ := hm t u ht hu hi hj
  exact ⟨k, b, c, t', u', hb, hc, ht', hu', h k b c hR⟩

theorem read {f : Session α → Run α β} {R : Nat → β → β → Prop}
    (h : ∀ s s' : Session α, s.bindings = names → s'.bindings = names →
      Shifts names i j (f s) (f s') R) : Shifts names i j (get >>= f) (get >>= f) R :=
  fun t u ht hu hi hj => h t u ht hu t u ht hu hi hj

theorem fresh : Shifts names i j (Run.fresh : Run α NodeId) Run.fresh fun k a b =>
    k = 1 ∧ a = i ∧ b = j :=
  fun _ _ _ _ hi hj => ⟨1, _, _, _, _, rfl, rfl, ⟨rfl, rfl, rfl, rfl⟩, ⟨rfl, rfl, rfl, rfl⟩, rfl,
    hi, hj⟩

/-- What is logged makes no difference. -/
theorem log (level : LogLevel) (message message' : String) :
    Shifts names i j (Run.log level message : Run α Unit) (Run.log level message') fun k _ _ =>
      k = 0 := by
  intro t u _ _ _ _
  obtain ⟨l, hl⟩ := Run.exists_log_eq level message t
  obtain ⟨l', hl'⟩ := Run.exists_log_eq level message' u
  exact ⟨0, _, _, _, _, hl, hl', ⟨rfl, rfl, rfl, rfl⟩, ⟨rfl, rfl, rfl, rfl⟩, rfl⟩

end Shifts

/-! ## Expressions -/

/-- The same has been built, but for identities, or the same refused. -/
inductive BuildsAlike (S : NodeId → NodeId → Prop) :
    Except Refusal (Parser α) → Except Refusal (Parser α) → Prop
  | ok {p q : Parser α} (h : p.Alike S q) : BuildsAlike S (.ok p) (.ok q)
  | error (e : Refusal) : BuildsAlike S (.error e) (.error e)

theorem Shifted.mono {old i j i' j' k k' d : Nat} (hi : i' = i + d) (hj : j' = j + d)
    (hk : d + k' ≤ k) (a b : Nat) (h : Shifted old k' i' j' a b) : Shifted old k i j a b := by
  cases h with
  | old ha => exact .old ha
  | @new l hl =>
    subst hi hj
    rw [Nat.add_assoc, Nat.add_assoc]
    exact .new (by omega)

section Expressions

variable {names : List (String × Binding α)} {old i j : Nat}

/-- One node more, whose parts are alike. -/
theorem shifts_fresh {node node' : NodeId → Parser α} {d i' j' : Nat} (hi : i' = i + d)
    (hj : j' = j + d) (hnode : ∀ {S : NodeId → NodeId → Prop},
      (∀ a b, Shifted old d i j a b → S a b) → ∀ {a b}, S a b → (node a).Alike S (node' b)) :
    Shifts names i' j'
      (do return .ok (node (← Run.fresh)) : Run α (Except Refusal (Parser α)))
      (do return .ok (node' (← Run.fresh))) fun l => BuildsAlike (Shifted old (d + l) i j) := by
  refine Shifts.fresh.bind fun k a b hab => ?_
  obtain ⟨rfl, rfl, rfl⟩ := hab
  refine .pure (.ok (hnode (Shifted.mono (d := 0) rfl rfl (by omega)) ?_))
  rw [hi, hj]
  exact .new (by omega)

theorem shifts_onto {node : NodeId → Parser α → Parser α} {r r' : Except Refusal (Parser α)}
    {d i' j' : Nat} (hi : i' = i + d) (hj : j' = j + d) (h : BuildsAlike (Shifted old d i j) r r')
    (hnode : ∀ {S : NodeId → NodeId → Prop} {a b p q}, S a b → p.Alike S q →
      (node a p).Alike S (node b q)) :
    Shifts names i' j' (Expr.onto node r) (Expr.onto node r') fun l =>
      BuildsAlike (Shifted old (d + l) i j) := by
  cases h with
  | error e => exact .pure (.error e)
  | ok h => exact shifts_fresh hi hj fun hS _ _ hab => hnode hab (h.mono hS)

theorem shifts_readPattern (library : Pattern.Library) (source : String)
    (options : Pattern.Options) :
    Shifts names i j (Expr.readPattern library source options)
      (Expr.readPattern library source options) fun k r r' => k = 0 ∧ r = r' := by
  rw [Expr.readPattern]
  cases library.read? options source with
  | none => exact .pure ⟨rfl, rfl⟩
  | some expression =>
    dsimp only
    split
    · refine (Shifts.log _ _ _).bind fun k _ _ hk => ?_
      subst hk
      split <;> exact .pure ⟨rfl, rfl⟩
    · split <;> exact .pure ⟨rfl, rfl⟩

/-- Two parts, one after the other, and a node on top. -/
theorem shifts_binary {left right : Expr α} {node : NodeId → Parser α → Parser α → Parser α}
    (ihl : ∀ {i j : Nat}, Shifts names i j left.build left.build fun k =>
      BuildsAlike (Shifted old k i j))
    (ihr : ∀ {i j : Nat}, Shifts names i j right.build right.build fun k =>
      BuildsAlike (Shifted old k i j))
    (hnode : ∀ {S : NodeId → NodeId → Prop} {a b p q p' q'}, S a b → p.Alike S p' → q.Alike S q' →
      (node a p q).Alike S (node b p' q')) :
    Shifts names i j
      (do
        match ← left.build with
        | .error e => return .error e
        | .ok p => Expr.onto (node · p ·) (← right.build))
      (do
        match ← left.build with
        | .error e => return .error e
        | .ok p => Expr.onto (node · p ·) (← right.build)) fun k =>
          BuildsAlike (Shifted old k i j) := by
  refine ihl.bind fun k r r' hr => ?_
  cases hr with
  | error e => exact .pure (.error e)
  | @ok p p' hp =>
    refine ihr.bind fun l r r' hr => ?_
    cases hr with
    | error e => exact .pure (.error e)
    | @ok q q' hq =>
      refine (shifts_fresh (d := k + l) (Nat.add_assoc i k l) (Nat.add_assoc j k l)
        fun hS _ _ hab => hnode hab (hp.mono fun a b h => hS a b ?_)
          (hq.mono fun a b h => hS a b ?_)).mono fun m r r' h => Nat.add_assoc k l m ▸ h
      · exact h.mono (d := 0) rfl rfl (by omega)
      · exact h.mono rfl rfl (by omega)

/-- **Wherever its identities start, an expression builds the same structure.** -/
theorem Expr.shifts_build (hnames : ∀ name b, names.lookup name = some b → b.toParser.IsOld old)
    (e : Expr α) : ∀ {i j : Nat}, Shifts names i j e.build e.build fun k =>
      BuildsAlike (Shifted old k i j) := by
  have hold {i j k : Nat} {p : Parser α} (hp : p.IsOld old) : p.Alike (Shifted old k i j) p :=
    Parser.alike_self fun q hq => .old (hp q hq)
  induction e with
  | ref name =>
    intro i j
    refine .read fun s s' hs hs' => ?_
    rw [hs, hs']
    obtain hlookup | ⟨p | h, hlookup⟩ := Option.eq_none_or_eq_some (names.lookup name)
    · rw [hlookup]
      exact .pure (.error _)
    · rw [hlookup]
      exact .pure (.ok (.boxed (hold (hnames name _ hlookup))))
    · rw [hlookup]
      exact .pure (.ok (.boxed (hold (hnames name _ hlookup))))
  | literal text =>
    intro i j
    exact (shifts_fresh (d := 0) rfl rfl fun _ _ _ hab => .literal hab text).mono
      fun k r r' h => Nat.zero_add k ▸ h
  | pattern source options =>
    intro i j
    refine (shifts_readPattern _ source options).bind fun k r r' hr => ?_
    obtain ⟨rfl, rfl⟩ := hr
    cases r with
    | error e => exact .pure (.error _)
    | ok p => exact shifts_fresh rfl rfl fun _ _ _ hab => .pattern hab p
  | map inner f ih =>
    intro i j
    exact ih.bind fun k r r' hr => shifts_onto rfl rfl hr fun hab hp => .map hab f hp
  | sequence keep left right ihl ihr =>
    intro i j
    exact shifts_binary ihl ihr fun hab hp hq => .sequence hab keep hp hq
  | choice left right ihl ihr =>
    intro i j
    exact shifts_binary ihl ihr fun hab hp hq => .choice hab hp hq
  | optional inner ih =>
    intro i j
    exact ih.bind fun k r r' hr => shifts_onto rfl rfl hr fun hab hp => .optional hab hp
  | star inner ih =>
    intro i j
    exact ih.bind fun k r r' hr => shifts_onto rfl rfl hr fun hab hp => .star hab hp
  | exactly count inner size ih =>
    intro i j
    exact ih.bind fun k r r' hr =>
      shifts_onto rfl rfl hr fun hab hp => .exactly hab ⟨count, size⟩ hp
  | named name inner ih =>
    intro i j
    exact ih.bind fun k r r' hr => shifts_onto rfl rfl hr fun hab hp => .named hab name hp
  | malformed message => exact .pure (.error _)

/-- **So does a definition that is an expression alone.** -/
theorem Deferred.shifts_build (calls calls' : Calls α) {d : Deferred α} (hd : d.steps = [])
    (hnames : ∀ name b, names.lookup name = some b → b.toParser.IsOld old) :
    Shifts names i j (d.build calls) (d.build calls')
      fun k p q => p.Alike (Shifted old k i j) q := by
  rw [Deferred.build, Deferred.build, hd]
  simp only [List.mapM_nil, pure_bind]
  refine (Expr.shifts_build hnames d.expr).bind fun k r r' hr => ?_
  have hreport {i j : Nat} {R : Nat → Parser α → Parser α → Prop} {p q : Parser α}
      (f f' : Session α → List (Build (Answer α))) (h : R 0 p q) : Shifts names i j
        (do modify fun s => { s with builds := f s }; return p)
        (do modify fun s => { s with builds := f' s }; return q) R :=
    fun _ _ _ _ _ _ => ⟨0, p, q, _, _, rfl, rfl, ⟨rfl, rfl, rfl, rfl⟩, ⟨rfl, rfl, rfl, rfl⟩, h⟩
  cases hr with
  | ok h => exact hreport _ _ h
  | error e =>
    refine Shifts.fresh.bind fun l a b hab => ?_
    obtain ⟨rfl, rfl, rfl⟩ := hab
    exact hreport _ _ (.literal (.new (Nat.lt_succ_self k)) _)

end Expressions

/-! ## Definitions that are expressions -/

section Plain

variable {s t u : Session α} {h : Rule} {d : Deferred α} {p : Parser α}

/-- **All definitions that are still to be built are expressions alone.** -/
def Session.Plain (s : Session α) : Prop :=
  ∀ x slot d, s.slotOf? x = some slot → slot.deferred = some d → d.steps = []

/-- The definition that has been deferred at a place. -/
def Session.deferredAt (s : Session α) (x : Place) : Option (Deferred α) :=
  (s.slotOf? x).bind Slot.deferred

/-- How many identities are taken by the definition that has been deferred at a place. -/
def Session.sizeAt (s : Session α) (x : Place) : Nat :=
  match s.deferredAt x with
  | none => 0
  | some d => ((d.build (Calls.none α) s).map fun y => y.2.nextId - s.nextId).getD 0

/-- Nothing has been deferred since, and no name has changed. -/
structure Settling (s t : Session α) : Prop where
  bindings : t.bindings = s.bindings
  nextId : s.nextId ≤ t.nextId
  deferred : ∀ x d, t.deferredAt x = some d → s.deferredAt x = some d

/-- A definition that is about to be built has been deferred before. -/
theorem Settling.deferredAt_of_pending (ht : Settling s t)
    (hd : (t.slot? h).map Slot.stage = some (.pending d)) : s.deferredAt h.place = some d := by
  obtain ⟨slot, hslot, hstage⟩ := Option.map_eq_some_iff.1 hd
  refine ht.deferred _ d ?_
  rw [Session.deferredAt, Session.slotOf?_of_slot? hslot]
  exact Slot.deferred_of_pending hstage

variable (hplain : s.Plain) (hnames : ∀ name b, s.bindings.lookup name = some b →
  b.toParser.IsOld s.nextId)

include hplain hnames

/-- **What is built at a place has the same structure**, whenever it is built. -/
theorem shifts_runThunk (h' : Rule) (n n' : Nat) (hd : s.deferredAt h.place = some d) {i j : Nat} :
    Shifts s.bindings i j (h.runThunk (Calls.upTo (n + 1)).build d)
      (h'.runThunk (Calls.upTo (n' + 1)).build d)
      fun k p q => p.Alike (Shifted s.nextId k i j) q := by
  obtain ⟨slot, hslot, hdeferred⟩ := Option.bind_eq_some_iff.1 hd
  refine (Shifts.log _ _ _).bind fun k _ _ hk => ?_
  subst hk
  have hbuild := Deferred.shifts_build (Calls.upTo n) (Calls.upTo n')
    (hplain _ slot d hslot hdeferred) hnames (i := i + 0) (j := j + 0)
  exact hbuild.mono fun k p q h => by simpa only [Nat.zero_add, Nat.add_zero] using h

/-- Building a definition takes as many identities as it does in the first place. -/
theorem Settling.numbers {n : Nat} (ht : Settling s t) (hd : s.deferredAt h.place = some d) :
    ∃ p u, h.runThunk (Calls.upTo (n + 1)).build d (t.beginBuild h) = some (p, u) ∧
      Numbers (s.sizeAt h.place) (t.beginBuild h) u := by
  obtain ⟨slot, hslot, hdeferred⟩ := Option.bind_eq_some_iff.1 hd
  obtain ⟨log, hlog⟩ := Run.exists_log_eq .trace ("building lazy rule " ++ h.id.mark)
    (t.beginBuild h)
  obtain ⟨k, p, q, u, v, hp, hq, hu, hv, -⟩ := Deferred.shifts_build (Calls.upTo n)
    (Calls.none α) (hplain _ slot d hslot hdeferred) hnames
    { t.beginBuild h with log := log } s ht.bindings rfl rfl rfl
  have hsize : s.sizeAt h.place = k := by
    rw [Session.sizeAt, hd]
    dsimp only
    rw [hq, Option.map_some, Option.getD_some, hv.nextId]
    exact Nat.add_sub_cancel_left _ _
  rw [hsize]
  exact ⟨p, u, (Run.bind_of_eq_some hlog).trans hp, hu.arenas, hu.bindings, hu.logging, hu.nextId⟩

theorem Settling.force {n : Nat} {r : Except Fault (Parser α)} (ht : Settling s t)
    (hf : h.force (Calls.upTo n).build t = some (r, u)) : Settling s u := by
  obtain ⟨d, p, v, hp, hthunk, -, rfl⟩ | ⟨rfl, -⟩ := Rule.force_cases hf
  · cases n with
    | zero => exact absurd hthunk Rule.runThunk_zero
    | succ n =>
      obtain ⟨p', v', hthunk', hv⟩ := ht.numbers hplain hnames (ht.deferredAt_of_pending hp)
      obtain ⟨rfl, rfl⟩ := Prod.mk.inj (Option.some.inj (hthunk.symm.trans hthunk'))
      obtain ⟨slot, hslot, hstage⟩ := Option.map_eq_some_iff.1 hp
      have hplace := Session.slotOf?_of_slot? hslot
      have hslots := Session.slotOf?_built (p := p) hplace hv.arenas hstage
      refine ⟨hv.bindings.trans ht.bindings, ?_, fun x d' hd' => ht.deferred x d' ?_⟩
      · exact Nat.le_trans ht.nextId (hv.nextId ▸ Nat.le_add_right _ _)
      · rw [Session.deferredAt, hslots] at hd'
        split at hd'
        · cases hd'
        · exact hd'
  · exact ht

/-- Queries defer nothing, and change no names. -/
theorem Led.settling (ht : Led s t) : Settling s t := by
  let D := Discipline.keeping (Settling s) fun _ _ h => ⟨h.bindings, h.nextId, h.deferred⟩
  have hc (n : Nat) : D.Respects (Calls.upTo n) :=
    Discipline.respects (fun n _ h _ t r u ht hf =>
      ⟨ht.force hplain hnames hf, fun _ _ => trivial⟩) n
  induction ht with
  | refl => exact ⟨rfl, Nat.le_refl _, fun _ _ h => h⟩
  | query n q _ hq ih =>
    refine (Query.runs (hc n) (w := ⟨⟩) (fun h t b u ht hb => ?_) q trivial _ _ _ ih hq).1
    rw [Rule.of_isDefined hb]
    exact ⟨ht, trivial⟩
  | report builds log _ ih => exact ⟨ih.bindings, ih.nextId, ih.deferred⟩

omit hnames

/-- **Definitions that are expressions alone do nothing but construct nodes.** -/
theorem Constructs.of_plain (hs : Reached s) : Constructs s s.sizeAt := by
  have hnames (name : String) (b : Binding α) (hb : s.bindings.lookup name = some b) :
      b.toParser.IsOld s.nextId := by
    obtain ⟨w, hw⟩ := hs.registered
    exact hw.isOld (hw.of_lookup hb)
  constructor
  · intro t h d n ht hp
    have ht := ht.settling hplain hnames
    obtain ⟨p, u, hthunk, hu⟩ := ht.numbers hplain hnames (n := n) (ht.deferredAt_of_pending hp)
    exact ⟨p, u, hthunk, hu.arenas, hu.logging, hu.nextId⟩
  · intro x i j p q hp hq
    cases hp with
    | @intro t t' h d n p ht hd hp =>
      generalize hplace : h.place = x at hq ⊢
      cases hq with
      | @intro u u' h' d' n' q hu hd' hq =>
        have ht := ht.settling hplain hnames
        have hu := hu.settling hplain hnames
        have hdeferred := ht.deferredAt_of_pending hd
        obtain rfl : d = d' := by
          rw [hplace, hu.deferredAt_of_pending hd'] at hdeferred
          exact (Option.some.inj hdeferred).symm
        cases n with
        | zero => exact absurd hp Rule.runThunk_zero
        | succ n =>
          cases n' with
          | zero => exact absurd hq Rule.runThunk_zero
          | succ n' =>
            obtain ⟨k, a, b, v, v', ha, hb, hv, -, hab⟩ := shifts_runThunk hplain hnames h' n n'
              hdeferred (t.beginBuild h) (u.beginBuild h') ht.bindings hu.bindings rfl rfl
            obtain ⟨rfl, -⟩ := Prod.mk.inj (Option.some.inj (hp.symm.trans ha))
            obtain ⟨rfl, -⟩ := Prod.mk.inj (Option.some.inj (hq.symm.trans hb))
            obtain ⟨_, w, hw, hsize⟩ := ht.numbers hplain hnames (n := n) hdeferred
            obtain ⟨-, rfl⟩ := Prod.mk.inj (Option.some.inj (ha.symm.trans hw))
            have hk : k = s.sizeAt h.place :=
              Nat.add_left_cancel (hv.nextId.symm.trans hsize.nextId)
            rw [← hplace, ← hk]
            exact hab

end Plain

end GrammarGraph
