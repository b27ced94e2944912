import GrammarGraph.Proofs.Graph
import GrammarGraph.Proofs.Query
import GrammarGraph.Proofs.Quiet

/-!
# Proofs/Book — what has been built since, and from which identity on

    s ──queries──▸ t          book : place ─▸ first identity of what has been built there

Where definitions do nothing but construct nodes, and always the same ones (`Constructs`), a query
only decides when they do so, and with that which identities the nodes get.  A `Book` records for
each rule that has been built since `s` from which identity on its nodes are numbered.  Books only
grow, and what is written in one is all that has become of `s` (`Recounts`), so the books of two
sessions say which identities correspond (`Book.Same`).
-/

namespace GrammarGraph

variable {α : Type}

/-! ## Definitions that construct nodes -/

/-- The definition of the rule at a place builds this parser when identities are given out from
here on. -/
inductive BuiltFrom (s : Session α) : Place → NodeId → Parser α → Prop
  | intro {t u : Session α} {h : Rule} {d : Deferred α} {n : Nat} {p : Parser α} (ht : Led s t)
      (hd : (t.slot? h).map Slot.stage = some (.pending d))
      (hp : h.runThunk (Calls.upTo n).build d (t.beginBuild h) = some (p, u)) :
      BuiltFrom s h.place t.nextId p

/-- All identities in the parser are old. -/
def Parser.IsOld (old : NodeId) (p : Parser α) : Prop := ∀ q ∈ p.nodes, q.id < old

/-- What is entered in a registry is old to the session. -/
theorem Registered.isOld {s : Session α} {w : Registry α} {p : Parser α} (hs : Registered w s)
    (hp : w.Knows p) : p.IsOld s.nextId := by
  intro q hq
  refine Nat.lt_of_not_le fun hle => ?_
  have hknown := hp q hq
  rw [hs.fresh _ hle] at hknown
  cases hknown

/-- Identities correspond if they are old, or stand at the same distance from two others. -/
inductive Shifted (old : Nat) (size : Nat) (i j : Nat) : Nat → Nat → Prop
  | old {k : Nat} (hk : k < old) : Shifted old size i j k k
  | new {k : Nat} (hk : k < size) : Shifted old size i j (i + k) (j + k)

/-- **Definitions that do nothing but construct nodes**, and construct the same structure whenever
they are carried out: old nodes stay what they are, and new ones are numbered in the same order.
`size` says how many identities the definition at a place takes. -/
structure Constructs (s : Session α) (size : Place → Nat) : Prop where
  quiet : ∀ {t : Session α} {h : Rule} {d : Deferred α} (n : Nat), Led s t →
    (t.slot? h).map Slot.stage = some (.pending d) →
      ∃ p u, h.runThunk (Calls.upTo (n + 1)).build d (t.beginBuild h) = some (p, u) ∧
        u.arenas = (t.beginBuild h).arenas ∧ u.logging = t.logging ∧
          u.nextId = t.nextId + size h.place
  alike : ∀ {x : Place} {i j : Nat} {p q : Parser α}, BuiltFrom s x i p → BuiltFrom s x j q →
    p.Alike (Shifted s.nextId (size x) i j) q

/-- Without going deeper, nothing is built. -/
theorem Rule.runThunk_zero {s t : Session α} {h : Rule} {d : Deferred α} {p : Parser α} :
    h.runThunk (Calls.upTo 0).build d s ≠ some (p, t) := by
  intro hthunk
  obtain ⟨_, _, -, hbuild⟩ := Run.bind_eq_some_iff.1 hthunk
  cases hbuild

/-! ## Books -/

/-- **Where the nodes of rules begin** that have been built: at new identities, and apart. -/
structure Book (old : Nat) (size : Place → Nat) where
  base : Place → Option Nat
  above : ∀ {x i}, base x = some i → old ≤ i
  apart : ∀ {x y i j}, base x = some i → base y = some j → x ≠ y →
    i + size x ≤ j ∨ j + size y ≤ i

namespace Book

variable {old : Nat} {size : Place → Nat} {b b' c c' : Book old size}

/-- Nothing has been built. -/
def blank : Book old size where
  base _ := none
  above := nofun
  apart := nofun

/-- All that is in one book is in the other. -/
def Grows (b b' : Book old size) : Prop := ∀ x i, b.base x = some i → b'.base x = some i

theorem Grows.refl (b : Book old size) : b.Grows b := fun _ _ h => h

theorem Grows.trans (h : b.Grows b') (h' : b'.Grows c) : b.Grows c :=
  fun x i hi => h' x i (h x i hi)

/-- One more entry, above all others. -/
def enter (b : Book old size) (x : Place) {i : Nat} (hold : old ≤ i)
    (hi : ∀ y j, b.base y = some j → j + size y ≤ i) : Book old size where
  base y := if y = x then some i else b.base y
  above {y j} hy := by
    split at hy
    · exact Option.some.inj hy ▸ hold
    · exact b.above hy
  apart {y z j k} hy hz hne := by
    split at hy
    · next hyx =>
      rw [if_neg (hyx ▸ Ne.symm hne)] at hz
      exact .inr (Option.some.inj hy ▸ hi z k hz)
    · split at hz
      · exact .inl (Option.some.inj hz ▸ hi y j hy)
      · exact b.apart hy hz hne

section Enter

variable {x : Place} {i : Nat} {hold : old ≤ i} {hi : ∀ y j, b.base y = some j → j + size y ≤ i}

theorem base_enter (y : Place) :
    (b.enter x hold hi).base y = if y = x then some i else b.base y := rfl

theorem grows_enter (hx : b.base x = none) : b.Grows (b.enter x hold hi) := by
  intro y j hy
  rw [base_enter, if_neg, hy]
  rintro rfl
  rw [hx] at hy
  cases hy

end Enter

/-- **The identities that correspond**, by two books: old ones, and those of what has been built by
both. -/
inductive Same (b b' : Book old size) : Nat → Nat → Prop
  | old {k : Nat} (hk : k < old) : Same b b' k k
  | new {x : Place} {i j : Nat} {k : Nat} (hi : b.base x = some i) (hj : b'.base x = some j)
      (hk : k < size x) : Same b b' (i + k) (j + k)

namespace Same

variable {i j k l : Nat}

theorem symm (h : Same b b' i j) : Same b' b j i := by
  cases h with
  | old hk => exact .old hk
  | new hi hj hk => exact .new hj hi hk

theorem mono (hb : b.Grows c) (hb' : b'.Grows c') (h : Same b b' i j) : Same c c' i j := by
  cases h with
  | old hk => exact .old hk
  | new hi hj hk => exact .new (hb _ _ hi) (hb' _ _ hj) hk

/-- Blocks of new identities are apart from each other and from the old ones. -/
theorem eq_of_eq (h : Same b b' i j) (h' : Same b b' i l) : j = l := by
  generalize hik : i = k at h'
  cases h with
  | old hi =>
    cases h' with
    | old => exact hik
    | new hx _ _ =>
      have := b.above hx
      omega
  | @new x m n d hx hx' hd =>
    cases h' with
    | old hk =>
      have := b.above hx
      omega
    | @new y m' n' d' hy hy' hd' =>
      by_cases hxy : x = y
      · subst hxy
        rw [hx] at hy
        rw [hx'] at hy'
        cases hy
        cases hy'
        omega
      · have := b.apart hx hy hxy
        omega

theorem unique (h : Same b b' i j) (h' : Same b b' k l) : i = k ↔ j = l := by
  constructor
  · rintro rfl
    exact h.eq_of_eq h'
  · rintro rfl
    exact h.symm.eq_of_eq h'.symm

end Same

/-- **Corresponding identities are part of one renaming**, which keeps all that is old. -/
theorem exists_renaming (b b' : Book old size) {bound : Nat} (hold : old ≤ bound)
    (hbound : ∀ x j, b'.base x = some j → j + size x ≤ bound) :
    ∃ f : Nat → Nat, Function.Injective f ∧ (∀ i, i < old → f i = i) ∧
      ∀ i j, Same b b' i j → f i = j := by
  classical
  -- Identities that correspond to none are moved out of the way.
  let f (i : Nat) : Nat := if h : ∃ j, Same b b' i j then h.choose else bound + i
  have hsame {i j : Nat} (h : Same b b' i j) : f i = j := by
    have hex : ∃ j, Same b b' i j := ⟨j, h⟩
    have hf : f i = hex.choose := dif_pos hex
    rw [hf]
    exact hex.choose_spec.eq_of_eq h
  have hlt {i j : Nat} (h : Same b b' i j) : j < bound := by
    cases h with
    | old hk => omega
    | new _ hj hk =>
      have := hbound _ _ hj
      omega
  have hcases (i : Nat) : (∃ j, Same b b' i j ∧ f i = j) ∨ f i = bound + i := by
    by_cases h : ∃ j, Same b b' i j
    · obtain ⟨j, hj⟩ := h
      exact .inl ⟨j, hj, hsame hj⟩
    · exact .inr (dif_neg h)
  refine ⟨f, fun i k hik => ?_, fun i hi => hsame (.old hi), fun i j h => hsame h⟩
  obtain ⟨j, hj, hfi⟩ | hfi := hcases i <;> obtain ⟨l, hl, hfk⟩ | hfk := hcases k
  · exact (hj.unique hl).2 (hfi.symm.trans (hik.trans hfk))
  · have := hlt hj
    omega
  · have := hlt hl
    omega
  · omega

end Book

/-! ## What books tell -/

section Books

variable {s t u : Session α} {size : Place → Nat} {b : Book s.nextId size} {h : Rule}
  {p : Parser α} {d : Deferred α}

/-- **The book tells what has become of a session**: the rules in it have been built, and all else
is as it was. -/
structure Recounts (s : Session α) {size : Place → Nat} (b : Book s.nextId size) (t : Session α) :
    Prop where
  led : Led s t
  lives : t.lives = s.lives
  logging : t.logging = s.logging
  old : s.nextId ≤ t.nextId
  below : ∀ x i, b.base x = some i → i + size x ≤ t.nextId
  slot : ∀ x, b.base x = none → t.slotOf? x = s.slotOf? x
  built : ∀ x i, b.base x = some i →
    (∃ slot d, s.slotOf? x = some slot ∧ slot.stage = .pending d) ∧
      ∃ p, BuiltFrom s x i p ∧ t.slotOf? x = some { value := some p }

theorem Session.isAlive_eq_of_lives (ht : t.lives = s.lives) (h : Rule) :
    t.isAlive h = s.isAlive h := by
  have hlife := congrArg (·[h.arena]?.any fun x => decide (0 < x.1) || decide (0 < x.2)) ht
  simp only [Session.lives, List.getElem?_map, Option.any_map] at hlife
  exact hlife

/-- Handles of one place have one slot. -/
theorem Session.slot?_congr {h' : Rule} (hplace : h.place = h'.place) : s.slot? h = s.slot? h' := by
  obtain ⟨_, a, k⟩ := h
  obtain ⟨_, a', k'⟩ := h'
  obtain ⟨rfl, rfl⟩ := Place.mk.inj hplace
  rfl

namespace Recounts

theorem blank (s : Session α) (size : Place → Nat) :
    Recounts s (Book.blank : Book s.nextId size) s where
  led := .refl
  lives := rfl
  logging := rfl
  old := Nat.le_refl _
  below := nofun
  slot _ _ := rfl
  built := nofun

variable (ht : Recounts s b t)

include ht

theorem report (builds : List (Build (Answer α))) (log : List LogRecord) :
    Recounts s b { t with builds := builds, log := log } where
  led := ht.led.report builds log
  lives := ht.lives
  logging := ht.logging
  old := ht.old
  below := ht.below
  slot := ht.slot
  built := ht.built

/-- A rule that has not been built, in an arena that can be used, is as it was. -/
theorem slot?_eq (hb : b.base h.place = none) : t.slot? h = s.slot? h := by
  rw [Session.slot?, Session.slot?, Session.isAlive_eq_of_lives ht.lives, Session.slotAt?_eq,
    Session.slotAt?_eq, ht.slot _ hb]

/-- **What answers at once goes on to answer so.** -/
theorem forces {r : Except Fault (Parser α)} (hr : Forces s h r) : Forces t h r := by
  refine hr.of_slot? ?_
  cases hb : b.base h.place with
  | none => exact ht.slot?_eq hb
  | some i =>
    -- A rule that has been built was pending, so it did not answer at once, or cannot be used.
    obtain ⟨⟨slot, d, hslot, hstage⟩, -⟩ := ht.built _ i hb
    have halive : s.isAlive h = false := by
      refine eq_false_of_ne_true fun halive => hr.not_pending d ?_
      rw [Session.slot?, if_pos halive, Session.slotAt?_eq, hslot, Option.map_some, hstage]
    rw [Session.slot?, Session.slot?, Session.isAlive_eq_of_lives ht.lives, halive]
    rfl

/-- A rule that had an arena to live in still has. -/
theorem slot?_of_base {slot slot' : Slot α} (hslot : s.slot? h = some slot)
    (hslot' : t.slotOf? h.place = some slot') : t.slot? h = some slot' := by
  have halive : s.isAlive h = true := by
    refine eq_true_of_ne_false fun hdead => ?_
    rw [Session.slot?, hdead] at hslot
    cases hslot
  rw [Session.slot?, Session.isAlive_eq_of_lives ht.lives, if_pos halive]
  exact hslot'

/-- The book with the rule entered that has just been built. -/
theorem enter {n : Nat} {slot : Slot α} {v : Session α} (hb : b.base h.place = none)
    (hslot : s.slot? h = some slot) (hstage : slot.stage = .pending d)
    (hthunk : h.runThunk (Calls.upTo n).build d (t.beginBuild h) = some (p, v))
    (harenas : v.arenas = (t.beginBuild h).arenas) (hlogging : v.logging = t.logging)
    (hnext : v.nextId = t.nextId + size h.place) (hled : Led s (v.finishBuild h p)) :
    Recounts s (b.enter h.place ht.old ht.below) (v.finishBuild h p) := by
  have hold : s.slotOf? h.place = some slot := Session.slotOf?_of_slot? hslot
  have hslots := Session.slotOf?_built (p := p) ((ht.slot _ hb).trans hold) harenas hstage
  have hpending := ht.slot?_of_base hslot ((ht.slot _ hb).trans hold)
  have hle : t.nextId ≤ (v.finishBuild h p).nextId := hnext ▸ Nat.le_add_right _ _
  constructor
  case led => exact hled
  case lives =>
    exact (Session.Spares.beginBuild_finishBuild hpending (.of_arenas harenas)).lives.trans ht.lives
  case logging => exact hlogging.trans ht.logging
  case old => exact Nat.le_trans ht.old hle
  case below =>
    intro x i hx
    rw [Book.base_enter] at hx
    split at hx
    · next hplace =>
      subst hplace
      exact Option.some.inj hx ▸ Nat.le_of_eq hnext.symm
    · exact Nat.le_trans (ht.below x i hx) hle
  case slot =>
    intro x hx
    rw [Book.base_enter] at hx
    split at hx
    · cases hx
    · next hplace => rw [hslots, if_neg hplace, ht.slot x hx]
  case built =>
    intro x i hx
    rw [Book.base_enter] at hx
    split at hx
    · next hplace =>
      subst hplace
      obtain rfl := Option.some.inj hx
      refine ⟨⟨slot, d, hold, hstage⟩, p, ?_, (hslots _).trans (if_pos rfl)⟩
      exact .intro ht.led (by rw [ht.slot?_eq hb, hslot, Option.map_some, hstage]) hthunk
    · next hplace =>
      obtain ⟨hpending, q, hq, hvalue⟩ := ht.built x i hx
      exact ⟨hpending, q, hq, by rw [hslots, if_neg hplace, hvalue]⟩

/-- **Forcing a rule that was pending**: it has been built, or it is built now and entered in the
book. -/
theorem of_force_of_pending (hs : Constructs s size)
    (hp : (s.slot? h).map Slot.stage = some (.pending d)) {n : Nat}
    {r : Except Fault (Parser α)} (hf : h.force (Calls.upTo n).build t = some (r, u)) :
    ∃ b', b.Grows b' ∧ Recounts s b' u ∧
      ∃ i p, b'.base h.place = some i ∧ BuiltFrom s h.place i p ∧ r = .ok p := by
  obtain ⟨slot, hslot, hstage⟩ := Option.map_eq_some_iff.1 hp
  cases hb : b.base h.place with
  | some i =>
    obtain ⟨-, p, hp, hvalue⟩ := ht.built _ i hb
    have hforce : Forces t h (.ok p) := .of_built (ht.slot?_of_base hslot hvalue) rfl
    obtain ⟨rfl, rfl⟩ := Prod.mk.inj (Option.some.inj (hf.symm.trans (hforce _)))
    exact ⟨b, .refl b, ht, i, p, hb, hp, rfl⟩
  | none =>
    have hpending : (t.slot? h).map Slot.stage = some (.pending d) := by
      rw [ht.slot?_eq hb, hp]
    have hled := ht.led.force hf
    obtain ⟨p, v, hthunk, rfl, rfl⟩ := Rule.of_force_of_pending hpending hf
    cases n with
    | zero => exact absurd hthunk Rule.runThunk_zero
    | succ n =>
      obtain ⟨p', v', hthunk', harenas, hlogging, hnext⟩ := hs.quiet n ht.led hpending
      obtain ⟨rfl, rfl⟩ := Prod.mk.inj (Option.some.inj (hthunk.symm.trans hthunk'))
      have ht' := ht.enter hb hslot hstage hthunk harenas hlogging hnext hled
      have hbase : (b.enter h.place ht.old ht.below).base h.place = some t.nextId := if_pos rfl
      refine ⟨_, Book.grows_enter hb, ht', t.nextId, p, hbase, .intro ht.led hpending hthunk, ?_⟩
      have hold := (ht.slot _ hb).trans (Session.slotOf?_of_slot? hslot)
      rw [Session.getD_built hold harenas hstage]

/-- A rule that was pending can be had. -/
theorem exists_force (hs : Constructs s size)
    (hp : (s.slot? h).map Slot.stage = some (.pending d)) (n : Nat) :
    ∃ r u, h.force (Calls.upTo (n + 1)).build t = some (r, u) := by
  obtain ⟨slot, hslot, hstage⟩ := Option.map_eq_some_iff.1 hp
  cases hb : b.base h.place with
  | some i =>
    obtain ⟨-, p, -, hvalue⟩ := ht.built _ i hb
    exact ⟨_, _, Forces.of_built (ht.slot?_of_base hslot hvalue) rfl _⟩
  | none =>
    have hpending : (t.slot? h).map Slot.stage = some (.pending d) := by
      rw [ht.slot?_eq hb, hp]
    obtain ⟨p, v, hthunk, -⟩ := hs.quiet n ht.led hpending
    rw [Rule.force_of_pending hpending, hthunk]
    exact ⟨_, _, rfl⟩

/-- Whether a rule is defined does not change. -/
theorem isDefined (h : Rule) : ∃ x, h.isDefined s = some (x, s) ∧ h.isDefined t = some (x, t) := by
  rw [Rule.isDefined_apply, Rule.isDefined_apply]
  cases hb : b.base h.place with
  | none =>
    rw [ht.slot?_eq hb]
    split <;> exact ⟨_, rfl, rfl⟩
  | some i =>
    obtain ⟨⟨slot, d, hslot, hstage⟩, p, -, hvalue⟩ := ht.built _ i hb
    rw [Session.slot?, Session.slot?, Session.isAlive_eq_of_lives ht.lives, Session.slotAt?_eq,
      Session.slotAt?_eq, hslot, hvalue]
    by_cases halive : s.isAlive h = true
    · rw [if_pos halive, if_pos halive, Option.map_some, Option.map_some, hstage]
      exact ⟨true, rfl, rfl⟩
    · rw [if_neg halive, if_neg halive]
      exact ⟨false, rfl, rfl⟩

end Recounts

/-! ## Every session that is led to has a book -/

/-- **What becomes of a session that a book tells of is told by a larger book.** -/
def Discipline.telling (s : Session α) (size : Place → Nat) : Discipline α where
  World := Book s.nextId size
  Grows := Book.Grows
  Holds _ _ := True
  Does b m R := ∀ t, Recounts s b t → ∀ r u, m t = some (r, u) →
    ∃ b', b.Grows b' ∧ Recounts s b' u ∧ R b' r
  refl := .refl
  trans := .trans
  holds_mono _ _ := trivial
  holds_part _ _ := trivial
  pure hR t ht r u hr := by
    obtain ⟨rfl, rfl⟩ := Run.pure_eq_some_iff.1 hr
    exact ⟨_, .refl _, ht, hR⟩
  bind hm hf t ht r u hr := by
    obtain ⟨a, v, ha, hr⟩ := Run.bind_eq_some_iff.1 hr
    obtain ⟨b', hb', hv, hR⟩ := hm t ht a v ha
    obtain ⟨c, hc, hu, hQ⟩ := hf b' a hb' hR v hv r u hr
    exact ⟨c, hb'.trans hc, hu, hQ⟩
  failure := nofun
  read _ hf t ht r u hr := hf t t ht r u hr
  log level message t ht r u hr := by
    obtain ⟨log, hlog⟩ := Run.exists_log_eq level message t
    obtain ⟨-, rfl⟩ := Prod.mk.inj (Option.some.inj (hlog.symm.trans hr))
    exact ⟨_, .refl _, ht.report t.builds log, trivial⟩

section Telling

variable (hs : Constructs s size)

include hs

theorem Discipline.telling_respects (n : Nat) :
    (Discipline.telling s size).Respects (Calls.upTo n) := by
  refine Discipline.respects (fun n b h _ t ht r u hf => ?_) n
  by_cases hp : ∃ d, (s.slot? h).map Slot.stage = some (.pending d)
  · obtain ⟨d, hp⟩ := hp
    obtain ⟨b', hb', hu, -⟩ := ht.of_force_of_pending hs hp hf
    exact ⟨b', hb', hu, fun _ _ => trivial⟩
  · obtain ⟨r', hr'⟩ := exists_forces (not_exists.1 hp)
    obtain ⟨rfl, rfl⟩ := Prod.mk.inj (Option.some.inj (hf.symm.trans (ht.forces hr' _)))
    exact ⟨b, .refl b, ht, fun _ _ => trivial⟩

theorem Query.tells (n : Nat) (q : Query α) :
    (Discipline.telling s size).Runs b (q.run (Calls.upTo n)) := by
  refine Query.runs (Discipline.telling_respects hs n) (fun h t ht r u hr => ?_) q trivial
  rw [Rule.of_isDefined hr]
  exact ⟨b, .refl b, ht, trivial⟩

/-- **Every session that queries lead to has a book.** -/
theorem Led.exists_recounts (ht : Led s t) : ∃ b : Book s.nextId size, Recounts s b t := by
  induction ht with
  | refl => exact ⟨_, .blank s size⟩
  | query n q _ hq ih =>
    obtain ⟨b, hb⟩ := ih
    obtain ⟨b', -, hb', -⟩ := Query.tells hs n q _ hb _ _ hq
    exact ⟨b', hb'⟩
  | report builds log _ ih => exact ih.imp fun b hb => hb.report builds log

end Telling

end Books

end GrammarGraph
