import GrammarGraph.Proofs.Rerouting

/-!
# Proofs/Naming — what is parsed does not depend on names

    node ──▸ name ──▸ part          what refers to a name that is removed
    node ───────────▸ part          refers to what it names

Names can be removed from a grammar (`Session.unname`), any number of them at once, and inside
cycles.  A grammar that is settled then parses what it did (`Settled.matches_unname`).  The two
grammars are run side by side, at one depth: names take no depth, so either has a result if the
other has (`Run.Matches`).

Errors are different, and so are labels.  Nothing turns on the former, except which of the two an
outcome is.  But labels are asked for where falling back is logged, and to find the label of what a
name was given to, more rules may have to be followed than to find the name.
-/

namespace GrammarGraph

variable {α β γ δ ε : Type}

/-! ## Removing names -/

/-- **The parser without some of its names**: what refers to one of them refers to what it names. -/
def Parser.unname (gone : NodeId → Bool) : Parser α → Parser α
  | .literal id text => .literal id text
  | .pattern id p => .pattern id p
  | .map id inner f => .map id (inner.unname gone) f
  | .sequence id keep left right => .sequence id keep (left.unname gone) (right.unname gone)
  | .choice id left right => .choice id (left.unname gone) (right.unname gone)
  | .optional id inner => .optional id (inner.unname gone)
  | .star id inner => .star id (inner.unname gone)
  | .exactly id count inner => .exactly id count (inner.unname gone)
  | .named id name inner =>
    if gone id then inner.unname gone else .named id name (inner.unname gone)
  | .boxed inner => .boxed (inner.unname gone)
  | .rule h => .rule h

section Names

variable {gone : NodeId → Bool} {id : NodeId} (name : String) (inner : Parser α)

theorem Parser.unname_of_gone (h : gone id = true) :
    (Parser.named id name inner).unname gone = inner.unname gone := if_pos h

theorem Parser.unname_of_kept (h : gone id = false) :
    (Parser.named id name inner).unname gone = .named id name (inner.unname gone) :=
  if_neg (by rw [h]; exact Bool.false_ne_true)

end Names

@[inherit_doc Parser.unname]
def Slot.unname (gone : NodeId → Bool) (slot : Slot α) : Slot α :=
  { slot with value := slot.value.map (·.unname gone) }

@[inherit_doc Parser.unname]
def Arena.unname (gone : NodeId → Bool) (a : Arena α) : Arena α :=
  { a with slots := a.slots.map (·.unname gone) }

@[inherit_doc Parser.unname]
def Binding.unname (gone : NodeId → Bool) : Binding α → Binding α
  | .parser p => .parser (p.unname gone)
  | .rule h => .rule h

/-- The session in which the same names have been removed from all parsers. -/
def Session.unname (gone : NodeId → Bool) (s : Session α) : Session α :=
  { s with
    arenas := s.arenas.map (·.unname gone)
    bindings := s.bindings.map fun b => (b.1, b.2.unname gone) }

variable {s t : Session α} {gone : NodeId → Bool}

theorem Session.slot?_unname (h : Rule) :
    (s.unname gone).slot? h = (s.slot? h).map (·.unname gone) := by
  have halive : (s.unname gone).isAlive h = s.isAlive h := by
    rw [isAlive, isAlive, unname, List.getElem?_map]
    cases s.arenas[h.arena]? <;> rfl
  have hslot : (s.unname gone).slotAt? h = (s.slotAt? h).map (·.unname gone) := by
    rw [slotAt?, slotAt?, unname, List.getElem?_map]
    cases s.arenas[h.arena]? with
    | none => rfl
    | some arena => exact List.getElem?_map
  rw [slot?, slot?, halive, hslot]
  split <;> rfl

/-- A rule that answers at once answers with its definition, without the names. -/
theorem Forces.unname {h : Rule} {r : Except Fault (Parser α)} (hr : Forces s h r) :
    Forces (s.unname gone) h (r.map (·.unname gone)) := by
  intro build
  have hs := hr build
  rw [Rule.force_apply] at hs
  rw [Rule.force_apply, Session.slot?_unname]
  have hpending := hr.not_pending
  match hslot : s.slot? h with
  | none | some ⟨some _, _, _⟩ | some ⟨none, _, true⟩ | some ⟨none, none, false⟩ =>
    rw [hslot] at hs
    obtain ⟨rfl, -⟩ := Prod.mk.inj (Option.some.inj hs)
    rfl
  | some ⟨none, some definition, false⟩ =>
    rw [hslot] at hpending
    exact absurd rfl (hpending definition)

/-! ## Computations that match -/

/-- **Successes that are related, or two failures.** -/
inductive SuccessAlike (R : β → γ → Prop) : Except ParseError β → Except ParseError γ → Prop
  | ok {b : β} {c : γ} (h : R b c) : SuccessAlike R (.ok b) (.ok c)
  | error {e e' : ParseError} : SuccessAlike R (.error e) (.error e')

/-- **Either computation has a result if the other has**, the results are related, and nothing is
changed but the logs. -/
def Run.Matches (s t : Session α) (m : Run α β) (m' : Run α γ) (R : β → γ → Prop) : Prop :=
  ∀ σ σ', s.Logged σ → t.Logged σ' → (m σ = none ∧ m' σ' = none) ∨
    ∃ b τ c τ', m σ = some (b, τ) ∧ m' σ' = some (c, τ') ∧ R b c ∧ s.Logged τ ∧ t.Logged τ'

namespace Run.Matches

variable {m : Run α β} {m' : Run α γ} {R : β → γ → Prop} {f : β → Run α δ} {f' : γ → Run α ε}
  {Q : δ → ε → Prop}

theorem pure {b : β} {c : γ} (h : R b c) : Matches s t (Pure.pure b) (Pure.pure c) R :=
  fun σ σ' hσ hσ' => .inr ⟨b, σ, c, σ', rfl, rfl, h, hσ, hσ'⟩

theorem failure : Matches s t (Alternative.failure : Run α β) (Alternative.failure : Run α γ) R :=
  fun _ _ _ _ => .inl ⟨rfl, rfl⟩

theorem bind (hm : Matches s t m m' R) (hf : ∀ b c, R b c → Matches s t (f b) (f' c) Q) :
    Matches s t (m >>= f) (m' >>= f') Q := by
  intro σ σ' hσ hσ'
  rw [bind_apply, bind_apply]
  obtain ⟨h, h'⟩ | ⟨b, τ, c, τ', h, h', hR, hτ, hτ'⟩ := hm σ σ' hσ hσ'
  · rw [h, h']
    exact .inl ⟨rfl, rfl⟩
  · rw [h, h']
    exact hf b c hR τ τ' hτ hτ'

/-- Going on from the same success, or from two failures. -/
theorem bind_alike {m : Run α (Except ParseError β)} {m' : Run α (Except ParseError β)}
    {f : Except ParseError β → Run α δ} {f' : Except ParseError β → Run α ε}
    (hm : Matches s t m m' (SuccessAlike Eq))
    (hok : ∀ b, Matches s t (f (.ok b)) (f' (.ok b)) Q)
    (herror : ∀ e e', Matches s t (f (.error e)) (f' (.error e')) Q) :
    Matches s t (m >>= f) (m' >>= f') Q := by
  refine hm.bind fun r r' h => ?_
  cases h with
  | @ok b c h => exact h ▸ hok b
  | error => exact herror _ _

theorem log (level : LogLevel) (message message' : String) :
    Matches s t (Run.log level message) (Run.log level message') fun _ _ => True := by
  intro σ σ' hσ hσ'
  obtain ⟨l, hl⟩ := exists_log_eq level message σ
  obtain ⟨l', hl'⟩ := exists_log_eq level message' σ'
  exact .inr ⟨_, _, _, _, hl, hl', trivial, hσ.log l, hσ'.log l'⟩

theorem eq_none_iff (hm : Matches s t m m' R) {σ σ' : Session α} (hσ : s.Logged σ)
    (hσ' : t.Logged σ') : m σ = none ↔ m' σ' = none := by
  obtain ⟨h, h'⟩ | ⟨b, τ, c, τ', h, h', -⟩ := hm σ σ' hσ hσ'
  · rw [h, h']
    simp
  · rw [h, h']
    simp

/-- What is run first may have a result on one side only, if what is run next has none then. -/
theorem after {a a' : Run α Unit} (ha : Run.Keeps s.Logged a fun _ => True)
    (ha' : Run.Keeps t.Logged a' fun _ => True) (hnone : ∀ σ, a σ = none → m σ = none)
    (hnone' : ∀ σ, a' σ = none → m' σ = none) (hm : Matches s t m m' R) :
    Matches s t (a >>= fun _ => m) (a' >>= fun _ => m') R := by
  intro σ σ' hσ hσ'
  rw [bind_apply, bind_apply]
  cases h : a σ with
  | none =>
    cases h' : a' σ' with
    | none => exact .inl ⟨rfl, rfl⟩
    | some r =>
      have hτ' := (ha' σ' r.1 r.2 hσ' h').1
      exact .inl ⟨rfl, (hm.eq_none_iff hσ hτ').1 (hnone σ h)⟩
  | some r =>
    have hτ := (ha σ r.1 r.2 hσ h).1
    cases h' : a' σ' with
    | none => exact .inl ⟨(hm.eq_none_iff hτ hσ').2 (hnone' σ' h'), rfl⟩
    | some r' => exact hm r.2 r'.2 hτ (ha' σ' r'.1 r'.2 hσ' h').1

theorem force {h : Rule} {r : Except Fault (Parser α)} (hf : Forces s h r)
    (build build' : Deferred α → Run α (Parser α)) :
    Matches s (s.unname gone) (h.force build) (h.force build')
      fun a b => a = r ∧ b = r.map (·.unname gone) := by
  rintro _ _ ⟨l, rfl⟩ ⟨l', rfl⟩
  have hl : Forces { s with log := l } h r := hf.of_slot? rfl
  have hl' : Forces { s.unname gone with log := l' } h (r.map (·.unname gone)) :=
    hf.unname.of_slot? rfl
  exact .inr ⟨r, _, _, _, hl build, hl' build', ⟨rfl, rfl⟩, ⟨l, rfl⟩, l', rfl⟩

/-- What the first computation comes to, the second comes to as well. -/
theorem of_eq_some (hm : Matches s t m m' R) {σ σ' τ : Session α} {b : β} (hσ : s.Logged σ)
    (hσ' : t.Logged σ') (h : m σ = some (b, τ)) :
    ∃ c τ', m' σ' = some (c, τ') ∧ R b c ∧ s.Logged τ ∧ t.Logged τ' := by
  obtain ⟨hnone, -⟩ | ⟨b', υ, c, τ', hb, hc, hR, hυ, hτ'⟩ := hm σ σ' hσ hσ'
  · cases hnone.symm.trans h
  · obtain ⟨rfl, rfl⟩ := Prod.mk.inj (Option.some.inj (hb.symm.trans h))
    exact ⟨c, τ', hc, hR, hυ, hτ'⟩

/-! ## Repetitions -/

section Repetition

variable {label : String} {item item' : Text → Run α (Parsed α)}
  (hitem : ∀ y, Matches s t (item y) (item' y) (SuccessAlike Eq))

include hitem

theorem rounds (x : Text) : Matches s t (Parser.rounds label item x) (Parser.rounds label item' x)
    (SuccessAlike fun a b => a.outputs = b.outputs ∧ a.remaining = b.remaining) := by
  induction hlength : x.length using Nat.strongRecOn generalizing x with
  | _ length ih =>
    rw [Parser.rounds, Parser.rounds]
    refine (hitem x).bind_alike (fun r => ?_) fun _ _ => .pure (.ok ⟨rfl, rfl⟩)
    obtain ⟨v, y⟩ := r
    dsimp only
    split
    · next hshort =>
      refine (ih _ (hlength ▸ hshort) y rfl).bind fun rest rest' h => ?_
      cases h with
      | error => exact .pure .error
      | ok h => exact .pure (.ok ⟨congrArg (v :: ·) h.1, h.2⟩)
    · exact (log _ _ _).bind fun _ _ _ => .pure .error

theorem countedRounds (count : Nat) (x : Text) :
    Matches s t (Parser.countedRounds label item count x) (Parser.countedRounds label item' count x)
      (SuccessAlike Eq) := by
  induction count generalizing x with
  | zero => exact .pure (.ok rfl)
  | succ count ih =>
    refine (hitem x).bind_alike (fun r => ?_) fun _ _ => .pure .error
    exact (ih r.2).bind_alike (fun _ => .pure (.ok rfl)) fun _ _ => .pure .error

end Repetition

end Run.Matches

/-! ## Labels

With a name removed, a label may have to be looked for further down, and perhaps too far.  It is
asked for only before a parse, which then goes as far down. -/

namespace Parser

/-- A parser that has no label has no result: for both, rules are followed to a node. -/
theorem parse_eq_none_of_label {n : Nat} {p : Parser α} {σ : Session α} (x : Text)
    (h : p.label (Calls.upTo n) σ = none) : p.parse (Calls.upTo n) x σ = none := by
  induction n using Nat.strongRecOn generalizing p σ with
  | _ n ih =>
    induction p with
    | boxed inner ihp => exact ihp h
    | rule handle =>
      rw [label, Run.bind_apply] at h
      rw [parse, Run.bind_apply]
      cases hf : handle.force (Calls.upTo n).build σ with
      | none => rfl
      | some r =>
        rw [hf] at h
        obtain ⟨_ | q, τ⟩ := r
        · cases h
        · cases n with
          | zero => rfl
          | succ n => exact ih n (Nat.lt_succ_self n) h
    | _ => cases h

theorem parse_eq_none_of_announce {n : Nat} {id : NodeId} {p : Parser α} {σ : Session α} (x : Text)
    (h : announce (Calls.upTo n) id p σ = none) : p.parse (Calls.upTo n) x σ = none := by
  rw [announce, Run.get_bind] at h
  split at h
  · refine parse_eq_none_of_label x ?_
    rw [Run.bind_apply] at h
    cases hlabel : p.label (Calls.upTo n) σ with
    | none => rfl
    | some r =>
      rw [hlabel] at h
      cases h
  · cases h

end Parser

section Settled

variable {root p : Parser α} (hs : Settled s root)

include hs

theorem Settled.keeps_announce (hp : Reaches s root p) (n : Nat) (id : NodeId) :
    Run.Keeps s.Logged (Parser.announce (Calls.upTo n) id p) fun _ => True := by
  have hfollows := (hs.rerouting fun _ _ => rfl).follows n (.same hp)
  exact .announce (fun _ l h => h.log l) hfollows.label

theorem Settled.keeps_label_unname (gone : NodeId → Bool) (hp : Reaches s root p) (n : Nat) :
    Run.Keeps (s.unname gone).Logged ((p.unname gone).label (Calls.upTo n)) fun _ => True := by
  induction n using Nat.strongRecOn generalizing p with
  | _ n ih =>
    induction p with
    | boxed inner ihp => exact ihp (hp.part (List.mem_singleton_self _))
    | named id name inner ihp =>
      rw [Parser.unname]
      split
      · exact ihp (hp.part (List.mem_singleton_self _))
      · exact .pure trivial
    | rule h =>
      obtain ⟨r, hf⟩ := exists_forces (hs h hp).2
      refine (hf.unname.keeps _).bind fun r' hr' => ?_
      subst hr'
      cases r with
      | error => exact .pure trivial
      | ok q =>
        cases n with
        | zero => exact .failure
        | succ n => exact ih n (Nat.lt_succ_self n) (hp.definition hf)
    | _ => exact .pure trivial

theorem Settled.keeps_announce_unname (gone : NodeId → Bool) (hp : Reaches s root p) (n : Nat)
    (id : NodeId) : Run.Keeps (s.unname gone).Logged
      (Parser.announce (Calls.upTo n) id (p.unname gone)) fun _ => True :=
  .announce (fun _ l h => h.log l) (hs.keeps_label_unname gone hp n)

/-! ## Parsing without names -/

omit hs in
theorem SuccessAlike.inContext {R : β → γ → Prop} {r : Except ParseError β}
    {r' : Except ParseError γ} (h : SuccessAlike R r r') (l l' : String) (x : Text) :
    SuccessAlike R (Parser.inContext l x r) (Parser.inContext l' x r') := by
  cases h with
  | ok h => exact .ok h
  | error => exact .error

/-- **Without names, a parser succeeds where it did**, and fails where it did, at the same depth. -/
theorem Settled.matches_unname (gone : NodeId → Bool) (hp : Reaches s root p) (n : Nat) (x : Text) :
    Run.Matches s (s.unname gone) (p.parse (Calls.upTo n) x)
      ((p.unname gone).parse (Calls.upTo n) x) (SuccessAlike Eq) := by
  induction n using Nat.strongRecOn generalizing p x with
  | _ n ih =>
    induction p generalizing x with
    | literal id text =>
      simp only [Parser.unname, Parser.parse]
      split
      · exact .pure (.ok rfl)
      · exact .pure .error
    | pattern id r =>
      simp only [Parser.unname, Parser.parse]
      split
      · exact .pure (.ok rfl)
      · exact .pure .error
    | map id inner f ihp =>
      have hinner := ihp (hp.part (by simp [Parser.parts])) x
      exact hinner.bind_alike (fun _ => .pure (.ok rfl)) fun _ _ => .pure .error
    | sequence id keep left right ihl ihr =>
      have hleft := ihl (hp.part (by simp [Parser.parts])) x
      refine hleft.bind_alike (fun r => ?_) fun _ _ => .pure .error
      have hright := ihr (hp.part (by simp [Parser.parts])) r.2
      exact hright.bind_alike (fun _ => .pure (.ok rfl)) fun _ _ => .pure .error
    | choice id left right ihl ihr =>
      have hright : Reaches s root right := hp.part (by simp [Parser.parts])
      simp only [Parser.unname, Parser.parse_choice]
      have hleft := ihl (hp.part (by simp [Parser.parts])) x
      refine hleft.bind_alike (fun _ => .pure (.ok rfl)) fun _ _ => ?_
      have hsecond {q : Parser α} {σ : Session α} {f : Parsed α → Run α (Parsed α)}
          (h : Parser.announce (Calls.upTo n) id q σ = none) :
          (q.parse (Calls.upTo n) x >>= f) σ = none := by
        rw [Run.bind_apply, Parser.parse_eq_none_of_announce x h, Option.bind_none]
      exact .after (hs.keeps_announce hright n id) (hs.keeps_announce_unname gone hright n id)
        (fun _ => hsecond) (fun _ => hsecond)
        ((ihr hright x).bind fun r r' h => .pure (h.inContext _ _ x))
    | optional id inner ihp =>
      have hinner := ihp (hp.part (by simp [Parser.parts])) x
      exact hinner.bind_alike (fun _ => .pure (.ok rfl)) fun _ _ => .pure (.ok rfl)
    | star id inner ihp =>
      have hitem := ihp (hp.part (by simp [Parser.parts]))
      refine (Run.Matches.rounds hitem x).bind fun r r' h => ?_
      cases h with
      | error => exact .pure .error
      | ok h =>
        dsimp only
        rw [h.1, h.2]
        exact .pure (.ok rfl)
    | exactly id count inner ihp =>
      have hitem := ihp (hp.part (by simp [Parser.parts]))
      simp only [Parser.unname, Parser.parse_exactly]
      split
      · exact (Run.Matches.countedRounds hitem count.rounds x).bind_alike
          (fun _ => .pure (.ok rfl)) fun _ _ => .pure .error
      · exact .failure
    | named id name inner ihp =>
      have hinner := ihp (hp.part (by simp [Parser.parts])) x
      rw [Parser.unname]
      split
      · rw [← bind_pure ((inner.unname gone).parse (Calls.upTo n) x)]
        exact hinner.bind_alike (fun _ => .pure (.ok rfl)) fun _ _ => .pure .error
      · exact hinner.bind fun r r' h => .pure (h.inContext name name x)
    | boxed inner ihp => exact ihp (hp.part (List.mem_singleton_self _)) x
    | rule h =>
      obtain ⟨r, hf⟩ := exists_forces (hs h hp).2
      refine (Run.Matches.force hf _ _).bind fun r r' hr => ?_
      obtain ⟨rfl, rfl⟩ := hr
      cases r with
      | error => exact .pure .error
      | ok q =>
        cases n with
        | zero => exact .failure
        | succ n => exact ih n (Nat.lt_succ_self n) (hp.definition hf) x

end Settled

end GrammarGraph
