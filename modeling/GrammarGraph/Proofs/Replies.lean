import GrammarGraph.Proofs.Depth
import GrammarGraph.Proofs.Rerouting

/-!
# Proofs/Replies — a settled parser replies to texts, and to nothing else

    p.Replies s x r          the text x is all that the reply r depends on

In a settled grammar no rule is built any more, so a parse leaves nothing behind but records in the
log, and nothing is read from those.  What a parser does on a text is then a relation between texts
and results (`Replies`), without a depth and without the sessions in between.

There is at most one reply (`reply`).  Taking it turns a computation into an optional value, one
step after another (`Steady.eventually_bind`), and so the reply of a node into the replies of its
parts: there is one equation for each kind of node (`reply_map` … `reply_choice`), and nothing else
is used of them afterwards.  Repetitions have those of `Proofs/Iteration`.
-/

namespace GrammarGraph

open Evaluation

variable {α β γ : Type} {s : Session α}

/-! ## Computations that are steady -/

/-- The computation comes to this result at some depth. -/
def Attains (s : Session α) (m : Nat → Run α β) (b : β) : Prop := ∃ n t, m n s = some (b, t)

/-- **Whatever the computation comes to at some depth, it settles on**. -/
def Steady (s : Session α) (m : Nat → Run α β) : Prop := ∀ n, Simulates s s (m n) m

theorem attains_pure_iff {b c : β} : Attains s (fun _ => pure b) c ↔ c = b := by
  constructor
  · rintro ⟨n, t, h⟩
    exact (Run.pure_eq_some_iff.1 h).1.symm
  · rintro rfl
    exact ⟨0, s, rfl⟩

namespace Steady

variable {m : Nat → Run α β} {b : β} {c : γ}

theorem pure : Steady s fun _ => (Pure.pure b : Run α β) := fun _ => .pure

theorem bind {f : Nat → β → Run α γ} (hm : Steady s m) (hf : ∀ b, Steady s (f · b)) :
    Steady s fun n => m n >>= f n := fun n => (hm n).bind fun b => hf b n

/-- It then does so at every larger depth, and whatever has been logged. -/
theorem attains_iff (hm : Steady s m) : Attains s m b ↔ Settles s m b :=
  ⟨fun ⟨n, t, h⟩ => (hm n s b t ⟨s.log, rfl⟩ h).2, Settles.exists_eq_some⟩

/-- It comes to one thing only. -/
theorem unique {b' : β} (hm : Steady s m) (h : Attains s m b) (h' : Attains s m b') : b = b' := by
  obtain ⟨d, hd⟩ := hm.attains_iff.1 h
  obtain ⟨d', hd'⟩ := hm.attains_iff.1 h'
  obtain ⟨_, t, ht, -, rfl⟩ := hd (max d d') (Nat.le_max_left d d') s ⟨s.log, rfl⟩
  obtain ⟨_, t', ht', -, rfl⟩ := hd' (max d d') (Nat.le_max_right d d') s ⟨s.log, rfl⟩
  exact (Prod.mk.inj (Option.some.inj (ht.symm.trans ht'))).1

/-- **One computation after another**, each at a depth of its own. -/
theorem attains_bind_iff {f : Nat → β → Run α γ} (hm : Steady s m) (hf : ∀ b, Steady s (f · b)) :
    Attains s (fun n => m n >>= f n) c ↔ ∃ b, Attains s m b ∧ Attains s (f · b) c := by
  constructor
  · rintro ⟨n, u, h⟩
    obtain ⟨b, t, hb, hc⟩ := Run.bind_eq_some_iff.1 h
    have ht := (hm n s b t ⟨s.log, rfl⟩ hb).1
    exact ⟨b, ⟨n, t, hb⟩, (hf b).attains_iff.2 (hf b n t c u ht hc).2⟩
  · rintro ⟨b, hb, hc⟩
    exact ((hm.attains_iff.1 hb).bind ((hf b).attains_iff.1 hc)).exists_eq_some

open Classical in
/-- **What a computation comes to**, if it comes to anything. -/
noncomputable def eventually (s : Session α) (m : Nat → Run α β) : Option β :=
  if h : ∃ b, Attains s m b then some h.choose else none

theorem eventually_eq_some_iff (hm : Steady s m) : eventually s m = some b ↔ Attains s m b := by
  unfold eventually
  constructor
  · intro h
    split at h
    · next hex => exact Option.some.inj h ▸ hex.choose_spec
    · cases h
  · intro h
    have hex : ∃ b, Attains s m b := ⟨b, h⟩
    rw [dif_pos hex]
    exact congrArg some (hm.unique hex.choose_spec h)

theorem eventually_pure : eventually s (fun _ => (Pure.pure b : Run α β)) = some b :=
  (eventually_eq_some_iff .pure).2 (attains_pure_iff.2 rfl)

theorem eventually_bind {f : Nat → β → Run α γ} (hm : Steady s m) (hf : ∀ b, Steady s (f · b)) :
    eventually s (fun n => m n >>= f n) = (eventually s m).bind fun b => eventually s (f · b) := by
  refine Option.ext fun c => ?_
  rw [eventually_eq_some_iff (hm.bind hf), hm.attains_bind_iff hf, Option.bind_eq_some_iff]
  simp only [eventually_eq_some_iff hm, eventually_eq_some_iff (hf _)]

/-- Going on with a pure function of the result. -/
theorem eventually_map (f : β → γ) (hm : Steady s m) :
    eventually s (fun n => m n >>= fun b => Pure.pure (f b)) = (eventually s m).map f := by
  rw [hm.eventually_bind fun _ => .pure, Option.map_eq_bind]
  exact congrArg _ (funext fun _ => eventually_pure)

end Steady

/-! ## Settled parts -/

variable {p left right : Parser α} {x : Text} {r : Parsed α}

/-- A node reaches what its parts reach. -/
theorem Settled.of_parts (hp : p.isNode) (hparts : ∀ c ∈ p.parts, Settled s c) : Settled s p := by
  intro h hr
  have hor : .rule h = p ∨ ∃ c ∈ p.parts, Reaches s c (.rule h) := by
    refine hr.mem (S := fun q => q = p ∨ ∃ c ∈ p.parts, Reaches s c q) (.inl rfl) ?_ ?_
    · rintro q (rfl | ⟨c, hc, hq⟩) d hd
      · exact .inr ⟨d, hd, .refl⟩
      · exact .inr ⟨c, hc, hq.part hd⟩
    · rintro h q (rfl | ⟨c, hc, hq⟩) hf
      · cases hp
      · exact .inr ⟨c, hc, hq.definition hf⟩
  obtain rfl | ⟨c, hc, hq⟩ := hor
  · cases hp
  · exact hparts c hc h hq

theorem Settled.of_part {q : Parser α} (hs : Settled s p) (hq : q.isNode) (hparts : q.parts = [p]) :
    Settled s q :=
  .of_parts hq fun c hc => by
    rw [hparts] at hc
    exact List.mem_singleton.1 hc ▸ hs

theorem Settled.of_two_parts {q : Parser α} (hl : Settled s left) (hr : Settled s right)
    (hq : q.isNode) (hparts : q.parts = [left, right]) : Settled s q :=
  .of_parts hq fun c hc => by
    rw [hparts] at hc
    obtain rfl | hc := List.mem_cons.1 hc
    · exact hl
    · exact List.mem_singleton.1 hc ▸ hr

theorem Settled.literal (id : NodeId) (text : Text) : Settled s (.literal id text) :=
  .of_parts rfl fun _ hc => absurd hc List.not_mem_nil

theorem Settled.pattern (id : NodeId) (q : Pattern) : Settled s (.pattern id q) :=
  .of_parts rfl fun _ hc => absurd hc List.not_mem_nil

section Nodes

variable (hs : Settled s p) (hl : Settled s left) (hr : Settled s right) (id : NodeId)

include hs in
theorem Settled.map (f : Output α → Output α) : Settled s (.map id p f) :=
  hs.of_part rfl rfl

include hs in
theorem Settled.named (name : String) : Settled s (.named id name p) :=
  hs.of_part rfl rfl

include hs in
theorem Settled.optional : Settled s (.optional id p) :=
  hs.of_part rfl rfl

include hs in
theorem Settled.star : Settled s (.star id p) :=
  hs.of_part rfl rfl

include hl hr in
theorem Settled.sequence (keep : Keep) : Settled s (.sequence id keep left right) :=
  hl.of_two_parts hr rfl rfl

include hl hr in
theorem Settled.choice : Settled s (.choice id left right) :=
  hl.of_two_parts hr rfl rfl

end Nodes

/-! ## Replies -/

namespace Parser

/-- **The parser replies this on the text** in a session, at any depth that is enough. -/
def Replies (s : Session α) (p : Parser α) (x : Text) (r : Parsed α) : Prop :=
  Attains s (fun n => p.parse (Calls.upTo n) x) r

theorem replies_iff : p.Replies s x r ↔ ∃ t, p.Answers x s r t := exists_comm

/-- **What the parser replies on the text**, if it replies at all. -/
noncomputable def reply (s : Session α) (p : Parser α) (x : Text) : Option (Parsed α) :=
  Steady.eventually s fun n => p.parse (Calls.upTo n) x

end Parser

/-- A settled parser follows itself. -/
theorem Settled.follows (hs : Settled s p) (n : Nat) : Follows s s n p p :=
  (hs.rerouting fun _ _ => rfl).follows n (.same .refl)

theorem Settled.steady (hs : Settled s p) (x : Text) :
    Steady s fun n => p.parse (Calls.upTo n) x :=
  fun n => (hs.follows n).parse x

theorem Settled.reply_eq_some_iff (hs : Settled s p) : p.reply s x = some r ↔ p.Replies s x r :=
  (hs.steady x).eventually_eq_some_iff

/-! ## Replies of nodes -/

namespace Parser

variable (id : NodeId)

theorem reply_map (f : Output α → Output α) (hs : Settled s p) :
    (Parser.map id p f).reply s x =
      (p.reply s x).map fun r => r.map fun a => (f a.1, a.2) := by
  refine .trans (congrArg (Steady.eventually s) (funext fun n => ?_))
    ((hs.steady x).eventually_map _)
  refine congrArg (p.parse (Calls.upTo n) x >>= ·) (funext fun r => ?_)
  obtain _ | ⟨_, _⟩ := r <;> rfl

theorem reply_named (name : String) (hs : Settled s p) :
    (Parser.named id name p).reply s x = (p.reply s x).map (inContext name x) :=
  (hs.steady x).eventually_map _

theorem reply_optional (hs : Settled s p) :
    (Parser.optional id p).reply s x = (p.reply s x).map fun
      | .ok (v, y) => .ok (.present v, y)
      | .error _ => .ok (.absent, x) := by
  refine .trans (congrArg (Steady.eventually s) (funext fun n => ?_))
    ((hs.steady x).eventually_map _)
  refine congrArg (p.parse (Calls.upTo n) x >>= ·) (funext fun r => ?_)
  obtain _ | ⟨_, _⟩ := r <;> rfl

/-- **A sequence fails as the part of it that fails**, or has the outputs of both. -/
theorem reply_sequence (keep : Keep) (hl : Settled s left) (hr : Settled s right) :
    (Parser.sequence id keep left right).reply s x = (left.reply s x).bind fun
      | .error e => some (.error (e.within (id.label (Binary.sequence keep).tag) x))
      | .ok (v, y) => (right.reply s y).map fun r =>
        inContext (id.label (Binary.sequence keep).tag) x
          (r.map fun a => (keep.combine v a.1, a.2)) := by
  have hparse (n : Nat) : (Parser.sequence id keep left right).parse (Calls.upTo n) x = do
      match ← left.parse (Calls.upTo n) x with
      | .error e => return .error (e.within (id.label (Binary.sequence keep).tag) x)
      | .ok (v, y) =>
        let r ← right.parse (Calls.upTo n) y
        return inContext (id.label (Binary.sequence keep).tag) x
          (r.map fun a => (keep.combine v a.1, a.2)) := by
    refine congrArg (left.parse (Calls.upTo n) x >>= ·) (funext fun r => ?_)
    obtain _ | ⟨v, y⟩ := r
    · rfl
    · refine congrArg (right.parse (Calls.upTo n) y >>= ·) (funext fun r => ?_)
      obtain _ | ⟨_, _⟩ := r <;> rfl
  rw [reply, funext hparse, (hl.steady x).eventually_bind]
  · refine congrArg (left.reply s x).bind (funext fun r => ?_)
    obtain e | ⟨v, y⟩ := r
    · exact Steady.eventually_pure
    · exact (hr.steady y).eventually_map _
  · rintro (e | ⟨v, y⟩)
    · exact .pure
    · exact (hr.steady y).bind fun _ => .pure

/-- The label of the second branch is asked for, where its use is logged. -/
theorem steady_announce (hr : Settled s right) :
    Steady s fun n => announce (Calls.upTo n) id right := by
  intro n
  have hlabel := (hr.follows n).label
  rintro _ b τ ⟨l, rfl⟩ h
  refine ⟨(Run.Keeps.announce (fun _ l h => h.log l) hlabel _ b τ ⟨l, rfl⟩ h).1, ?_⟩
  dsimp only at h
  rw [announce, Run.get_bind] at h
  split at h
  · obtain ⟨label, τ', hl, -⟩ := Run.bind_eq_some_iff.1 h
    exact (hlabel _ label τ' ⟨l, rfl⟩ hl).2.announce
  · next hoff =>
    have hoff : ¬s.logging := hoff
    refine .read (fun _ _ => rfl) ?_
    simp only [if_neg hoff]
    exact .pure

/-- It can be had wherever the branch replies. -/
theorem attains_announce (hr : Settled s right) (h : right.Replies s x r) :
    Attains s (fun n => announce (Calls.upTo n) id right) ⟨⟩ := by
  obtain ⟨n, t, h⟩ := h
  obtain ⟨l, hl⟩ := ((hr.follows n).labelled x s r t ⟨s.log, rfl⟩ h).2
  exact hl.announce.exists_eq_some

/-- **A choice has the output of the first branch**, or replies as the second if that fails. -/
theorem reply_choice (hl : Settled s left) (hr : Settled s right) :
    (Parser.choice id left right).reply s x = (left.reply s x).bind fun
      | .ok a => some (.ok a)
      | .error _ => (right.reply s x).map (inContext (id.label Binary.choice.tag) x) := by
  have hannounce := steady_announce id hr
  have hright : Steady s fun n => do
      return inContext (id.label Binary.choice.tag) x (← right.parse (Calls.upTo n) x) :=
    (hr.steady x).bind fun _ => .pure
  have hsecond : Steady.eventually s (fun n => do
      announce (Calls.upTo n) id right
      return inContext (id.label Binary.choice.tag) x (← right.parse (Calls.upTo n) x)) =
      (right.reply s x).map (inContext (id.label Binary.choice.tag) x) := by
    refine (hannounce.eventually_bind fun _ => hright).trans ?_
    rw [(hr.steady x).eventually_map]
    change (Option.bind _ fun _ => (right.reply s x).map _) = _
    cases h : right.reply s x with
    | none => cases Steady.eventually s fun n => announce (Calls.upTo n) id right <;> rfl
    | some r =>
      rw [hannounce.eventually_eq_some_iff.2 (attains_announce id hr (hr.reply_eq_some_iff.1 h))]
      rfl
  simp only [reply, parse_choice]
  rw [(hl.steady x).eventually_bind]
  · refine congrArg (left.reply s x).bind (funext fun r => ?_)
    cases r with
    | ok a => exact Steady.eventually_pure
    | error e => exact hsecond
  · rintro (e | a)
    · exact hannounce.bind fun _ => hright
    · exact .pure

variable {id} in
/-- An optional part succeeds, with or without an output of the part. -/
theorem replies_optional_iff (hs : Settled s p) :
    (Parser.optional id p).Replies s x r ↔
      (∃ v y, p.Replies s x (.ok (v, y)) ∧ r = .ok (.present v, y)) ∨
        ∃ e, p.Replies s x (.error e) ∧ r = .ok (.absent, x) := by
  rw [← (hs.optional id).reply_eq_some_iff, reply_optional id hs, Option.map_eq_some_iff]
  constructor
  · rintro ⟨e | ⟨v, y⟩, h, rfl⟩
    · exact .inr ⟨e, hs.reply_eq_some_iff.1 h, rfl⟩
    · exact .inl ⟨v, y, hs.reply_eq_some_iff.1 h, rfl⟩
  · rintro (⟨v, y, h, rfl⟩ | ⟨e, h, rfl⟩)
    · exact ⟨_, hs.reply_eq_some_iff.2 h, rfl⟩
    · exact ⟨_, hs.reply_eq_some_iff.2 h, rfl⟩

end Parser

end GrammarGraph
