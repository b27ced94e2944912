import GrammarGraph.Proofs.Graph
import GrammarGraph.Proofs.Overflow

/-!
# Proofs/Termination — without left recursion every parse has a result

    (length of the text, rank of the node)        goes down with every step inside

A computation may go only so many definitions deep, and has no result if that is not enough.
`Settles` says that from some depth on it has a result, and always the same.

What a parser runs on the very text it was given is of a lower rank; all else it runs on less than
that (`comesOut_of_lower`).  A repetition is no exception, even if its item takes nothing: it goes
on only as long as the text gets shorter, and has a result when it is stopped.

The one exception is a repetition whose count is so large that there is no room for its outputs.  It
is broken off before its first round, and so is all that comes to it (`BreaksOff`).
-/

namespace GrammarGraph

open Evaluation

variable {α β γ : Type} {s : Session α}

/-! ## What settles -/

/-- The same session, whatever has been logged. -/
def Session.Logged (s t : Session α) : Prop := ∃ l, t = { s with log := l }

/-- **From some depth on, the computation has this result**, whatever has been logged, and it
changes nothing but the log. -/
def Settles (s : Session α) (m : Nat → Run α β) (b : β) : Prop :=
  ∃ depth, ∀ n, depth ≤ n → Run.Returns s.Logged (m n) (· = b)

namespace Settles

variable {m : Nat → Run α β} {b : β} {c : γ}

theorem pure : Settles s (fun _ => Pure.pure b) b := ⟨0, fun _ _ => .pure rfl⟩

theorem bind {f : Nat → β → Run α γ} (hm : Settles s m b) (hf : Settles s (f · b) c) :
    Settles s (fun n => m n >>= f n) c := by
  obtain ⟨d, hd⟩ := hm
  obtain ⟨e, he⟩ := hf
  refine ⟨max d e, fun n hn => ?_⟩
  refine (hd n (Nat.le_trans (Nat.le_max_left d e) hn)).bind fun b' hb' => ?_
  subst hb'
  exact he n (Nat.le_trans (Nat.le_max_right d e) hn)

theorem exists_bind {f : Nat → β → Run α γ} (hm : Settles s m b)
    (hf : ∃ c, Settles s (f · b) c) : ∃ c, Settles s (fun n => m n >>= f n) c := by
  obtain ⟨c, hc⟩ := hf
  exact ⟨c, hm.bind hc⟩

/-- A result that is only turned into another. -/
theorem exists_map {f : β → Run α γ} (hm : Settles s m b) (hf : ∀ b, ∃ c, f b = Pure.pure c) :
    ∃ c, Settles s (fun n => m n >>= f) c := by
  obtain ⟨c, hc⟩ := hf b
  exact hm.exists_bind ⟨c, hc ▸ .pure⟩

/-- What is done with a definition goes one deeper. -/
theorem deeper {m' : Nat → Run α β} (h : ∀ n, m' (n + 1) = m n) (hm : Settles s m b) :
    Settles s m' b := by
  obtain ⟨d, hd⟩ := hm
  refine ⟨d + 1, fun n hn => ?_⟩
  cases n with
  | zero => exact absurd hn (Nat.not_succ_le_zero d)
  | succ n => exact h n ▸ hd n (Nat.le_of_succ_le_succ hn)

/-- Reading the session, but not the log. -/
theorem read {f : Nat → Session α → Run α β} (hf : ∀ n l, f n { s with log := l } = f n s)
    (h : Settles s (f · s) b) : Settles s (fun n => get >>= f n) b := by
  obtain ⟨d, hd⟩ := h
  refine ⟨d, fun n hn => ?_⟩
  rintro _ ⟨l, rfl⟩
  dsimp only
  rw [Run.get_bind, hf]
  exact hd n hn _ ⟨l, rfl⟩

theorem log (level : LogLevel) (message : String) :
    Settles s (fun _ => Run.log level message) ⟨⟩ := by
  refine ⟨0, fun _ _ => (Run.Returns.log ?_ level message).mono fun _ _ => rfl⟩
  rintro _ l ⟨_, rfl⟩
  exact ⟨l, rfl⟩

/-- What a choice logs before its second branch, it can log where that branch has a label. -/
theorem announce {id : NodeId} {right : Parser α} {l : String}
    (hl : Settles s (fun n => right.label (Calls.upTo n)) l) :
    Settles s (fun n => Parser.announce (Calls.upTo n) id right) ⟨⟩ := by
  refine .read (fun _ _ => rfl) ?_
  split
  · exact hl.bind (.log _ _)
  · exact .pure

theorem force {h : Rule} {r : Except Fault (Parser α)} (hr : Forces s h r) :
    Settles s (fun n => h.force (Calls.upTo n).build) r := by
  refine ⟨0, fun n _ => ?_⟩
  rintro _ ⟨l, rfl⟩
  have hforces : Forces { s with log := l } h r := hr.of_slot? rfl
  exact ⟨r, _, hforces _, ⟨l, rfl⟩, rfl⟩

/-- There is a depth at which the computation has its result. -/
theorem exists_eq_some (h : Settles s m b) : ∃ n t, m n s = some (b, t) := by
  obtain ⟨d, hd⟩ := h
  obtain ⟨_, t, ht, -, rfl⟩ := hd d (Nat.le_refl d) s ⟨s.log, rfl⟩
  exact ⟨d, t, ht⟩

end Settles

/-! ## Ranks -/

/-- The parser may succeed and leave all of its text. -/
def TakesNothing (s : Session α) (p : Parser α) : Prop :=
  ∃ n x v t, p.parse (Calls.upTo n) x s = some (.ok (v, x), t)

/-- **What a node may run on the very text it was given**: its parts, but what comes second in a
sequence only if what comes first may take nothing, and the definition of a rule. -/
inductive Invokes (s : Session α) : Parser α → Parser α → Prop
  | map {id inner f} : Invokes s (.map id inner f) inner
  | left {id keep left right} : Invokes s (.sequence id keep left right) left
  | right {id keep left right} (h : TakesNothing s left) :
      Invokes s (.sequence id keep left right) right
  | first {id left right} : Invokes s (.choice id left right) left
  | second {id left right} : Invokes s (.choice id left right) right
  | optional {id inner} : Invokes s (.optional id inner) inner
  | star {id inner} : Invokes s (.star id inner) inner
  | exactly {id count inner} : Invokes s (.exactly id count inner) inner
  | named {id name inner} : Invokes s (.named id name inner) inner
  | rule {h p} (hf : Forces s h (.ok p)) : Invokes s (.rule h) p

theorem Invokes.mem_nodes {p q : Parser α} (h : Invokes s p q) : p ∈ p.nodes := by
  cases h <;> exact List.mem_cons_self

/-- **A grammar without left recursion**: its rules answer at once, and its nodes are ranked so that
each is above what it may run on the text it was given.  A box has the rank of what is in it. -/
structure Ranked (s : Session α) (root : Parser α) (rank : Parser α → Nat) : Prop where
  answers : ∀ h, Reaches s root (.rule h) → ∃ r, Forces s h r
  boxed : ∀ p, rank (.boxed p) = rank p
  invokes : ∀ p q, Reaches s root p → Invokes s p q → rank q < rank p

variable {root p q : Parser α} {rank : Parser α → Nat} {x y z : Text}

namespace Ranked

variable (hr : Ranked s root rank)

include hr

/-- **Opening boxes and following rules comes to an end**, at a node or at a rule without a
definition, since the rank goes down. -/
theorem handle_induction {motive : Parser α → Prop}
    (node : ∀ p, Reaches s root p → p.isNode → motive p)
    (boxed : ∀ p, motive p → motive (.boxed p))
    (rule : ∀ h r, Forces s h r → (∀ p, r = .ok p → motive p) → motive (.rule h))
    (hp : Reaches s root p) : motive p := by
  induction hk : rank p using Nat.strongRecOn generalizing p with
  | _ k ih =>
    induction p with
    | boxed inner ihinner =>
      exact boxed inner (ihinner (hp.part (List.mem_singleton_self _))
        ((hr.boxed inner).symm.trans hk))
    | rule h =>
      obtain ⟨r, hf⟩ := hr.answers h hp
      refine rule h r hf fun q hq => ?_
      subst hq
      exact ih _ (hk ▸ hr.invokes _ _ hp (.rule hf)) (hp.definition hf) rfl
    | _ => exact node _ hp rfl

/-! ## Labels -/

theorem exists_label (hp : Reaches s root p) :
    ∃ l, Settles s (fun n => p.label (Calls.upTo n)) l := by
  refine hr.handle_induction (motive := fun p => ∃ l, Settles s (fun n => p.label (Calls.upTo n)) l)
    ?node (fun _ h => h) ?rule hp
  case node =>
    intro p _ hnode
    cases p with
    | boxed | rule => cases hnode
    | _ => exact ⟨_, .pure⟩
  case rule =>
    intro h r hf hdefinition
    refine (Settles.force hf).exists_bind ?_
    obtain _ | q := r
    · exact ⟨_, .pure⟩
    · obtain ⟨l, hl⟩ := hdefinition q rfl
      exact ⟨l, hl.deeper fun _ => rfl⟩

end Ranked

/-! ## Parses inside a parse -/

/-- What is left by a parse that settles is an end of the text. -/
theorem Settles.suffix {v : Output α}
    (h : Settles s (fun n => p.parse (Calls.upTo n) x) (.ok (v, y))) : y <:+ x := by
  obtain ⟨n, t, ht⟩ := h.exists_eq_some
  obtain ⟨u, hu, -⟩ := derives_of_parse_eq_some ht
  exact ⟨u, hu.symm⟩

/-- **So many rounds that settle lead from one text to another.** -/
def Passes (s : Session α) (p : Parser α) (goesOn : Text → Text → Prop) (k : Nat) (x y : Text) :
    Prop :=
  ∃ depth, ∀ n, depth ≤ n → ∀ σ, s.Logged σ → ∃ τ, s.Logged τ ∧ Turns n p goesOn k x σ y τ

/-- **A parse runs another**, which goes as deep as one likes if the first goes deep enough. -/
def LeadsTo (s : Session α) (p : Parser α) (x : Text) (q : Parser α) (y : Text) : Prop :=
  ∀ k, ∃ depth, ∀ n, depth ≤ n → ∀ σ, s.Logged σ →
    ∃ m τ, k ≤ m ∧ s.Logged τ ∧ Evaluation.Enters ⟨n, p, x, σ⟩ ⟨m, q, y, τ⟩

section Inside

variable {id : NodeId} {keep : Keep} {left right inner : Parser α} {goesOn : Text → Text → Prop}
  {k : Nat}

namespace Passes

theorem none : Passes s p goesOn 0 x x := ⟨0, fun _ _ σ hσ => ⟨σ, hσ, .none⟩⟩

theorem more {v : Output α} (h : Settles s (fun n => p.parse (Calls.upTo n) x) (.ok (v, y)))
    (hgo : goesOn x y) (hs : Passes s p goesOn k y z) : Passes s p goesOn (k + 1) x z := by
  obtain ⟨d, hd⟩ := h
  obtain ⟨e, he⟩ := hs
  refine ⟨max d e, fun n hn σ hσ => ?_⟩
  obtain ⟨_, τ, hparse, hτ, rfl⟩ := hd n (Nat.le_trans (Nat.le_max_left d e) hn) σ hσ
  obtain ⟨υ, hυ, hturns⟩ := he n (Nat.le_trans (Nat.le_max_right d e) hn) τ hτ
  exact ⟨υ, hυ, .more ⟨v, hparse⟩ hgo hturns⟩

end Passes

namespace LeadsTo

/-- What is run first. -/
theorem of_enters (h : ∀ n σ, Evaluation.Enters ⟨n, p, x, σ⟩ ⟨n, q, x, σ⟩) : LeadsTo s p x q x :=
  fun k => ⟨k, fun n hn σ hσ => ⟨n, σ, hn, hσ, h n σ⟩⟩

/-- What is run after something that settles. -/
theorem of_settles {m : Nat → Run α β} {b : β} (hm : Settles s m b)
    (h : ∀ n σ τ, m n σ = some (b, τ) → Evaluation.Enters ⟨n, p, x, σ⟩ ⟨n, q, y, τ⟩) :
    LeadsTo s p x q y := by
  obtain ⟨d, hd⟩ := hm
  refine fun k => ⟨max d k, fun n hn σ hσ => ?_⟩
  obtain ⟨_, τ, hτ, hlogged, rfl⟩ := hd n (Nat.le_trans (Nat.le_max_left d k) hn) σ hσ
  exact ⟨n, τ, Nat.le_trans (Nat.le_max_right d k) hn, hlogged, h n σ τ hτ⟩

theorem second {e : ParseError}
    (hl : Settles s (fun n => left.parse (Calls.upTo n) x) (.error e))
    (ha : Settles s (fun n => Parser.announce (Calls.upTo n) id right) ⟨⟩) :
    LeadsTo s (.choice id left right) x right x := by
  obtain ⟨d, hd⟩ := hl
  have hboth : Settles s (fun n => do
      let r ← left.parse (Calls.upTo n) x
      Parser.announce (Calls.upTo n) id right
      return r) (.error e) := Settles.bind ⟨d, hd⟩ (ha.bind .pure)
  refine of_settles hboth fun n σ τ h => ?_
  obtain ⟨r, ρ, hleft, h⟩ := Run.bind_eq_some_iff.1 h
  obtain ⟨_, υ, hannounce, h⟩ := Run.bind_eq_some_iff.1 h
  obtain ⟨rfl, rfl⟩ := Run.pure_eq_some_iff.1 h
  exact .second hleft hannounce

theorem of_passes (hs : Passes s inner goesOn k x y)
    (h : ∀ n σ τ, Turns n inner goesOn k x σ y τ →
      Evaluation.Enters ⟨n, p, x, σ⟩ ⟨n, inner, y, τ⟩) :
    LeadsTo s p x inner y := by
  obtain ⟨d, hd⟩ := hs
  refine fun k => ⟨max d k, fun n hn σ hσ => ?_⟩
  obtain ⟨τ, hτ, hturns⟩ := hd n (Nat.le_trans (Nat.le_max_left d k) hn) σ hσ
  exact ⟨n, τ, Nat.le_trans (Nat.le_max_right d k) hn, hτ, h n σ τ hturns⟩

/-- What is done with a definition goes one deeper. -/
theorem rule {h : Rule} (hf : Forces s h (.ok p)) : LeadsTo s (.rule h) x p x := by
  refine fun k => ⟨k + 1, fun n hn => ?_⟩
  rintro _ ⟨l, rfl⟩
  obtain ⟨n, rfl⟩ := Nat.exists_eq_succ_of_ne_zero (Nat.ne_of_gt (Nat.zero_lt_of_lt hn))
  have hforces : Forces { s with log := l } h (.ok p) := hf.of_slot? rfl
  exact ⟨n, _, Nat.le_of_succ_le_succ hn, ⟨l, rfl⟩, .rule (hforces _)⟩

end LeadsTo

end Inside

/-! ## Parses that are broken off -/

/-- **The parse is broken off**: from some depth on, whatever has been logged, it comes to a counted
repetition of the grammar for whose outputs there is no room. -/
def BreaksOff (s : Session α) (root p : Parser α) (x : Text) : Prop :=
  ∃ depth, ∀ n, depth ≤ n → ∀ σ, s.Logged σ →
    ∃ F, Relation.ReflTransGen Evaluation.Enters ⟨n, p, x, σ⟩ F ∧ F.Overflows ∧
      Reaches s root F.parser

namespace BreaksOff

theorem of_leadsTo (hl : LeadsTo s p x q y) (h : BreaksOff s root q y) : BreaksOff s root p x := by
  obtain ⟨d, hd⟩ := h
  obtain ⟨e, he⟩ := hl d
  refine ⟨e, fun n hn σ hσ => ?_⟩
  obtain ⟨m, τ, hm, hτ, henters⟩ := he n hn σ hσ
  obtain ⟨F, hF, hoverflows⟩ := hd m hm τ hτ
  exact ⟨F, .head henters hF, hoverflows⟩

theorem exactly {id : NodeId} {count : Count} (hp : Reaches s root (.exactly id count p))
    (hfits : ¬count.Fits) : BreaksOff s root (.exactly id count p) x :=
  ⟨0, fun _ _ _ _ => ⟨_, .refl, .intro hfits, hp⟩⟩

/-- It has no result then, at any depth. -/
theorem parse_eq_none (h : BreaksOff s root p x) (n : Nat) :
    p.parse (Calls.upTo n) x s = none := by
  obtain ⟨d, hd⟩ := h
  obtain ⟨F, hF, hoverflows, -⟩ := hd (max n d) (Nat.le_max_right n d) s ⟨s.log, rfl⟩
  have hnone := run_eq_none_of_overflows hF hoverflows
  cases hrun : p.parse (Calls.upTo n) x s with
  | none => rfl
  | some r => cases hnone.symm.trans (Parser.parse_of_le (Nat.le_max_left n d) hrun)

/-- The grammar has a counted repetition for which there is no room. -/
theorem exists_reaches (h : BreaksOff s root p x) :
    ∃ id count inner, Reaches s root (.exactly id count inner) ∧ ¬count.Fits := by
  obtain ⟨d, hd⟩ := h
  obtain ⟨_, -, ⟨hfits⟩, hreaches⟩ := hd d (Nat.le_refl d) s ⟨s.log, rfl⟩
  exact ⟨_, _, _, hreaches, hfits⟩

end BreaksOff

/-! ## Parses that come out -/

/-- **The parse comes out**: it has a result, or it is broken off. -/
def ComesOut (s : Session α) (root p : Parser α) (x : Text) : Prop :=
  (∃ b, Settles s (fun n => p.parse (Calls.upTo n) x) b) ∨ BreaksOff s root p x

namespace ComesOut

variable {id : NodeId} {left right inner : Parser α}

/-! ### Repetitions -/

section Repetition

variable (label : String) (hitem : ∀ y, y <:+ x → ComesOut s root p y)

include hitem

/-- **A repetition has a result if all of its rounds have**: each round but the last shortens the
text.  If a round is broken off, those before it are not. -/
theorem exists_rounds :
    (∃ b, Settles s (fun n => Parser.rounds label (p.parse (Calls.upTo n)) x) b) ∨
      ∃ k y, Passes s p Shortens k x y ∧ BreaksOff s root p y := by
  induction hlength : x.length using Nat.strongRecOn generalizing x with
  | _ length ih =>
    simp only [fun n => Parser.rounds.eq_def label (p.parse (Calls.upTo n)) x]
    obtain ⟨e | ⟨v, r⟩, hb⟩ | hbroken := hitem x (List.suffix_refl x)
    · exact .inl (hb.exists_bind ⟨_, .pure⟩)
    · by_cases hshort : r.length < x.length
      · have hrest := ih _ (hlength ▸ hshort)
          (fun y hy => hitem y (hy.trans hb.suffix)) rfl
        obtain ⟨rest, hrest⟩ | ⟨k, y, hpasses, hbroken⟩ := hrest
        · refine .inl (hb.exists_bind ?_)
          simp only [if_pos hshort]
          exact hrest.exists_map fun rest => by cases rest <;> exact ⟨_, rfl⟩
        · exact .inr ⟨k + 1, y, hpasses.more hb hshort, hbroken⟩
      · refine .inl (hb.exists_bind ?_)
        simp only [if_neg hshort]
        exact (Settles.log _ _).exists_bind ⟨_, .pure⟩
    · exact .inr ⟨0, x, .none, hbroken⟩

theorem exists_countedRounds (count : Nat) :
    (∃ b, Settles s (fun n => Parser.countedRounds label (p.parse (Calls.upTo n)) count x) b) ∨
      ∃ k y, k < count ∧ Passes s p (fun _ _ => True) k x y ∧ BreaksOff s root p y := by
  induction count generalizing x with
  | zero => exact .inl ⟨_, .pure⟩
  | succ count ih =>
    obtain ⟨e | ⟨v, r⟩, hb⟩ | hbroken := hitem x (List.suffix_refl x)
    · exact .inl (hb.exists_bind ⟨_, .pure⟩)
    · obtain ⟨rest, hrest⟩ | ⟨k, y, hk, hpasses, hbroken⟩ :=
        ih fun y hy => hitem y (hy.trans hb.suffix)
      · exact .inl (hb.exists_bind
          (hrest.exists_map fun rest => by cases rest <;> exact ⟨_, rfl⟩))
      · exact .inr ⟨k + 1, y, Nat.succ_lt_succ hk, hpasses.more hb trivial, hbroken⟩
    · exact .inr ⟨0, x, Nat.succ_pos count, .none, hbroken⟩

end Repetition

/-! ### Nodes -/

theorem literal {text : Text} : ComesOut s root (.literal id text) x := by
  refine .inl ?_
  simp only [Parser.parse]
  cases Text.dropPrefix? text x with
  | none => exact ⟨_, .pure⟩
  | some r => exact ⟨_, .pure⟩

theorem pattern {r : Pattern} : ComesOut s root (.pattern id r) x := by
  refine .inl ?_
  simp only [Parser.parse]
  cases r.match? x with
  | none => exact ⟨_, .pure⟩
  | some matched => exact ⟨_, .pure⟩

theorem map {f : Output α → Output α} (h : ComesOut s root inner x) :
    ComesOut s root (.map id inner f) x := by
  obtain ⟨b, hb⟩ | hbroken := h
  · exact .inl (hb.exists_map fun result => by cases result <;> exact ⟨_, rfl⟩)
  · exact .inr (.of_leadsTo (.of_enters fun _ _ => .map) hbroken)

theorem sequence {keep : Keep} (hl : ComesOut s root left x)
    (hr : ∀ v y, Settles s (fun n => left.parse (Calls.upTo n) x) (.ok (v, y)) →
      ComesOut s root right y) : ComesOut s root (.sequence id keep left right) x := by
  obtain ⟨e | ⟨v, y⟩, hb⟩ | hbroken := hl
  · exact .inl (hb.exists_bind ⟨_, .pure⟩)
  · obtain ⟨c, hc⟩ | hbroken := hr v y hb
    · exact .inl (hb.exists_bind (hc.exists_map fun result => by cases result <;> exact ⟨_, rfl⟩))
    · exact .inr (.of_leadsTo (.of_settles hb fun _ _ _ h => .right ⟨v, h⟩) hbroken)
  · exact .inr (.of_leadsTo (.of_enters fun _ _ => .left) hbroken)

theorem choice {l : String} (hlabel : Settles s (fun n => right.label (Calls.upTo n)) l)
    (hl : ComesOut s root left x) (hr : ComesOut s root right x) :
    ComesOut s root (.choice id left right) x := by
  have hannounce : Settles s (fun n => Parser.announce (Calls.upTo n) id right) ⟨⟩ :=
    hlabel.announce
  obtain ⟨e | result, hb⟩ | hbroken := hl
  · obtain ⟨c, hc⟩ | hbroken := hr
    · refine .inl ?_
      simp only [Parser.parse_choice]
      exact hb.exists_bind (hannounce.exists_bind (hc.exists_bind ⟨_, .pure⟩))
    · exact .inr (.of_leadsTo (.second hb hannounce) hbroken)
  · refine .inl ?_
    simp only [Parser.parse_choice]
    exact hb.exists_bind ⟨_, .pure⟩
  · exact .inr (.of_leadsTo (.of_enters fun _ _ => .first) hbroken)

theorem optional (h : ComesOut s root inner x) : ComesOut s root (.optional id inner) x := by
  obtain ⟨b, hb⟩ | hbroken := h
  · exact .inl (hb.exists_map fun result => by cases result <;> exact ⟨_, rfl⟩)
  · exact .inr (.of_leadsTo (.of_enters fun _ _ => .optional) hbroken)

theorem star (h : ∀ y, y <:+ x → ComesOut s root inner y) : ComesOut s root (.star id inner) x := by
  obtain ⟨b, hb⟩ | ⟨k, y, hpasses, hbroken⟩ := exists_rounds (id.label Unary.star.tag) h
  · exact .inl (hb.exists_map fun result => by cases result <;> exact ⟨_, rfl⟩)
  · exact .inr (.of_leadsTo (.of_passes hpasses fun _ _ _ => .star) hbroken)

theorem exactly {count : Count} (hp : Reaches s root (.exactly id count inner))
    (h : ∀ y, y <:+ x → ComesOut s root inner y) : ComesOut s root (.exactly id count inner) x := by
  by_cases hfits : count.Fits
  · obtain ⟨b, hb⟩ | ⟨k, y, hk, hpasses, hbroken⟩ :=
      exists_countedRounds (id.label (Unary.exactly count.rounds).tag) h count.rounds
    · refine .inl ?_
      simp only [Parser.parse_exactly, if_pos hfits]
      exact hb.exists_map fun result => by cases result <;> exact ⟨_, rfl⟩
    · exact .inr (.of_leadsTo (.of_passes hpasses fun _ _ _ => .exactly hfits hk) hbroken)
  · exact .inr (.exactly hp hfits)

theorem named {name : String} (h : ComesOut s root inner x) :
    ComesOut s root (.named id name inner) x := by
  obtain ⟨b, hb⟩ | hbroken := h
  · exact .inl (hb.exists_map fun _ => ⟨_, rfl⟩)
  · exact .inr (.of_leadsTo (.of_enters fun _ _ => .named) hbroken)

theorem boxed (h : ComesOut s root inner x) : ComesOut s root (.boxed inner) x :=
  h.imp_right (.of_leadsTo (.of_enters fun _ _ => .boxed))

theorem rule {h : Rule} {r : Except Fault (Parser α)} (hf : Forces s h r)
    (hr : ∀ p, r = .ok p → ComesOut s root p x) : ComesOut s root (.rule h) x := by
  obtain fault | p := r
  · exact .inl ((Settles.force hf).exists_bind ⟨_, .pure⟩)
  · obtain ⟨b, hb⟩ | hbroken := hr p rfl
    · exact .inl ((Settles.force hf).exists_bind ⟨b, hb.deeper fun _ => rfl⟩)
    · exact .inr (.of_leadsTo (.rule hf) hbroken)

end ComesOut

/-! ## Parsing -/

namespace Ranked

variable (hr : Ranked s root rank)

include hr

/-- **A parse comes out if all does that it runs**, which is of lower rank or runs on less. -/
theorem comesOut_of_lower (hp : Reaches s root p)
    (hlower : ∀ q y, Reaches s root q → y <:+ x → (y = x → rank q < rank p) →
      ComesOut s root q y) : ComesOut s root p x := by
  have hpart {q : Parser α} (hq : q ∈ p.parts) (hi : Invokes s p q) (y : Text) (hy : y <:+ x) :
      ComesOut s root q y :=
    hlower q y (hp.part hq) hy fun _ => hr.invokes p q hp hi
  induction p with
  | literal => exact .literal
  | pattern => exact .pattern
  | map => exact .map (hpart (by simp [Parser.parts]) .map x (List.suffix_refl x))
  | sequence id keep left right =>
    refine .sequence (hpart (by simp [Parser.parts]) .left x (List.suffix_refl x)) fun v y h => ?_
    refine hlower right y (hp.part (by simp [Parser.parts])) h.suffix ?_
    rintro rfl
    obtain ⟨n, t, ht⟩ := h.exists_eq_some
    exact hr.invokes _ _ hp (.right ⟨n, _, v, t, ht⟩)
  | choice id left right =>
    obtain ⟨l, hl⟩ := hr.exists_label (hp.part (c := right) (by simp [Parser.parts]))
    exact .choice hl (hpart (by simp [Parser.parts]) .first x (List.suffix_refl x))
      (hpart (by simp [Parser.parts]) .second x (List.suffix_refl x))
  | optional => exact .optional (hpart (by simp [Parser.parts]) .optional x (List.suffix_refl x))
  | star => exact .star (hpart (by simp [Parser.parts]) .star)
  | exactly => exact .exactly hp (hpart (by simp [Parser.parts]) .exactly)
  | named => exact .named (hpart (by simp [Parser.parts]) .named x (List.suffix_refl x))
  | boxed inner ih =>
    have hinner : Reaches s root inner := hp.part (by simp [Parser.parts])
    have hbelow : ∀ q y, Reaches s root q → y <:+ x → (y = x → rank q < rank inner) →
        ComesOut s root q y :=
      fun q y hq hy hrank => hlower q y hq hy fun h => hr.boxed inner ▸ hrank h
    refine .boxed (ih hinner hbelow fun hq hi y hy => ?_)
    exact hbelow _ y (hinner.part hq) hy fun _ => hr.invokes _ _ hinner hi
  | rule h =>
    obtain ⟨r, hf⟩ := hr.answers h hp
    refine .rule hf fun q hq => ?_
    subst hq
    exact hlower q x (hp.definition hf) (List.suffix_refl x) fun _ => hr.invokes _ _ hp (.rule hf)

/-- **Every parse of the grammar comes out.** -/
theorem comesOut (hp : Reaches s root p) (x : Text) : ComesOut s root p x := by
  induction hlength : x.length using Nat.strongRecOn generalizing p x with
  | _ length ihlength =>
    induction hk : rank p using Nat.strongRecOn generalizing p with
    | _ k ihrank =>
      refine hr.comesOut_of_lower hp fun q y hq hy hrank => ?_
      obtain heq | hshort := Nat.eq_or_lt_of_le hy.length_le
      · obtain rfl := hy.eq_of_length heq
        exact ihrank _ (hk ▸ hrank rfl) hq rfl
      · exact ihlength _ (hlength ▸ hshort) hq y rfl

/-- **So does every parse of the whole of a text.** -/
theorem exists_parseAll (hp : Reaches s root p) (x : Text) :
    (∃ b, Settles s (fun n => p.parseAll (Calls.upTo n) x) b) ∨ BreaksOff s root p x := by
  have hwhole (q : Parser α) (hq : Reaches s root q) : (∃ b, Settles s (fun n => do
      let result ← q.parse (Calls.upTo n) x
      return Parser.whole (← q.label (Calls.upTo n)) x result) b) ∨ BreaksOff s root q x := by
    refine (hr.comesOut hq x).imp_left fun ⟨b, hb⟩ => ?_
    obtain ⟨l, hl⟩ := hr.exists_label hq
    exact hb.exists_bind (hl.exists_bind ⟨_, .pure⟩)
  refine hr.handle_induction
    (motive := fun p => (∃ b, Settles s (fun n => p.parseAll (Calls.upTo n) x) b) ∨
      BreaksOff s root p x)
    ?node (fun _ h => h.imp_right (.of_leadsTo (.of_enters fun _ _ => .boxed))) ?rule hp
  case node =>
    intro p hp hnode
    cases p with
    | boxed | rule => cases hnode
    | star id inner =>
      have hinner : Reaches s root inner := hp.part (List.mem_singleton_self _)
      obtain ⟨b, hb⟩ | ⟨k, y, hpasses, hbroken⟩ :=
        ComesOut.exists_rounds (id.label Unary.star.tag) fun y _ => hr.comesOut hinner y
      · refine .inl (hb.exists_bind ?_)
        obtain e | ⟨vs, _ | _, last⟩ := b
        · exact ⟨_, .pure⟩
        · exact ⟨_, .pure⟩
        · exact ⟨_, .pure⟩
      · exact .inr (.of_leadsTo (.of_passes hpasses fun _ _ _ => .star) hbroken)
    | literal | pattern | map | sequence | choice | optional | exactly | named =>
      exact hwhole _ hp
  case rule =>
    intro h r hf hdefinition
    obtain fault | q := r
    · exact .inl ((Settles.force hf).exists_bind ⟨_, .pure⟩)
    · obtain ⟨b, hb⟩ | hbroken := hdefinition q rfl
      · exact .inl ((Settles.force hf).exists_bind ⟨b, hb.deeper fun _ => rfl⟩)
      · exact .inr (.of_leadsTo (.rule hf) hbroken)

end Ranked

/-- **Without left recursion, every node of the grammar has a result on every text**, and on the
whole of every text: there is a depth from which on both are found, and stay the same.  The only
exception is a parse that comes to a counted repetition for whose outputs there is no room.  That is
broken off, and has no result at any depth; so where there is room for all counted repetitions of
the grammar, there is no exception. -/
theorem parse_settles (hr : Ranked s root rank) : ∀ p, Reaches s root p → ∀ x,
    (((∃ result, Settles s (fun n => p.parse (Calls.upTo n) x) result) ∧
        ∃ result, Settles s (fun n => p.parseAll (Calls.upTo n) x) result) ∨
      BreaksOff s root p x ∧ ∀ n, p.parse (Calls.upTo n) x s = none ∧
        p.parseAll (Calls.upTo n) x s = none) ∧
    ((∀ id count inner, Reaches s root (.exactly id count inner) → count.Fits) →
      (∃ result, Settles s (fun n => p.parse (Calls.upTo n) x) result) ∧
        ∃ result, Settles s (fun n => p.parseAll (Calls.upTo n) x) result) := by
  intro p hp x
  have hsettles (hkept : ¬BreaksOff s root p x) :
      (∃ result, Settles s (fun n => p.parse (Calls.upTo n) x) result) ∧
        ∃ result, Settles s (fun n => p.parseAll (Calls.upTo n) x) result :=
    ⟨(hr.comesOut hp x).resolve_right hkept, (hr.exists_parseAll hp x).resolve_right hkept⟩
  refine ⟨?_, fun hfits => hsettles fun hbroken => ?_⟩
  · by_cases hbroken : BreaksOff s root p x
    · exact .inr ⟨hbroken, fun n => ⟨hbroken.parse_eq_none n,
        Parser.parseAll_eq_none_of_parse (hbroken.parse_eq_none n)⟩⟩
    · exact .inl (hsettles hbroken)
  · obtain ⟨id, count, inner, hreaches, hlarge⟩ := hbroken.exists_reaches
    exact hlarge (hfits id count inner hreaches)

/-- Opening brackets, and after them blanks, in pairs: a rule that refers to itself, and repeats an
item that may take nothing. -/
def opening : Session Empty :=
  let blanks := .star 4 (.optional 3 (.exactly 2 ⟨2, 24⟩ (.literal 1 [' '])))
  let opened := .sequence 6 .both (.literal 5 ['(']) (.rule ⟨0, 0, 0⟩)
  { arenas := [{ slots := [{ value := some (.choice 7 opened blanks) }] }] }

/-- A bracket is taken before the rule is entered again. -/
theorem not_takesNothing_literal {id : NodeId} {c : Char} {text : Text} :
    ¬TakesNothing s (.literal id (c :: text)) := by
  rintro ⟨n, x, v, t, hparse⟩
  obtain ⟨u, hu, hderives⟩ := derives_of_parse_eq_some hparse
  obtain ⟨-, rfl⟩ := Derives.literal_iff.1 hderives
  have hlength := congrArg List.length hu
  simp only [List.length_append, List.length_cons] at hlength
  omega

theorem opening_ranked :
    Ranked opening (.rule ⟨0, 0, 0⟩) fun p => if p.id = 0 then 8 else p.id where
  answers h hr := by
    have hmem : h ∈ [⟨0, 0, 0⟩, ⟨0, 0, 0⟩] := hr.mem_graphRules
    obtain rfl : h = ⟨0, 0, 0⟩ := by simpa using hmem
    exact ⟨_, fun _ => rfl⟩
  boxed _ := rfl
  invokes p q hp hi := by
    have hmem := hp.nodes_subset hi.mem_nodes
    cases hi with
    | right h =>
      simp [graphNodes, Parser.nodes, Session.slots, opening] at hmem
      obtain ⟨-, -, rfl, -⟩ := hmem
      exact absurd h not_takesNothing_literal
    | rule hf =>
      simp [graphNodes, Parser.nodes, Session.slots, opening] at hmem
      subst hmem
      obtain rfl := Except.ok.inj (hf.unique fun _ => rfl)
      decide
    | left | first | second | optional | star | exactly =>
      simp [graphNodes, Parser.nodes, Session.slots, opening] at hmem
      simp [hmem, Parser.id]
    | map | named =>
      simp [graphNodes, Parser.nodes, Session.slots, opening] at hmem

theorem opening_fits {id : NodeId} {count : Count} {inner : Parser Empty}
    (h : Reaches opening (.rule ⟨0, 0, 0⟩) (.exactly id count inner)) : count.Fits := by
  have hmem := h.nodes_subset (.head _)
  simp [graphNodes, Parser.nodes, Session.slots, opening] at hmem
  obtain ⟨-, rfl, -⟩ := hmem
  decide

/-- The brackets may be opened as often as one likes, and no blank need follow. -/
theorem parse_settles_opening :
    Ranked opening (.rule ⟨0, 0, 0⟩) (fun p => if p.id = 0 then 8 else p.id) ∧ ∀ x,
      (∃ result, Settles opening (fun n => (Parser.rule ⟨0, 0, 0⟩).parse (Calls.upTo n) x) result) ∧
        ∃ result, Settles opening
          (fun n => (Parser.rule ⟨0, 0, 0⟩).parseAll (Calls.upTo n) x) result :=
  ⟨opening_ranked, fun x => (parse_settles opening_ranked _ .refl x).2 fun _ _ _ => opening_fits⟩

/-- More letters than there is room for. -/
def tooMany : Parser Empty := .exactly 1 ⟨UInt64.size - 1, 24⟩ (.literal 0 ['a'])

/-- Without room, the first letter is not even looked for: nothing is left-recursive here, and yet
no depth has a result. -/
theorem tooMany_never_settles :
    Ranked {} tooMany Parser.id ∧ ∀ n, tooMany.parse (Calls.upTo n) ['b'] {} = none ∧
      tooMany.parseAll (Calls.upTo n) ['b'] {} = none := by
  have hbroken (n : Nat) : tooMany.parse (Calls.upTo n) ['b'] {} = none := by
    rw [tooMany, Parser.parse_exactly, if_neg (by decide)]
    rfl
  refine ⟨?_, fun n => ⟨hbroken n, Parser.parseAll_eq_none_of_parse (hbroken n)⟩⟩
  constructor
  · intro h hr
    have hmem : h ∈ [] := hr.mem_graphRules
    cases hmem
  · exact fun _ => rfl
  · intro p q hp hi
    have hmem := hp.nodes_subset hi.mem_nodes
    simp [graphNodes, Parser.nodes, Session.slots, tooMany] at hmem
    obtain rfl | rfl := hmem <;> cases hi
    decide

end GrammarGraph
