import GrammarGraph.Proofs.Failure
import GrammarGraph.Proofs.Script

/-!
# Proofs/Guard — grammars in which nothing is repeated or entered for nothing

    star ──▸ item, which takes something      rule ──▸ rule of lower rank, until something is taken

Whether a parser takes something of every text on which it succeeds can often be read off it
(`Parser.takes`), and so can how many rules it may enter one inside another before it takes anything
(`Parser.reach`).  A grammar is guarded if its repetitions take something in every round, and its
rules can always be had and enter only rules of lower rank at first (`Guarded`).

Then every parse has a result, found at a depth that is told by the length of the text
(`Guarded.returns_parse`), and no defect shows in it, not even in what is recovered from
(`Guarded.flawless`).  Definitions may be built in the middle of a parse; all that is asked of them
is that forcing a rule keeps an invariant of sessions.
-/

namespace GrammarGraph

variable {α β γ : Type}

namespace Parser

/-! ## What can be read off a parser -/

/-- Whether the parser surely takes something where it succeeds.  Patterns and rules are not looked
into. -/
def takes : Parser α → Bool
  | .literal _ text => !text.isEmpty
  | .map _ inner _ | .named _ _ inner | .boxed inner => inner.takes
  | .sequence _ _ left right => left.takes || right.takes
  | .choice _ left right => left.takes && right.takes
  | .exactly _ count inner => count.rounds != 0 && inner.takes
  | .pattern .. | .optional .. | .star .. | .rule _ => false

/-- Whether every unbounded repetition takes something in each round, there is room for the outputs
of every counted one, and all rules are among those given. -/
def isGuarded (rules : List Rule) : Parser α → Bool
  | .literal .. | .pattern .. => true
  | .map _ inner _ | .optional _ inner | .named _ _ inner | .boxed inner => inner.isGuarded rules
  | .exactly _ count inner => count.Fits && inner.isGuarded rules
  | .sequence _ _ left right | .choice _ left right =>
    left.isGuarded rules && right.isGuarded rules
  | .star _ inner => inner.takes && inner.isGuarded rules
  | .rule h => rules.contains h

/-- **How many rules the parser may enter, one inside another, on the very text it was given**, if
rules of a rank enter no more than that many others. -/
def reach (rank : Rule → Nat) : Parser α → Nat
  | .literal .. | .pattern .. => 0
  | .map _ inner _ | .optional _ inner | .star _ inner | .exactly _ _ inner | .named _ _ inner
  | .boxed inner => inner.reach rank
  | .sequence _ _ left right =>
    max (left.reach rank) (if left.takes then 0 else right.reach rank)
  | .choice _ left right => max (left.reach rank) (right.reach rank)
  | .rule h => rank h + 1

theorem reach_le {rules : List Rule} {rank : Rule → Nat} {bound : Nat}
    (hbound : ∀ h ∈ rules, rank h < bound) {p : Parser α} (hp : p.isGuarded rules) :
    p.reach rank ≤ bound := by
  induction p with
  | literal | pattern => exact Nat.zero_le bound
  | map _ _ _ ih | optional _ _ ih | named _ _ _ ih | boxed _ ih => exact ih hp
  | star _ _ ih | exactly _ _ _ ih => exact ih (Bool.and_eq_true_iff.1 hp).2
  | choice _ _ _ ihl ihr =>
    obtain ⟨hl, hr⟩ := Bool.and_eq_true_iff.1 hp
    exact Nat.max_le.2 ⟨ihl hl, ihr hr⟩
  | sequence _ _ _ _ ihl ihr =>
    obtain ⟨hl, hr⟩ := Bool.and_eq_true_iff.1 hp
    refine Nat.max_le.2 ⟨ihl hl, ?_⟩
    split
    · exact Nat.zero_le bound
    · exact ihr hr
  | rule h => exact hbound h (List.contains_iff_mem.1 hp)

end Parser

/-! ## What is taken -/

/-- **A parser that surely takes something derives no empty text.** -/
theorem Derives.ne_nil {Def : Rule → Parser α → Prop} {p : Parser α} {v : Output α} {t : Text}
    (h : Derives Def p v t) (hp : p.takes) : t ≠ [] := by
  induction h with
  | literal =>
    rintro rfl
    cases hp
  | map _ ih | named _ ih | boxed _ ih => exact ih hp
  | sequence _ _ ihl ihr =>
    obtain hl | hr := Bool.or_eq_true_iff.1 hp
    · exact List.append_ne_nil_of_left_ne_nil (ihl hl) _
    · exact List.append_ne_nil_of_right_ne_nil _ (ihr hr)
  | first _ ih => exact ih (Bool.and_eq_true_iff.1 hp).1
  | second _ ih => exact ih (Bool.and_eq_true_iff.1 hp).2
  | again _ _ ih =>
    exact List.append_ne_nil_of_left_ne_nil (ih (Bool.and_eq_true_iff.1 hp).2) _
  | none | pattern | absent | present | done | more | rule => cases hp

section Lengths

variable {p : Parser α} {n : Nat} {x y : Text} {v : Output α} {s t : Session α}

theorem length_le_of_parse (h : p.parse (Calls.upTo n) x s = some (.ok (v, y), t)) :
    y.length ≤ x.length := by
  obtain ⟨u, rfl, -⟩ := derives_of_parse_eq_some h
  exact (List.suffix_append u y).length_le

theorem length_lt_of_parse (h : p.parse (Calls.upTo n) x s = some (.ok (v, y), t))
    (hp : p.takes) : y.length < x.length := by
  obtain ⟨u, rfl, hu⟩ := derives_of_parse_eq_some h
  rw [List.length_append]
  exact Nat.lt_add_of_pos_left (List.length_pos_iff.2 (hu.ne_nil hp))

end Lengths

namespace Run.Returns

variable {I : Session α → Prop} {m : Run α β} {R Q : β → Prop}

/-- What holds of every result holds of the one that there is. -/
theorem of_runs (hm : Returns I m R) (hQ : ∀ s b t, m s = some (b, t) → Q b) :
    Returns I m Q := by
  intro s hs
  obtain ⟨b, t, hb, ht, -⟩ := hm s hs
  exact ⟨b, t, hb, ht, hQ s b t hb⟩

/-- A result that is only turned into another. -/
theorem map {f : β → Run α γ} (hm : Returns I m R) (hf : ∀ b, ∃ c, f b = Pure.pure c) :
    Returns I (m >>= f) fun _ => True := by
  refine hm.bind fun b _ => ?_
  obtain ⟨c, hc⟩ := hf b
  exact hc ▸ .pure trivial

/-! ## Repetitions -/

theorem rounds {label : String} {item : Text → Run α (Parsed α)}
    (hlog : ∀ s l, I s → I { s with log := l }) {x : Text}
    (hitem : ∀ y, y.length ≤ x.length → Returns I (item y) fun _ => True) :
    Returns I (Parser.rounds label item x) fun _ => True := by
  induction hlength : x.length using Nat.strongRecOn generalizing x with
  | _ length ih =>
    rw [Parser.rounds]
    refine (hitem x (Nat.le_refl _)).bind fun result _ => ?_
    obtain e | ⟨v, r⟩ := result
    · exact .pure trivial
    · dsimp only
      split
      · next hshort =>
        have hrest := ih _ (hlength ▸ hshort) (fun y hy => hitem y (by omega)) rfl
        exact hrest.map fun rest => by cases rest <;> exact ⟨_, rfl⟩
      · exact (Returns.log hlog _ _).bind fun _ _ => .pure trivial

theorem countedRounds {label : String} {item : Text → Run α (Parsed α)} (count : Nat) {x : Text}
    (hitem : ∀ y, y.length ≤ x.length →
      Returns I (item y) fun result => ∀ v z, result = .ok (v, z) → z.length ≤ y.length) :
    Returns I (Parser.countedRounds label item count x) fun _ => True := by
  induction count generalizing x with
  | zero => exact .pure trivial
  | succ count ih =>
    rw [Parser.countedRounds]
    refine (hitem x (Nat.le_refl _)).bind fun result hresult => ?_
    obtain e | ⟨v, r⟩ := result
    · exact .pure trivial
    · have hr := hresult v r rfl
      have hrest := ih fun y hy => hitem y (Nat.le_trans hy hr)
      exact hrest.map fun rest => by cases rest <;> exact ⟨_, rfl⟩

end Run.Returns

/-! ## Guarded grammars -/

/-- **A guarded grammar**, in sessions with `I`, where `Def` is what its rules may be defined as.
Forcing them has a result at any depth but the lowest, and never a fault. -/
structure Guarded (I : Session α → Prop) (Def : Rule → Parser α → Prop) (rules : List Rule)
    (rank : Rule → Nat) (bound : Nat) : Prop where
  log : ∀ s l, I s → I { s with log := l }
  keeps : ∀ n h, Run.Keeps I (h.force (Calls.upTo n).build) fun r => ∀ p, r = .ok p → Def h p
  never : ∀ n, ∀ h ∈ rules, ∀ s, I s → ∀ fault t,
    h.force (Calls.upTo n).build s ≠ some (.error fault, t)
  returns : ∀ n, ∀ h ∈ rules, Run.Returns I (h.force (Calls.upTo (n + 1)).build) fun _ => True
  guarded : ∀ h ∈ rules, ∀ p, Def h p → p.isGuarded rules ∧ p.reach rank ≤ rank h
  bounded : ∀ h ∈ rules, rank h < bound

namespace Guarded

variable {I : Session α → Prop} {Def : Rule → Parser α → Prop} {rules : List Rule}
  {rank : Rule → Nat} {bound : Nat} (hg : Guarded I Def rules rank bound)

include hg

/-! ## Results -/

/-- **Forcing a rule leads to a parser that is guarded**, and enters rules of lower rank at
first. -/
theorem returns_force (n : Nat) {h : Rule} (hh : h ∈ rules) :
    Run.Returns I (h.force (Calls.upTo (n + 1)).build) fun r =>
      ∃ p, r = .ok p ∧ p.isGuarded rules ∧ p.reach rank ≤ rank h := by
  intro s hs
  obtain ⟨r, t, hr, ht, -⟩ := hg.returns n h hh s hs
  refine ⟨r, t, hr, ht, ?_⟩
  cases r with
  | error fault => exact absurd hr (hg.never _ h hh s hs fault t)
  | ok p => exact ⟨p, rfl, hg.guarded h hh p ((hg.keeps _ h s _ t hs hr).2 p rfl)⟩

theorem returns_label (n : Nat) {p : Parser α} (hp : p.isGuarded rules) (hn : p.reach rank ≤ n) :
    Run.Returns I (p.label (Calls.upTo n)) fun _ => True := by
  induction n generalizing p with
  | zero =>
    induction p with
    | boxed _ ih => exact ih hp hn
    | rule => exact absurd hn (Nat.not_succ_le_zero _)
    | _ => exact .pure trivial
  | succ n ih =>
    induction p with
    | boxed _ ihp => exact ihp hp hn
    | rule h =>
      refine (hg.returns_force n (List.contains_iff_mem.1 hp)).bind fun r hr => ?_
      obtain ⟨q, rfl, hq, hreach⟩ := hr
      exact ih hq (Nat.le_trans hreach (Nat.le_of_succ_le_succ hn))
    | _ => exact .pure trivial

/-- The definition of a rule is parsed one definition deeper. -/
theorem returns_parse_rule {n : Nat} {h : Rule} {x : Text} (hh : h ∈ rules)
    (hn : x.length * bound + (rank h + 1) ≤ n)
    (ih : ∀ k < n, ∀ q : Parser α, q.isGuarded rules → x.length * bound + q.reach rank ≤ k →
      Run.Returns I (q.parse (Calls.upTo k) x) fun _ => True) :
    Run.Returns I ((Parser.rule h).parse (Calls.upTo n) x) fun _ => True := by
  obtain ⟨k, rfl⟩ : ∃ k, n = k + 1 := ⟨n - 1, by omega⟩
  refine (hg.returns_force k hh).bind fun r hr => ?_
  obtain ⟨q, rfl, hq, hreach⟩ := hr
  exact ih k (Nat.lt_succ_self k) q hq (by omega)

/-- There is depth enough for what comes second in a sequence: a character that has been taken makes
up for all rules that may be entered next. -/
theorem reach_right {n : Nat} {left right : Parser α} {x y : Text} {v : Output α}
    {s t : Session α} (hr : right.isGuarded rules)
    (hn : x.length * bound +
      max (left.reach rank) (if left.takes then 0 else right.reach rank) ≤ n)
    (h : left.parse (Calls.upTo n) x s = some (.ok (v, y), t)) :
    y.length * bound + right.reach rank ≤ n := by
  cases htakes : left.takes with
  | true =>
    have hreach := Parser.reach_le hg.bounded hr
    have hlt := Nat.mul_le_mul_right bound (Nat.succ_le_of_lt (length_lt_of_parse h htakes))
    rw [Nat.succ_mul] at hlt
    omega
  | false =>
    have hle := Nat.mul_le_mul_right bound (length_le_of_parse h)
    rw [htakes] at hn
    simp only [Bool.false_eq_true, if_false] at hn
    omega

/-- **Every parse has a result**, at a depth that is told by the length of the text: between two
characters that are taken no more rules are entered than there are ranks. -/
theorem returns_parse (n : Nat) {p : Parser α} {x : Text} (hp : p.isGuarded rules)
    (hn : x.length * bound + p.reach rank ≤ n) :
    Run.Returns I (p.parse (Calls.upTo n) x) fun _ => True := by
  induction n using Nat.strongRecOn generalizing p x with
  | _ n ih =>
    induction p generalizing x with
    | literal id text =>
      rw [Parser.parse]
      split <;> exact .pure trivial
    | pattern id p =>
      rw [Parser.parse]
      split <;> exact .pure trivial
    | map id inner f ihp =>
      exact (ihp hp hn).map fun result => by cases result <;> exact ⟨_, rfl⟩
    | sequence id keep left right ihl ihr =>
      obtain ⟨hl, hr⟩ := Bool.and_eq_true_iff.1 hp
      simp only [Parser.reach] at hn
      have hleft := (ihl (x := x) hl (by omega)).of_runs (Q := fun result => ∀ v y,
        result = .ok (v, y) → y.length * bound + right.reach rank ≤ n) fun s _ t h v y hy =>
          hg.reach_right hr hn (hy ▸ h)
      refine hleft.bind fun result hresult => ?_
      obtain e | ⟨v, y⟩ := result
      · exact .pure trivial
      · exact (ihr hr (hresult v y rfl)).map fun result => by cases result <;> exact ⟨_, rfl⟩
    | choice id left right ihl ihr =>
      obtain ⟨hl, hr⟩ := Bool.and_eq_true_iff.1 hp
      simp only [Parser.reach] at hn
      rw [Parser.parse_choice]
      refine (ihl hl (by omega)).bind fun result _ => ?_
      obtain e | result := result
      · have hannounce : Run.Returns I (Parser.announce (Calls.upTo n) id right) fun _ => True := by
          refine .read fun σ => ?_
          split
          · exact (hg.returns_label n hr (by omega)).bind fun _ _ => .log hg.log _ _
          · exact .pure trivial
        exact hannounce.bind fun _ _ => (ihr hr (by omega)).bind fun _ _ => .pure trivial
      · exact .pure trivial
    | optional id inner ihp =>
      exact (ihp hp hn).map fun result => by cases result <;> exact ⟨_, rfl⟩
    | star id inner ihp =>
      obtain ⟨-, hp⟩ := Bool.and_eq_true_iff.1 hp
      have hitem (y : Text) (hy : y.length ≤ x.length) := ihp (x := y) hp
        (Nat.le_trans (Nat.add_le_add_right (Nat.mul_le_mul_right bound hy) _) hn)
      exact (Run.Returns.rounds hg.log hitem).map fun result => by cases result <;> exact ⟨_, rfl⟩
    | exactly id count inner ihp =>
      obtain ⟨hfits, hp⟩ := Bool.and_eq_true_iff.1 hp
      have hitem (y : Text) (hy : y.length ≤ x.length) := (ihp (x := y) hp
        (Nat.le_trans (Nat.add_le_add_right (Nat.mul_le_mul_right bound hy) _) hn)).of_runs
          (Q := fun result => ∀ v z, result = .ok (v, z) → z.length ≤ y.length)
          fun _ _ _ h v z hz => length_le_of_parse (hz ▸ h)
      rw [Parser.parse_exactly, if_pos (of_decide_eq_true hfits)]
      exact (Run.Returns.countedRounds count.rounds hitem).map fun result => by
        cases result <;> exact ⟨_, rfl⟩
    | named id name inner ihp => exact (ihp hp hn).map fun _ => ⟨_, rfl⟩
    | boxed inner ihp => exact ihp hp hn
    | rule h =>
      exact hg.returns_parse_rule (List.contains_iff_mem.1 hp) hn fun k hk q hq => ih k hk hq

end Guarded

/-! ## Defects -/

namespace Evaluation

/-- **No defect shows anywhere in the evaluation**, not even in what it recovers from: nothing that
is run fails because of one, and every rule that is entered has a definition. -/
structure Flawless (E : Evaluation α) : Prop where
  fails : ∀ F e, Relation.ReflTransGen Enters E F → F.Fails e →
    ∀ c ∈ e.chain, c.isDefinition = false
  forces : ∀ F h, Relation.ReflTransGen Enters E F → F.parser = .rule h → ∀ fault σ,
    h.force (Calls.upTo F.depth).build F.session ≠ some (.error fault, σ)

/-- A parser of a guarded grammar, run in a session with `I`. -/
structure Safe (I : Session α → Prop) (rules : List Rule) (E : Evaluation α) : Prop where
  session : I E.session
  parser : E.parser.isGuarded rules

end Evaluation

namespace Guarded

open Evaluation

variable {I : Session α → Prop} {Def : Rule → Parser α → Prop} {rules : List Rule}
  {rank : Rule → Nat} {bound : Nat} (hg : Guarded I Def rules rank bound) {E F : Evaluation α}

include hg

theorem respects (n : Nat) : (Discipline.keeping I hg.log).Respects (Calls.upTo n) :=
  (keeping_defines hg.log hg.keeps).respects n

theorem keeps_parse (n : Nat) (p : Parser α) (x : Text) :
    Run.Keeps I (p.parse (Calls.upTo n) x) fun _ => True :=
  Discipline.parse (hg.respects n) p (w := ⟨⟩) x trivial

theorem keeps_announce (n : Nat) (id : NodeId) (p : Parser α) :
    Run.Keeps I (Parser.announce (Calls.upTo n) id p) fun _ => True :=
  have hlabel : Run.Keeps I (p.label (Calls.upTo n)) fun _ => True :=
    Discipline.label (hg.respects n) p (w := ⟨⟩) trivial
  .announce hg.log hlabel

section Sessions

variable {n k : Nat} {p : Parser α} {x y : Text} {σ τ : Session α} (hσ : I σ)

include hσ

theorem of_leaves (h : Leaves ⟨n, p, x, σ⟩ y τ) : I τ := by
  obtain ⟨v, hv⟩ := h
  exact (hg.keeps_parse _ _ _ _ _ _ hσ hv).1

theorem of_turns {goesOn : Text → Text → Prop} (h : Turns n p goesOn k x σ y τ) : I τ := by
  induction h with
  | none => exact hσ
  | more h _ _ ih => exact ih (hg.of_leaves hσ h)

end Sessions

/-- **What a safe evaluation enters is safe.** -/
theorem safe_of_enters (hE : E.Safe I rules) (h : Enters E F) : F.Safe I rules := by
  obtain ⟨hI, hp⟩ := hE
  cases h with
  | map | optional | named | boxed => exact ⟨hI, hp⟩
  | left | first => exact ⟨hI, (Bool.and_eq_true_iff.1 hp).1⟩
  | right h => exact ⟨hg.of_leaves hI h, (Bool.and_eq_true_iff.1 hp).2⟩
  | second h ha =>
    have hτ := (hg.keeps_parse _ _ _ _ _ _ hI h).1
    exact ⟨(hg.keeps_announce _ _ _ _ _ _ hτ ha).1, (Bool.and_eq_true_iff.1 hp).2⟩
  | star h => exact ⟨hg.of_turns hI h, (Bool.and_eq_true_iff.1 hp).2⟩
  | exactly _ _ h => exact ⟨hg.of_turns hI h, (Bool.and_eq_true_iff.1 hp).2⟩
  | rule hf =>
    obtain ⟨hτ, hdefined⟩ := hg.keeps _ _ _ _ _ hI hf
    exact ⟨hτ, (hg.guarded _ (List.contains_iff_mem.1 hp) _ (hdefined _ rfl)).1⟩

/-- **A safe evaluation does not fail because of a defect**: neither itself, nor by what it
enters. -/
theorem isDefinition_of_fails {e : ParseError} (hE : E.Safe I rules) (h : E.Fails e) :
    ∀ c ∈ e.chain, c.isDefinition = false := by
  induction E using wellFounded_enters.induction generalizing e with
  | _ E ih =>
    cases failsBy_of_fails h with
    | terminal =>
      intro c hc
      obtain rfl := List.mem_singleton.1 hc
      rfl
    | passed hF hfails => exact ih _ hF (hg.safe_of_enters hE hF) hfails
    | @context F l s c _ _ _ hF _ hfails =>
      have hchain := ih _ hF (hg.safe_of_enters hE hF) hfails
      have hc : c.isDefinition = false := hchain c (by cases c <;> exact List.mem_cons_self)
      rw [ParseError.within, hc, if_neg Bool.false_ne_true, ParseError.chain]
      exact List.forall_mem_cons.2 ⟨rfl, hchain⟩
    | stalled hE' _ hy =>
      have htakes : Parser.takes _ := (Bool.and_eq_true_iff.1 (hE' ▸ hE.parser)).1
      obtain ⟨v, hv⟩ := hy
      exact absurd (length_lt_of_parse hv htakes) (Nat.lt_irrefl _)
    | refused hE' hf =>
      have hrule : _ ∈ rules := List.contains_iff_mem.1 (hE' ▸ hE.parser)
      exact absurd hf (hg.never _ _ hrule _ hE.session _ _)

/-- **No defect shows in a guarded grammar.** -/
theorem flawless (hE : E.Safe I rules) : E.Flawless := by
  have hsafe {F : Evaluation α} (hF : Relation.ReflTransGen Enters E F) : F.Safe I rules := by
    induction hF with
    | refl => exact hE
    | tail _ h ih => exact hg.safe_of_enters ih h
  constructor
  case fails => exact fun F e hF h => hg.isDefinition_of_fails (hsafe hF) h
  case forces =>
    intro F h hF hrule fault σ hf
    have hguarded := (hsafe hF).parser
    rw [hrule] at hguarded
    exact hg.never _ h (List.contains_iff_mem.1 hguarded) _ (hsafe hF).session fault σ hf

end Guarded

/-! ## Whole texts -/

/-- **A parse of the whole of a text is a parse** in sessions with `I`, and what comes of it is told
of the whole text under this label. -/
def Parser.Wholly (I : Session α → Prop) (l : String) (p : Parser α) : Prop :=
  ∀ n x s, I s → p.parseAll (Calls.upTo n) x s =
    (p.parse (Calls.upTo n) x s).map fun y => (Parser.whole l x y.1, y.2)

namespace Parser.Wholly

variable {I : Session α → Prop} {l : String} {p : Parser α}

/-- Of all nodes, only repetitions go about it in another way. -/
theorem node (hp : p.isNode) (hstar : ∀ id inner, p ≠ .star id inner) (hl : p.HasLabel l) :
    p.Wholly I l := by
  intro n x s _
  have hparse : p.parseAll (Calls.upTo n) x =
      p.parse (Calls.upTo n) x >>= fun result => return Parser.whole l x result := by
    cases p with
    | boxed | rule => cases hp
    | star id inner => exact absurd rfl (hstar id inner)
    | _ =>
      simp only [Parser.parseAll, hl (Calls.upTo n), pure_bind]
  rw [hparse, Run.bind_apply]
  cases p.parse (Calls.upTo n) x s <;> rfl

theorem boxed (h : p.Wholly I l) : (Parser.boxed p).Wholly I l := h

theorem rule {h : Rule} (hp : ∀ n, Run.Keeps I (h.force (Calls.upTo n).build)
    fun r => ∀ p, r = .ok p → p.Wholly I l) : (Parser.rule h).Wholly I l := by
  intro n x s hs
  rw [Parser.parseAll, Parser.parse, Run.bind_apply, Run.bind_apply]
  cases hf : h.force (Calls.upTo n).build s with
  | none => rfl
  | some y =>
    obtain ⟨fault | p, t⟩ := y
    · rfl
    · obtain ⟨ht, hp⟩ := hp n s _ t hs hf
      cases n with
      | zero => rfl
      | succ n => exact hp p rfl n x t ht

end Parser.Wholly

end GrammarGraph
