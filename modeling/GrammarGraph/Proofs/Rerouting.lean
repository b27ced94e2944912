import GrammarGraph.Proofs.Termination
import GrammarGraph.Proofs.Walk
import Mathlib.Tactic.TFAE

/-!
# Proofs/Rerouting — boxes and built rules are invisible

    node ──▸ part          node ──▸ box ──▸ rule ──definition──▸ box ──▸ part

A node refers to its parts, and may do so by way of boxes and of rules that are built.  Two grammars
that differ in nothing but such detours are `Rerouted` from each other.  They may differ in many
places at once, inside the definitions of rules and so inside cycles; then a detour may be met
without end, and there is no tree to go by.

So whole runs are compared (`Simulates`): what one grammar answers at some depth, the other settles
on, at a depth of its own.  The proof is by induction on the depth of the first, and on the detours
between one node and the next (`Rerouting.follows`).  What cannot be asked apart from a run is
whether a label can be had: a choice asks its second branch for one, where that is logged.
-/

namespace GrammarGraph

variable {α β γ : Type}

/-! ## Questions -/

/-- **What can be asked of a parser**, with the type of the answer. -/
inductive Question (α : Type) : Type → Type
  | parse (x : Text) : Question α (Parsed α)
  | parseAll (x : Text) : Question α (Except ParseError (Output α))
  | label : Question α String
  | kind (v : Visited) : Question α (Shape Description × Visited)
  | describe (v : Visited) : Question α (Description × Visited)

namespace Question

/-- The question put to a parser. -/
def ask : Question α β → Calls α → Parser α → Run α β
  | .parse x, calls, p => p.parse calls x
  | .parseAll x, calls, p => p.parseAll calls x
  | .label, calls, p => p.label calls
  | .kind v, calls, p => p.kind calls v
  | .describe v, calls, p => p.describe calls v

/-- The question passed on to what a rule is defined as. -/
def call : Question α β → Calls α → Parser α → Run α β
  | .parse x, calls, p => calls.parse p x
  | .parseAll x, calls, p => calls.parseAll p x
  | .label, calls, p => calls.label p
  | .kind v, calls, p => calls.kind p v
  | .describe v, calls, p => calls.describe p v

/-- The question put to a rule that cannot be built. -/
def astray : Question α β → Rule → Fault → Run α β
  | .parse x, h, fault => return .error (.definition h.label (Text.preview x) fault)
  | .parseAll x, h, fault => return .error (.definition h.label (Text.preview x) fault)
  | .label, h, _ => return h.label
  | .kind v, _, _ => return (.leaf .unresolved, v)
  | .describe v, h, _ => Parser.visit h.id (fun v => return (.leaf .unresolved, v)) v

theorem ask_boxed (question : Question α β) (calls : Calls α) (p : Parser α) :
    question.ask calls (.boxed p) = question.ask calls p := by
  cases question <;> rfl

theorem ask_rule (question : Question α β) (calls : Calls α) (h : Rule) :
    question.ask calls (.rule h) = (do
      match ← h.force calls.build with
      | .ok p => question.call calls p
      | .error fault => question.astray h fault) := by
  cases question <;> rfl

theorem call_succ (question : Question α β) (n : Nat) :
    question.call (Calls.upTo (n + 1)) = question.ask (Calls.upTo n) := by
  cases question <;> rfl

/-- What a rule is defined as is asked at a lower depth, if at all. -/
theorem keeps_call (question : Question α β) {n : Nat} {p : Parser α} {I : Session α → Prop}
    {R : β → Prop} (h : ∀ k, k < n → Run.Keeps I (question.ask (Calls.upTo k) p) R) :
    Run.Keeps I (question.call (Calls.upTo n) p) R := by
  cases n with
  | zero => cases question <;> exact .failure
  | succ n =>
    rw [call_succ]
    exact h n (Nat.lt_succ_self n)

end Question

/-! ## Detours -/

/-- **One parser is rerouted from another**: each refers to its parts by way of boxes and of rules
that are built, in its own session.  The rules of `K` may occur on both sides. -/
inductive Rerouted (s t : Session α) (K : Rule → Prop) : Parser α → Parser α → Prop
  | literal {id text} : Rerouted s t K (.literal id text) (.literal id text)
  | pattern {id pattern} : Rerouted s t K (.pattern id pattern) (.pattern id pattern)
  | map {id p q f} (hp : Rerouted s t K p q) : Rerouted s t K (.map id p f) (.map id q f)
  | sequence {id keep p p' q q'} (hp : Rerouted s t K p q) (hp' : Rerouted s t K p' q') :
      Rerouted s t K (.sequence id keep p p') (.sequence id keep q q')
  | choice {id p p' q q'} (hp : Rerouted s t K p q) (hp' : Rerouted s t K p' q') :
      Rerouted s t K (.choice id p p') (.choice id q q')
  | optional {id p q} (hp : Rerouted s t K p q) : Rerouted s t K (.optional id p) (.optional id q)
  | star {id p q} (hp : Rerouted s t K p q) : Rerouted s t K (.star id p) (.star id q)
  | exactly {id count p q} (hp : Rerouted s t K p q) :
      Rerouted s t K (.exactly id count p) (.exactly id count q)
  | named {id name p q} (hp : Rerouted s t K p q) :
      Rerouted s t K (.named id name p) (.named id name q)
  | rule {h} (hh : K h) : Rerouted s t K (.rule h) (.rule h)
  | boxLeft {p q} (hp : Rerouted s t K p q) : Rerouted s t K (.boxed p) q
  | boxRight {p q} (hp : Rerouted s t K p q) : Rerouted s t K p (.boxed q)
  | ruleLeft {h p q} (hf : Forces s h (.ok p)) (hp : Rerouted s t K p q) :
      Rerouted s t K (.rule h) q
  | ruleRight {h p q} (hf : Forces t h (.ok q)) (hp : Rerouted s t K p q) :
      Rerouted s t K p (.rule h)

/-- **The rules of `K` are the same in both sessions, but for detours**: each is built in both, as
parsers that are rerouted from each other, or cannot be built in either, for one reason. -/
structure Rerouting (s t : Session α) (K : Rule → Prop) : Prop where
  rule : ∀ h, K h →
    (∃ p q, Forces s h (.ok p) ∧ Forces t h (.ok q) ∧ Rerouted s t K p q) ∨
      ∃ fault, Forces s h (.error fault) ∧ Forces t h (.error fault)

theorem Rerouted.symm {s t : Session α} {K : Rule → Prop} {p q : Parser α}
    (h : Rerouted s t K p q) : Rerouted t s K q p := by
  induction h with
  | literal => exact .literal
  | pattern => exact .pattern
  | map _ ih => exact .map ih
  | sequence _ _ ih ih' => exact .sequence ih ih'
  | choice _ _ ih ih' => exact .choice ih ih'
  | optional _ ih => exact .optional ih
  | star _ ih => exact .star ih
  | exactly _ ih => exact .exactly ih
  | named _ ih => exact .named ih
  | rule hh => exact .rule hh
  | boxLeft _ ih => exact .boxRight ih
  | boxRight _ ih => exact .boxLeft ih
  | ruleLeft hf _ ih => exact .ruleRight hf ih
  | ruleRight hf _ ih => exact .ruleLeft hf ih

theorem Rerouting.symm {s t : Session α} {K : Rule → Prop} (h : Rerouting s t K) :
    Rerouting t s K where
  rule r hr := (h.rule r hr).imp
    (fun ⟨p, q, hp, hq, hpq⟩ => ⟨q, p, hq, hp, hpq.symm⟩)
    fun ⟨fault, hs, ht⟩ => ⟨fault, ht, hs⟩

/-- What is reached from a parser, without any detours. -/
theorem Rerouted.same {s t u : Session α} {root p : Parser α} (hp : Reaches u root p) :
    Rerouted s t (fun h => Reaches u root (.rule h)) p p := by
  induction p with
  | literal => exact .literal
  | pattern => exact .pattern
  | rule => exact .rule hp
  | map _ _ _ ih => exact .map (ih (hp.part (by simp [Parser.parts])))
  | optional _ _ ih => exact .optional (ih (hp.part (by simp [Parser.parts])))
  | star _ _ ih => exact .star (ih (hp.part (by simp [Parser.parts])))
  | exactly _ _ _ ih => exact .exactly (ih (hp.part (by simp [Parser.parts])))
  | named _ _ _ ih => exact .named (ih (hp.part (by simp [Parser.parts])))
  | boxed _ ih => exact .boxLeft (.boxRight (ih (hp.part (by simp [Parser.parts]))))
  | sequence _ _ _ _ ih ih' =>
    exact .sequence (ih (hp.part (by simp [Parser.parts]))) (ih' (hp.part (by simp [Parser.parts])))
  | choice _ _ _ ih ih' =>
    exact .choice (ih (hp.part (by simp [Parser.parts]))) (ih' (hp.part (by simp [Parser.parts])))

/-- **A settled grammar is the same wherever the slots of its rules are.** -/
theorem Settled.rerouting {s t : Session α} {root : Parser α} (hs : Settled s root)
    (hslots : ∀ h, Reaches s root (.rule h) → t.slot? h = s.slot? h) :
    Rerouting s t fun h => Reaches s root (.rule h) where
  rule h hh := by
    obtain ⟨fault | p, hp⟩ := exists_forces (hs h hh).2
    · exact .inr ⟨fault, hp, hp.of_slot? (hslots h hh)⟩
    · exact .inl ⟨p, p, hp, hp.of_slot? (hslots h hh), .same (hh.definition hp)⟩

/-! ## Runs that are simulated -/

/-- **What the first computation comes to, the second settles on.** -/
def Simulates (s t : Session α) (m : Run α β) (m' : Nat → Run α β) : Prop :=
  Run.Keeps s.Logged m (Settles t m')

theorem Session.Logged.log {s t : Session α} (h : s.Logged t) (l : List LogRecord) :
    s.Logged { t with log := l } := by
  obtain ⟨_, rfl⟩ := h
  exact ⟨l, rfl⟩

/-- A rule that answers at once does so whatever has been logged. -/
theorem Forces.keeps {s : Session α} {h : Rule} {r : Except Fault (Parser α)} (hr : Forces s h r)
    (build : Deferred α → Run α (Parser α)) :
    Run.Keeps s.Logged (h.force build) (· = r) := by
  rintro _ b u ⟨l, rfl⟩ hb
  have hforces : Forces { s with log := l } h r := hr.of_slot? rfl
  obtain ⟨rfl, rfl⟩ := Prod.mk.inj (Option.some.inj (hb.symm.trans (hforces build)))
  exact ⟨⟨l, rfl⟩, rfl⟩

namespace Simulates

variable {s t : Session α} {m : Run α β} {m' : Nat → Run α β}

theorem pure {b : β} : Simulates s t (Pure.pure b) fun _ => Pure.pure b := Run.Keeps.pure .pure

theorem failure : Simulates s t (Alternative.failure : Run α β) m' := Run.Keeps.failure

theorem bind {f : β → Run α γ} {f' : Nat → β → Run α γ} (hm : Simulates s t m m')
    (hf : ∀ b, Simulates s t (f b) (f' · b)) :
    Simulates s t (m >>= f) fun n => m' n >>= f' n :=
  Run.Keeps.bind hm fun b hb => (hf b).mono fun _ hc => hb.bind hc

theorem log (level : LogLevel) (message : String) :
    Simulates s t (Run.log level message) fun _ => Run.log level message :=
  (Run.Keeps.log (fun _ l h => h.log l) level message).mono fun _ _ => .log level message

/-! ## Repetitions -/

section Repetition

variable {label : String} {item : Text → Run α (Parsed α)} {item' : Nat → Text → Run α (Parsed α)}
  (hitem : ∀ y, Simulates s t (item y) (item' · y))

include hitem

theorem rounds (x : Text) :
    Simulates s t (Parser.rounds label item x) fun n => Parser.rounds label (item' n) x := by
  induction hlength : x.length using Nat.strongRecOn generalizing x with
  | _ length ih =>
    simp only [fun n => Parser.rounds.eq_def label (item' n) x]
    rw [Parser.rounds]
    refine (hitem x).bind fun result => ?_
    obtain e | ⟨v, r⟩ := result
    · exact .pure
    · dsimp only
      split
      · next hshort =>
        refine (ih _ (hlength ▸ hshort) r rfl).bind fun rest => ?_
        cases rest with
        | error e => exact .pure
        | ok rest => exact .pure
      · exact (log _ _).bind fun _ => .pure

theorem countedRounds (count : Nat) (x : Text) :
    Simulates s t (Parser.countedRounds label item count x)
      fun n => Parser.countedRounds label (item' n) count x := by
  induction count generalizing x with
  | zero => exact .pure
  | succ count ih =>
    refine (hitem x).bind fun result => ?_
    obtain e | ⟨v, r⟩ := result
    · exact .pure
    · refine (ih r).bind fun rest => ?_
      obtain e | ⟨_, _⟩ := rest
      · exact .pure
      · exact .pure

end Repetition

theorem visit {id : NodeId} {kind : Visited → Run α (Shape Description × Visited)}
    {kind' : Nat → Visited → Run α (Shape Description × Visited)}
    (hkind : ∀ v, Simulates s t (kind v) (kind' · v)) (v : Visited) :
    Simulates s t (Parser.visit id kind v) fun n => Parser.visit id (kind' n) v := by
  simp only [Parser.visit]
  split
  · exact .pure
  · exact (hkind _).bind fun _ => .pure

end Simulates

/-! ## Parsers that follow parsers -/

/-- **Whatever is asked of the first parser at the given depth, the second has the same answer to
it.**  If the first parses at all, the second has a label. -/
structure Follows (s t : Session α) (n : Nat) (p q : Parser α) : Prop where
  ask : ∀ {β} (question : Question α β),
    Simulates s t (question.ask (Calls.upTo n) p) fun k => question.ask (Calls.upTo k) q
  labelled : ∀ x, Run.Keeps s.Logged (p.parse (Calls.upTo n) x)
    fun _ => ∃ l, Settles t (fun k => q.label (Calls.upTo k)) l

namespace Follows

variable {s t : Session α} {n : Nat} {p p' q q' : Parser α}

theorem parse (h : Follows s t n p q) (x : Text) :
    Simulates s t (p.parse (Calls.upTo n) x) fun k => q.parse (Calls.upTo k) x :=
  h.ask (.parse x)

theorem label (h : Follows s t n p q) :
    Simulates s t (p.label (Calls.upTo n)) fun k => q.label (Calls.upTo k) :=
  h.ask .label

theorem describe (h : Follows s t n p q) (v : Visited) :
    Simulates s t (p.describe (Calls.upTo n) v) fun k => q.describe (Calls.upTo k) v :=
  h.ask (.describe v)

/-! ## Nodes -/

/-- What a node is asked comes down to its parses and its kind; its label and its identity are its
own. -/
theorem of_node (hp : p.isNode) (hq : q.isNode) (hid : p.id = q.id) {l : String}
    (hpl : ∀ calls, p.label calls = pure l) (hql : ∀ calls, q.label calls = pure l)
    (hparse : ∀ x, Simulates s t (p.parse (Calls.upTo n) x) fun k => q.parse (Calls.upTo k) x)
    (hparseAll : ∀ x,
      Simulates s t (p.parseAll (Calls.upTo n) x) fun k => q.parseAll (Calls.upTo k) x)
    (hkind : ∀ v, Simulates s t (p.kind (Calls.upTo n) v) fun k => q.kind (Calls.upTo k) v) :
    Follows s t n p q where
  ask question := by
    cases question with
    | parse x => exact hparse x
    | parseAll x => exact hparseAll x
    | label =>
      simp only [Question.ask, hpl, hql]
      exact .pure
    | kind v => exact hkind v
    | describe v =>
      simp only [Question.ask, describe_node hp, describe_node hq, hid]
      exact .visit hkind v
  labelled x := by
    simp only [hql]
    exact (hparse x).mono fun _ _ => ⟨l, .pure⟩

/-- The whole of a text, for a node that is no repetition. -/
theorem whole {l : String} (hpl : ∀ calls, p.label calls = pure l)
    (hql : ∀ calls, q.label calls = pure l)
    (hparse : ∀ x, Simulates s t (p.parse (Calls.upTo n) x) fun k => q.parse (Calls.upTo k) x)
    (x : Text) : Simulates s t (do
        let result ← p.parse (Calls.upTo n) x
        return Parser.whole (← p.label (Calls.upTo n)) x result) fun k => do
      let result ← q.parse (Calls.upTo k) x
      return Parser.whole (← q.label (Calls.upTo k)) x result := by
  refine (hparse x).bind fun result => ?_
  simp only [hpl, hql]
  exact .pure

section Kinds

theorem unary (h : Follows s t n p q) (tag : Unary) (v : Visited) :
    Simulates s t (Parser.kind.unary (Calls.upTo n) tag p (p.kind (Calls.upTo n)) v)
      fun k => Parser.kind.unary (Calls.upTo k) tag q (q.kind (Calls.upTo k)) v :=
  (h.describe v).bind fun _ => .pure

theorem binary (h : Follows s t n p q) (h' : Follows s t n p' q') (tag : Binary) (v : Visited) :
    Simulates s t
      (Parser.kind.binary (Calls.upTo n) tag p p' (p.kind (Calls.upTo n))
        (p'.kind (Calls.upTo n)) v)
      fun k => Parser.kind.binary (Calls.upTo k) tag q q' (q.kind (Calls.upTo k))
        (q'.kind (Calls.upTo k)) v :=
  (h.describe v).bind fun d => (h'.describe d.2).bind fun _ => .pure

end Kinds

theorem literal {id : NodeId} {text : Text} :
    Follows s t n (.literal id text) (.literal id text) := by
  have hparse (x : Text) : Simulates s t ((Parser.literal id text).parse (Calls.upTo n) x)
      fun k => (Parser.literal id text).parse (Calls.upTo k) x := by
    simp only [Parser.parse]
    split <;> exact .pure
  exact of_node rfl rfl rfl (fun _ => rfl) (fun _ => rfl) hparse
    (whole (fun _ => rfl) (fun _ => rfl) hparse) fun _ => .pure

theorem pattern {id : NodeId} {r : Pattern} :
    Follows s t n (.pattern id r) (.pattern id r) := by
  have hparse (x : Text) : Simulates s t ((Parser.pattern id r).parse (Calls.upTo n) x)
      fun k => (Parser.pattern id r).parse (Calls.upTo k) x := by
    simp only [Parser.parse]
    split <;> exact .pure
  exact of_node rfl rfl rfl (fun _ => rfl) (fun _ => rfl) hparse
    (whole (fun _ => rfl) (fun _ => rfl) hparse) fun _ => .pure

theorem map {id : NodeId} {f : Output α → Output α} (h : Follows s t n p q) :
    Follows s t n (.map id p f) (.map id q f) := by
  have hparse (x : Text) : Simulates s t ((Parser.map id p f).parse (Calls.upTo n) x)
      fun k => (Parser.map id q f).parse (Calls.upTo k) x := by
    refine (h.parse x).bind fun result => ?_
    split <;> exact .pure
  exact of_node rfl rfl rfl (fun _ => rfl) (fun _ => rfl) hparse
    (whole (fun _ => rfl) (fun _ => rfl) hparse) (h.unary .map)

theorem sequence {id : NodeId} {keep : Keep} (h : Follows s t n p q) (h' : Follows s t n p' q') :
    Follows s t n (.sequence id keep p p') (.sequence id keep q q') := by
  have hparse (x : Text) : Simulates s t ((Parser.sequence id keep p p').parse (Calls.upTo n) x)
      fun k => (Parser.sequence id keep q q').parse (Calls.upTo k) x := by
    refine (h.parse x).bind fun result => ?_
    obtain e | ⟨v, r⟩ := result
    · exact .pure
    · refine (h'.parse r).bind fun result => ?_
      obtain e | ⟨w, r⟩ := result
      · exact .pure
      · exact .pure
  exact of_node rfl rfl rfl (fun _ => rfl) (fun _ => rfl) hparse
    (whole (fun _ => rfl) (fun _ => rfl) hparse) (h.binary h' (.sequence keep))

theorem choice {id : NodeId} (h : Follows s t n p q) (h' : Follows s t n p' q') :
    Follows s t n (.choice id p p') (.choice id q q') := by
  have hparse (x : Text) : Simulates s t ((Parser.choice id p p').parse (Calls.upTo n) x)
      fun k => (Parser.choice id q q').parse (Calls.upTo k) x := by
    simp only [Parser.parse_choice]
    refine (h.parse x).bind fun result => ?_
    obtain e | result := result
    · -- Only the parse that comes after what is logged shows that the branch has a label.
      refine (Run.Keeps.announce (fun _ l h => h.log l) h'.label).bind fun _ _ => ?_
      intro u b u' hu hb
      obtain ⟨result, w, hw, hpure⟩ := Run.bind_eq_some_iff.1 hb
      obtain ⟨hlogged, hsettles⟩ := h'.parse x u result w hu hw
      obtain ⟨l, hl⟩ := (h'.labelled x u result w hu hw).2
      obtain ⟨rfl, rfl⟩ := Run.pure_eq_some_iff.1 hpure
      exact ⟨hlogged, hl.announce.bind (hsettles.bind .pure)⟩
    · exact .pure
  exact of_node rfl rfl rfl (fun _ => rfl) (fun _ => rfl) hparse
    (whole (fun _ => rfl) (fun _ => rfl) hparse) (h.binary h' .choice)

theorem optional {id : NodeId} (h : Follows s t n p q) :
    Follows s t n (.optional id p) (.optional id q) := by
  have hparse (x : Text) : Simulates s t ((Parser.optional id p).parse (Calls.upTo n) x)
      fun k => (Parser.optional id q).parse (Calls.upTo k) x := by
    refine (h.parse x).bind fun result => ?_
    split <;> exact .pure
  exact of_node rfl rfl rfl (fun _ => rfl) (fun _ => rfl) hparse
    (whole (fun _ => rfl) (fun _ => rfl) hparse) (h.unary .optional)

theorem star {id : NodeId} (h : Follows s t n p q) : Follows s t n (.star id p) (.star id q) := by
  refine of_node rfl rfl rfl (fun _ => rfl) (fun _ => rfl) ?_ ?_ (h.unary .star)
  · intro x
    refine (Simulates.rounds h.parse x).bind fun result => ?_
    cases result with
    | error e => exact .pure
    | ok rounds => exact .pure
  · intro x
    refine (Simulates.rounds h.parse x).bind fun result => ?_
    obtain e | ⟨vs, _ | _, last⟩ := result
    · exact .pure
    · exact .pure
    · exact .pure

theorem exactly {id : NodeId} {count : Count} (h : Follows s t n p q) :
    Follows s t n (.exactly id count p) (.exactly id count q) := by
  have hparse (x : Text) : Simulates s t ((Parser.exactly id count p).parse (Calls.upTo n) x)
      fun k => (Parser.exactly id count q).parse (Calls.upTo k) x := by
    simp only [Parser.parse_exactly]
    split
    · refine (Simulates.countedRounds h.parse count.rounds x).bind fun result => ?_
      obtain e | ⟨vs, r⟩ := result
      · exact .pure
      · exact .pure
    · exact .failure
  exact of_node rfl rfl rfl (fun _ => rfl) (fun _ => rfl) hparse
    (whole (fun _ => rfl) (fun _ => rfl) hparse) (h.unary (.exactly count.rounds))

theorem named {id : NodeId} {name : String} (h : Follows s t n p q) :
    Follows s t n (.named id name p) (.named id name q) := by
  have hparse (x : Text) : Simulates s t ((Parser.named id name p).parse (Calls.upTo n) x)
      fun k => (Parser.named id name q).parse (Calls.upTo k) x :=
    (h.parse x).bind fun _ => .pure
  exact of_node rfl rfl rfl (fun _ => rfl) (fun _ => rfl) hparse
    (whole (fun _ => rfl) (fun _ => rfl) hparse) (h.unary (.named name))

/-! ## Boxes and rules -/

theorem boxLeft (h : Follows s t n p q) : Follows s t n (.boxed p) q where
  ask question := by
    rw [Question.ask_boxed]
    exact h.ask question
  labelled := h.labelled

theorem boxRight (h : Follows s t n p q) : Follows s t n p (.boxed q) where
  ask question := by
    simp only [Question.ask_boxed]
    exact h.ask question
  labelled := h.labelled

/-- A rule on the left takes one of the definitions that the first parser may go deep. -/
theorem ruleLeft {h : Rule} (hf : Forces s h (.ok p)) (hp : ∀ k, k < n → Follows s t k p q) :
    Follows s t n (.rule h) q where
  ask question := by
    rw [Question.ask_rule]
    refine (hf.keeps _).bind fun r hr => ?_
    subst hr
    exact question.keeps_call fun k hk => (hp k hk).ask question
  labelled x := by
    refine (hf.keeps _).bind fun r hr => ?_
    subst hr
    exact (Question.parse x).keeps_call fun k hk => (hp k hk).labelled x

theorem settles_rule (question : Question α β) {h : Rule} (hf : Forces t h (.ok q)) {b : β}
    (hb : Settles t (fun k => question.ask (Calls.upTo k) q) b) :
    Settles t (fun k => question.ask (Calls.upTo k) (.rule h)) b := by
  simp only [Question.ask_rule]
  exact (Settles.force hf).bind (hb.deeper fun k => by rw [Question.call_succ])

theorem ruleRight {h : Rule} (hf : Forces t h (.ok q)) (hp : Follows s t n p q) :
    Follows s t n p (.rule h) where
  ask question := (hp.ask question).mono fun _ hb =>
    settles_rule question hf hb
  labelled x := (hp.labelled x).mono fun _ ⟨l, hl⟩ =>
    ⟨l, settles_rule .label hf hl⟩

/-- A rule that cannot be built answers by itself. -/
theorem astray {h : Rule} {fault : Fault} (hs : Forces s h (.error fault))
    (ht : Forces t h (.error fault)) : Follows s t n (.rule h) (.rule h) where
  ask question := by
    have hastray : Simulates s t (question.astray h fault) fun _ => question.astray h fault := by
      cases question with
      | describe v => exact .visit (fun _ => .pure) v
      | parse | parseAll | label | kind => exact .pure
    simp only [Question.ask_rule]
    refine (hs.keeps _).bind fun r hr => ?_
    subst hr
    exact hastray.mono fun _ hb => (Settles.force ht).bind hb
  labelled x := by
    refine Run.Keeps.mono (R := fun _ => True) ?_ fun _ _ =>
      ⟨h.label, (Settles.force ht).bind .pure⟩
    refine (hs.keeps _).bind fun r hr => ?_
    subst hr
    exact .pure trivial

end Follows

/-! ## Detours are invisible -/

namespace Rerouting

variable {s t : Session α} {K : Rule → Prop} {p q : Parser α}

/-- **A grammar answers as the one it is rerouted from**, at every depth: by induction on the depth,
which goes down where a rule of the first is followed, and on the detours between nodes. -/
theorem follows (h : Rerouting s t K) (n : Nat) (hpq : Rerouted s t K p q) :
    Follows s t n p q := by
  induction n using Nat.strongRecOn generalizing p q with
  | _ n ih =>
    induction hpq with
    | literal => exact .literal
    | pattern => exact .pattern
    | map _ ihp => exact ihp.map
    | sequence _ _ ihp ihp' => exact ihp.sequence ihp'
    | choice _ _ ihp ihp' => exact ihp.choice ihp'
    | optional _ ihp => exact ihp.optional
    | star _ ihp => exact ihp.star
    | exactly _ ihp => exact ihp.exactly
    | named _ ihp => exact ihp.named
    | boxLeft _ ihp => exact ihp.boxLeft
    | boxRight _ ihp => exact ihp.boxRight
    | ruleLeft hf hpq _ => exact .ruleLeft hf fun k hk => ih k hk hpq
    | ruleRight hf _ ihp => exact .ruleRight hf ihp
    | rule hh =>
      obtain ⟨p, q, hp, hq, hpq⟩ | ⟨fault, hs, ht⟩ := h.rule _ hh
      · exact .ruleRight hq (.ruleLeft hp fun k hk => ih k hk hpq)
      · exact .astray hs ht

/-- What a grammar answers at some depth, the one that is rerouted from it settles on. -/
theorem settles (h : Rerouting s t K) (hpq : Rerouted s t K p q) {question : Question α β} {b : β}
    {n : Nat} {u : Session α} (hb : question.ask (Calls.upTo n) p s = some (b, u)) :
    Settles t (fun k => question.ask (Calls.upTo k) q) b :=
  ((h.follows n hpq).ask question s b u ⟨s.log, rfl⟩ hb).2

end Rerouting

/-- **Boxes and built rules are invisible.**  Of grammars that are rerouted from each other, what
one answers to a question at some depth, both settle on: a parse, with the whole of its error, a
parse of the whole of a text, a label, a kind or a description. -/
theorem rerouting_invisible {s t : Session α} {K : Rule → Prop} {p q : Parser α}
    (h : Rerouting s t K) (hpq : Rerouted s t K p q) (question : Question α β) (b : β) :
    List.TFAE [
      ∃ n u, question.ask (Calls.upTo n) p s = some (b, u),
      Settles s (fun n => question.ask (Calls.upTo n) p) b,
      ∃ n u, question.ask (Calls.upTo n) q t = some (b, u),
      Settles t (fun n => question.ask (Calls.upTo n) q) b] := by
  tfae_have 1 → 4 := fun ⟨_, _, hb⟩ => h.settles hpq hb
  tfae_have 4 → 3 := Settles.exists_eq_some
  tfae_have 3 → 2 := fun ⟨_, _, hb⟩ => h.symm.settles hpq.symm hb
  tfae_have 2 → 1 := Settles.exists_eq_some
  tfae_finish

/-- Brackets opened before an `x`, as often as one likes: a rule that refers to itself. -/
def direct : Session Unit :=
  let opened := .sequence 3 .both (.literal 2 ['(']) (.rule ⟨0, 0, 0⟩)
  { arenas := [{ slots := [{ value := some (.choice 4 (.literal 1 ['x']) opened) }] }] }

/-- The same with boxes, and with rules for the second branch and for a repetition of it all. -/
def detoured : Session Unit :=
  let opened := .boxed (.sequence 3 .both (.literal 2 ['(']) (.boxed (.rule ⟨0, 0, 0⟩)))
  { arenas := [{ slots := [
      { value := some (.choice 4 (.boxed (.literal 1 ['x'])) (.rule ⟨6, 0, 1⟩)) },
      { value := some opened },
      { value := some (.star 5 (.boxed (.rule ⟨0, 0, 0⟩))) }] }] }

theorem detoured_rerouting : Rerouting direct detoured (· = ⟨0, 0, 0⟩) where
  rule := by
    rintro h rfl
    refine .inl ⟨_, _, fun _ => rfl, fun _ => rfl, .choice (.boxRight .literal) ?_⟩
    exact .ruleRight (fun _ => rfl) (.boxRight (.sequence .literal (.boxRight (.rule rfl))))

/-- The repetition stops at a bracket after which there is no `x`.  The grammar with detours says
so with the same cause. -/
theorem rerouting_invisible_detoured : ∃ cause : ParseError,
    let error := ParseError.unconsumedAfter (NodeId.label 5 "star") ['x', '(', 'y'] ['(', 'y'] cause
    (∃ n u, (Parser.star 5 (.rule ⟨0, 0, 0⟩)).parseAll (Calls.upTo n) ['x', '(', 'y'] direct =
      some (.error error, u)) ∧
    Settles detoured (fun n => (Parser.boxed (.rule ⟨7, 0, 2⟩)).parseAll (Calls.upTo n)
      ['x', '(', 'y']) (.error error) := by
  have hround : ∃ v, (Parser.rule ⟨0, 0, 0⟩).parse (Calls.upTo 3) ['x', '(', 'y'] direct =
      some (.ok (v, ['(', 'y']), direct) := ⟨_, rfl⟩
  have hstop : ∃ cause, (Parser.rule ⟨0, 0, 0⟩).parse (Calls.upTo 3) ['(', 'y'] direct =
      some (.error cause, direct) := ⟨_, rfl⟩
  obtain ⟨v, hround⟩ := hround
  obtain ⟨cause, hstop⟩ := hstop
  have hrest (label : String) : Parser.rounds label
      ((Parser.rule ⟨0, 0, 0⟩).parse (Calls.upTo 3)) ['(', 'y'] direct =
        some (.ok ⟨[], ['(', 'y'], cause⟩, direct) := by
    rw [Parser.rounds]
    exact Run.bind_of_eq_some hstop
  have hrounds (label : String) : Parser.rounds label
      ((Parser.rule ⟨0, 0, 0⟩).parse (Calls.upTo 3)) ['x', '(', 'y'] direct =
        some (.ok ⟨[v], ['(', 'y'], cause⟩, direct) := by
    rw [Parser.rounds, Run.bind_of_eq_some hround]
    exact Run.bind_of_eq_some (hrest label)
  have hall : (Parser.star 5 (.rule ⟨0, 0, 0⟩)).parseAll (Calls.upTo 3) ['x', '(', 'y'] direct =
      some (.error (.unconsumedAfter (NodeId.label 5 "star") ['x', '(', 'y'] ['(', 'y'] cause),
        direct) :=
    Run.bind_of_eq_some (hrounds _)
  have hroot : Rerouted direct detoured (· = ⟨0, 0, 0⟩) (.star 5 (.rule ⟨0, 0, 0⟩))
      (.boxed (.rule ⟨7, 0, 2⟩)) :=
    .boxRight (.ruleRight (fun _ => rfl) (.star (.boxRight (.rule rfl))))
  have htfae := rerouting_invisible detoured_rerouting hroot (.parseAll ['x', '(', 'y'])
    (.error (.unconsumedAfter (NodeId.label 5 "star") ['x', '(', 'y'] ['(', 'y'] cause))
  have hiff := htfae.out 0 3
  exact ⟨cause, ⟨3, direct, hall⟩, hiff.1 ⟨3, direct, hall⟩⟩

end GrammarGraph
