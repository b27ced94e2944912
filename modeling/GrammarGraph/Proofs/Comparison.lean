import GrammarGraph.Proofs.Alike
import GrammarGraph.Proofs.Engine

/-!
# Proofs/Comparison — computations that do the same, piece by piece

    p ──parse──▸ result            parsers, results and errors that are alike
    q ──parse──▸ result

A `Discipline` says something of every computation; a `Comparison` says it of two at a time.  They
run in two sessions, on parsers that are alike but for identities, and may go to different depths.
What passes from pieces to whatever is sequenced out of them passes to parsing, labelling and
describing (`Comparison.respects_succ`), so it is enough to compare how rules are forced.

Which identities correspond may be settled in the middle of a computation, when a node is built on
either side, so a comparison speaks of worlds that grow.
-/

namespace GrammarGraph

variable {α β γ δ ε : Type}

/-- **What can be said of two computations** and passes from pieces to what is made of them. -/
structure Comparison (α : Type) where
  World : Type
  Grows : World → World → Prop
  /-- The identities correspond. -/
  Same : World → NodeId → NodeId → Prop
  /-- Run in the world, the computations lead to a larger world and to results as described. -/
  Does : {β γ : Type} → World → Run α β → Run α γ → (World → β → γ → Prop) → Prop
  refl : ∀ w, Grows w w
  trans : ∀ {u v w}, Grows u v → Grows v w → Grows u w
  same_mono : ∀ {v w}, Grows v w → ∀ i j, Same v i j → Same w i j
  same_unique : ∀ {w i j k l}, Same w i j → Same w k l → (i = k ↔ j = l)
  pure : ∀ {β γ w} {b : β} {c : γ} {R}, R w b c → Does w (Pure.pure b) (Pure.pure c) R
  bind : ∀ {β γ δ ε w} {m : Run α β} {m' : Run α γ} {f : β → Run α δ} {f' : γ → Run α ε} {R Q},
    Does w m m' R → (∀ v b c, Grows w v → R v b c → Does v (f b) (f' c) Q) →
      Does w (m >>= f) (m' >>= f') Q
  failure : ∀ {β γ w} {m : Run α γ} {R : World → β → γ → Prop}, Does w Alternative.failure m R
  read : ∀ {β γ w} {f : Session α → Run α β} {f' : Session α → Run α γ} {R},
    (∀ s s', s.logging = s'.logging → Does w (f s) (f' s') R) → Does w (get >>= f) (get >>= f') R
  log : ∀ {w} (level : LogLevel) (message message' : String),
    Does w (Run.log level message) (Run.log level message') fun _ _ _ => True

namespace Comparison

variable (D : Comparison α) {calls calls' : Calls α}

/-- The parsers are alike in the world. -/
abbrev Holds (w : D.World) (p q : Parser α) : Prop := p.Alike (D.Same w) q

/-- The computations lead to labels that are alike. -/
abbrev Labels (w : D.World) (m m' : Run α String) : Prop :=
  D.Does w m m' fun v => LabelAlike (D.Same v)

/-- The computations lead to values that are equal, or to errors that are alike. -/
abbrev Parses (w : D.World) (m m' : Run α (Except ParseError β)) : Prop :=
  D.Does w m m' fun v => ResultAlike (D.Same v) Eq

/-- The computations lead to parsers that are alike, or to the same refusal. -/
abbrev Yields (w : D.World) (m m' : Run α (Except Fault (Parser α))) : Prop :=
  D.Does w m m' fun v r r' => match r, r' with
    | .ok p, .ok q => D.Holds v p q
    | .error fault, .error fault' => fault = fault'
    | _, _ => False

/-- The computations lead to things that are related, and the same has been visited. -/
abbrev Visits (R : (NodeId → NodeId → Prop) → β → γ → Prop) (w : D.World)
    (m : Run α (β × Visited)) (m' : Run α (γ × Visited)) : Prop :=
  D.Does w m m' fun v r r' => R (D.Same v) r.1 r'.1 ∧ List.Forall₂ (D.Same v) r.2 r'.2

/-- The computations describe something alike. -/
abbrev Describes (w : D.World) (m m' : Run α (Description × Visited)) : Prop :=
  D.Visits Description.Alike w m m'

/-- The computations tell kinds that are alike. -/
abbrev Shapes (w : D.World) (m m' : Run α (Shape Description × Visited)) : Prop :=
  D.Visits (fun S => Shape.Alike (Description.Alike S)) w m m'

/-- **What is done with the definitions of rules compares.** -/
structure Respects (calls calls' : Calls α) : Prop where
  parse : ∀ {w p q} x, D.Holds w p q → D.Parses w (calls.parse p x) (calls'.parse q x)
  parseAll : ∀ {w p q} x, D.Holds w p q → D.Parses w (calls.parseAll p x) (calls'.parseAll q x)
  label : ∀ {w p q}, D.Holds w p q → D.Labels w (calls.label p) (calls'.label q)
  describe : ∀ {w p q v v'}, D.Holds w p q → List.Forall₂ (D.Same w) v v' →
    D.Describes w (calls.describe p v) (calls'.describe q v')
  kind : ∀ {w p q v v'}, D.Holds w p q → List.Forall₂ (D.Same w) v v' →
    D.Shapes w (calls.kind p v) (calls'.kind q v')
  force : ∀ {w} {h h' : Rule}, h.Alike (D.Same w) h' →
    D.Yields w (h.force calls.build) (h'.force calls'.build)

variable {D} {w v : D.World} {p q : Parser α}

theorem Holds.mono (hw : D.Grows w v) (h : D.Holds w p q) : D.Holds v p q :=
  Parser.Alike.mono (D.same_mono hw) h

/-- A first part of whose results nothing is needed. -/
theorem skip {m : Run α β} {m' : Run α γ} {f : β → Run α δ} {f' : γ → Run α ε}
    {R : D.World → β → γ → Prop} {Q : D.World → δ → ε → Prop} (hm : D.Does w m m' R)
    (hf : ∀ v b c, D.Grows w v → D.Does v (f b) (f' c) Q) : D.Does w (m >>= f) (m' >>= f') Q :=
  D.bind hm fun v b c hv _ => hf v b c hv

/-- Going on where both have parsed the same, or have failed alike. -/
theorem bind_parses {m m' : Run α (Except ParseError β)} {f : Except ParseError β → Run α γ}
    {f' : Except ParseError β → Run α δ} {Q : D.World → γ → δ → Prop} (hm : D.Parses w m m')
    (hok : ∀ v b, D.Grows w v → D.Does v (f (.ok b)) (f' (.ok b)) Q)
    (herror : ∀ v e e', D.Grows w v → e.Alike (D.Same v) e' →
      D.Does v (f (.error e)) (f' (.error e')) Q) : D.Does w (m >>= f) (m' >>= f') Q := by
  refine D.bind hm fun v r r' hv hr => ?_
  cases hr with
  | error he => exact herror v _ _ hv he
  | @ok b _ h =>
    subst h
    exact hok v b hv

/-- Going on with what a rule is defined as, or doing without. -/
theorem Respects.force_bind (hc : D.Respects calls calls') {h h' : Rule}
    (hh : h.Alike (D.Same w) h') {f : Except Fault (Parser α) → Run α β}
    {f' : Except Fault (Parser α) → Run α γ} {Q : D.World → β → γ → Prop}
    (hok : ∀ v p q, D.Grows w v → D.Holds v p q → D.Does v (f (.ok p)) (f' (.ok q)) Q)
    (herror : ∀ v fault, D.Grows w v → D.Does v (f (.error fault)) (f' (.error fault)) Q) :
    D.Does w (h.force calls.build >>= f) (h'.force calls'.build >>= f') Q := by
  refine D.bind (hc.force hh) fun v r r' hv hr => ?_
  cases r with
  | ok p =>
    cases r' with
    | ok q => exact hok v p q hv hr
    | error => exact hr.elim
  | error fault =>
    cases r' with
    | ok => exact hr.elim
    | error =>
      subst hr
      exact herror v fault hv

/-! ## Labels -/

theorem label (hc : D.Respects calls calls') (h : D.Holds w p q) :
    D.Labels w (p.label calls) (q.label calls') := by
  induction h with
  | literal _ text => exact D.pure (.text _)
  | pattern _ p => exact D.pure (.text _)
  | map h => exact D.pure (.node h _)
  | sequence h => exact D.pure (.node h _)
  | choice h => exact D.pure (.node h _)
  | optional h => exact D.pure (.node h _)
  | star h => exact D.pure (.node h _)
  | exactly h => exact D.pure (.node h _)
  | named _ name => exact D.pure (.text name)
  | boxed _ ih => exact ih
  | rule hh =>
    exact hc.force_bind hh (fun _ _ _ _ hpq => hc.label hpq) fun v _ hv =>
      D.pure (.node (D.same_mono hv _ _ hh.id) "lazy")

theorem announce (hc : D.Respects calls calls') {i j : NodeId} (h : D.Holds w p q) :
    D.Does w (Parser.announce calls i p) (Parser.announce calls' j q) fun _ _ _ => True := by
  refine D.read fun s s' hlogging => ?_
  rw [hlogging]
  split
  · exact skip (label hc h) fun _ _ _ _ => D.log _ _ _
  · exact D.pure trivial

/-! ## Repetition -/

section Repetition

variable {g g' : String} {item item' : Text → Run α (Parsed α)}

/-- Outcomes of repetitions that are equal, but for the failures that have ended them. -/
structure RoundsAlike (S : NodeId → NodeId → Prop) (a b : Parser.Rounds α) : Prop where
  outputs : a.outputs = b.outputs
  remaining : a.remaining = b.remaining
  last : a.last.Alike S b.last

theorem rounds (hg : LabelAlike (D.Same w) g g')
    (hitem : ∀ {v}, D.Grows w v → ∀ x, D.Parses v (item x) (item' x)) (x : Text) :
    D.Does w (Parser.rounds g item x) (Parser.rounds g' item' x) fun v =>
      ResultAlike (D.Same v) (RoundsAlike (D.Same v)) := by
  induction hn : x.length using Nat.strongRecOn generalizing w x with
  | _ n ih =>
    rw [Parser.rounds, Parser.rounds]
    refine bind_parses (hitem (D.refl w) x) (fun v b hv => ?_) fun v e e' _ he =>
      D.pure (.ok ⟨rfl, rfl, he⟩)
    obtain ⟨u, y⟩ := b
    dsimp only
    split
    · next h =>
      have hrest := ih _ (hn ▸ h) (hg.mono (D.same_mono hv)) (fun hv' => hitem (D.trans hv hv'))
        y rfl
      refine D.bind hrest fun v' r r' _ hr => ?_
      cases hr with
      | error he => exact D.pure (.error he)
      | ok h => exact D.pure (.ok ⟨congrArg (u :: ·) h.outputs, h.remaining, h.last⟩)
    · exact skip (D.log _ _ _) fun v' _ _ hv' =>
        D.pure (.error (.definition (hg.mono (D.same_mono (D.trans hv hv'))) _ _))

theorem countedRounds : ∀ (n : Nat) {w : D.World}, LabelAlike (D.Same w) g g' →
    (∀ {v}, D.Grows w v → ∀ x, D.Parses v (item x) (item' x)) → ∀ x,
      D.Parses w (Parser.countedRounds g item n x) (Parser.countedRounds g' item' n x)
  | 0, _, _, _, _ => D.pure (.ok rfl)
  | n + 1, w, hg, hitem, x => by
    rw [Parser.countedRounds, Parser.countedRounds]
    have hgrows {v : D.World} (hv : D.Grows w v) : LabelAlike (D.Same v) g g' :=
      hg.mono (D.same_mono hv)
    refine bind_parses (hitem (D.refl w) x) (fun v b hv => ?_) fun v e e' hv he =>
      D.pure (.error (he.within (hgrows hv) x))
    refine bind_parses (countedRounds n (hgrows hv) (fun hv' => hitem (D.trans hv hv')) b.2)
      (fun _ _ _ => D.pure (.ok rfl)) fun _ _ _ _ he => D.pure (.error he)

end Repetition

/-! ## Parsing -/

theorem parse (hc : D.Respects calls calls') (x : Text) (h : D.Holds w p q) :
    D.Parses w (p.parse calls x) (q.parse calls' x) := by
  -- The relation stays fixed in the induction while the world grows, so it is told by parsers.
  suffices hp : ∀ {v}, D.Grows w v → ∀ x, D.Parses v (p.parse calls x) (q.parse calls' x) from
    hp (D.refl w) x
  induction h with
  | literal hid text =>
    intro v hv x
    rw [Parser.parse, Parser.parse]
    split
    · exact D.pure (.ok rfl)
    · exact D.pure (.error (.mismatch (.text _) _))
  | pattern hid p =>
    intro v hv x
    rw [Parser.parse, Parser.parse]
    split
    · exact D.pure (.ok rfl)
    · exact D.pure (.error (.mismatch (.text _) _))
  | map hid f hp ih =>
    intro v hv x
    rw [Parser.parse, Parser.parse]
    exact bind_parses (ih hv x) (fun _ _ _ => D.pure (.ok rfl)) fun _ _ _ _ he =>
      D.pure (.error he)
  | sequence hid keep hp hq ihl ihr =>
    intro v hv x
    rw [Parser.parse, Parser.parse]
    -- Wherever the sequence fails, it is the context of what has failed.
    have hlabel {v : D.World} (hv : D.Grows _ v) := LabelAlike.node (D.same_mono hv _ _ hid)
      (Binary.sequence keep).tag
    refine bind_parses (ihl hv x) (fun v₁ b hv₁ => ?_) fun v₁ e e' hv₁ he =>
      D.pure ((ResultAlike.error he).inContext (hlabel (D.trans hv hv₁)) x)
    have hw₁ := D.trans hv hv₁
    exact bind_parses (ihr hw₁ b.2) (fun _ _ _ => D.pure (.ok rfl)) fun v₂ e e' hv₂ he =>
      D.pure ((ResultAlike.error he).inContext (hlabel (D.trans hw₁ hv₂)) x)
  | choice hid hp hq ihl ihr =>
    intro v hv x
    rw [Parser.parse_choice, Parser.parse_choice]
    refine bind_parses (ihl hv x) (fun _ _ _ => D.pure (.ok rfl)) fun v₁ e e' hv₁ _ => ?_
    have hw₁ := D.trans hv hv₁
    refine skip (announce hc (Holds.mono hw₁ hq)) fun v₂ _ _ hv₂ => ?_
    have hw₂ := D.trans hw₁ hv₂
    refine D.bind (ihr hw₂ x) fun v₃ r r' hv₃ hr => ?_
    exact D.pure (hr.inContext (.node (D.same_mono (D.trans hw₂ hv₃) _ _ hid) _) x)
  | optional hid hp ih =>
    intro v hv x
    rw [Parser.parse, Parser.parse]
    exact bind_parses (ih hv x) (fun _ _ _ => D.pure (.ok rfl)) fun _ _ _ _ _ =>
      D.pure (.ok rfl)
  | star hid hp ih =>
    intro v hv x
    rw [Parser.parse, Parser.parse]
    have hrounds := rounds (.node (D.same_mono hv _ _ hid) Unary.star.tag)
      (fun hv' x => ih (D.trans hv hv') x) x
    refine D.bind hrounds fun v' r r' _ hr => ?_
    cases hr with
    | error he => exact D.pure (.error he)
    | ok h =>
      dsimp only
      rw [h.outputs, h.remaining]
      exact D.pure (.ok rfl)
  | exactly hid count hp ih =>
    intro v hv x
    rw [Parser.parse_exactly, Parser.parse_exactly]
    have hrounds := countedRounds count.rounds
      (.node (D.same_mono hv _ _ hid) (Unary.exactly count.rounds).tag)
      (fun hv' x => ih (D.trans hv hv') x) x
    split
    · exact bind_parses hrounds (fun _ _ _ => D.pure (.ok rfl)) fun _ _ _ _ he =>
        D.pure (.error he)
    · exact D.failure
  | named hid name hp ih =>
    intro v hv x
    rw [Parser.parse, Parser.parse]
    exact D.bind (ih hv x) fun v' r r' _ hr => D.pure (hr.inContext (.text name) x)
  | boxed _ ih => exact ih
  | rule hh =>
    intro v hv x
    have hv' : Rule.Alike (D.Same v) _ _ := ⟨D.same_mono hv _ _ hh.id, hh.place⟩
    exact hc.force_bind hv' (fun _ _ _ _ hpq => hc.parse x hpq) fun v₁ fault hv₁ =>
      D.pure (.error (.definition (.node (D.same_mono hv₁ _ _ hv'.id) "lazy") _ fault))

/-- What a parser leaves, told of a text that was to be consumed whole. -/
theorem whole {S : NodeId → NodeId → Prop} {r r' : Parsed α} {g g' : String}
    (hr : ResultAlike S Eq r r') (hg : LabelAlike S g g') (x : Text) :
    ResultAlike S Eq (Parser.whole g x r) (Parser.whole g' x r') := by
  cases hr with
  | error he => exact .error he
  | @ok b c h =>
    subst h
    obtain ⟨_, _ | _⟩ := b
    · exact .ok rfl
    · exact .error (.unconsumed hg _ _)

theorem parseAll (hc : D.Respects calls calls') (x : Text) (h : D.Holds w p q) :
    D.Parses w (p.parseAll calls x) (q.parseAll calls' x) := by
  have parsed {p q : Parser α} (h : D.Holds w p q) : D.Parses w
      (do
        let result ← p.parse calls x
        return Parser.whole (← p.label calls) x result)
      (do
        let result ← q.parse calls' x
        return Parser.whole (← q.label calls') x result) :=
    D.bind (parse hc x h) fun v r r' hv hr =>
      D.bind (label hc (h.mono hv)) fun v' g g' hv' hg =>
        D.pure (whole (hr.mono (D.same_mono hv')) hg x)
  induction h with
  | boxed _ ih => exact ih
  | rule hh =>
    exact hc.force_bind hh (fun _ _ _ _ hpq => hc.parseAll x hpq) fun v fault hv =>
      D.pure (.error (.definition (.node (D.same_mono hv _ _ hh.id) "lazy") _ fault))
  | star hid hp _ =>
    rw [Parser.parseAll, Parser.parseAll]
    have hrounds := rounds (.node hid Unary.star.tag)
      (fun hv x => parse hc x (Holds.mono hv hp)) x
    refine D.bind hrounds fun v r r' hv hr => ?_
    cases hr with
    | error he => exact D.pure (.error he)
    | @ok b c h =>
      obtain ⟨vs, y, e⟩ := b
      obtain ⟨vs', y', e'⟩ := c
      obtain ⟨rfl, rfl, he⟩ := h
      have hstar := LabelAlike.node (D.same_mono hv _ _ hid) Unary.star.tag
      cases y with
      | nil => exact D.pure (.ok rfl)
      | cons => exact D.pure (.error (.unconsumedAfter hstar _ _ he))
  | literal hid text => exact parsed (.literal hid text)
  | pattern hid p => exact parsed (.pattern hid p)
  | map hid f hp => exact parsed (.map hid f hp)
  | sequence hid keep hp hq => exact parsed (.sequence hid keep hp hq)
  | choice hid hp hq => exact parsed (.choice hid hp hq)
  | optional hid hp => exact parsed (.optional hid hp)
  | exactly hid count hp => exact parsed (.exactly hid count hp)
  | named hid name hp => exact parsed (.named hid name hp)

/-! ## Describing -/

section Describing

variable {vs vs' : Visited}

theorem visit {i j : NodeId} {kind kind' : Visited → Run α (Shape Description × Visited)}
    (hid : D.Same w i j) (hkind : ∀ {vs vs'}, List.Forall₂ (D.Same w) vs vs' →
      D.Shapes w (kind vs) (kind' vs')) (hvs : List.Forall₂ (D.Same w) vs vs') :
    D.Describes w (Parser.visit i kind vs) (Parser.visit j kind' vs') := by
  have hcontains : vs.contains i = vs'.contains j :=
    contains_eq_of_forall₂ (fun _ _ hkl => D.same_unique hid hkl) hvs
  rw [Parser.visit, Parser.visit, hcontains]
  split
  · exact D.pure ⟨.backRef hid, hvs⟩
  · refine D.bind (hkind (.cons hid hvs)) fun v r r' hv hr => ?_
    exact D.pure ⟨.expanded (D.same_mono hv _ _ hid) hr.1, hr.2⟩

theorem enter (hc : D.Respects calls calls')
    {kind kind' : Visited → Run α (Shape Description × Visited)} (h : D.Holds w p q)
    (hkind : ∀ {vs vs'}, List.Forall₂ (D.Same w) vs vs' → D.Shapes w (kind vs) (kind' vs'))
    (hvs : List.Forall₂ (D.Same w) vs vs') :
    D.Describes w (Parser.enter calls kind p vs) (Parser.enter calls' kind' q vs') := by
  induction h with
  | boxed _ ih => exact ih
  | rule hh =>
    refine hc.force_bind hh (fun v _ _ hv hpq => hc.describe hpq (hvs.imp (D.same_mono hv)))
      fun v fault hv => visit (D.same_mono hv _ _ hh.id) (fun hvs => D.pure ⟨.leaf _, hvs⟩)
        (hvs.imp (D.same_mono hv))
  | literal hid | pattern hid | map hid | sequence hid | choice hid | optional hid | star hid
  | exactly hid | named hid => exact visit hid hkind hvs

theorem kind (hc : D.Respects calls calls') (h : D.Holds w p q)
    (hvs : List.Forall₂ (D.Same w) vs vs') : D.Shapes w (p.kind calls vs) (q.kind calls' vs') := by
  suffices hp : ∀ {v}, D.Grows w v → ∀ {vs vs'}, List.Forall₂ (D.Same v) vs vs' →
      D.Shapes v (p.kind calls vs) (q.kind calls' vs') from hp (D.refl w) hvs
  have unary (tag : Unary) {p q : Parser α} (h : D.Holds w p q)
      (ih : ∀ {v}, D.Grows w v → ∀ {vs vs'}, List.Forall₂ (D.Same v) vs vs' →
        D.Shapes v (p.kind calls vs) (q.kind calls' vs')) {v : D.World} (hv : D.Grows w v)
      {vs vs' : Visited} (hvs : List.Forall₂ (D.Same v) vs vs') :
      D.Shapes v (Parser.kind.unary calls tag p (p.kind calls) vs)
        (Parser.kind.unary calls' tag q (q.kind calls') vs') :=
    D.bind (enter hc (h.mono hv) (ih hv) hvs) fun v' r r' _ hr =>
      D.pure ⟨.unary tag hr.1, hr.2⟩
  have binary (tag : Binary) {p q p' q' : Parser α} (hp : D.Holds w p p') (hq : D.Holds w q q')
      (ihp : ∀ {v}, D.Grows w v → ∀ {vs vs'}, List.Forall₂ (D.Same v) vs vs' →
        D.Shapes v (p.kind calls vs) (p'.kind calls' vs'))
      (ihq : ∀ {v}, D.Grows w v → ∀ {vs vs'}, List.Forall₂ (D.Same v) vs vs' →
        D.Shapes v (q.kind calls vs) (q'.kind calls' vs')) {v : D.World} (hv : D.Grows w v)
      {vs vs' : Visited} (hvs : List.Forall₂ (D.Same v) vs vs') :
      D.Shapes v (Parser.kind.binary calls tag p q (p.kind calls) (q.kind calls) vs)
        (Parser.kind.binary calls' tag p' q' (p'.kind calls') (q'.kind calls') vs') := by
    refine D.bind (enter hc (hp.mono hv) (ihp hv) hvs) fun v₁ r r' hv₁ hr => ?_
    have hw₁ := D.trans hv hv₁
    refine D.bind (enter hc (hq.mono hw₁) (ihq hw₁) hr.2) fun v₂ t t' hv₂ ht => ?_
    exact D.pure ⟨.binary tag (hr.1.mono (D.same_mono hv₂)) ht.1, ht.2⟩
  induction h with
  | literal _ text => exact fun _ _ _ hvs => D.pure ⟨.leaf _, hvs⟩
  | pattern _ p => exact fun _ _ _ hvs => D.pure ⟨.leaf _, hvs⟩
  | map _ _ hp ih => exact unary .map hp ih
  | optional _ hp ih => exact unary .optional hp ih
  | star _ hp ih => exact unary .star hp ih
  | exactly _ count hp ih => exact unary (.exactly count.rounds) hp ih
  | named _ name hp ih => exact unary (.named name) hp ih
  | sequence _ keep hp hq ihp ihq => exact binary (.sequence keep) hp hq ihp ihq
  | choice _ hp hq ihp ihq => exact binary .choice hp hq ihp ihq
  | boxed _ ih => exact ih
  | rule hh =>
    intro v hv vs vs' hvs
    have hv' : Rule.Alike (D.Same v) _ _ := ⟨D.same_mono hv _ _ hh.id, hh.place⟩
    exact hc.force_bind hv' (fun v₁ _ _ hv₁ hpq => hc.kind hpq (hvs.imp (D.same_mono hv₁)))
      fun v₁ fault hv₁ => D.pure ⟨.leaf _, hvs.imp (D.same_mono hv₁)⟩

theorem describe (hc : D.Respects calls calls') (h : D.Holds w p q)
    (hvs : List.Forall₂ (D.Same w) vs vs') :
    D.Describes w (p.describe calls vs) (q.describe calls' vs') :=
  enter hc h (fun hvs => kind hc h hvs) hvs

end Describing

/-! ## Going deeper -/

/-- **What goes a definition deeper compares**, given that forcing does. -/
theorem respects_succ {n n' : Nat} (hc : D.Respects (Calls.upTo n) (Calls.upTo n'))
    (hforce : ∀ {w} {h h' : Rule}, h.Alike (D.Same w) h' →
      D.Yields w (h.force (Calls.upTo (n + 1)).build) (h'.force (Calls.upTo (n' + 1)).build)) :
    D.Respects (Calls.upTo (n + 1)) (Calls.upTo (n' + 1)) where
  parse x h := parse hc x h
  parseAll x h := parseAll hc x h
  label h := label hc h
  describe h hvs := describe hc h hvs
  kind h hvs := kind hc h hvs
  force hh := hforce hh

end Comparison

end GrammarGraph
