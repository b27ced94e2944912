import GrammarGraph.Proofs.Run

/-!
# Proofs/Engine — what holds of parts holds of everything made of them

Parsing, labelling and describing are put together from very little: reading the session, logging,
and forcing rules.  A `Discipline` is anything that can be said of computations and passes from
those pieces to whatever is sequenced out of them; `Discipline.respects_succ` is the passage, made
once for all of them.

What is known may grow while a computation runs, and parsers that are held in the meantime must stay
known.  So a discipline speaks of *worlds*: `Holds w p` says that the parser is known in the world,
and a computation leads from a world to a larger one.
-/

namespace GrammarGraph

variable {α β γ : Type}

/-- The parsers that a parser is put together from, from left to right. -/
def Parser.parts : Parser α → List (Parser α)
  | .literal _ _ | .pattern _ _ | .rule _ => []
  | .map _ inner _ | .optional _ inner | .star _ inner | .exactly _ _ inner | .named _ _ inner
  | .boxed inner => [inner]
  | .sequence _ _ left right | .choice _ left right => [left, right]

/-- What a choice does before it tries its second branch: where that is logged, the branch is asked
for its label. -/
def Parser.announce (calls : Calls α) (id : NodeId) (right : Parser α) : Run α Unit := do
  if (← get).logging then
    Run.log .trace (id.label Binary.choice.tag ++ " falls back to " ++ (← right.label calls))

theorem Parser.parse_choice (calls : Calls α) (id : NodeId) (left right : Parser α) (x : Text) :
    (Parser.choice id left right).parse calls x = do
      match ← left.parse calls x with
      | .ok result => return .ok result
      | .error _ =>
        Parser.announce calls id right
        return Parser.inContext (id.label Binary.choice.tag) x (← right.parse calls x) := by
  rw [Parser.parse]
  refine congrArg (left.parse calls x >>= ·) (funext fun result => ?_)
  match result with
  | .ok _ => rfl
  | .error _ =>
    rw [Parser.announce, bind_assoc]
    refine congrArg (get >>= ·) (funext fun σ => ?_)
    split
    · simp only [bind_assoc]
    · simp only [pure_bind]

/-- A counted repetition makes room first, and has no result where there is none. -/
theorem Parser.parse_exactly (calls : Calls α) (id : NodeId) (count : Count) (inner : Parser α)
    (x : Text) : (Parser.exactly id count inner).parse calls x =
      if count.Fits then do
        match ← Parser.countedRounds (id.label (Unary.exactly count.rounds).tag)
            (inner.parse calls) count.rounds x with
        | .ok (vs, r) => return .ok (.list vs, r)
        | .error e => return .error e
      else failure := by
  rw [Parser.parse, Run.reserve]
  split
  · exact pure_bind _ _
  · rfl

theorem Run.Keeps.announce {I : Session α → Prop} {R : String → Prop} {calls : Calls α}
    {id : NodeId} {right : Parser α} (hlog : ∀ s l, I s → I { s with log := l })
    (hlabel : Run.Keeps I (right.label calls) R) :
    Run.Keeps I (Parser.announce calls id right) fun _ => True := by
  refine .read fun σ => ?_
  split
  · exact hlabel.bind fun _ _ => .log hlog _ _
  · exact .pure trivial

/-- **What can be said of computations** and passes from pieces to what is made of them. -/
structure Discipline (α : Type) where
  World : Type
  Grows : World → World → Prop
  /-- The parser is known in the world. -/
  Holds : World → Parser α → Prop
  /-- Run in the world, the computation leads to larger worlds and to results as described. -/
  Does : {β : Type} → World → Run α β → (World → β → Prop) → Prop
  refl : ∀ w, Grows w w
  trans : ∀ {u v w}, Grows u v → Grows v w → Grows u w
  holds_mono : ∀ {v w p}, Grows v w → Holds v p → Holds w p
  holds_part : ∀ {w p c}, Holds w p → c ∈ p.parts → Holds w c
  pure : ∀ {β w} {b : β} {R}, R w b → Does w (Pure.pure b) R
  bind : ∀ {β γ w} {m : Run α β} {f : β → Run α γ} {R Q}, Does w m R →
    (∀ v b, Grows w v → R v b → Does v (f b) Q) → Does w (m >>= f) Q
  failure : ∀ {β w} {R : World → β → Prop}, Does w Alternative.failure R
  /-- Of the session, no more is read than whether logging is on. -/
  read : ∀ {β w} {f : Session α → Run α β} {R}, (∀ s t, s.logging = t.logging → f s = f t) →
    (∀ s, Does w (f s) R) → Does w (get >>= f) R
  log : ∀ {w} (level : LogLevel) (message : String), Does w (Run.log level message) fun _ _ => True

namespace Discipline

variable (D : Discipline α) {calls : Calls α}

/-- The computation leads somewhere, whatever its result. -/
abbrev Runs (w : D.World) (m : Run α β) : Prop := D.Does w m fun _ _ => True

/-- The computation leads to a parser that is known, or to a refusal. -/
abbrev Yields {ε : Type} (w : D.World) (m : Run α (Except ε (Parser α))) : Prop :=
  D.Does w m fun v r => ∀ p, r = .ok p → D.Holds v p

/-- **What is done with the definitions of rules is as the discipline says.** -/
structure Respects (calls : Calls α) : Prop where
  parse : ∀ {w p} s, D.Holds w p → D.Runs w (calls.parse p s)
  parseAll : ∀ {w p} s, D.Holds w p → D.Runs w (calls.parseAll p s)
  label : ∀ {w p}, D.Holds w p → D.Runs w (calls.label p)
  describe : ∀ {w p} v, D.Holds w p → D.Runs w (calls.describe p v)
  kind : ∀ {w p} v, D.Holds w p → D.Runs w (calls.kind p v)
  force : ∀ {w h}, D.Holds w (.rule h) → D.Yields w (h.force calls.build)

variable {D}

theorem runs_pure {w : D.World} {b : β} : D.Runs w (Pure.pure b) := D.pure trivial

/-- What a computation leads to, said of it more weakly. -/
theorem weaken {w : D.World} {m : Run α β} {R Q : D.World → β → Prop} (hm : D.Does w m R)
    (h : ∀ v b, D.Grows w v → R v b → Q v b) : D.Does w m Q := by
  have hbind : D.Does w (m >>= Pure.pure) Q := D.bind hm fun v b hv hR => D.pure (h v b hv hR)
  rwa [bind_pure] at hbind

/-- What a computation leads to is left open. -/
theorem runs_of_does {w : D.World} {m : Run α β} {R : D.World → β → Prop} (hm : D.Does w m R) :
    D.Runs w m :=
  weaken hm fun _ _ _ _ => trivial

/-- A first part of whose result nothing is needed. -/
theorem Runs.bind {w : D.World} {m : Run α β} {f : β → Run α γ} {Q : D.World → γ → Prop}
    (hm : D.Runs w m) (hf : ∀ v b, D.Grows w v → D.Does v (f b) Q) : D.Does w (m >>= f) Q :=
  D.bind hm fun v b hv _ => hf v b hv

/-- Going on with what a rule is defined as, or doing without. -/
theorem Respects.force_bind (hc : D.Respects calls) {w : D.World} {h : Rule}
    (hh : D.Holds w (.rule h)) {f : Except Fault (Parser α) → Run α γ} {Q : D.World → γ → Prop}
    (hok : ∀ v p, D.Holds v p → D.Does v (f (.ok p)) Q)
    (herror : ∀ v fault, D.Does v (f (.error fault)) Q) :
    D.Does w (h.force calls.build >>= f) Q := by
  refine D.bind (hc.force hh) fun v r _ hr => ?_
  cases r with
  | error fault => exact herror v fault
  | ok p => exact hok v p (hr p rfl)

/-! ## Labels -/

theorem label (hc : D.Respects calls) : ∀ (p : Parser α) {w : D.World}, D.Holds w p →
    D.Runs w (p.label calls)
  | .literal _ _, _, _ | .pattern _ _, _, _ | .map _ _ _, _, _ | .sequence _ _ _ _, _, _
  | .choice _ _ _, _, _ | .optional _ _, _, _ | .star _ _, _, _ | .exactly _ _ _, _, _
  | .named _ _ _, _, _ => runs_pure
  | .boxed inner, _, hp => label hc inner (D.holds_part hp (by simp [Parser.parts]))
  | .rule _, _, hp => hc.force_bind hp (fun _ _ hq => hc.label hq) fun _ _ => runs_pure

/-! ## Parsing -/

section Repetition

variable {label : String} {item : Text → Run α (Parsed α)}

theorem rounds {w : D.World} (hitem : ∀ {v}, D.Grows w v → ∀ s, D.Runs v (item s)) (s : Text) :
    D.Runs w (Parser.rounds label item s) := by
  induction hn : s.length using Nat.strongRecOn generalizing w s with
  | _ n ih =>
    rw [Parser.rounds]
    refine (hitem (D.refl w) s).bind fun v result hv => ?_
    match result with
    | .error e => exact runs_pure
    | .ok (_, r) =>
      dsimp only
      split
      · next h =>
        refine (ih _ (hn ▸ h) (fun hv' => hitem (D.trans hv hv')) r rfl).bind fun v' result _ => ?_
        cases result with
        | error e => exact runs_pure
        | ok rest => exact runs_pure
      · exact Runs.bind (D.log _ _) fun _ _ _ => runs_pure

theorem countedRounds : ∀ (n : Nat) {w : D.World}, (∀ {v}, D.Grows w v → ∀ s, D.Runs v (item s)) →
    ∀ s, D.Runs w (Parser.countedRounds label item n s)
  | 0, _, _, _ => runs_pure
  | n + 1, w, hitem, s => by
    rw [Parser.countedRounds]
    refine (hitem (D.refl w) s).bind fun v result hv => ?_
    match h : Parser.inContext label s result with
    | .error e => exact runs_pure
    | .ok (_, r) =>
      refine (countedRounds n (fun hv' => hitem (D.trans hv hv')) r).bind fun v' result _ => ?_
      match result with
      | .error e => exact runs_pure
      | .ok (_, _) => exact runs_pure

end Repetition

theorem parse (hc : D.Respects calls) (p : Parser α) : ∀ {w : D.World} (s : Text), D.Holds w p →
    D.Runs w (p.parse calls s) := by
  induction p with
  | literal id text =>
    intro w s _
    rw [Parser.parse]
    split <;> exact runs_pure
  | pattern id p =>
    intro w s _
    rw [Parser.parse]
    split <;> exact runs_pure
  | map id inner f ih =>
    intro w s hp
    rw [Parser.parse]
    refine (ih s (D.holds_part hp (by simp [Parser.parts]))).bind fun v result _ => ?_
    split <;> exact runs_pure
  | sequence id keep left right ihl ihr =>
    intro w s hp
    rw [Parser.parse]
    refine (ihl s (D.holds_part hp (by simp [Parser.parts]))).bind fun v result hv => ?_
    split
    · exact runs_pure
    · next r =>
      have hright := D.holds_part (D.holds_mono hv hp) (c := right) (by simp [Parser.parts])
      refine (ihr r hright).bind fun v' result _ => ?_
      split <;> exact runs_pure
  | choice id left right ihl ihr =>
    intro w s hp
    rw [Parser.parse]
    refine (ihl s (D.holds_part hp (by simp [Parser.parts]))).bind fun v result hv => ?_
    have hright {v' : D.World} (hv' : D.Grows v v') : D.Holds v' right :=
      D.holds_part (D.holds_mono (D.trans hv hv') hp) (by simp [Parser.parts])
    split
    · exact runs_pure
    · refine D.read (fun σ τ hlogging => by rw [hlogging]) fun σ => ?_
      split
      · refine (label hc right (hright (D.refl v))).bind fun v₁ _ h₁ => ?_
        refine Runs.bind (D.log _ _) fun v₂ _ h₂ => ?_
        exact (ihr s (hright (D.trans h₁ h₂))).bind fun _ _ _ => runs_pure
      · exact (ihr s (hright (D.refl v))).bind fun _ _ _ => runs_pure
  | optional id inner ih =>
    intro w s hp
    rw [Parser.parse]
    refine (ih s (D.holds_part hp (by simp [Parser.parts]))).bind fun v result _ => ?_
    split <;> exact runs_pure
  | star id inner ih =>
    intro w s hp
    rw [Parser.parse]
    have hitem {v : D.World} (hv : D.Grows w v) (s : Text) : D.Runs v (inner.parse calls s) :=
      ih s (D.holds_part (D.holds_mono hv hp) (by simp [Parser.parts]))
    refine (rounds hitem s).bind fun v result _ => ?_
    split <;> exact runs_pure
  | exactly id count inner ih =>
    intro w s hp
    rw [Parser.parse_exactly]
    have hitem {v : D.World} (hv : D.Grows w v) (s : Text) : D.Runs v (inner.parse calls s) :=
      ih s (D.holds_part (D.holds_mono hv hp) (by simp [Parser.parts]))
    split
    · refine (countedRounds count.rounds hitem s).bind fun v result _ => ?_
      split <;> exact runs_pure
    · exact D.failure
  | named id name inner ih =>
    intro w s hp
    rw [Parser.parse]
    exact (ih s (D.holds_part hp (by simp [Parser.parts]))).bind fun _ _ _ => runs_pure
  | boxed inner ih =>
    intro w s hp
    exact ih s (D.holds_part hp (by simp [Parser.parts]))
  | rule h =>
    intro w s hp
    exact hc.force_bind hp (fun _ _ hq => hc.parse s hq) fun _ _ => runs_pure

theorem parseAll (hc : D.Respects calls) (p : Parser α) : ∀ {w : D.World} (s : Text),
    D.Holds w p → D.Runs w (p.parseAll calls s) := by
  have whole {w : D.World} (q : Parser α) (s : Text) (hq : D.Holds w q) :
      D.Runs w (do
        let result ← q.parse calls s
        return Parser.whole (← q.label calls) s result) :=
    (parse hc q s hq).bind fun v _ hv =>
      (label hc q (D.holds_mono hv hq)).bind fun _ _ _ => runs_pure
  induction p with
  | boxed inner ih =>
    intro w s hp
    exact ih s (D.holds_part hp (by simp [Parser.parts]))
  | rule h =>
    intro w s hp
    exact hc.force_bind hp (fun _ _ hq => hc.parseAll s hq) fun _ _ => runs_pure
  | star id inner ih =>
    intro w s hp
    rw [Parser.parseAll]
    have hitem {v : D.World} (hv : D.Grows w v) (s : Text) : D.Runs v (inner.parse calls s) :=
      parse hc inner s (D.holds_part (D.holds_mono hv hp) (by simp [Parser.parts]))
    refine (rounds hitem s).bind fun v result _ => ?_
    split <;> exact runs_pure
  | literal | pattern | map | sequence | choice | optional | exactly | named =>
    intro w s hp
    exact whole _ s hp

/-! ## Describing -/

theorem visit {w : D.World} {id : NodeId} {kind : Visited → Run α (Shape Description × Visited)}
    (hkind : ∀ v, D.Runs w (kind v)) (v : Visited) : D.Runs w (Parser.visit id kind v) := by
  rw [Parser.visit]
  split
  · exact runs_pure
  · exact (hkind _).bind fun _ _ _ => runs_pure

theorem enter (hc : D.Respects calls) {kind : Visited → Run α (Shape Description × Visited)} :
    ∀ (p : Parser α) {w : D.World}, D.Holds w p → (∀ v, D.Runs w (kind v)) → ∀ v,
      D.Runs w (Parser.enter calls kind p v)
  | .boxed inner, _, hp, hkind, v =>
    enter hc inner (D.holds_part hp (by simp [Parser.parts])) hkind v
  | .rule h, _, hp, _, v => hc.force_bind hp (fun _ _ hq => hc.describe v hq) fun _ _ =>
    visit (fun _ => runs_pure) v
  | .literal _ _, _, _, hkind, v | .pattern _ _, _, _, hkind, v | .map _ _ _, _, _, hkind, v
  | .sequence _ _ _ _, _, _, hkind, v | .choice _ _ _, _, _, hkind, v
  | .optional _ _, _, _, hkind, v
  | .star _ _, _, _, hkind, v | .exactly _ _ _, _, _, hkind, v | .named _ _ _, _, _, hkind, v =>
    visit hkind v

theorem kind (hc : D.Respects calls) (p : Parser α) : ∀ {w : D.World} (v : Visited), D.Holds w p →
    D.Runs w (p.kind calls v) := by
  have unary {w : D.World} (tag : Unary) {inner : Parser α} (v : Visited) (hi : D.Holds w inner)
      (ih : ∀ v, D.Runs w (inner.kind calls v)) :
      D.Runs w (Parser.kind.unary calls tag inner (inner.kind calls) v) :=
    (enter hc inner hi ih v).bind fun _ _ _ => runs_pure
  have binary {w : D.World} (tag : Binary) {left right : Parser α} (v : Visited)
      (hl : D.Holds w left) (hr : D.Holds w right) (ihl : ∀ v, D.Runs w (left.kind calls v))
      (ihr : ∀ {w' : D.World}, D.Grows w w' → ∀ v, D.Runs w' (right.kind calls v)) :
      D.Runs w (Parser.kind.binary calls tag left right (left.kind calls) (right.kind calls) v) :=
    (enter hc left hl ihl v).bind fun w' _ hw =>
      (enter hc right (D.holds_mono hw hr) (ihr hw) _).bind fun _ _ _ => runs_pure
  induction p with
  | literal | pattern => exact fun _ _ => runs_pure
  | map id inner _ ih | optional id inner ih | star id inner ih | exactly id _ inner ih
  | named id _ inner ih =>
    intro w v hp
    have hi : D.Holds w inner := D.holds_part hp (by simp [Parser.parts])
    exact unary _ v hi fun v => ih v hi
  | sequence id _ left right ihl ihr | choice id left right ihl ihr =>
    intro w v hp
    have hl : D.Holds w left := D.holds_part hp (by simp [Parser.parts])
    have hr : D.Holds w right := D.holds_part hp (by simp [Parser.parts])
    exact binary _ v hl hr (fun v => ihl v hl) fun hw v => ihr v (D.holds_mono hw hr)
  | boxed inner ih =>
    intro w v hp
    exact ih v (D.holds_part hp (by simp [Parser.parts]))
  | rule h =>
    intro w v hp
    exact hc.force_bind hp (fun _ _ hq => hc.kind v hq) fun _ _ => runs_pure

theorem describe (hc : D.Respects calls) (p : Parser α) {w : D.World} (v : Visited)
    (hp : D.Holds w p) : D.Runs w (p.describe calls v) :=
  enter hc p hp (fun v => kind hc p v hp) v

/-! ## Invariants of sessions -/

/-- **The discipline of an invariant** that logging does not disturb. -/
def keeping (I : Session α → Prop) (hlog : ∀ s l, I s → I { s with log := l }) : Discipline α where
  World := Unit
  Grows _ _ := True
  Holds _ _ := True
  Does _ m R := Run.Keeps I m (R ())
  refl _ := trivial
  trans _ _ := trivial
  holds_mono _ _ := trivial
  holds_part _ _ := trivial
  pure := Run.Keeps.pure
  bind hm hf := hm.bind fun b hb => hf () b trivial hb
  failure := Run.Keeps.failure
  read _ := Run.Keeps.read
  log := Run.Keeps.log hlog

/-! ## Going deeper -/

/-- **What goes a definition deeper is as the discipline says**, given that forcing is. -/
theorem respects_succ {n : Nat} (hc : D.Respects (Calls.upTo n : Calls α))
    (hforce : ∀ {w h}, D.Holds w (.rule h) →
      D.Yields w (h.force (Calls.upTo (n + 1) : Calls α).build)) :
    D.Respects (Calls.upTo (n + 1) : Calls α) where
  parse s hp := parse hc _ s hp
  parseAll s hp := parseAll hc _ s hp
  label hp := label hc _ hp
  describe v hp := describe hc _ v hp
  kind v hp := kind hc _ v hp
  force hh := hforce hh

/-- Calls that go no deeper lead nowhere. -/
theorem respects_zero (hforce : ∀ {w h}, D.Holds w (.rule h) →
    D.Yields w (h.force (Calls.upTo 0 : Calls α).build)) : D.Respects (Calls.upTo 0 : Calls α) where
  parse _ _ := D.failure
  parseAll _ _ := D.failure
  label _ := D.failure
  describe _ _ := D.failure
  kind _ _ := D.failure
  force hh := hforce hh

/-- **The engine is as the discipline says if forcing a rule is.** -/
theorem respects (hforce : ∀ n {w h}, D.Holds w (.rule h) →
    D.Yields w (h.force (Calls.upTo n : Calls α).build)) :
    ∀ n, D.Respects (Calls.upTo n : Calls α)
  | 0 => respects_zero (hforce 0)
  | n + 1 => respects_succ (respects hforce n) (hforce (n + 1))

end Discipline

end GrammarGraph
