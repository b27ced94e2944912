import GrammarGraph.Proofs.Engine

/-!
# Proofs/Derivation — a parse is a derivation

A grammar can be read without its order of attempts: a choice stands for either branch, an optional
part is there or not, a repetition goes on as long as one likes.  `Derives` is that reading.  It
forgets all that a parser tries in vain, and therefore says what the attempts that failed have left
behind: nothing.

`Discipline.derives` holds whatever is built or thrown away in the middle of a parse, because a
derivation only remembers what each rule was defined as when it was entered.  What is known of
definitions may grow in the meantime, so it is told by the worlds of a discipline.
-/

namespace GrammarGraph

variable {α : Type} {Def : Rule → Parser α → Prop}

/-- **The output and the text of a parser, by its grammar alone.**  `Def` says what a rule may be
defined as. -/
inductive Derives (Def : Rule → Parser α → Prop) : Parser α → Output α → Text → Prop
  | literal {id text} : Derives Def (.literal id text) (.text text) text
  | pattern {id} {p : Pattern} {matched rest : Text} (h : p.match? (matched ++ rest) =
      some (matched, rest)) : Derives Def (.pattern id p) (.text matched) matched
  | map {id inner f v t} (h : Derives Def inner v t) : Derives Def (.map id inner f) (f v) t
  | sequence {id keep left right v w t u} (hl : Derives Def left v t)
      (hr : Derives Def right w u) :
      Derives Def (.sequence id keep left right) (keep.combine v w) (t ++ u)
  | first {id left right v t} (h : Derives Def left v t) : Derives Def (.choice id left right) v t
  | second {id left right v t} (h : Derives Def right v t) : Derives Def (.choice id left right) v t
  | absent {id inner} : Derives Def (.optional id inner) .absent []
  | present {id inner v t} (h : Derives Def inner v t) :
      Derives Def (.optional id inner) (.present v) t
  | done {id inner} : Derives Def (.star id inner) (.list []) []
  | more {id inner v vs t u} (h : Derives Def inner v t) (ht : t ≠ [])
      (hs : Derives Def (.star id inner) (.list vs) u) :
      Derives Def (.star id inner) (.list (v :: vs)) (t ++ u)
  | none {id size inner} : Derives Def (.exactly id ⟨0, size⟩ inner) (.list []) []
  | again {id n size inner v vs t u} (h : Derives Def inner v t)
      (hs : Derives Def (.exactly id ⟨n, size⟩ inner) (.list vs) u) :
      Derives Def (.exactly id ⟨n + 1, size⟩ inner) (.list (v :: vs)) (t ++ u)
  | named {id name inner v t} (h : Derives Def inner v t) : Derives Def (.named id name inner) v t
  | boxed {inner v t} (h : Derives Def inner v t) : Derives Def (.boxed inner) v t
  | rule {h p v t} (hd : Def h p) (hp : Derives Def p v t) : Derives Def (.rule h) v t

/-! ## What a derivation is made of -/

namespace Derives

/-- More may be known of the definitions. -/
theorem mono {Def' : Rule → Parser α → Prop} (hd : ∀ h p, Def h p → Def' h p) {p : Parser α}
    {v : Output α} {t : Text} (h : Derives Def p v t) : Derives Def' p v t := by
  induction h with
  | literal => exact .literal
  | pattern h => exact .pattern h
  | map _ ih => exact .map ih
  | sequence _ _ ihl ihr => exact .sequence ihl ihr
  | first _ ih => exact .first ih
  | second _ ih => exact .second ih
  | absent => exact .absent
  | present _ ih => exact .present ih
  | done => exact .done
  | more _ ht _ ih ihs => exact .more ih ht ihs
  | none => exact .none
  | again _ _ ih ihs => exact .again ih ihs
  | named _ ih => exact .named ih
  | boxed _ ih => exact .boxed ih
  | rule hdef _ ih => exact .rule (hd _ _ hdef) ih

variable {id : NodeId} {p left right : Parser α} {v : Output α} {t : Text}

theorem literal_iff {text : Text} :
    Derives Def (.literal id text) v t ↔ v = .text text ∧ t = text := by
  constructor
  · rintro ⟨⟩
    exact ⟨rfl, rfl⟩
  · rintro ⟨rfl, rfl⟩
    exact .literal

theorem pattern_iff {p : Pattern} : Derives Def (.pattern id p) v t ↔
    v = .text t ∧ ∃ rest, p.match? (t ++ rest) = some (t, rest) := by
  constructor
  · rintro (_ | ⟨h⟩)
    exact ⟨rfl, _, h⟩
  · rintro ⟨rfl, _, h⟩
    exact .pattern h

theorem map_iff {f : Output α → Output α} :
    Derives Def (.map id p f) v t ↔ ∃ w, v = f w ∧ Derives Def p w t := by
  constructor
  · rintro (_ | _ | ⟨h⟩)
    exact ⟨_, rfl, h⟩
  · rintro ⟨w, rfl, h⟩
    exact .map h

theorem sequence_iff {keep : Keep} : Derives Def (.sequence id keep left right) v t ↔
    ∃ a b x y, v = keep.combine a b ∧ t = x ++ y ∧
      Derives Def left a x ∧ Derives Def right b y := by
  constructor
  · rintro (_ | _ | _ | ⟨hl, hr⟩)
    exact ⟨_, _, _, _, rfl, rfl, hl, hr⟩
  · rintro ⟨a, b, x, y, rfl, rfl, hl, hr⟩
    exact .sequence hl hr

theorem choice_iff : Derives Def (.choice id left right) v t ↔
    Derives Def left v t ∨ Derives Def right v t := by
  constructor
  · intro h
    cases h with
    | first h => exact .inl h
    | second h => exact .inr h
  · rintro (h | h)
    · exact .first h
    · exact .second h

theorem optional_iff : Derives Def (.optional id p) v t ↔
    v = .absent ∧ t = [] ∨ ∃ w, v = .present w ∧ Derives Def p w t := by
  constructor
  · intro h
    cases h with
    | absent => exact .inl ⟨rfl, rfl⟩
    | present h => exact .inr ⟨_, rfl, h⟩
  · rintro (⟨rfl, rfl⟩ | ⟨w, rfl, h⟩)
    · exact .absent
    · exact .present h

theorem named_iff {name : String} : Derives Def (.named id name p) v t ↔ Derives Def p v t :=
  ⟨fun h => by cases h with | named h => exact h, .named⟩

theorem boxed_iff : Derives Def (.boxed p) v t ↔ Derives Def p v t :=
  ⟨fun h => by cases h with | boxed h => exact h, .boxed⟩

theorem rule_iff {h : Rule} :
    Derives Def (.rule h) v t ↔ ∃ p, Def h p ∧ Derives Def p v t :=
  ⟨fun hd => by cases hd with | rule hd hp => exact ⟨_, hd, hp⟩, fun ⟨_, hd, hp⟩ => .rule hd hp⟩

/-- The items of a repetition, with their texts. -/
theorem items_of_star (h : Derives Def (.star id p) v t) : ∃ items : List (Output α × Text),
    v = .list (items.map (·.1)) ∧ t = (items.map (·.2)).flatten ∧
      ∀ i ∈ items, Derives Def p i.1 i.2 := by
  generalize hq : Parser.star id p = q at h
  induction h with
  | done => exact ⟨[], rfl, rfl, nofun⟩
  | more h _ hs _ ih =>
    cases hq
    obtain ⟨items, hv, rfl, hitems⟩ := ih rfl
    cases hv
    exact ⟨(_, _) :: items, rfl, rfl, List.forall_mem_cons.2 ⟨h, hitems⟩⟩
  | _ => cases hq

end Derives

/-! ## What a parse says -/

/-- What a parse says if it succeeds: the text begins with a derivation of the output. -/
def Parsed.Derived (Def : Rule → Parser α → Prop) (p : Parser α) (s : Text) (result : Parsed α) :
    Prop :=
  ∀ v r, result = .ok (v, r) → ∃ t, s = t ++ r ∧ Derives Def p v t

theorem Parsed.Derived.error {p : Parser α} {s : Text} {e : ParseError} :
    Parsed.Derived Def p s (.error e) := nofun

theorem Parsed.Derived.ok {p : Parser α} {t r : Text} {v : Output α} (h : Derives Def p v t) :
    Parsed.Derived Def p (t ++ r) (.ok (v, r)) := by
  rintro _ _ ⟨⟩
  exact ⟨t, rfl, h⟩

/-! ## Computations that tell definitions -/

namespace Discipline

/-- **What is known of the definitions of rules** in the worlds of a discipline: more as these grow,
and what a rule turns out to be defined as whenever it is forced. -/
structure Defines (D : Discipline α) (Def : D.World → Rule → Parser α → Prop) : Prop where
  mono : ∀ {v w h p}, D.Grows v w → Def v h p → Def w h p
  force : ∀ (n : Nat) {w h}, D.Holds w (.rule h) → D.Does w (h.force (Calls.upTo n).build)
    fun v r => ∀ p, r = .ok p → D.Holds v p ∧ Def v h p

variable {D : Discipline α} {Def : D.World → Rule → Parser α → Prop} {calls : Calls α}

/-- Nothing has to be said about the outcome of a computation that has none. -/
theorem pure_error {β ε : Type} {w : D.World} {e : ε} {P : D.World → β → Prop} :
    D.Does w (Pure.pure (.error e) : Run α (Except ε β)) fun v result =>
      ∀ b, result = .ok b → P v b := by
  refine D.pure ?_
  rintro _ ⟨⟩

theorem Defines.respects (hD : D.Defines Def) (n : Nat) : D.Respects (Calls.upTo n) :=
  Discipline.respects (fun n {_ _} hh => weaken (hD.force n hh) fun _ _ _ hr p hp => (hr p hp).1) n

/-- The computation leads to a derivation, if it leads to an output. -/
abbrev Derived (Def : D.World → Rule → Parser α → Prop) (p : Parser α) (s : Text) (w : D.World)
    (result : Parsed α) : Prop :=
  Parsed.Derived (Def w) p s result

/-- Going on after a parse: the text begins with a derivation, or the parse has failed. -/
theorem bind_derived {w : D.World} {p : Parser α} {s : Text} {γ : Type} {m : Run α (Parsed α)}
    {f : Parsed α → Run α γ} {Q : D.World → γ → Prop} (hm : D.Does w m (Derived Def p s))
    (hok : ∀ v x t r, D.Grows w v → s = t ++ r → Derives (Def v) p x t →
      D.Does v (f (.ok (x, r))) Q)
    (herror : ∀ v e, D.Grows w v → D.Does v (f (.error e)) Q) : D.Does w (m >>= f) Q := by
  refine D.bind hm fun v result hv hresult => ?_
  rcases result with e | ⟨x, r⟩
  · exact herror v e hv
  · obtain ⟨t, hs, ht⟩ := hresult x r rfl
    exact hok v x t r hv hs ht

/-! ## Repetitions -/

section Repetition

variable {label : String} {item : Text → Run α (Parsed α)} {inner : Parser α}

/-- The rounds of a repetition are the items of a derivation. -/
theorem derives_rounds (hD : D.Defines Def) (id : NodeId) {w : D.World}
    (hitem : ∀ {v}, D.Grows w v → ∀ s, D.Does v (item s) (Derived Def inner s)) (s : Text) :
    D.Does w (Parser.rounds label item s) fun v result => ∀ outcome, result = .ok outcome →
      ∃ t, s = t ++ outcome.remaining ∧
        Derives (Def v) (.star id inner) (.list outcome.outputs) t := by
  induction hn : s.length using Nat.strongRecOn generalizing w s with
  | _ n ih =>
    rw [Parser.rounds]
    refine bind_derived (hitem (D.refl w) s) ?ok ?error
    case error =>
      refine fun v e _ => D.pure ?_
      rintro _ ⟨⟩
      exact ⟨[], rfl, .done⟩
    case ok =>
      rintro v x t r hv rfl ht
      dsimp only
      split
      · next h =>
        refine D.bind (ih _ (hn ▸ h) (fun hv' => hitem (D.trans hv hv')) r rfl)
          fun v' result hv' hrest => ?_
        rcases result with e | rest
        · exact pure_error
        · obtain ⟨u, rfl, hu⟩ := hrest rest rfl
          refine D.pure ?_
          rintro _ ⟨⟩
          have hne : t ≠ [] := by
            rintro rfl
            exact absurd h (by simp)
          exact ⟨t ++ u, by simp, .more (ht.mono fun _ _ => hD.mono hv') hne hu⟩
      · exact Runs.bind (D.log _ _) fun _ _ _ => pure_error

/-- The rounds of a counted repetition are the items of a derivation. -/
theorem derives_countedRounds (hD : D.Defines Def) (id : NodeId) (n size : Nat) {w : D.World}
    (hitem : ∀ {v}, D.Grows w v → ∀ s, D.Does v (item s) (Derived Def inner s)) (s : Text) :
    D.Does w (Parser.countedRounds label item n s) fun v result => ∀ x, result = .ok x →
      ∃ t, s = t ++ x.2 ∧ Derives (Def v) (.exactly id ⟨n, size⟩ inner) (.list x.1) t := by
  induction n generalizing w s with
  | zero =>
    refine D.pure ?_
    rintro _ ⟨⟩
    exact ⟨[], rfl, .none⟩
  | succ n ih =>
    rw [Parser.countedRounds]
    refine bind_derived (hitem (D.refl w) s) ?_ fun _ _ _ => pure_error
    rintro v x t r hv rfl ht
    refine D.bind (ih (fun hv' => hitem (D.trans hv hv')) r) fun v' result hv' hrest => ?_
    rcases result with e | ⟨xs, r'⟩
    · exact pure_error
    · obtain ⟨u, rfl, hu⟩ := hrest _ rfl
      refine D.pure ?_
      rintro _ ⟨⟩
      exact ⟨t ++ u, by simp, .again (ht.mono fun _ _ => hD.mono hv') hu⟩

end Repetition

/-! ## Parsers -/

/-- **What a parser accepts it derives**, given that of the parsers that rules are defined as. -/
theorem derives_parse (hD : D.Defines Def) (n : Nat)
    (hparse : ∀ {w p} s, D.Holds w p → D.Does w ((Calls.upTo n).parse p s) (Derived Def p s))
    (p : Parser α) : ∀ {w : D.World} (s : Text), D.Holds w p →
      D.Does w (p.parse (Calls.upTo n) s) (Derived Def p s) := by
  induction p with
  | literal id text =>
    intro w s _
    rw [Parser.parse]
    split
    · next r h =>
      obtain rfl := Text.dropPrefix?_eq_some_iff.1 h
      exact D.pure (.ok .literal)
    · exact D.pure .error
  | pattern id p =>
    intro w s _
    rw [Parser.parse]
    split
    · next matched r h =>
      obtain rfl := Pattern.append_of_match? h
      exact D.pure (.ok (.pattern h))
    · exact D.pure .error
  | map id inner f ih =>
    intro w s hp
    rw [Parser.parse]
    refine bind_derived (ih s (D.holds_part hp (by simp [Parser.parts]))) ?_
      fun _ _ _ => D.pure .error
    rintro v x t r - rfl ht
    exact D.pure (.ok (.map ht))
  | sequence id keep left right ihl ihr =>
    intro w s hp
    rw [Parser.parse]
    refine bind_derived (ihl s (D.holds_part hp (by simp [Parser.parts]))) ?_
      fun _ _ _ => D.pure .error
    rintro v x t r hv rfl ht
    have hright : D.Holds v right := D.holds_part (D.holds_mono hv hp) (by simp [Parser.parts])
    refine bind_derived (ihr r hright) ?_ fun _ _ _ => D.pure .error
    rintro v' y u r' hv' rfl hu
    rw [← List.append_assoc]
    exact D.pure (.ok (.sequence (ht.mono fun _ _ => hD.mono hv') hu))
  | choice id left right ihl ihr =>
    intro w s hp
    rw [Parser.parse]
    have hright {v : D.World} (hv : D.Grows w v) : D.Holds v right :=
      D.holds_part (D.holds_mono hv hp) (by simp [Parser.parts])
    -- Both ways to the second branch end with it run on the text that the first was run on.
    have hsecond {v : D.World} (hv : D.Grows w v) : D.Does v (do
        return Parser.inContext (id.label Binary.choice.tag) s
          (← right.parse (Calls.upTo n) s)) (Derived Def (.choice id left right) s) := by
      refine bind_derived (ihr s (hright hv)) ?_ fun _ _ _ => D.pure .error
      rintro v' x t r - rfl ht
      exact D.pure (.ok (.second ht))
    refine bind_derived (ihl s (D.holds_part hp (by simp [Parser.parts]))) ?first ?second
    case first =>
      rintro v x t r - rfl ht
      exact D.pure (.ok (.first ht))
    case second =>
      intro v e hv
      refine D.read (fun σ τ hlogging => by rw [hlogging]) fun σ => ?_
      dsimp only
      split
      · refine (label (hD.respects n) right (hright hv)).bind fun v₁ _ h₁ => ?_
        exact Runs.bind (D.log _ _) fun v₂ _ h₂ => hsecond (D.trans hv (D.trans h₁ h₂))
      · exact hsecond hv
  | optional id inner ih =>
    intro w s hp
    rw [Parser.parse]
    refine bind_derived (ih s (D.holds_part hp (by simp [Parser.parts]))) ?_
      fun _ _ _ => D.pure (.ok (t := []) .absent)
    rintro v x t r - rfl ht
    exact D.pure (.ok (.present ht))
  | star id inner ih =>
    intro w s hp
    rw [Parser.parse]
    refine D.bind (derives_rounds hD id (fun hv s => ih s (D.holds_part (D.holds_mono hv hp)
      (by simp [Parser.parts]))) s) fun v result _ hresult => ?_
    rcases result with e | outcome
    · exact D.pure .error
    · obtain ⟨t, rfl, ht⟩ := hresult outcome rfl
      exact D.pure (.ok ht)
  | exactly id count inner ih =>
    intro w s hp
    rw [Parser.parse_exactly]
    split
    · refine D.bind (derives_countedRounds hD id count.rounds count.outputSize (fun hv s =>
        ih s (D.holds_part (D.holds_mono hv hp) (by simp [Parser.parts]))) s)
          fun v result _ hresult => ?_
      rcases result with e | ⟨xs, r⟩
      · exact D.pure .error
      · obtain ⟨t, rfl, ht⟩ := hresult _ rfl
        exact D.pure (.ok ht)
    · exact D.failure
  | named id name inner ih =>
    intro w s hp
    rw [Parser.parse]
    refine bind_derived (ih s (D.holds_part hp (by simp [Parser.parts]))) ?_
      fun _ _ _ => D.pure .error
    rintro v x t r - rfl ht
    exact D.pure (.ok (.named ht))
  | boxed inner ih =>
    intro w s hp
    refine weaken (ih s (D.holds_part hp (by simp [Parser.parts]))) ?_
    intro v result _ hresult x r hok
    obtain ⟨t, rfl, ht⟩ := hresult x r hok
    exact ⟨t, rfl, .boxed ht⟩
  | rule h =>
    intro w s hp
    rw [Parser.parse]
    refine D.bind (hD.force n hp) fun v result _ hresult => ?_
    rcases result with fault | p
    · exact D.pure .error
    · obtain ⟨hholds, hdef⟩ := hresult p rfl
      refine weaken (hparse s hholds) fun v' result hv' hderived x r hok => ?_
      obtain ⟨t, rfl, ht⟩ := hderived x r hok
      exact ⟨t, rfl, .rule (hD.mono hv' hdef) ht⟩

/-- **Every parse that succeeds is a derivation**, by what is then known of definitions. -/
theorem derives (hD : D.Defines Def) : ∀ (n : Nat) (p : Parser α) {w : D.World} (s : Text),
    D.Holds w p → D.Does w (p.parse (Calls.upTo n) s) (Derived Def p s)
  | 0 => derives_parse hD 0 fun _ _ => D.failure
  | n + 1 => derives_parse hD (n + 1) fun s hp => derives hD n _ s hp

/-- What a parser accepts as a whole it derives, given that of the parsers that rules are defined
as. -/
theorem derives_parseAll (hD : D.Defines Def) (n : Nat)
    (hall : ∀ {w p} s, D.Holds w p → D.Does w ((Calls.upTo n).parseAll p s)
      fun v result => ∀ x, result = .ok x → Derives (Def v) p x s) (p : Parser α) :
    ∀ {w : D.World} (s : Text), D.Holds w p → D.Does w (p.parseAll (Calls.upTo n) s)
      fun v result => ∀ x, result = .ok x → Derives (Def v) p x s := by
  have whole {w : D.World} (q : Parser α) (s : Text) (hq : D.Holds w q) : D.Does w (do
      let result ← q.parse (Calls.upTo n) s
      return Parser.whole (← q.label (Calls.upTo n)) s result)
      fun v result => ∀ x, result = .ok x → Derives (Def v) q x s := by
    refine D.bind (derives hD n q s hq) fun v result hv hresult => ?_
    refine D.bind (label (hD.respects n) q (D.holds_mono hv hq)) fun v' label hv' _ => D.pure ?_
    rintro x hx
    rcases result with e | ⟨y, _ | ⟨c, r⟩⟩
    · cases hx
    · cases hx
      obtain ⟨t, rfl, ht⟩ := hresult x [] rfl
      rw [List.append_nil]
      exact ht.mono fun _ _ => hD.mono hv'
    · cases hx
  induction p with
  | boxed inner ih =>
    intro w s hp
    exact weaken (ih s (D.holds_part hp (by simp [Parser.parts]))) fun _ _ _ h x hx =>
      .boxed (h x hx)
  | rule h =>
    intro w s hp
    rw [Parser.parseAll]
    refine D.bind (hD.force n hp) fun v result _ hresult => ?_
    rcases result with fault | p
    · exact pure_error
    · obtain ⟨hholds, hdef⟩ := hresult p rfl
      exact weaken (hall s hholds) fun _ _ hv' h x hx => .rule (hD.mono hv' hdef) (h x hx)
  | star id inner =>
    intro w s hp
    rw [Parser.parseAll]
    refine D.bind (derives_rounds hD id (fun hv s => derives hD n inner s (D.holds_part
      (D.holds_mono hv hp) (by simp [Parser.parts]))) s) fun v result _ hresult => ?_
    rcases result with e | ⟨xs, _ | ⟨c, r⟩, e⟩
    · exact pure_error
    · obtain ⟨t, rfl, ht⟩ := hresult _ rfl
      refine D.pure ?_
      rintro _ ⟨⟩
      rwa [List.append_nil]
    · exact pure_error
  | literal | pattern | map | sequence | choice | optional | exactly | named =>
    intro w s hp
    exact whole _ s hp

/-- **A parse of the whole of a text derives the whole of it.** -/
theorem derivesAll (hD : D.Defines Def) : ∀ (n : Nat) (p : Parser α) {w : D.World} (s : Text),
    D.Holds w p → D.Does w (p.parseAll (Calls.upTo n) s)
      fun v result => ∀ x, result = .ok x → Derives (Def v) p x s
  | 0 => derives_parseAll hD 0 fun _ _ => D.failure
  | n + 1 => derives_parseAll hD (n + 1) fun s hp => derivesAll hD n _ s hp

end Discipline

/-! ## Invariants of sessions

Where forcing a rule keeps an invariant and leads to what the rule may be defined as, the same may
be said of all rules throughout. -/

section Invariants

variable {I : Session α → Prop}

theorem keeping_defines (hlog : ∀ s l, I s → I { s with log := l })
    (hforce : ∀ n h, Run.Keeps I (h.force (Calls.upTo n : Calls α).build) fun r =>
      ∀ p, r = .ok p → Def h p) :
    (Discipline.keeping I hlog).Defines fun _ => Def where
  mono _ h := h
  force n _ h _ := (hforce n h).mono fun _ hr p hp => ⟨trivial, hr p hp⟩

/-- Every parse that succeeds is a derivation. -/
theorem derives_of_parse (hlog : ∀ s l, I s → I { s with log := l })
    (hforce : ∀ n h, Run.Keeps I (h.force (Calls.upTo n : Calls α).build) fun r =>
      ∀ p, r = .ok p → Def h p) (n : Nat) (p : Parser α) (s : Text) :
    Run.Keeps I (p.parse (Calls.upTo n) s) (Parsed.Derived Def p s) :=
  Discipline.derives (keeping_defines hlog hforce) n p (w := ⟨⟩) s trivial

/-- A parse of the whole of a text derives the whole of it. -/
theorem derives_of_parseAll (hlog : ∀ s l, I s → I { s with log := l })
    (hforce : ∀ n h, Run.Keeps I (h.force (Calls.upTo n : Calls α).build) fun r =>
      ∀ p, r = .ok p → Def h p) (n : Nat) (p : Parser α) (s : Text) :
    Run.Keeps I (p.parseAll (Calls.upTo n) s) fun result =>
      ∀ v, result = .ok v → Derives Def p v s :=
  Discipline.derivesAll (keeping_defines hlog hforce) n p (w := ⟨⟩) s trivial

end Invariants

end GrammarGraph
