import GrammarGraph.Proofs.Guard

/-!
# Proofs/Whole — a parse of the whole of a text is a parse

    box ──▸ rule ──▸ box ──▸ node          what is asked of a handle or a box is asked of a node

To parse the whole of a text is to parse it, and to be content only if nothing is left.  What is
left is told with the label of the node that the parser stands for.  If that is an unbounded
repetition, the failure that ended it is told as well.

* `agree` — the two computations have a result both or neither, and leave the same session.
* `runWhole_agrees` — what the one comes to is told by what the other does.
-/

namespace GrammarGraph

variable {α : Type}

namespace Evaluation

variable {E F : Evaluation α} {e : ParseError} {r : Text}

/-- The result on the whole of the text, and the session after it. -/
def runWhole (E : Evaluation α) : Option (Except ParseError (Output α) × Session α) :=
  E.parser.parseAll (Calls.upTo E.depth) E.input E.session

/-! ## The node behind a parser -/

/-- **A box opened, or a rule followed to its definition**, which may have to be built for that. -/
inductive Unwraps : Evaluation α → Evaluation α → Prop
  | boxed {n inner x σ} : Unwraps ⟨n, .boxed inner, x, σ⟩ ⟨n, inner, x, σ⟩
  | rule {n h p x σ τ} (hf : h.force (Calls.upTo (n + 1)).build σ = some (.ok p, τ)) :
      Unwraps ⟨n + 1, .rule h, x, σ⟩ ⟨n, p, x, τ⟩

theorem Unwraps.enters (h : Unwraps E F) : Enters E F := by
  cases h with
  | boxed => exact .boxed
  | rule hf => exact .rule hf

/-- Neither of the two computations does anything but that with a box or a rule. -/
theorem Unwraps.run_eq (h : Unwraps E F) : E.run = F.run ∧ E.runWhole = F.runWhole := by
  cases h with
  | boxed => exact ⟨rfl, rfl⟩
  | rule hf =>
    constructor
    · rw [run, Parser.parse]
      exact Run.bind_of_eq_some hf
    · rw [runWhole, Parser.parseAll]
      exact Run.bind_of_eq_some hf

/-- **The node that is run in the end**, behind all boxes and rules. -/
def Behind (E F : Evaluation α) : Prop := Relation.ReflTransGen Unwraps E F ∧ F.parser.isNode

theorem Behind.head {G : Evaluation α} (h : Unwraps E F) (hG : F.Behind G) : E.Behind G :=
  ⟨.head h hG.1, hG.2⟩

/-! ## What is left -/

/-- **The error tells what is left**, and of the node that has left it: its label, the text it was
given, and for an unbounded repetition the failure of its item on what is left. -/
inductive TellsRest (E : Evaluation α) (r : Text) : ParseError → Prop
  | node {F : Evaluation α} {l : String} (hF : E.Behind F)
      (hstar : ∀ id inner, F.parser ≠ .star id inner) (hl : F.parser.HasLabel l) :
      TellsRest E r (.unconsumed l (Text.preview E.input) r)
  | star {F : Evaluation α} {id : NodeId} {inner : Parser α} {k : Nat} {τ : Session α}
      {c : ParseError} (hF : E.Behind F) (hstar : F.parser = .star id inner)
      (hturns : Turns F.depth inner Shortens k F.input F.session r τ)
      (hc : Fails ⟨F.depth, inner, r, τ⟩ c) :
      TellsRest E r
        (.unconsumedAfter (id.label Unary.star.tag) (Text.preview E.input) r c)

theorem TellsRest.of_unwraps (h : Unwraps E F) (hrest : F.TellsRest r e) : E.TellsRest r e := by
  have hinput : F.input = E.input := by
    cases h with
    | boxed | rule => rfl
  cases hrest with
  | node hF hstar hl => exact hinput ▸ .node (hF.head h) hstar hl
  | star hF hstar hturns hc => exact hinput ▸ .star (hF.head h) hstar hturns hc

/-- **What comes of a parse, and of a parse of the whole of the text.** -/
inductive Completes (E : Evaluation α) : Parsed α → Except ParseError (Output α) → Prop
  | consumed {v : Output α} : Completes E (.ok (v, [])) (.ok v)
  | failed {e : ParseError} : Completes E (.error e) (.error e)
  | left {v : Output α} {r : Text} {e : ParseError} (hr : r ≠ []) (he : E.TellsRest r e) :
      Completes E (.ok (v, r)) (.error e)

theorem Completes.of_unwraps (h : Unwraps E F) {a : Parsed α}
    {b : Except ParseError (Output α)} (hc : F.Completes a b) : E.Completes a b := by
  cases hc with
  | consumed => exact .consumed
  | failed => exact .failed
  | left hr he => exact .left hr (he.of_unwraps h)

/-! ## Nodes -/

/-- Of all nodes, only repetitions tell why they have stopped. -/
theorem completes_whole {l : String} (hnode : E.parser.isNode)
    (hstar : ∀ id inner, E.parser ≠ .star id inner) (hl : E.parser.HasLabel l) :
    ∀ a, E.Completes a (Parser.whole l E.input a)
  | .error _ => .failed
  | .ok (_, []) => .consumed
  | .ok (_, _ :: _) => .left (List.cons_ne_nil _ _) (.node ⟨.refl, hnode⟩ hstar hl)

/-- **The two computations come to the same**: neither has a result without the other, and both
leave the same session. -/
inductive Agree (E : Evaluation α) : Prop
  | neither (hrun : E.run = none) (hwhole : E.runWhole = none)
  | both {a : Parsed α} {b : Except ParseError (Output α)} {σ : Session α}
      (hrun : E.run = some (a, σ)) (hwhole : E.runWhole = some (b, σ)) (h : E.Completes a b)

theorem agree_node {l : String} (hnode : E.parser.isNode)
    (hstar : ∀ id inner, E.parser ≠ .star id inner) (hl : E.parser.HasLabel l) : E.Agree := by
  have hwhole : E.runWhole = E.run.map fun a => (Parser.whole l E.input a.1, a.2) :=
    Parser.Wholly.node (I := fun _ => True) hnode hstar hl E.depth E.input E.session trivial
  cases hrun : E.run with
  | none => exact .neither hrun (by rw [hwhole, hrun, Option.map_none])
  | some a =>
    rw [hrun, Option.map_some] at hwhole
    exact .both hrun hwhole (completes_whole hnode hstar hl a.1)

theorem agree_star {n : Nat} {id : NodeId} {inner : Parser α} {x : Text} {σ : Session α} :
    Agree ⟨n, .star id inner, x, σ⟩ := by
  have hrun : run ⟨n, .star id inner, x, σ⟩ = _ :=
    Run.bind_apply (m := Parser.rounds (id.label Unary.star.tag) (inner.parse (Calls.upTo n)) x)
  have hwhole : runWhole ⟨n, .star id inner, x, σ⟩ = _ :=
    Run.bind_apply (m := Parser.rounds (id.label Unary.star.tag) (inner.parse (Calls.upTo n)) x)
  cases hrounds : Parser.rounds (id.label Unary.star.tag) (inner.parse (Calls.upTo n)) x σ with
  | none =>
    rw [hrounds] at hrun hwhole
    exact .neither hrun hwhole
  | some a =>
    rw [hrounds] at hrun hwhole
    obtain ⟨_ | ⟨vs, y, c⟩, υ⟩ := a
    · exact .both hrun hwhole .failed
    · obtain ⟨τ, htaken, hc⟩ := Parser.rounds_eq_ok_iff.1 hrounds
      cases y with
      | nil => exact .both hrun hwhole .consumed
      | cons =>
        exact .both hrun hwhole (.left (List.cons_ne_nil _ _)
          (.star ⟨.refl, rfl⟩ rfl (turns_of_taken htaken) ⟨υ, hc⟩))

theorem agree_of_unwraps (h : Unwraps E F) (hF : F.Agree) : E.Agree := by
  obtain ⟨hrun, hwhole⟩ := h.run_eq
  cases hF with
  | neither hrun' hwhole' => exact .neither (hrun.trans hrun') (hwhole.trans hwhole')
  | both hrun' hwhole' hc =>
    exact .both (hrun.trans hrun') (hwhole.trans hwhole') (hc.of_unwraps h)

/-- A rule that cannot be had, or is too deep to be followed. -/
theorem agree_rule {n : Nat} {h : Rule} {x : Text} {σ : Session α}
    (ih : ∀ F, Unwraps ⟨n, .rule h, x, σ⟩ F → F.Agree) : Agree ⟨n, .rule h, x, σ⟩ := by
  have hrun : run ⟨n, .rule h, x, σ⟩ = _ :=
    Run.bind_apply (m := h.force (Calls.upTo n).build)
  have hwhole : runWhole ⟨n, .rule h, x, σ⟩ = _ :=
    Run.bind_apply (m := h.force (Calls.upTo n).build)
  cases hf : h.force (Calls.upTo n).build σ with
  | none =>
    rw [hf] at hrun hwhole
    exact .neither hrun hwhole
  | some a =>
    obtain ⟨fault | p, τ⟩ := a
    · rw [hf] at hrun hwhole
      exact .both hrun hwhole .failed
    · cases n with
      | zero =>
        rw [hf] at hrun hwhole
        exact .neither hrun hwhole
      | succ n => exact agree_of_unwraps (.rule hf) (ih _ (.rule hf))

/-- **All parsers are parsed whole as they are parsed.** -/
theorem agree (E : Evaluation α) : E.Agree := by
  induction E using wellFounded_enters.induction with
  | _ E ih =>
    obtain ⟨n, p, x, σ⟩ := E
    cases p with
    | boxed inner => exact agree_of_unwraps .boxed (ih _ .boxed)
    | rule h => exact agree_rule fun F hF => ih F hF.enters
    | star id inner => exact agree_star
    | literal | pattern | map | sequence | choice | optional | exactly | named =>
      exact agree_node rfl nofun fun _ => rfl

/-- **A parse of the whole of a text agrees with a parse**: it succeeds if nothing is left, fails in
the same way if the parse does, and tells what is left otherwise.  Both leave the same session, and
neither has a result without the other. -/
theorem runWhole_agrees (E : Evaluation α) :
    (∀ v σ, E.runWhole = some (.ok v, σ) ↔ E.run = some (.ok (v, []), σ)) ∧
    (∀ e σ, E.run = some (.error e, σ) → E.runWhole = some (.error e, σ)) ∧
    (∀ v r σ, E.run = some (.ok (v, r), σ) → r ≠ [] →
      ∃ e, E.runWhole = some (.error e, σ) ∧ E.TellsRest r e) ∧
    E.runWhole.map (·.2) = E.run.map (·.2) := by
  cases E.agree with
  | neither hrun hwhole => simp [hrun, hwhole]
  | both hrun hwhole hc =>
    rw [hrun, hwhole]
    cases hc with
    | consumed => simp
    | failed => simp
    | left hr he => simp [hr, he]

/-- A rule that is defined as a repetition of `a`, once it is needed. -/
def deferredItems : Session Empty :=
  let definition := { name := "items", steps := [], expr := .star (.literal ['a']) }
  { nextId := 1, arenas := [{ slots := [{ deferred := some definition }] }] }

/-- The rule is in a box, and is built on the way to what it stands for. -/
theorem runWhole_agrees_deferredItems :
    let E : Evaluation Empty := ⟨1, .boxed (.rule ⟨0, 0, 0⟩), ['a', 'b'], deferredItems⟩
    ∃ v σ, E.run = some (.ok (v, ['b']), σ) ∧
      ∃ e, E.runWhole = some (.error e, σ) ∧ E.TellsRest ['b'] e := by
  intro E
  obtain ⟨id, item, τ, hf⟩ : ∃ id item τ, (Rule.mk 0 0 0).force (Calls.upTo 1).build deferredItems =
      some (.ok (.star id (.literal item ['a'])), τ) := ⟨_, _, _, rfl⟩
  have hrounds : Parser.rounds (id.label Unary.star.tag)
      ((Parser.literal item ['a']).parse (Calls.upTo 0)) ['a', 'b'] τ =
        some (.ok ⟨[.text ['a']], ['b'], .mismatch (Text.label ['a']) ['b']⟩, τ) :=
    Parser.rounds_eq_ok_iff.2 ⟨τ, .more rfl (Nat.lt_succ_self 1) .none, rfl⟩
  have hrun : E.run = some (.ok (.list [.text ['a']], ['b']), τ) :=
    (Run.bind_of_eq_some hf).trans (Run.bind_of_eq_some hrounds)
  exact ⟨_, τ, hrun, (runWhole_agrees E).2.2.1 _ _ τ hrun (List.cons_ne_nil _ _)⟩

end Evaluation

end GrammarGraph
