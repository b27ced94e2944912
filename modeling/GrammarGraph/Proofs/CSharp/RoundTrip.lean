import GrammarGraph.Proofs.CSharp.Acceptance
import GrammarGraph.Proofs.CSharp.Reading
import GrammarGraph.Proofs.Script

/-!
# Proofs/CSharp/RoundTrip — what is written is read back

    type ──render──▸ text ──parseAll "type"──▸ type

What the grammar accepts as a type is a spelling of it (`spelled_of_derives`), and a spelling is
accepted unless an argument in it looks like one with a variance (`Spelled.reads`).  The canonical
spelling of a well-formed type is free of that, so exactly the well-formed types are read back.
-/

namespace GrammarGraph.CSharp

open Rules

variable {s : Text}

/-! ## Whole texts -/

theorem FollowsType.nil : FollowsType [] :=
  ⟨.nil, [], [], rfl, rfl, .nil, fun _ _ => nofun⟩

/-- A parser that reads the whole of a text, and goes by a fixed name. -/
theorem returns_whole {C : Calls Value} {id : NodeId} {n : String} {p : Parser Value}
    {v : Output Value} (h : Gives Live C (.named id n p) s (some (v, []))) :
    Run.Returns Live ((Parser.named id n p).parseAll C s) (· = .ok v) :=
  Run.Returns.bind_ok h (.pure rfl)

/-- **A spelling is read as a whole**, where definitions may be deep enough. -/
theorem returns_parseAll {t : TypeRef} (h : Spelled Unvaried (.type t) s) {n : Nat}
    (hn : 2 * s.length < n) :
    Run.Returns Live ((Parser.boxed (.rule typeRule)).parseAll (Calls.upTo n) s)
      (· = .ok (.value (.type t))) := by
  obtain ⟨m, rfl⟩ := Nat.exists_eq_add_of_lt hn
  rw [Parser.parseAll, Parser.parseAll]
  refine (returns_force_type rfl rfl _).bind fun result hresult => ?_
  subst hresult
  have hgives := gives_type (n := 2 * s.length + m) h.reads (Nat.le_add_right _ _) .nil
  rw [List.append_nil] at hgives
  exact returns_whole hgives

/-- **What is read as a whole is a spelling.** -/
theorem keeps_parseAll (n : Nat) :
    Run.Keeps Live ((Parser.boxed (.rule typeRule)).parseAll (Calls.upTo n) s)
      fun result => ∀ v, result = .ok v →
        ∃ t, v = .value (.type t) ∧ Spelled Anything (.type t) s :=
  (derives_of_parseAll (fun _ _ => Live.log) keeps_force n _ s).mono fun _ h v hv =>
    spelled_of_derives (h v hv)

/-! ## New sessions -/

theorem depth_parseAll (name : String) :
    Script.depth [.parseAll (.ref name) s] (session false) = 9 * (s.length + 2) := by
  have hrules : (session false).ruleCount = 2 := rfl
  have hlongest : (session false).longestInput = 0 := rfl
  simp only [Script.depth, Step.rulesIn, Step.ruleCount, Step.longestIn, Step.longestInput, hrules,
    hlongest]
  simp

/-- The rule for types at work on a whole text, in a new session. -/
def parseType (s : Text) : Option (Except ParseError (Output Value) × Session Value) :=
  (Parser.boxed (.rule typeRule)).parseAll (Calls.upTo (9 * (s.length + 2))) s (session false)

theorem parseAll_type : Grammar.parseAll "type" s = (parseType s).map fun x =>
    match x.1 with
    | .ok v => .parsedAll v
    | .error e => .parseError e := by
  obtain ⟨log, hstart⟩ := start_eq false
  have hfresh : { session false with builds := [], log := [] } = session false := rfl
  have hname : (session false).bindings.lookup "type" = some (.rule typeRule) := rfl
  rw [Grammar.parseAll, Grammar.reply, hstart]
  simp only [Option.bind_eq_bind, Option.bind_some, Script.run, depth_parseAll, Step.mapM_singleton,
    Step.run_apply, Step.reply]
  rw [hfresh, Step.withParser_rule hname, parseType, Run.bind_apply]
  obtain _ | ⟨_ | _, _⟩ := (Parser.boxed (.rule typeRule)).parseAll
    (Calls.upTo (9 * (s.length + 2))) s (session false) <;> rfl

/-- **Exactly the well-formed types are read back** from the way they are written. -/
theorem parseAll_render_iff (t : TypeRef) :
    Grammar.parseAll "type" t.render = some (.parsedAll (.value (.type t))) ↔ t.isWellFormed := by
  rw [parseAll_type, Option.map_eq_some_iff]
  constructor
  · rintro ⟨⟨result, u⟩, hparse, hreply⟩
    cases result with
    | error e => cases hreply
    | ok v =>
      obtain rfl := Reply.parsedAll.inj hreply
      obtain ⟨-, h⟩ := keeps_parseAll _ _ _ _ (live_session false) hparse
      obtain ⟨_, ⟨⟩, hspelled⟩ := h _ rfl
      exact hspelled.isWellFormed
  · intro h
    obtain ⟨result, u, hparse, -, rfl⟩ := returns_parseAll (spelled_render t h)
      (n := 9 * (t.render.length + 2)) (by omega) (session false) (live_session false)
    exact ⟨_, hparse, rfl⟩

end GrammarGraph.CSharp
