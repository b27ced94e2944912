import GrammarGraph.Proofs.CSharp.Construct
import GrammarGraph.Proofs.Guard

/-!
# Proofs/CSharp/Soundness — no defect shows in the grammar of C#

    type ──▸ generic arguments ──"<"──▸ type          type ──▸ tuple ──"("──▸ type

The grammar is recursive through two rules, one of them built when it is first needed.  A type may
enter its generic arguments before anything of the text is taken, but not the other way round, and
neither enters itself: there is a bracket in between.  The items of every repetition have a mark or
a word of their own.  So the grammar is guarded (`guarded`), however long it has been in use, also
by those who try to define its rules anew (`Served`), and no text makes any of its rules fail for a
reason that is not in the text (`no_defect`).
-/

namespace GrammarGraph.CSharp

open Rules

/-! ## The grammar is guarded -/

/-- The rules that are recursive. -/
def recursiveRules : List Rule := [typeRule, argumentsRule]

/-- Types may enter generic arguments on the text they are given. -/
def rank (h : Rule) : Nat := if h = typeRule then 1 else 0

/-- The rules can always be had: one is built, the other built or pending. -/
theorem Live.force_ne_error {s : Session Value} (hs : Live s) {h : Rule}
    (hh : h ∈ recursiveRules) {build : Deferred Value → Run Value (Parser Value)} {fault : Fault}
    {t : Session Value} : h.force build s ≠ some (.error fault, t) := by
  intro hf
  have hfault := Rule.exists_force_error_iff.1 ⟨t, hf⟩
  simp only [recursiveRules, List.mem_cons, List.not_mem_nil, or_false] at hh
  cases hs with
  | pending _ ha =>
    rw [slot?_eq ha] at hfault
    rcases hh with rfl | rfl <;> exact hfault
  | built _ _ ha =>
    rw [slot?_eq ha] at hfault
    rcases hh with rfl | rfl <;> exact hfault

/-- What the rules may be defined as. -/
theorem isGuarded_of_defined {h : Rule} (hh : h ∈ recursiveRules) {p : Parser Value}
    (hp : Defined h p) : p.isGuarded recursiveRules ∧ p.reach rank ≤ rank h := by
  simp only [recursiveRules, List.mem_cons, List.not_mem_nil, or_false] at hh
  obtain ⟨-, ⟨hslot, rfl⟩ | ⟨hslot, id, rfl⟩⟩ := hp
  · obtain rfl : h = typeRule := hh.resolve_right fun harguments => by cases harguments; cases hslot
    exact ⟨rfl, Nat.le_refl 1⟩
  · obtain rfl : h = argumentsRule := hh.resolve_left fun htype => by cases htype; cases hslot
    exact ⟨rfl, Nat.le_refl 0⟩

/-- **The grammar is guarded** in every session with it. -/
theorem guarded : Guarded Live Defined recursiveRules rank 2 where
  log _ _ := Live.log
  keeps := keeps_force
  never _ _ hh _ hs _ _ := hs.force_ne_error hh
  returns n h hh := by
    simp only [recursiveRules, List.mem_cons, List.not_mem_nil, or_false] at hh
    obtain rfl | rfl := hh
    · exact (returns_force_type rfl rfl _).mono fun _ _ => trivial
    · exact (returns_force_arguments rfl rfl n).mono fun _ _ => trivial
  guarded _ hh _ hp := isGuarded_of_defined hh hp
  bounded := by decide

/-! ## The rules that can be asked for -/

/-- The names of all rules. -/
def allNames : List String := "usings" :: Grammar.ruleNames

/-- What the name of a rule stands for is guarded, and parses whole texts as it parses others. -/
theorem lookup_names {rule : String} (hrule : rule ∈ allNames) : ∃ b, names.lookup rule = some b ∧
    (Parser.boxed b.toParser).isGuarded recursiveRules ∧
      ∃ l, (Parser.boxed b.toParser).Wholly Live l := by
  have htype : (Parser.rule typeRule).Wholly Live "type" := .rule fun n =>
    (returns_force_type rfl rfl _).keeps.mono fun r hr p hp => by
      obtain rfl := Except.ok.inj (hp.symm.trans hr)
      exact .node rfl nofun fun _ => rfl
  have harguments : (Parser.rule argumentsRule).Wholly Live "generic arguments" := .rule fun n =>
    (keeps_force n argumentsRule).mono fun r hr p hp => by
      obtain ⟨-, ⟨⟨⟩, -⟩ | ⟨-, id, rfl⟩⟩ := hr p hp
      exact .node rfl nofun fun _ => rfl
  simp only [allNames, Grammar.ruleNames, List.mem_cons, List.not_mem_nil, or_false] at hrule
  rcases hrule with rfl | rfl | rfl | rfl | rfl | rfl | rfl
  · exact ⟨_, rfl, rfl, _, .boxed (.node rfl nofun fun _ => rfl)⟩
  · exact ⟨_, rfl, rfl, _, .boxed (.node rfl nofun fun _ => rfl)⟩
  · exact ⟨_, rfl, rfl, _, .boxed (.node rfl nofun fun _ => rfl)⟩
  · exact ⟨_, rfl, rfl, _, htype.boxed⟩
  · exact ⟨_, rfl, rfl, _, harguments.boxed⟩
  · exact ⟨_, rfl, rfl, _, .boxed (.node rfl nofun fun _ => rfl)⟩
  · exact ⟨_, rfl, rfl, _, .boxed (.node rfl nofun fun _ => rfl)⟩

/-! ## No defects -/

/-- **No defect shows when the text is parsed**: a parse has a result at every depth from one that
is told by the length of the text on, nothing that is run in it fails because of a defect, and a
parse of the whole is this parse and no more. -/
structure NoDefect (p : Parser Value) (x : Text) (s : Session Value) : Prop where
  parse_returns : ∀ n, x.length * 2 + 2 ≤ n →
    ∃ result t, p.parse (Calls.upTo n) x s = some (result, t)
  parseAll_returns : ∀ n, x.length * 2 + 2 ≤ n →
    ∃ result t, p.parseAll (Calls.upTo n) x s = some (result, t)
  parse_error : ∀ n e t, p.parse (Calls.upTo n) x s = some (.error e, t) →
    ∀ c ∈ e.chain, c.isDefinition = false
  parseAll_error : ∀ n e t, p.parseAll (Calls.upTo n) x s = some (.error e, t) →
    ∀ c ∈ e.chain, c.isDefinition = false
  flawless : ∀ n, Evaluation.Flawless ⟨n, p, x, s⟩
  parseAll_eq : ∃ l, ∀ n, p.parseAll (Calls.upTo n) x s =
    (p.parse (Calls.upTo n) x s).map fun y => (Parser.whole l x y.1, y.2)

/-- What is said of a text that is left over is no defect. -/
theorem isDefinition_of_whole {l : String} {x : Text} {result : Parsed Value} {e : ParseError}
    (h : Parser.whole l x result = .error e)
    (hresult : ∀ c, result = .error c → ∀ d ∈ c.chain, d.isDefinition = false) :
    ∀ c ∈ e.chain, c.isDefinition = false := by
  obtain c | ⟨v, _ | _⟩ := result
  · obtain rfl := Except.error.inj h
    exact hresult c rfl
  · cases h
  · obtain rfl := Except.error.inj h
    intro c hc
    obtain rfl := List.mem_singleton.1 hc
    rfl

theorem NoDefect.of_guarded {p : Parser Value} {s : Session Value} {l : String} (hs : Live s)
    (hp : p.isGuarded recursiveRules) (hl : p.Wholly Live l) (x : Text) : NoDefect p x s := by
  have hreturns (n : Nat) (hn : x.length * 2 + 2 ≤ n) :
      ∃ result t, p.parse (Calls.upTo n) x s = some (result, t) := by
    have hreach := Parser.reach_le guarded.bounded hp
    obtain ⟨result, t, h, -, -⟩ := guarded.returns_parse n (x := x) hp (by omega) s hs
    exact ⟨result, t, h⟩
  have hflawless (n : Nat) : Evaluation.Flawless ⟨n, p, x, s⟩ := guarded.flawless ⟨hs, hp⟩
  have herror (n : Nat) (e : ParseError) (t : Session Value)
      (h : p.parse (Calls.upTo n) x s = some (.error e, t)) :
      ∀ c ∈ e.chain, c.isDefinition = false :=
    (hflawless n).fails _ e .refl ⟨t, h⟩
  have hwhole (n : Nat) := hl n x s hs
  constructor
  case parse_returns => exact hreturns
  case parse_error => exact herror
  case flawless => exact hflawless
  case parseAll_eq => exact ⟨l, hwhole⟩
  case parseAll_returns =>
    intro n hn
    obtain ⟨result, t, h⟩ := hreturns n hn
    exact ⟨_, t, (hwhole n).trans (congrArg _ h)⟩
  case parseAll_error =>
    intro n e t h
    obtain ⟨⟨result, u⟩, hparse, hresult⟩ := Option.map_eq_some_iff.1 ((hwhole n).symm.trans h)
    refine isDefinition_of_whole (Prod.mk.inj hresult).1 ?_
    rintro c rfl
    exact herror n c u hparse

/-- **The grammar has no defects**: whatever has been asked of it before, and whatever the text,
every rule has a result on it, and what goes wrong is told of the text. -/
theorem no_defect {σ : Session Value} (hσ : Served σ) {rule : String} (hrule : rule ∈ allNames)
    (x : Text) :
    ∃ b, σ.bindings.lookup rule = some b ∧ NoDefect (.boxed b.toParser) x σ := by
  obtain ⟨b, hb, hguarded, l, hl⟩ := lookup_names hrule
  have hne : rule ≠ "further arguments" := by
    rintro rfl
    simp [allNames, Grammar.ruleNames] at hrule
  exact ⟨b, (hσ.live.lookup_of_ne hne).trans hb, .of_guarded hσ.live hguarded hl x⟩

/-- The session in which it has been tried, and refused, to define what a type is anew. -/
def refused : Session Value := { forced with nextId := 91 }

theorem served_refused : Served refused := by
  have hdefine : (Step.define "type" (.literal ['x'])).run (Calls.upTo 0) forced =
      some (⟨.refused (.grammar (.alreadyDefined 14)), [], []⟩, refused) := rfl
  exact (Served.inUse inUse_forced).define "type" _ hdefine

/-- Everything is built by then. -/
theorem keeps_force_refused (n : Nat) (h : Rule) :
    Run.Keeps (fun s => ∃ l, s = { refused with log := l }) (h.force (Calls.upTo n).build)
      fun _ => True := by
  rintro _ r s' ⟨l, rfl⟩ hf
  have hbuilt (d : Deferred Value) : (Session.slot? { refused with log := l } h).map Slot.stage ≠
      some (.pending d) := by
    rw [slot?_eq rfl]
    split
    · rcases h.slot with _ | _ | _ <;> exact nofun
    · exact nofun
  obtain ⟨rfl, -⟩ := Rule.of_force_of_ne hbuilt hf
  exact ⟨⟨l, rfl⟩, trivial⟩

/-- Nothing but the log changes any more. -/
theorem eq_of_parse_refused {n : Nat} {p : Parser Value} {x : Text} {result : Parsed Value}
    {s : Session Value} (h : p.parse (Calls.upTo n) x refused = some (result, s)) :
    s = { refused with log := s.log } := by
  have hkeeps : Run.Keeps _ (p.parse (Calls.upTo n) x) (Parsed.Derived (fun _ _ => True) p x) :=
    derives_of_parse (by rintro _ l ⟨_, rfl⟩; exact ⟨l, rfl⟩)
      (fun n h => (keeps_force_refused n h).mono fun _ _ _ _ => trivial) n p x
  obtain ⟨⟨log, rfl⟩, -⟩ := hkeeps _ _ _ ⟨[], rfl⟩ h
  rfl

/-- The generic arguments are not closed: they are given up, and so is the tuple in them. -/
theorem no_defect_refused :
    (∃ b, refused.bindings.lookup "type" = some b ∧
      NoDefect (.boxed b.toParser) "a<b,(c d".toList refused) ∧
    (Parser.rule typeRule).parse (Calls.upTo 9) "a<b,(c d".toList refused =
      some (.ok (.value (.type (.name [['a']])), "<b,(c d".toList), refused) := by
  refine ⟨no_defect served_refused (by simp [allNames, Grammar.ruleNames]) _, ?_⟩
  have hresult : ((Parser.rule typeRule).parse (Calls.upTo 9) "a<b,(c d".toList refused).map
      (fun x => (x.1.toOption, x.2.log)) =
        some (some (.value (.type (.name [['a']])), "<b,(c d".toList), []) := by
    decide +kernel
  obtain ⟨⟨result, s⟩, hparse, heq⟩ := Option.map_eq_some_iff.1 hresult
  obtain ⟨hok, hlog⟩ := Prod.mk.inj heq
  obtain rfl : s = refused := (eq_of_parse_refused hparse).trans (by rw [hlog]; rfl)
  cases result with
  | error e => cases hok
  | ok x =>
    cases hok
    exact hparse

end GrammarGraph.CSharp
