import GrammarGraph.Proofs.CSharp.Soundness
import GrammarGraph.Proofs.Depth
import GrammarGraph.Proofs.Outcome

/-!
# Proofs/CSharp/Asking — what the rules of the grammar answer

    rule, text ──parse──▸ value, rest, consumed text          rule, text ──parseAll──▸ value

The grammar is asked for a rule by name, at any time while it serves.  The answer is a matter of the
parser that the name stands for: an outcome that the parser has in every session with the grammar
(`Gives`) is what is answered at any time (`ReadsAlone.alwaysReads`), and what has been answered
once is what it comes to (`ReadAs.exists_parse`).  Where a parse stops cannot be a place that the
parser never stops at (`exists_derives_of_parse`).
-/

namespace GrammarGraph

variable {α : Type}

/-- **A parse that goes less deep has the outcome**, if it has a result at all. -/
theorem Gives.toOption_eq {I : Session α → Prop} {p : Parser α} {s : Text}
    {outcome : Option (Output α × Text)} {n m : Nat} (h : Gives I (Calls.upTo m) p s outcome)
    (hn : n ≤ m) {σ τ : Session α} (hσ : I σ) {result : Parsed α}
    (hparse : p.parse (Calls.upTo n) s σ = some (result, τ)) : result.toOption = outcome := by
  obtain ⟨result', τ', hparse', -, hresult⟩ := h σ hσ
  have hle := Parser.parse_of_le hn hparse
  rw [hparse'] at hle
  obtain ⟨rfl, -⟩ := Prod.mk.inj (Option.some.inj hle)
  exact hresult

theorem Parser.whole_eq_ok_iff {l : String} {s : Text} {result : Parsed α} {v : Output α} :
    whole l s result = .ok v ↔ result = .ok (v, []) := by
  obtain e | ⟨w, _ | ⟨c, r⟩⟩ := result <;> simp [whole]

namespace CSharp

open Rules

variable {rule : String} {b : Binding Value} {p : Parser Value} {s u r : Text} {v : Output Value}

/-! ## Where a parse stops -/

/-- **The parser stops elsewhere**: on the text it fails, or what it leaves is not what comes after
it. -/
def StopsElsewhere (p : Parser Value) (u r : Text) : Prop := ∀ n, 2 * u.length < n →
  ∃ outcome, Gives Live (Calls.upTo n) p (u ++ r) outcome ∧ ∀ v, outcome ≠ some (v, r)

/-- **The parser reads all of the text** where nothing comes after it. -/
def ReadsAlone (p : Parser Value) (u : Text) (v : Output Value) : Prop :=
  ∀ n, 2 * u.length < n → Gives Live (Calls.upTo n) p u (some (v, []))

/-- A parse that has stopped somewhere has derived the text before, and does not stop elsewhere. -/
theorem exists_derives_of_parse {σ τ : Session Value} (hσ : Live σ) {n : Nat}
    (h : p.parse (Calls.upTo n) s σ = some (.ok (v, r), τ)) :
    ∃ u, s = u ++ r ∧ Derives Defined p v u ∧ ¬StopsElsewhere p u r := by
  obtain ⟨-, hderived⟩ := derives_of_parse (fun _ _ => Live.log) keeps_force n _ s _ _ _ hσ h
  obtain ⟨u, rfl, hderives⟩ := hderived v r rfl
  refine ⟨u, rfl, hderives, fun hstops => ?_⟩
  obtain ⟨outcome, hgives, hne⟩ := hstops (max n (2 * u.length + 1)) (by omega)
  exact hne v (hgives.toOption_eq (by omega) hσ h).symm

/-! ## Answers -/

/-- **The rule has read the whole of the text as this**, at some time. -/
def ReadAs (rule : String) (s : Text) (v : Output Value) : Prop :=
  ∃ σ n answer σ', Served σ ∧
    (Step.parseAll (.ref rule) s).run (Calls.upTo n) σ = some (answer, σ') ∧
      answer.reply = .parsedAll v

/-- **The rule reads the whole of the text as this**, at any time, where definitions may be deep
enough. -/
def AlwaysReads (rule : String) (s : Text) (v : Output Value) : Prop :=
  ∀ σ, Served σ → ∀ n, 2 * s.length < n → ∃ answer σ',
    (Step.parseAll (.ref rule) s).run (Calls.upTo n) σ = some (answer, σ') ∧
      answer.reply = .parsedAll v

/-- What is read at any time has been read at some time. -/
theorem AlwaysReads.readAs (h : AlwaysReads rule s v) : ReadAs rule s v := by
  obtain ⟨log, hstart⟩ := start_eq false
  have hserved : Served (session false) := .inUse (.start hstart)
  obtain ⟨answer, σ', hrun, hanswer⟩ := h _ hserved _ (Nat.lt_succ_self _)
  exact ⟨_, _, answer, σ', hserved, hrun, hanswer⟩

section Rule

variable (hrule : rule ∈ allNames) (hb : names.lookup rule = some b)

include hrule hb

theorem Live.lookup_of_mem {σ : Session Value} (hσ : Live σ) :
    σ.bindings.lookup rule = some b := by
  refine (hσ.lookup_of_ne ?_).trans hb
  rintro rfl
  simp [allNames, Grammar.ruleNames] at hrule

/-- What has been read is what the parser has come to. -/
theorem ReadAs.exists_parse (h : ReadAs rule s v) : ∃ σ n τ, Live σ ∧
    (Parser.boxed b.toParser).parse (Calls.upTo n) s σ = some (.ok (v, []), τ) := by
  obtain ⟨σ, n, answer, σ', hσ, hrun, hanswer⟩ := h
  have hlive : Live { σ with builds := [], log := [] } := hσ.live.congr rfl rfl
  rw [Step.run_apply, Step.reply, Step.withParser_ref (hlive.lookup_of_mem hrule hb)] at hrun
  obtain ⟨⟨reply, u⟩, hreply, hu⟩ := Option.map_eq_some_iff.1 hrun
  obtain ⟨rfl, -⟩ := Prod.mk.inj hu
  obtain ⟨result, t, hparseAll, hresult⟩ := Run.bind_eq_some_iff.1 hreply
  obtain ⟨b', hb', -, l, hl⟩ := lookup_names hrule
  obtain rfl := Option.some.inj (hb.symm.trans hb')
  obtain ⟨⟨result', t'⟩, hparse, hwhole⟩ :=
    Option.map_eq_some_iff.1 ((hl n s _ hlive).symm.trans hparseAll)
  obtain ⟨rfl, rfl⟩ := Prod.mk.inj hwhole
  rcases hok : Parser.whole l s result' with e | w
  · rw [hok] at hresult
    obtain ⟨rfl, -⟩ := Run.pure_eq_some_iff.1 hresult
    cases hanswer
  · rw [hok] at hresult
    obtain ⟨rfl, -⟩ := Run.pure_eq_some_iff.1 hresult
    cases hanswer
    obtain rfl := Parser.whole_eq_ok_iff.1 hok
    exact ⟨_, n, _, hlive, hparse⟩

/-- What the parser gives in every session with the grammar is read at any time. -/
theorem ReadsAlone.alwaysReads (h : ReadsAlone (.boxed b.toParser) s v) : AlwaysReads rule s v := by
  intro σ hσ n hn
  have hlive : Live { σ with builds := [], log := [] } := hσ.live.congr rfl rfl
  obtain ⟨b', hb', -, l, hl⟩ := lookup_names hrule
  obtain rfl := Option.some.inj (hb.symm.trans hb')
  obtain ⟨result, τ, hparse, -, hresult⟩ := h n hn _ hlive
  have hall : (Parser.boxed b.toParser).parseAll (Calls.upTo n) s
      { σ with builds := [], log := [] } = some (.ok v, τ) := by
    rw [hl n s _ hlive, hparse]
    match result, hresult with
    | .ok (_, _), rfl => rfl
  have hreply : (Step.parseAll (.ref rule) s).reply (Calls.upTo n)
      { σ with builds := [], log := [] } = some (.parsedAll v, τ) := by
    rw [Step.reply, Step.withParser_ref (hlive.lookup_of_mem hrule hb), Run.bind_of_eq_some hall]
    rfl
  rw [Step.run_apply, hreply]
  exact ⟨_, _, rfl, rfl⟩

/-- What is answered of the start of a text. -/
theorem exists_parse_of_run {σ σ' : Session Value} (hσ : Served σ) {n : Nat} {answer : Answer Value}
    (h : (Step.parse (.ref rule) s).run (Calls.upTo n) σ = some (answer, σ'))
    (hanswer : answer.reply = .parsed v r u) : u = (Text.consumed? s r).getD [] ∧ ∃ σ τ, Live σ ∧
      (Parser.boxed b.toParser).parse (Calls.upTo n) s σ = some (.ok (v, r), τ) := by
  have hlive : Live { σ with builds := [], log := [] } := hσ.live.congr rfl rfl
  rw [Step.run_apply, Step.reply, Step.withParser_ref (hlive.lookup_of_mem hrule hb)] at h
  obtain ⟨⟨reply, t⟩, hreply, ht⟩ := Option.map_eq_some_iff.1 h
  obtain ⟨rfl, -⟩ := Prod.mk.inj ht
  obtain ⟨result, t', hparse, hresult⟩ := Run.bind_eq_some_iff.1 hreply
  obtain e | ⟨w, r'⟩ := result
  · obtain ⟨rfl, -⟩ := Run.pure_eq_some_iff.1 hresult
    cases hanswer
  · obtain ⟨rfl, -⟩ := Run.pure_eq_some_iff.1 hresult
    cases hanswer
    exact ⟨rfl, _, _, hlive, hparse⟩

end Rule

end CSharp

end GrammarGraph
