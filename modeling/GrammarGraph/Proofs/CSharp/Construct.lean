import GrammarGraph.Proofs.CSharp.Spacing
import GrammarGraph.Proofs.CSharp.Use

/-!
# Proofs/CSharp/Construct — what is accepted is what is written

    text ──parseAll rule──▸ value      text = tokens of the value, and blanks

Five rules of the grammar give values to those who use it: types, names, generic arguments, tuples
and directives.  Whenever one of them accepts a text, at any time while the grammar is in use, the
value is well formed and the text is its tokens with blanks between them (`accepted`).
-/

namespace GrammarGraph.CSharp

open Rules

/-- What a text may stand for, by the rule that it is read by. -/
inductive Construct
  | type (t : TypeRef)
  | name (segments : List Text)
  | arguments (as : List (Argument TypeRef))
  | tuple (es : List (Element TypeRef))
  | directive (d : Using)

/-- The tokens of what a directive says. -/
def Using.body : Using → List Token
  | .ofNamespace segments => nameTokens segments
  | .ofAlias name target => .word name :: .mark '=' :: target.tokens

/-- The tokens of a directive. -/
def Using.tokens (d : Using) : List Token := .usingWord :: (d.body ++ [.mark ';'])

/-- Directives of well-formed names and types. -/
def Using.isWellFormed : Using → Bool
  | .ofNamespace segments => isName segments
  | .ofAlias name target => isIdentifier name && target.isWellFormed

namespace Construct

/-- The name of the rule. -/
def rule : Construct → String
  | .type _ => "type"
  | .name _ => "namespaced_name"
  | .arguments _ => "generic_arguments"
  | .tuple _ => "tuple"
  | .directive _ => "using"

/-- The value that the rule gives. -/
def value : Construct → Output Value
  | .type t => .value (.type t)
  | .name segments => .value (.name segments)
  | .arguments as => .list (as.map fun a => .value (.argument a))
  | .tuple es => .list (es.map fun e => .value (.element e))
  | .directive d => .value (.directive d)

/-- **The tokens that are written for it.** -/
def tokens : Construct → List Token
  | .type t => t.tokens
  | .name segments => nameTokens segments
  | .arguments as => bracketed '<' '>' (Argument.tokenLists as)
  | .tuple es => bracketed '(' ')' (Element.tokenLists es)
  | .directive d => d.tokens

/-- **Well-formedness**: names have segments, lists have items, and these are well formed. -/
def isWellFormed : Construct → Bool
  | .type t => t.isWellFormed
  | .name segments => isName segments
  | .arguments as => !as.isEmpty && Argument.areWellFormed as
  | .tuple es => !es.isEmpty && Element.areWellFormed es
  | .directive d => d.isWellFormed

end Construct

/-! ## Directives -/

variable {v : Output Value} {u : Text}

theorem derives_usingAlias (h : Derives Defined (.boxed usingAlias) v u) :
    ∃ d : Using, v = .value (.directive d) ∧ d.isWellFormed ∧ Spaced d.body u := by
  rw [Derives.boxed_iff, usingAlias, Derives.map_iff] at h
  obtain ⟨_, rfl, h⟩ := h
  obtain ⟨_, _, _, w, rfl, rfl, h, htype⟩ := Derives.sequence_iff.1 h
  obtain ⟨_, _, _, g', rfl, rfl, h, hg'⟩ := Derives.sequence_iff.1 h
  obtain ⟨_, _, _, _, rfl, rfl, h, heq⟩ := Derives.sequence_iff.1 h
  obtain ⟨_, _, x, g, rfl, rfl, hx, hg⟩ := Derives.sequence_iff.1 h
  obtain ⟨-, rfl⟩ := Derives.literal_iff.1 heq
  obtain ⟨rfl, hword⟩ := derives_identifier hx
  obtain ⟨t, rfl, ht⟩ := spelled_of_derives htype
  refine ⟨.ofAlias x t, rfl, Bool.and_eq_true_iff.2 ⟨hword, ht.isWellFormed⟩, ?_⟩
  have htokens := t.startsFree_tokens ht.isWellFormed
  exact (spaced_mark_iff (l := [.word x]) (endsFree_singleton rfl) htokens).2
    ⟨x, g, g', w, by simp, derives_gap hg, derives_gap hg', .one rfl, ht.spaced⟩

/-- What a directive says is a name for a type, or the name of a namespace. -/
theorem derives_body
    (h : Derives Defined (.choice 67 (.boxed usingAlias) (.map 66 (.boxed namespacedName)
      toNamespace)) v u) :
    ∃ d : Using, v = .value (.directive d) ∧ d.isWellFormed ∧ Spaced d.body u := by
  obtain halias | hnamespace := Derives.choice_iff.1 h
  · exact derives_usingAlias halias
  · obtain ⟨_, rfl, hname⟩ := Derives.map_iff.1 hnamespace
    obtain ⟨xs, rfl, hxs⟩ := derives_namespacedName hname
    exact ⟨.ofNamespace xs, rfl, hxs.isName, (nameSpelled_iff hxs.isName).1 hxs⟩

theorem Using.endsFree_body {d : Using} (h : d.isWellFormed) : EndsFree d.body := by
  cases d with
  | ofNamespace xs => exact endsFree_nameTokens h
  | ofAlias x t =>
    exact (TypeRef.endsFree_tokens (Bool.and_eq_true_iff.1 h).2).append [.word x, .mark '=']

theorem derives_directive (h : Derives Defined (.boxed directive) v u) :
    ∃ d : Using, v = .value (.directive d) ∧ d.isWellFormed ∧ Spaced d.tokens u := by
  rw [Derives.boxed_iff, directive, Derives.named_iff] at h
  obtain ⟨_, _, _, _, rfl, rfl, h, hend⟩ := Derives.sequence_iff.1 h
  obtain ⟨_, _, _, g', rfl, rfl, h, hg'⟩ := Derives.sequence_iff.1 h
  obtain ⟨_, _, _, w, rfl, rfl, h, hbody⟩ := Derives.sequence_iff.1 h
  obtain ⟨_, _, _, g, rfl, rfl, hword, hspaces⟩ := Derives.sequence_iff.1 h
  obtain ⟨-, rfl⟩ := Derives.literal_iff.1 hend
  obtain ⟨-, rfl⟩ := Derives.literal_iff.1 hword
  obtain ⟨hg, hne⟩ := derives_spaces (Derives.boxed_iff.1 hspaces)
  obtain ⟨d, rfl, hd, hw⟩ := derives_body hbody
  have hclosed : Spaced (d.body ++ [.mark ';']) (w ++ (g' ++ [';'])) :=
    (spaced_close_iff (Using.endsFree_body hd)).2 ⟨w, g', rfl, derives_gap hg', hw⟩
  refine ⟨d, rfl, hd, ?_⟩
  exact (spaced_append_iff (l := [.usingWord]) (List.cons_ne_nil _ _) (by simp)).2
    ⟨"using".toList, g, _, by simp, hg, fun _ => hne, .one rfl, hclosed⟩

/-! ## Every rule -/

/-- The rules whose values are given to those who use the grammar. -/
def Construct.rules : List String :=
  ["type", "namespaced_name", "generic_arguments", "tuple", "using"]

theorem derives_genericArguments (h : Derives Defined (.boxed (.rule argumentsRule)) v u) :
    ∃ as : List (Argument TypeRef), v = (Construct.arguments as).value ∧
      (Construct.arguments as).isWellFormed ∧ Spaced (Construct.arguments as).tokens u := by
  obtain ⟨as, g, w, rfl, rfl, hg, hw⟩ := derives_arguments (readsTypes _) (Nat.le_refl _) h
  refine ⟨as, rfl, ?_, ?_⟩
  · simpa [Phrase.isWellFormed, Construct.isWellFormed, Argument.areWellFormed_eq] using
      hw.isWellFormed
  · rw [Construct.tokens, bracketed, Argument.tokenLists_eq,
      spaced_open_iff (startsFree_items hw.isWellFormed)]
    exact ⟨g, w, rfl, hg, hw.spaced⟩

/-- **What a rule of the grammar derives** is a well-formed value and its tokens. -/
theorem construct_of_derives {rule : String} (hrule : rule ∈ Construct.rules) {b : Binding Value}
    (hb : names.lookup rule = some b) (h : Derives Defined (.boxed b.toParser) v u) :
    ∃ c : Construct, c.rule = rule ∧ v = c.value ∧ c.isWellFormed ∧ Spaced c.tokens u := by
  simp only [Construct.rules, List.mem_cons, List.not_mem_nil, or_false] at hrule
  rcases hrule with rfl | rfl | rfl | rfl | rfl <;> cases hb
  · obtain ⟨t, rfl, ht⟩ := spelled_of_derives h
    exact ⟨.type t, rfl, rfl, ht.isWellFormed, ht.spaced⟩
  · obtain ⟨xs, rfl, hxs⟩ := derives_namespacedName h
    exact ⟨.name xs, rfl, rfl, hxs.isName, (nameSpelled_iff hxs.isName).1 hxs⟩
  · obtain ⟨as, rfl, has⟩ := derives_genericArguments h
    exact ⟨.arguments as, rfl, rfl, has⟩
  · obtain ⟨es, rfl, hes⟩ := derives_tuple (readsTypes _) (Nat.le_refl _) h
    exact ⟨.tuple es, rfl, rfl, hes.isWellFormed, hes.spaced⟩
  · obtain ⟨d, rfl, hd⟩ := derives_directive h
    exact ⟨.directive d, rfl, rfl, hd⟩

/-- What the names of the rules stand for. -/
theorem Live.lookup {σ : Session Value} (hσ : Live σ) {rule : String}
    (hrule : rule ∈ Construct.rules) : σ.bindings.lookup rule = names.lookup rule := by
  refine hσ.lookup_of_ne ?_
  rintro rfl
  simp [Construct.rules] at hrule

/-- **The grammar accepts nothing else**: whenever a rule accepts a text, its value is well formed,
and the text is the tokens of that value with blanks between them. -/
theorem accepted {σ σ' : Session Value} (hσ : InUse σ) {rule : String}
    (hrule : rule ∈ Construct.rules) {n : Nat} {s : Text} {answer : Answer Value}
    (h : (Step.parseAll (.ref rule) s).run (Calls.upTo n) σ = some (answer, σ'))
    (hanswer : answer.reply = .parsedAll v) :
    ∃ c : Construct, c.rule = rule ∧ v = c.value ∧ c.isWellFormed ∧ Spaced c.tokens s := by
  have hlive : Live { σ with builds := [], log := [] } := hσ.live.congr rfl rfl
  obtain ⟨b, hb⟩ : ∃ b, names.lookup rule = some b := by
    simp only [Construct.rules, List.mem_cons, List.not_mem_nil, or_false] at hrule
    rcases hrule with rfl | rfl | rfl | rfl | rfl <;> exact ⟨_, rfl⟩
  rw [Step.run_apply, Step.reply, Step.withParser_ref ((hlive.lookup hrule).trans hb)] at h
  obtain ⟨⟨reply, u⟩, hreply, hu⟩ := Option.map_eq_some_iff.1 h
  obtain ⟨rfl, -⟩ := Prod.mk.inj hu
  obtain ⟨result, t, hparse, hresult⟩ := Run.bind_eq_some_iff.1 hreply
  rcases result with e | x
  · obtain ⟨rfl, -⟩ := Run.pure_eq_some_iff.1 hresult
    cases hanswer
  · obtain ⟨rfl, -⟩ := Run.pure_eq_some_iff.1 hresult
    cases hanswer
    obtain ⟨-, hderives⟩ := derives_of_parseAll (fun _ _ => Live.log) keeps_force n _ s _ _ _
      hlive hparse
    exact construct_of_derives hrule hb (hderives _ rfl)

/-- The session in which the generic arguments have been asked for. -/
def forced : Session Value :=
  { session false with
    nextId := 90
    arenas := [{ slots := [typeSlot, { value := some (arguments 76) }] }]
    bindings :=
      Session.rename names "further arguments" (.parser (furtherItems 76 (.boxed argument))) }

theorem inUse_forced : InUse forced := by
  obtain ⟨log, hstart⟩ := start_eq false
  have hpending : ((session false).slot? argumentsRule).map Slot.stage =
      some (.pending argumentsDeferred) := rfl
  have hlog : Run.log .trace ("building lazy rule " ++ argumentsRule.id.mark)
      ((session false).beginBuild argumentsRule) =
        some ((), (session false).beginBuild argumentsRule) := rfl
  have hthunk : argumentsRule.runThunk (Calls.upTo 1).build argumentsDeferred
      ((session false).beginBuild argumentsRule) = _ :=
    (Run.bind_of_eq_some hlog).trans (build_arguments (Calls.upTo 0) rfl)
  have hforce := (Rule.force_of_pending hpending).trans (congrArg _ hthunk)
  have hrun : (Step.force "generic_arguments").run (Calls.upTo 1) (session false) = _ :=
    Step.run_force rfl hforce
  exact (InUse.start hstart).step rfl hrun

theorem accepted_tuple : ∃ c : Construct, c.rule = "tuple" ∧
    .list [.value (.element ⟨.generic [['a']] [⟨some .contravariant, .name [['b']]⟩], some ['c']⟩),
      .value (.element ⟨.array (.name [['d']]), none⟩)] = c.value ∧
    c.isWellFormed ∧ Spaced c.tokens "( a < In  b >\tc,d[ ])".toList := by
  have haccepted {v : Output Value} (hreply : ((Step.parseAll (.ref "tuple")
      "( a < In  b >\tc,d[ ])".toList).run (Calls.upTo 9) forced).map (·.1.reply) =
        some (.parsedAll v)) : ∃ c : Construct, c.rule = "tuple" ∧ v = c.value ∧
          c.isWellFormed ∧ Spaced c.tokens "( a < In  b >\tc,d[ ])".toList := by
    obtain ⟨⟨answer, σ'⟩, hrun, hanswer⟩ := Option.map_eq_some_iff.1 hreply
    exact accepted inUse_forced (by simp [Construct.rules]) hrun hanswer
  exact haccepted (by decide +kernel)

end GrammarGraph.CSharp
