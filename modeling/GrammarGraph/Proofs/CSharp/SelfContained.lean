import GrammarGraph.Proofs.CSharp.Asking
import GrammarGraph.Proofs.CSharp.Directive

/-!
# Proofs/CSharp/SelfContained — what is read depends on nothing that comes after it

    consumed │ rest        the consumed text, alone, is read to its end, and as the same value

The grammar looks ahead: for more segments of a name, for generic arguments, for the suffix of an
array, for a name of an element.  What it finds may come to nothing, and then the text it was found
in is left over.  So it is not clear that a text which is consumed is read where it ends.

But every text that a rule derives is of one of two kinds (`SelfContained`).  Either all of it is
read, and that where nothing comes after it; or the rule does not stop at its end, whatever comes
after it, because generic arguments in it come to nothing.  A parse that stops has consumed a text
of the first kind (`consumed_self_contained`).
-/

namespace GrammarGraph.CSharp

open Rules

variable {p : Parser Value} {u r : Text}

/-- **What the parser derives it reads alone**, or it never stops at its end. -/
def SelfContained (p : Parser Value) : Prop :=
  ∀ v u, Derives Defined p v u → ReadsAlone p u v ∨ ∀ r, StopsElsewhere p u r

/-- **A self-contained parser reads what it has consumed** as it has read it before. -/
theorem SelfContained.readsAlone (hp : SelfContained p) {σ τ : Session Value} (hσ : Live σ)
    {n : Nat} {s : Text} {v : Output Value}
    (h : p.parse (Calls.upTo n) s σ = some (.ok (v, r), τ)) :
    ∃ u, s = u ++ r ∧ ReadsAlone p u v := by
  obtain ⟨u, rfl, hderives, hstops⟩ := exists_derives_of_parse hσ h
  exact ⟨u, rfl, (hp v u hderives).resolve_right fun helsewhere => hstops (helsewhere r)⟩

/-! ## The rules -/

theorem readsAlone_of_gives {v : Output Value} (h : ∀ n, 2 * u.length < n →
    Gives Live (Calls.upTo n) p (u ++ []) (some (v, []))) : ReadsAlone p u v := by
  intro n hn
  simpa only [List.append_nil] using h n hn

theorem stopsElsewhere_of_none
    (h : ∀ n, 2 * u.length < n → Gives Live (Calls.upTo n) p (u ++ r) none) :
    StopsElsewhere p u r := fun n hn => ⟨none, h n hn, nofun⟩

/-- Where a type falls short, generic arguments in it are left over. -/
theorem FallsShort.stopsElsewhere (h : FallsShort u) (r : Text) :
    StopsElsewhere (.boxed (.rule Rules.typeRule)) u r := by
  intro n hn
  obtain hnone | ⟨v, y, htype, hy⟩ := h.typeRule hn r
  · exact ⟨none, hnone, nofun⟩
  · refine ⟨_, htype, fun w hw => ?_⟩
    have hrest : y ++ r = r := (Prod.mk.inj (Option.some.inj hw)).2
    obtain ⟨g, z, rfl, -⟩ := hy
    exact List.append_ne_nil_of_right_ne_nil g (List.cons_ne_nil _ _)
      (List.append_left_eq_self.1 hrest)

/-- **A list between brackets is read, or it is no list**, whatever comes after it. -/
theorem readsAlone_or_stopsElsewhere {left close : Char} {is : List Item} {g w : Text}
    {v : Output Value} (hw : Spelled Anything (.items close is) w)
    (hreads : ReadsItems close is w → ∀ n, 2 * w.length < n → ∀ r,
      Gives Live (Calls.upTo n) p (left :: (g ++ (w ++ r))) (some (v, r)))
    (hsticks : ItemsStick close is w → ∀ n, 2 * w.length < n → ∀ r,
      Gives Live (Calls.upTo n) p (left :: (g ++ (w ++ r))) none) :
    ReadsAlone p (left :: (g ++ w)) v ∨ ∀ r, StopsElsewhere p (left :: (g ++ w)) r := by
  have hlength (n : Nat) (hn : 2 * (left :: (g ++ w)).length < n) : 2 * w.length < n := by
    simp only [List.length_cons, List.length_append] at hn
    omega
  have htext (r : Text) : left :: (g ++ w) ++ r = left :: (g ++ (w ++ r)) := by simp
  refine hw.unvaried_or_sticks.imp (fun h => ?_) fun h r => ?_
  · refine readsAlone_of_gives fun n hn => ?_
    rw [htext]
    exact hreads h.reads n (hlength n hn) []
  · refine stopsElsewhere_of_none fun n hn => ?_
    rw [htext]
    exact hsticks h n (hlength n hn) r

theorem map_value {β : Type} (f : β → Item) (bs : List β) :
    bs.map (fun b => (f b).value) = (bs.map f).map Item.value := by
  rw [List.map_map]
  rfl

theorem selfContained_identifier : SelfContained (.boxed identifier) := by
  intro v x h
  obtain ⟨rfl, hx⟩ := derives_identifier h
  exact .inl (readsAlone_of_gives fun n _ => gives_identifier hx .nil)

theorem selfContained_namespacedName : SelfContained (.boxed namespacedName) := by
  intro v m h
  obtain ⟨xs, rfl, hm⟩ := derives_namespacedName h
  have hend : FollowsType [] := .nil
  exact .inl (readsAlone_of_gives fun n _ =>
    gives_namespacedName hm hend.word (hend.next.mono (by simp)))

theorem selfContained_type : SelfContained (.boxed (.rule typeRule)) := by
  intro v u h
  obtain ⟨t, rfl, ht⟩ := spelled_of_derives h
  refine ht.unvaried_or_stopsShort.imp (fun ht => ?_) FallsShort.stopsElsewhere
  exact readsAlone_of_gives fun n hn => gives_typeRule ht.reads hn .nil

theorem selfContained_arguments : SelfContained (.boxed (.rule argumentsRule)) := by
  intro v u h
  obtain ⟨as, g, w, rfl, rfl, hg, has⟩ := derives_arguments (readsTypes _) (Nat.le_refl _) h
  rw [map_value]
  exact readsAlone_or_stopsElsewhere has
    (fun hreads n hn => gives_arguments hg hreads has.stops_isBlank hn)
    fun hsticks n hn => gives_arguments_stuck hg hsticks has.stops_isBlank hn

theorem selfContained_tuple : SelfContained (.boxed tuple) := by
  intro v u h
  obtain ⟨es, rfl, hes⟩ := derives_tuple (readsTypes _) (Nat.le_refl _) h
  obtain _ | _ | @⟨_, g, w, hg, hes⟩ := hes
  rw [map_value]
  exact readsAlone_or_stopsElsewhere hes
    (fun hreads n hn => gives_tuple hg hreads hes.stops_isBlank (Nat.le_of_lt hn))
    fun hsticks n hn => gives_tuple_stuck hg hsticks hes.stops_isBlank (Nat.le_of_lt hn)

theorem selfContained_directive : SelfContained (.boxed directive) := by
  intro v u h
  obtain ⟨d, rfl, hd⟩ := directiveSpelled_of_derives h
  refine hd.unvaried_or_none.imp (fun hd => ?_) fun hnone r => ?_
  · exact readsAlone_of_gives fun n hn => gives_directive hd hn []
  · exact stopsElsewhere_of_none fun n hn => hnone n hn r

/-- **Every rule is self-contained.** -/
theorem selfContained {rule : String} (hrule : rule ∈ Grammar.ruleNames) :
    ∃ b, names.lookup rule = some b ∧ SelfContained (.boxed b.toParser) := by
  simp only [Grammar.ruleNames, List.mem_cons, List.not_mem_nil, or_false] at hrule
  rcases hrule with rfl | rfl | rfl | rfl | rfl | rfl
  · exact ⟨_, rfl, selfContained_identifier⟩
  · exact ⟨_, rfl, selfContained_namespacedName⟩
  · exact ⟨_, rfl, selfContained_type⟩
  · exact ⟨_, rfl, selfContained_arguments⟩
  · exact ⟨_, rfl, selfContained_tuple⟩
  · exact ⟨_, rfl, selfContained_directive⟩

/-! ## What is consumed -/

/-- **What a rule consumes is self-contained**: whenever a rule has read the start of a text, the
text that it consumed, with nothing after it, is read to its end by the same rule, at any time, and
as the same value. -/
theorem consumed_self_contained {σ σ' : Session Value} (hσ : Served σ) {rule : String}
    (hrule : rule ∈ Grammar.ruleNames) {n : Nat} {s r u : Text} {v : Output Value}
    {answer : Answer Value}
    (h : (Step.parse (.ref rule) s).run (Calls.upTo n) σ = some (answer, σ'))
    (hanswer : answer.reply = .parsed v r u) : s = u ++ r ∧ AlwaysReads rule u v := by
  obtain ⟨b, hb, hp⟩ := selfContained hrule
  have hnames : rule ∈ allNames := List.mem_cons_of_mem _ hrule
  obtain ⟨rfl, τ, τ', hlive, hparse⟩ := exists_parse_of_run hnames hb hσ h hanswer
  obtain ⟨u, rfl, halone⟩ := hp.readsAlone hlive hparse
  rw [Text.consumed?_append, Option.getD_some]
  exact ⟨rfl, halone.alwaysReads hnames hb⟩

/-- The suffix of an array is begun twice, and closed once: the second is left over. -/
theorem consumed_self_contained_suffix :
    "a<b>[ ] [c".toList = "a<b>[ ]".toList ++ " [c".toList ∧
      AlwaysReads "type" "a<b>[ ]".toList
        (.value (.type (.array (.generic [['a']] [⟨none, .name [['b']]⟩])))) := by
  have hconsumed {v : Output Value} (hreply : ((Step.parse (.ref "type")
      "a<b>[ ] [c".toList).run (Calls.upTo 9) refused).map (·.1.reply) =
        some (.parsed v " [c".toList "a<b>[ ]".toList)) :
      "a<b>[ ] [c".toList = "a<b>[ ]".toList ++ " [c".toList ∧
        AlwaysReads "type" "a<b>[ ]".toList v := by
    obtain ⟨⟨answer, σ'⟩, hrun, hanswer⟩ := Option.map_eq_some_iff.1 hreply
    exact consumed_self_contained served_refused (by simp [Grammar.ruleNames]) hrun hanswer
  exact hconsumed (by decide +kernel)

end GrammarGraph.CSharp
