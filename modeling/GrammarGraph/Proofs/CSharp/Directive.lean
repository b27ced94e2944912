import GrammarGraph.Proofs.CSharp.Construct
import GrammarGraph.Proofs.CSharp.Rejection

/-!
# Proofs/CSharp/Directive — how directives are read

    using A = T ;          tried first
    using N ;              tried where there is no `A =`

A directive says that a name stands for a type, or it says the name of a namespace.  The first form
is given up where no `=` comes after the first word; once it has been found the grammar stays with
it.  So a directive is read whatever comes after its semicolon (`gives_directive`), or it is not
read at all, because its type falls short (`DirectiveSpelled.unvaried_or_none`).
-/

namespace GrammarGraph.CSharp

open Rules

variable {u b g r : Text} {d : Using} {n : Nat}

/-! ## Spellings -/

/-- The spellings of what a directive says. -/
inductive BodySpelled (Plain : Text → Prop) : Using → Text → Prop
  | ofNamespace {xs m} (hm : NameSpelled xs m) : BodySpelled Plain (.ofNamespace xs) m
  | ofAlias {x t g g' u} (hx : isIdentifier x) (hg : IsGap g) (hg' : IsGap g')
      (ht : Spelled Plain (.type t) u) :
      BodySpelled Plain (.ofAlias x t) (x ++ (g ++ '=' :: (g' ++ u)))

/-- **The spellings of a directive.** -/
inductive DirectiveSpelled (Plain : Text → Prop) : Using → Text → Prop
  | mk {d g b g'} (hg : IsGap g) (hne : g ≠ []) (hb : BodySpelled Plain d b) (hg' : IsGap g') :
      DirectiveSpelled Plain d ("using".toList ++ (g ++ (b ++ (g' ++ [';']))))

/-- The tokens of a well-formed directive, with blanks between them, are a spelling of it. -/
theorem directiveSpelled_of_spaced (hd : d.isWellFormed) (h : Spaced d.tokens u) :
    DirectiveSpelled Anything d u := by
  obtain ⟨_, g, _, rfl, hg, hblank, hword, h⟩ :=
    (spaced_append_iff (l := [.usingWord]) (List.cons_ne_nil _ _) (by simp)).1 h
  obtain ⟨w, g', rfl, hg', hw⟩ := (spaced_close_iff (Using.endsFree_body hd)).1 h
  obtain rfl := spaced_singleton_iff.1 hword
  refine .mk hg (hblank rfl) ?_ hg'
  cases d with
  | ofNamespace xs => exact .ofNamespace ((nameSpelled_iff hd).2 hw)
  | ofAlias x t =>
    obtain ⟨hx, ht⟩ := Bool.and_eq_true_iff.1 hd
    obtain ⟨_, g, g', u, rfl, hg, hg', hword, hu⟩ := (spaced_mark_iff (l := [.word x])
      (endsFree_singleton rfl) (t.startsFree_tokens ht)).1 hw
    obtain rfl := spaced_singleton_iff.1 hword
    exact .ofAlias hx hg hg' (spelled_iff.2 ⟨ht, hu⟩)

theorem directiveSpelled_of_derives {v : Output Value}
    (h : Derives Defined (.boxed directive) v u) :
    ∃ d, v = .value (.directive d) ∧ DirectiveSpelled Anything d u := by
  obtain ⟨d, rfl, hd, h⟩ := derives_directive h
  exact ⟨d, rfl, directiveSpelled_of_spaced hd h⟩

theorem BodySpelled.stops_isBlank {Plain : Text → Prop} (h : BodySpelled Plain d b) (r : Text) :
    Stops isBlank (b ++ r) := by
  cases h with
  | ofNamespace hm => exact hm.stops_isBlank r
  | ofAlias hx =>
    rw [List.append_assoc]
    exact stops_isBlank_of_isIdentifier hx _

/-! ## What a directive says -/

/-- A name for a type, or the name of a namespace. -/
def content : Parser Value :=
  .choice 67 (.boxed usingAlias) (.map 66 (.boxed namespacedName) toNamespace)

/-- The name that is given to a type, and `=`. -/
theorem gives_aliasName {x g' : Text} (hx : isIdentifier x) (hg : IsGap g) (hg' : IsGap g')
    (hr : Stops isBlank r) :
    Gives Live (Calls.upTo n)
      (before 61 (before 60 (before 58 (.boxed identifier) (.boxed gap)) (.literal 59 ['=']))
        (.boxed gap)) (x ++ (g ++ '=' :: (g' ++ r))) (some (.value (.identifier x), r)) :=
  gives_wordMark rfl rfl hx hg hg' hr

/-- **There is no name for a type** where no `=` comes after the first word. -/
theorem gives_alias_none {xs : List Text} {m : Text} (hm : NameSpelled xs m)
    (hr : Stops isWordPart r) (heq : Avoids ['='] r) :
    Gives Live (Calls.upTo n) (.boxed usingAlias) (m ++ r) none := by
  refine .boxed (.map_none (.sequence_left ?_))
  cases hm with
  | last hx => exact gives_wordMark_none hx hr heq
  | dot hx hg hg' hxs =>
    rw [List.append_assoc, List.append_assoc, List.cons_append]
    exact gives_wordMark_none hx (hg.stops_isWordPart (.cons rfl))
      (avoids_cons hg rfl (by decide) _)

theorem gives_namespace {xs : List Text} {m : Text} (hm : NameSpelled xs m)
    (hr : Stops isWordPart r) (hnext : Avoids ['.', '='] r) :
    Gives Live (Calls.upTo n) content (m ++ r)
      (some (.value (.directive (.ofNamespace xs)), r)) := by
  have hname := gives_namespacedName (C := Calls.upTo n) hm hr (hnext.mono (by simp))
  exact .second (fun _ _ => Live.log) (.pure trivial)
    (gives_alias_none hm hr (hnext.mono (by simp))) (.map hname)

/-- What may follow what a directive says: its semicolon. -/
theorem followsType_semicolon (hg : IsGap g) (r : Text) : FollowsType (g ++ ';' :: r) :=
  ⟨hg.stops_isWordPart (.cons rfl), avoids_cons hg rfl (by decide) r⟩

theorem gives_content (h : BodySpelled Unvaried d b) (hn : 2 * b.length < n) (hg : IsGap g)
    (r : Text) : Gives Live (Calls.upTo n) content (b ++ (g ++ ';' :: r))
      (some (.value (.directive d), g ++ ';' :: r)) := by
  cases h with
  | ofNamespace hm =>
    exact gives_namespace hm (followsType_semicolon hg r).word (avoids_cons hg rfl (by decide) r)
  | @ofAlias x t g₁ g₂ u hx hg₁ hg₂ ht =>
    simp only [List.length_append, List.length_cons] at hn
    have htype := gives_typeRule ht.reads (n := n) (by omega) (followsType_semicolon hg r)
    have hname := gives_aliasName (n := n) hx hg₁ hg₂ (ht.stops_isBlank (g ++ ';' :: r))
    have halias : Gives Live (Calls.upTo n) (.boxed usingAlias)
        (x ++ (g₁ ++ '=' :: (g₂ ++ (u ++ (g ++ ';' :: r)))))
        (some (.value (.directive (.ofAlias x t)), g ++ ';' :: r)) :=
      .boxed (.map (.sequence hname htype))
    have hcontent : Gives Live (Calls.upTo n) content _ _ := .first halias
    simpa using hcontent

/-- **Where the type falls short**, the semicolon does not come next. -/
theorem BodySpelled.unvaried_or_stops (h : BodySpelled Anything d b) :
    BodySpelled Unvaried d b ∨ ∀ n, 2 * b.length < n → ∀ r, ∃ v s,
      Gives Live (Calls.upTo n) content (b ++ r) (some (v, s)) ∧ Avoids [';'] s := by
  cases h with
  | ofNamespace hm => exact .inl (.ofNamespace hm)
  | @ofAlias x t g g' u hx hg hg' ht =>
    refine ht.unvaried_or_stopsShort.imp (.ofAlias hx hg hg') fun hshort n hn r => ?_
    simp only [List.length_append, List.length_cons] at hn
    have htext : x ++ (g ++ '=' :: (g' ++ u)) ++ r = x ++ (g ++ '=' :: (g' ++ (u ++ r))) := by simp
    have hstart := gives_aliasName (n := n) hx hg hg' (ht.stops_isBlank r)
    rw [htext]
    obtain htype | ⟨v, y, htype, hy⟩ := FallsShort.typeRule hshort (n := n) (by omega) r
    · have hword := hg.stops_isWordPart (.cons (c := '=') (r := g' ++ (u ++ r)) rfl)
      have hname := gives_namespacedName (C := Calls.upTo n) (.last hx) hword
        (avoids_cons hg rfl (by decide) _)
      exact ⟨_, _, .second (fun _ _ => Live.log) (.pure trivial)
        (.boxed (.map_none (.sequence_right hstart htype))) (.map hname),
        avoids_cons hg rfl (by decide) _⟩
    · exact ⟨_, _, .first (.boxed (.map (.sequence hstart htype))),
        (hy.append r).avoids (by decide)⟩

/-! ## Directives -/

section Content

variable {v : Output Value} {s : Text} (hg : IsGap g) (hne : g ≠ []) (hb : Stops isBlank b)
  (h : Gives Live (Calls.upTo n) content b (some (v, s)))

include hg hne hb h

theorem gives_afterUsing : Gives Live (Calls.upTo n)
    (after 68 (before 65 (.literal 64 "using".toList) (.boxed spaces)) content)
    ("using".toList ++ (g ++ b)) (some (v, s)) :=
  .sequence (.sequence (.literal 64 "using".toList _) (gives_spaces hg hne hb)) h

/-- A directive ends with its semicolon. -/
theorem gives_directive_none (hs : Avoids [';'] s) :
    Gives Live (Calls.upTo n) (.boxed directive) ("using".toList ++ (g ++ b)) none := by
  obtain ⟨g', r, rfl, hg', hr, hc⟩ := hs
  obtain ⟨_, hgap⟩ := gives_gap (C := Calls.upTo n) hg' hr
  exact .boxed (.named (.sequence_right (.sequence (gives_afterUsing hg hne hb h) hgap)
    (gives_literal_none (hc ';' (List.mem_singleton_self _)))))

end Content

/-- **A directive is read whatever comes after its semicolon.** -/
theorem gives_directive (h : DirectiveSpelled Unvaried d u) (hn : 2 * u.length < n) (r : Text) :
    Gives Live (Calls.upTo n) (.boxed directive) (u ++ r) (some (.value (.directive d), r)) := by
  obtain ⟨hg, hne, hb, hg'⟩ := h
  rename_i g b g'
  simp only [List.length_append] at hn
  have hcontent := gives_content (n := n) hb (by omega) hg' r
  obtain ⟨_, hgap⟩ := gives_gap (C := Calls.upTo n) hg' (.cons (c := ';') (r := r) rfl)
  have hdirective : Gives Live (Calls.upTo n) (.boxed directive)
      ("using".toList ++ (g ++ (b ++ (g' ++ ';' :: r)))) (some (.value (.directive d), r)) :=
    .boxed (.named (.sequence (.sequence
      (gives_afterUsing hg hne (hb.stops_isBlank _) hcontent) hgap) (.literal 70 [';'] r)))
  simpa using hdirective

/-- **A directive is read, or it is no directive**, whatever comes after it. -/
theorem DirectiveSpelled.unvaried_or_none (h : DirectiveSpelled Anything d u) :
    DirectiveSpelled Unvaried d u ∨
      ∀ n, 2 * u.length < n → ∀ r, Gives Live (Calls.upTo n) (.boxed directive) (u ++ r) none := by
  obtain ⟨hg, hne, hb, hg'⟩ := h
  rename_i g b g'
  refine hb.unvaried_or_stops.imp (.mk hg hne · hg') fun hstops n hn r => ?_
  simp only [List.length_append] at hn
  obtain ⟨v, s, hcontent, hs⟩ := hstops n (by omega) (g' ++ ';' :: r)
  have hdirective := gives_directive_none hg hne (hb.stops_isBlank _) hcontent hs
  simpa using hdirective

end GrammarGraph.CSharp
