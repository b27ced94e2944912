import GrammarGraph.Proofs.CSharp.Asking
import GrammarGraph.Proofs.CSharp.Directive

/-!
# Proofs/CSharp/Block — blocks of directives can be put one after the other

    blanks  using …;  blanks  using …;  blanks          directive after directive, to the end

A directive is read whatever comes after its semicolon, and the blanks between two directives belong
to no directive.  So what is read as a block are exactly the directives that are read, with blanks
before, between and after them (`blockSpelled_of_readAs`, `alwaysReads_of_blockSpelled`), and one
block after another is a block (`usings_concatenate`).
-/

namespace GrammarGraph.CSharp

open Rules

/-! ## Spellings -/

/-- **The spellings of a block of directives.** -/
inductive BlockSpelled (Plain : Text → Prop) : List Using → Text → Prop
  | nil {g} (hg : IsGap g) : BlockSpelled Plain [] g
  | cons {d ds g u w} (hg : IsGap g) (hd : DirectiveSpelled Plain d u)
      (hds : BlockSpelled Plain ds w) : BlockSpelled Plain (d :: ds) (g ++ (u ++ w))

variable {a b g u w r : Text} {d : Using} {ds es : List Using} {n : Nat} {v : Output Value}
  {Plain : Text → Prop}

theorem IsGap.append (hg : IsGap g) (hw : IsGap w) : IsGap (g ++ w) := by
  rw [IsGap, List.all_append, Bool.and_eq_true]
  exact ⟨hg, hw⟩

theorem BlockSpelled.gap_append (hg : IsGap g) (h : BlockSpelled Plain ds a) :
    BlockSpelled Plain ds (g ++ a) := by
  cases h with
  | nil hg' => exact .nil (hg.append hg')
  | cons hg' hd hds =>
    rw [← List.append_assoc]
    exact .cons (hg.append hg') hd hds

/-- **One block after another is a block.** -/
theorem BlockSpelled.append (h : BlockSpelled Plain ds a) (h' : BlockSpelled Plain es b) :
    BlockSpelled Plain (ds ++ es) (a ++ b) := by
  induction h with
  | nil hg => exact h'.gap_append hg
  | cons hg hd _ ih =>
    rw [List.append_assoc, List.append_assoc]
    exact .cons hg hd ih

/-! ## Reading -/

/-- A directive and the blanks after it. -/
def line : Parser Value := before 73 (.boxed directive) (.boxed gap)

/-- What the directives of a block are read as. -/
def directiveValues (ds : List Using) : List (Output Value) :=
  ds.map fun d => .value (.directive d)

theorem directiveValues_inj : directiveValues ds = directiveValues es ↔ ds = es :=
  (List.map_injective_iff.2 fun _ _ h => by cases h; rfl).eq_iff

theorem DirectiveSpelled.exists_cons (h : DirectiveSpelled Plain d u) :
    ∃ t, u = 'u' :: t := by
  cases h
  exact ⟨_, rfl⟩

theorem gives_line (h : DirectiveSpelled Unvaried d u) (hn : 2 * u.length < n) (hg : IsGap g)
    (hr : Stops isBlank r) :
    Gives Live (Calls.upTo n) line (u ++ (g ++ r)) (some (.value (.directive d), r)) := by
  obtain ⟨_, hgap⟩ := gives_gap (C := Calls.upTo n) hg hr
  exact .sequence (gives_directive h hn _) hgap

/-- The blanks before the directives, and these one after another. -/
theorem gives_directives {vs : List (Output Value)} (hg : IsGap g) (hw : Stops isBlank w)
    (h : Gives.Repeats Live (Calls.upTo n) line w vs r) :
    Gives Live (Calls.upTo n) (.boxed directives) (g ++ w) (some (.list vs, r)) := by
  obtain ⟨_, hgap⟩ := gives_gap (C := Calls.upTo n) hg hw
  exact .boxed (.sequence hgap (.star h))

/-- **The directives of a block are read** up to some rest, after blanks. -/
def ReadsLines (n : Nat) (a : Text) (vs : List (Output Value)) (r : Text) : Prop :=
  ∃ g w, a = g ++ w ∧ IsGap g ∧ Stops isBlank w ∧
    Gives.Repeats Live (Calls.upTo n) line w vs r

theorem ReadsLines.gives {vs : List (Output Value)} (h : ReadsLines n a vs r) :
    Gives Live (Calls.upTo n) (.boxed directives) a (some (.list vs, r)) := by
  obtain ⟨g, w, rfl, hg, hw, h⟩ := h
  exact gives_directives hg hw h

theorem readsLines_nil (hg : IsGap g) : ReadsLines n g [] [] := by
  refine ⟨g, [], by simp, hg, .nil, Gives.done (.sequence_left (.boxed (.named ?_)))⟩
  exact .sequence_left (.sequence_left (.sequence_left (.sequence_left (.literal_none rfl))))

theorem readsLines_cons {vs : List (Output Value)} (hg : IsGap g)
    (hd : DirectiveSpelled Unvaried d u) (hn : 2 * u.length < n) (h : ReadsLines n w vs r) :
    ReadsLines n (g ++ (u ++ w)) (.value (.directive d) :: vs) r := by
  obtain ⟨g', w, rfl, hg', hw, h⟩ := h
  obtain ⟨t, rfl⟩ := hd.exists_cons
  exact ⟨g, _, rfl, hg, .cons rfl, Gives.more (gives_line hd hn hg' hw) (by simp; omega) h⟩

/-- **A block is read to its end.** -/
theorem BlockSpelled.reads (h : BlockSpelled Unvaried ds a) (hn : 2 * a.length < n) :
    ReadsLines n a (directiveValues ds) [] := by
  induction h with
  | nil hg => exact readsLines_nil hg
  | cons hg hd _ ih =>
    simp only [List.length_append] at hn
    exact readsLines_cons hg hd (by omega) (ih (by omega))

/-- **The first directive that is not read ends the block.** -/
theorem BlockSpelled.unvaried_or_readsLines (h : BlockSpelled Anything ds a) :
    BlockSpelled Unvaried ds a ∨
      ∀ n, 2 * a.length < n → ∃ vs r, ReadsLines n a vs r ∧ r ≠ [] := by
  induction h with
  | nil hg => exact .inl (.nil hg)
  | @cons d ds g u w hg hd _ ih =>
    obtain hd | hnone := hd.unvaried_or_none
    · refine ih.imp (.cons hg hd) fun hstops n hn => ?_
      simp only [List.length_append] at hn
      obtain ⟨vs, r, hlines, hr⟩ := hstops n (by omega)
      exact ⟨_, r, readsLines_cons hg hd (by omega) hlines, hr⟩
    · refine .inr fun n hn => ?_
      simp only [List.length_append] at hn
      have hline : Gives Live (Calls.upTo n) line (u ++ w) none :=
        .sequence_left (hnone n (by omega) w)
      obtain ⟨t, rfl⟩ := hd.exists_cons
      exact ⟨[], _, ⟨g, _, rfl, hg, .cons rfl, Gives.done hline⟩, List.cons_ne_nil _ _⟩

/-- A block is read to its end, or never. -/
theorem BlockSpelled.unvaried_or_stops (h : BlockSpelled Anything ds a) :
    BlockSpelled Unvaried ds a ∨ StopsElsewhere (.boxed directives) a [] := by
  refine h.unvaried_or_readsLines.imp_right fun hlines n hn => ?_
  obtain ⟨vs, r, hlines, hr⟩ := hlines n hn
  refine ⟨_, by rw [List.append_nil]; exact hlines.gives, fun v hv => hr ?_⟩
  exact (Prod.mk.inj (Option.some.inj hv)).2

theorem blockSpelled_of_derives (h : Derives Defined (.boxed directives) v a) :
    ∃ ds, v = .list (directiveValues ds) ∧ BlockSpelled Anything ds a := by
  obtain ⟨_, _, g, _, rfl, rfl, hg, hlines⟩ := Derives.sequence_iff.1 (Derives.boxed_iff.1 h)
  obtain ⟨items, rfl, rfl, hitems⟩ := hlines.items_of_star
  obtain ⟨ds, hds, hspelled⟩ : ∃ ds, items.map (·.1) = directiveValues ds ∧
      BlockSpelled Anything ds (items.map (·.2)).flatten := by
    clear h hlines
    induction items with
    | nil => exact ⟨[], rfl, .nil .nil⟩
    | cons i items ih =>
      obtain ⟨hi, hitems⟩ := List.forall_mem_cons.1 hitems
      obtain ⟨ds, hds, hspelled⟩ := ih hitems
      obtain ⟨_, _, u, g', hv, hu, hdirective, hg'⟩ := Derives.sequence_iff.1 hi
      obtain ⟨d, rfl, hd⟩ := directiveSpelled_of_derives hdirective
      refine ⟨d :: ds, by rw [List.map_cons, hds, hv]; rfl, ?_⟩
      rw [List.map_cons, List.flatten_cons, hu, List.append_assoc]
      exact .cons (g := []) .nil hd (hspelled.gap_append (derives_gap hg'))
  exact ⟨ds, congrArg Output.list hds, hspelled.gap_append (derives_gap hg)⟩

/-! ## Blocks that are read -/

/-- **What is read as a block is a block**, and read as its directives. -/
theorem blockSpelled_of_readAs (h : ReadAs "usings" a v) :
    ∃ ds, v = .list (directiveValues ds) ∧ BlockSpelled Unvaried ds a := by
  obtain ⟨σ, n, τ, hσ, hparse⟩ := h.exists_parse (by simp [allNames]) rfl
  obtain ⟨u, hu, hderives, hstops⟩ := exists_derives_of_parse hσ hparse
  obtain rfl : a = u := by rw [hu, List.append_nil]
  obtain ⟨ds, rfl, hspelled⟩ := blockSpelled_of_derives hderives
  exact ⟨ds, rfl, hspelled.unvaried_or_stops.resolve_right hstops⟩

/-- **A block is read as its directives**, at any time. -/
theorem alwaysReads_of_blockSpelled (h : BlockSpelled Unvaried ds a) :
    AlwaysReads "usings" a (.list (directiveValues ds)) :=
  have halone : ReadsAlone (.boxed directives) a (.list (directiveValues ds)) :=
    fun _ hn => (h.reads hn).gives
  halone.alwaysReads (b := .parser directives) (by simp [allNames]) rfl

/-! ## Blocks as they are written -/

/-- A directive as it is written. -/
def Using.written : Using → Text
  | .ofNamespace segments => "using ".toList ++ (renderName segments ++ [';'])
  | .ofAlias name target => "using ".toList ++ (name ++ (" = ".toList ++ (target.render ++ [';'])))

theorem Using.spelled_written (h : d.isWellFormed) : DirectiveSpelled Unvaried d d.written := by
  cases d with
  | ofNamespace xs =>
    exact .mk .blank (List.cons_ne_nil _ _) (.ofNamespace (nameSpelled_render h)) .nil
  | ofAlias x t =>
    obtain ⟨hx, ht⟩ := Bool.and_eq_true_iff.1 h
    have hspelled := DirectiveSpelled.mk .blank (List.cons_ne_nil _ _)
      (.ofAlias hx .blank .blank (spelled_render t ht)) .nil
    simp only [List.append_assoc, List.cons_append, List.nil_append] at hspelled
    exact hspelled

/-- Directives, each after some blanks, and the blanks after the last. -/
def writtenBlock (lines : List (Text × Using)) (g : Text) : Text :=
  lines.flatMap (fun l => l.1 ++ l.2.written) ++ g

theorem blockSpelled_written {lines : List (Text × Using)}
    (h : ∀ l ∈ lines, IsGap l.1 ∧ l.2.isWellFormed) (hg : IsGap g) :
    BlockSpelled Unvaried (lines.map (·.2)) (writtenBlock lines g) := by
  rw [writtenBlock]
  induction lines with
  | nil => exact .nil hg
  | cons l lines ih =>
    obtain ⟨⟨hl, hd⟩, hlines⟩ := List.forall_mem_cons.1 h
    rw [List.flatMap_cons, List.append_assoc, List.append_assoc]
    exact .cons hl (Using.spelled_written hd) (ih hlines)

/-- **Blocks of directives concatenate.**  What is read as a block is read as a list of directives;
two blocks one after the other are read as the directives of both.  And any well-formed directives,
as they are written and with any blanks before, between and after them, are read as themselves. -/
theorem usings_concatenate :
    (∀ a v, ReadAs "usings" a v → ∃ ds, v = .list (directiveValues ds)) ∧
    (∀ a b ds es, ReadAs "usings" a (.list (directiveValues ds)) →
      ReadAs "usings" b (.list (directiveValues es)) →
      AlwaysReads "usings" (a ++ b) (.list (directiveValues (ds ++ es)))) ∧
    ∀ lines g, (∀ l ∈ lines, IsGap l.1 ∧ l.2.isWellFormed) → IsGap g →
      AlwaysReads "usings" (writtenBlock lines g)
        (.list (directiveValues (lines.map (·.2)))) := by
  refine ⟨fun a v h => ?_, fun a b ds es ha hb => ?_, fun lines g h hg => ?_⟩
  · obtain ⟨ds, rfl, -⟩ := blockSpelled_of_readAs h
    exact ⟨ds, rfl⟩
  · obtain ⟨_, hds, ha⟩ := blockSpelled_of_readAs ha
    obtain ⟨_, hes, hb⟩ := blockSpelled_of_readAs hb
    obtain rfl := directiveValues_inj.1 (Output.list.inj hds)
    obtain rfl := directiveValues_inj.1 (Output.list.inj hes)
    exact alwaysReads_of_blockSpelled (ha.append hb)
  · exact alwaysReads_of_blockSpelled (blockSpelled_written h hg)

/-- A namespace after a blank and before the end of a line, and a name for the type `a` of the type
`in`. -/
theorem usings_concatenate_lines :
    let d : Using := .ofNamespace [['S'], ['T']]
    let e : Using := .ofAlias ['A'] keywordArgument
    ReadAs "usings" " using S.T;\n".toList (.list (directiveValues [d])) ∧
      ReadAs "usings" "using A = a<in>;".toList (.list (directiveValues [e])) ∧
      AlwaysReads "usings" (" using S.T;\n".toList ++ "using A = a<in>;".toList)
        (.list (directiveValues [d, e])) := by
  intro d e
  have hd : AlwaysReads "usings" (writtenBlock [([' '], d)] ['\n']) (.list (directiveValues [d])) :=
    usings_concatenate.2.2 [([' '], d)] ['\n'] (List.forall_mem_singleton.2 ⟨rfl, rfl⟩) rfl
  have he : AlwaysReads "usings" (writtenBlock [([], e)] []) (.list (directiveValues [e])) :=
    usings_concatenate.2.2 [([], e)] [] (List.forall_mem_singleton.2 ⟨rfl, rfl⟩) rfl
  exact ⟨hd.readAs, he.readAs, usings_concatenate.2.1 _ _ [d] [e] hd.readAs he.readAs⟩

end GrammarGraph.CSharp
