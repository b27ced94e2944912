import GrammarGraph.Proofs.CSharp.Spelling
import GrammarGraph.Proofs.CSharp.Start
import GrammarGraph.Proofs.Derivation

/-!
# Proofs/CSharp/Reading — what the grammar derives is a type and a spelling of it

Each part of the grammar is read by its derivations: what text it takes, and what value its map
makes of it.  A type is part of itself only inside brackets, where the text is shorter
(`ReadsTypes`), so the parts come to the whole by induction on the length of the text.
-/

namespace GrammarGraph.CSharp

open Rules

variable {v : Output Value} {u : Text}

/-- Any text. -/
abbrev Anything (_ : Text) : Prop := True

/-! ## Tokens -/

theorem derives_spaces (h : Derives Defined spaces v u) : IsGap u ∧ u ≠ [] := by
  obtain ⟨-, _, hmatch⟩ := Derives.pattern_iff.1 (Derives.named_iff.1 h)
  exact isGap_of_match? hmatch

theorem derives_gap (h : Derives Defined (.boxed gap) v u) : IsGap u := by
  rw [Derives.boxed_iff, gap, Derives.optional_iff] at h
  obtain ⟨-, rfl⟩ | ⟨w, -, h⟩ := h
  · rfl
  · exact (derives_spaces (Derives.boxed_iff.1 h)).1

theorem derives_identifier (h : Derives Defined (.boxed identifier) v u) :
    v = .value (.identifier u) ∧ isIdentifier u := by
  rw [Derives.boxed_iff, identifier, Derives.named_iff, Derives.map_iff] at h
  obtain ⟨_, rfl, h⟩ := h
  obtain ⟨rfl, _, hmatch⟩ := Derives.pattern_iff.1 h
  exact ⟨rfl, isIdentifier_of_match? hmatch⟩

theorem derives_mark {id : NodeId} {c : Char} (h : Derives Defined (mark id c) v u) :
    ∃ g, IsGap g ∧ u = g ++ [c] := by
  obtain ⟨_, _, g, _, -, rfl, hg, hc⟩ := Derives.sequence_iff.1 h
  obtain ⟨-, rfl⟩ := Derives.literal_iff.1 hc
  exact ⟨g, derives_gap hg, rfl⟩

/-! ## Names -/

theorem derives_dotted (h : Derives Defined dotted v u) : ∃ x g g', isIdentifier x ∧ IsGap g ∧
    IsGap g' ∧ v = .value (.identifier x) ∧ u = x ++ (g ++ '.' :: g') := by
  obtain ⟨_, _, _, g', rfl, rfl, h, hg'⟩ := Derives.sequence_iff.1 h
  obtain ⟨_, _, _, _, rfl, rfl, h, hdot⟩ := Derives.sequence_iff.1 h
  obtain ⟨_, _, x, g, rfl, rfl, hx, hg⟩ := Derives.sequence_iff.1 h
  obtain ⟨-, rfl⟩ := Derives.literal_iff.1 hdot
  obtain ⟨rfl, hword⟩ := derives_identifier hx
  exact ⟨x, g, g', hword, derives_gap hg, derives_gap hg', rfl, by simp⟩

theorem derives_namespacedName (h : Derives Defined (.boxed namespacedName) v u) :
    ∃ xs, v = .value (.name xs) ∧ NameSpelled xs u := by
  rw [Derives.boxed_iff, namespacedName, Derives.named_iff, Derives.map_iff] at h
  obtain ⟨_, rfl, h⟩ := h
  obtain ⟨_, _, _, x, rfl, rfl, hleading, hx⟩ := Derives.sequence_iff.1 h
  obtain ⟨items, rfl, rfl, hitems⟩ := hleading.items_of_star
  obtain ⟨rfl, hword⟩ := derives_identifier hx
  obtain ⟨xs, hxs, hspelled⟩ : ∃ xs : List Text,
      items.map (·.1) = xs.map (fun x => .value (.identifier x)) ∧
        NameSpelled (xs ++ [x]) ((items.map (·.2)).flatten ++ x) := by
    clear h hleading
    induction items with
    | nil => exact ⟨[], rfl, .last hword⟩
    | cons i items ih =>
      obtain ⟨hi, hitems⟩ := List.forall_mem_cons.1 hitems
      obtain ⟨xs, hxs, hspelled⟩ := ih hitems
      obtain ⟨y, g, g', hy, hg, hg', hv, hu⟩ := derives_dotted hi
      refine ⟨y :: xs, by rw [List.map_cons, hxs, hv]; rfl, ?_⟩
      have := NameSpelled.dot hy hg hg' hspelled
      rw [List.map_cons, hu]
      simpa using this
  refine ⟨xs ++ [x], ?_, hspelled⟩
  have hlist : Value.list? Value.identifier? (.list (items.map (·.1))) = some xs := by
    rw [hxs]
    exact list?_map (fun x => .value (.identifier x)) (fun _ => rfl) xs
  simp [toName, making, Keep.combine, hlist, Value.identifier?]

/-! ## Lists between brackets -/

section Lists

variable {β : Type} {f : β → Item} {n : Nat} {item : Parser Value}
  (hitem : ∀ v t, t.length < n → Derives Defined item v t →
    ∃ b, v = (f b).value ∧ ∀ g, IsGap g → Spelled Anything (.item (f b)) (t ++ g))

include hitem

/-- An item, what is listed after it, and the closing bracket. -/
theorem spelled_items {id : NodeId} {close : Char} {items : List (Output Value × Text)}
    (h : ∀ i ∈ items, Derives Defined (furtherItem id item) i.1 i.2)
    (hlength : (items.map (·.2)).flatten.length < n) {g : Text} (hg : IsGap g) :
    ∀ {b t}, (∀ g, IsGap g → Spelled Anything (.item (f b)) (t ++ g)) →
      ∃ bs : List β, items.map (·.1) = bs.map (fun b => (f b).value) ∧
        Spelled Anything (.items close (f b :: bs.map f))
          (t ++ ((items.map (·.2)).flatten ++ (g ++ [close]))) := by
  induction items with
  | nil =>
    intro b t ht
    refine ⟨[], rfl, ?_⟩
    have : Spelled Anything (.items close [f b]) _ := .last (ht g hg)
    rwa [List.append_assoc] at this
  | cons i items ih =>
    intro b t ht
    obtain ⟨hi, hitems⟩ := List.forall_mem_cons.1 h
    obtain ⟨_, v, _, t', hv, hi', h, hlast⟩ := Derives.sequence_iff.1 hi
    obtain ⟨_, _, _, g', -, rfl, hmark, hg'⟩ := Derives.sequence_iff.1 h
    obtain ⟨g'', hg'', rfl⟩ := derives_mark hmark
    simp only [List.map_cons, List.flatten_cons, hi', List.length_append] at hlength ⊢
    obtain ⟨b', rfl, ht'⟩ := hitem v t' (by omega) hlast
    obtain ⟨bs, hbs, hspelled⟩ := ih hitems (by omega) ht'
    refine ⟨b' :: bs, by rw [List.map_cons, hbs, hv]; rfl, ?_⟩
    have := Spelled.more (ht g'' hg'') (derives_gap hg') hspelled
    simpa using this

theorem derives_bracketed {id id' : NodeId} {left right : Char} (hu : u.length ≤ n)
    (h : Derives Defined (bracketed id left right item (.boxed (furtherItems id' item))) v u) :
    ∃ (bs : List β) (g w : Text), v = .list (bs.map fun b => (f b).value) ∧
      u = left :: (g ++ w) ∧ IsGap g ∧ Spelled Anything (.items right (bs.map f)) w := by
  obtain ⟨_, rfl, hlist⟩ := Derives.map_iff.1 h
  obtain ⟨_, _, _, _, rfl, rfl, hopen, hright⟩ := Derives.sequence_iff.1 hlist
  obtain ⟨_, _, _, g', rfl, rfl, hpair, hg'⟩ := Derives.sequence_iff.1 hopen
  obtain ⟨_, _, _, _, rfl, rfl, hstart, hfurther⟩ := Derives.sequence_iff.1 hpair
  obtain ⟨_, _, _, t, rfl, rfl, hbracket, hfirst⟩ := Derives.sequence_iff.1 hstart
  obtain ⟨_, _, _, g, -, rfl, hleft, hg⟩ := Derives.sequence_iff.1 hbracket
  obtain ⟨-, rfl⟩ := Derives.literal_iff.1 hleft
  obtain ⟨-, rfl⟩ := Derives.literal_iff.1 hright
  obtain ⟨items, rfl, rfl, hitems⟩ := (Derives.boxed_iff.1 hfurther).items_of_star
  simp only [List.length_append, List.length_singleton] at hu
  obtain ⟨b, rfl, ht⟩ := hitem _ t (by omega) hfirst
  obtain ⟨bs, hbs, hspelled⟩ := spelled_items hitem hitems (by omega) (derives_gap hg') ht
  refine ⟨b :: bs, g, _, ?_, ?_, derives_gap hg, hspelled⟩
  · rw [List.map_cons, ← hbs]
    rfl
  · simp

end Lists

/-! ## Types -/

theorem derives_variance (h : Derives Defined (.boxed variance) v u) :
    ∃ (x : Variance) (w g : Text),
      v = .value (.variance x) ∧ x.Written w ∧ IsGap g ∧ g ≠ [] ∧ u = w ++ g := by
  rw [Derives.boxed_iff, variance, Derives.named_iff, Derives.map_iff] at h
  obtain ⟨_, rfl, h⟩ := h
  obtain ⟨_, _, w, g, rfl, rfl, hword, hspaces⟩ := Derives.sequence_iff.1 h
  obtain ⟨rfl, _, hmatch⟩ := Derives.pattern_iff.1 hword
  obtain ⟨x, hx⟩ := written_of_match? hmatch
  obtain ⟨hg, hne⟩ := derives_spaces (Derives.boxed_iff.1 hspaces)
  exact ⟨x, w, g, toVariance_text hx, hx, hg, hne, rfl⟩

theorem derives_arraySuffix (h : Derives Defined (.boxed arraySuffix) v u) :
    ∃ g g', IsGap g ∧ IsGap g' ∧ u = g ++ '[' :: (g' ++ [']']) := by
  obtain ⟨_, _, _, _, -, rfl, h, hright⟩ := Derives.sequence_iff.1 (Derives.boxed_iff.1 h)
  obtain ⟨_, _, _, g', -, rfl, hmark, hg'⟩ := Derives.sequence_iff.1 h
  obtain ⟨g, hg, rfl⟩ := derives_mark hmark
  obtain ⟨-, rfl⟩ := Derives.literal_iff.1 hright
  exact ⟨g, g', hg, derives_gap hg', by simp⟩

/-- **Types are read off texts shorter than `n`.** -/
def ReadsTypes (n : Nat) : Prop :=
  ∀ v u, u.length < n → Derives Defined (.boxed (.rule typeRule)) v u →
    ∃ t, v = .value (.type t) ∧ Spelled Anything (.type t) u

section Types

variable {n : Nat} (hn : ReadsTypes n)

include hn

theorem derives_argument (hu : u.length < n) (h : Derives Defined (.boxed argument) v u) :
    ∃ a, v = (Item.argument a).value ∧
      ∀ g, IsGap g → Spelled Anything (.item (.argument a)) (u ++ g) := by
  rw [Derives.boxed_iff, argument, Derives.named_iff, Derives.map_iff] at h
  obtain ⟨_, rfl, h⟩ := h
  obtain ⟨_, _, x, y, rfl, rfl, hvariance, htype⟩ := Derives.sequence_iff.1 h
  rw [List.length_append] at hu
  obtain ⟨t, rfl, ht⟩ := hn _ y (by omega) htype
  obtain ⟨rfl, rfl⟩ | ⟨_, rfl, hpresent⟩ := Derives.optional_iff.1 hvariance
  · exact ⟨⟨none, t⟩, rfl, fun g hg => .plain ht hg trivial⟩
  · obtain ⟨x, w, g', rfl, hw, hg', hne, rfl⟩ := derives_variance hpresent
    refine ⟨⟨some x, t⟩, rfl, fun g hg => ?_⟩
    have := Spelled.varied hw hg' hne ht hg
    simpa using this

theorem derives_element (hu : u.length < n) (h : Derives Defined (.boxed element) v u) :
    ∃ e, v = (Item.element e).value ∧
      ∀ g, IsGap g → Spelled Anything (.item (.element e)) (u ++ g) := by
  rw [Derives.boxed_iff, element, Derives.named_iff, Derives.map_iff] at h
  obtain ⟨_, rfl, h⟩ := h
  obtain ⟨_, _, x, y, rfl, rfl, htype, hname⟩ := Derives.sequence_iff.1 h
  rw [List.length_append] at hu
  obtain ⟨t, rfl, ht⟩ := hn _ x (by omega) htype
  obtain ⟨rfl, rfl⟩ | ⟨_, rfl, hpresent⟩ := Derives.optional_iff.1 hname
  · refine ⟨⟨t, none⟩, rfl, fun g hg => ?_⟩
    rw [List.append_nil]
    exact .unnamed ht hg
  · obtain ⟨_, _, g', z, rfl, rfl, hspaces, hz⟩ := Derives.sequence_iff.1 hpresent
    obtain ⟨hg', hne⟩ := derives_spaces (Derives.boxed_iff.1 hspaces)
    obtain ⟨rfl, hword⟩ := derives_identifier hz
    refine ⟨⟨t, some z⟩, rfl, fun g hg => ?_⟩
    have := Spelled.named ht hg' hne hword hg
    simpa using this

theorem derives_arguments (hu : u.length ≤ n)
    (h : Derives Defined (.boxed (.rule argumentsRule)) v u) :
    ∃ (as : List (Argument TypeRef)) (g w : Text),
      v = .list (as.map fun a => (Item.argument a).value) ∧ u = '<' :: (g ++ w) ∧ IsGap g ∧
        Spelled Anything (.items '>' (as.map .argument)) w := by
  obtain ⟨p, ⟨-, hp⟩, h⟩ := Derives.rule_iff.1 (Derives.boxed_iff.1 h)
  obtain ⟨hslot, -⟩ | ⟨-, id, rfl⟩ := hp
  · cases hslot
  · exact derives_bracketed (fun _ _ ht => derives_argument hn ht) hu (Derives.named_iff.1 h)

theorem derives_tuple (hu : u.length ≤ n) (h : Derives Defined (.boxed tuple) v u) :
    ∃ es : List (Element TypeRef), v = .list (es.map fun e => (Item.element e).value) ∧
      Spelled Anything (.type (.tuple es)) u := by
  rw [Derives.boxed_iff, tuple, Derives.named_iff] at h
  obtain ⟨es, g, w, rfl, rfl, hg, hw⟩ :=
    derives_bracketed (fun _ _ ht => derives_element hn ht) hu h
  exact ⟨es, rfl, .tuple hg hw⟩

theorem derives_namedType (hu : u.length ≤ n) (h : Derives Defined (.boxed namedType) v u) :
    ∃ t, v = .value (.type t) ∧ Spelled Anything (.type t) u := by
  rw [Derives.boxed_iff, namedType, Derives.map_iff] at h
  obtain ⟨_, rfl, h⟩ := h
  obtain ⟨_, _, x, y, rfl, rfl, hname, harguments⟩ := Derives.sequence_iff.1 h
  obtain ⟨xs, rfl, hxs⟩ := derives_namespacedName hname
  rw [List.length_append] at hu
  obtain ⟨rfl, rfl⟩ | ⟨_, rfl, hpresent⟩ := Derives.optional_iff.1 harguments
  · refine ⟨.name xs, rfl, ?_⟩
    rw [List.append_nil]
    exact .name hxs
  · obtain ⟨_, _, g, z, rfl, rfl, hg, hz⟩ := Derives.sequence_iff.1 hpresent
    rw [List.length_append] at hu
    obtain ⟨as, g', w, rfl, rfl, hg', hw⟩ := derives_arguments hn (by omega) hz
    refine ⟨.generic xs as, ?_, .generic hxs (derives_gap hg) hg' hw⟩
    have hlist : Value.list? Value.argument? (.list (as.map fun a => (Item.argument a).value)) =
        some as := list?_map (Item.value ∘ .argument) (fun _ => rfl) as
    simp [toNamedType, making, Keep.combine, Value.name?, Value.option?, hlist]

theorem derives_type (hu : u.length ≤ n) (h : Derives Defined type v u) :
    ∃ t, v = .value (.type t) ∧ Spelled Anything (.type t) u := by
  rw [type, Derives.named_iff, Derives.map_iff] at h
  obtain ⟨_, rfl, h⟩ := h
  obtain ⟨w, _, x, y, rfl, rfl, hbase, hsuffixes⟩ := Derives.sequence_iff.1 h
  obtain ⟨items, rfl, rfl, hitems⟩ := hsuffixes.items_of_star
  rw [List.length_append] at hu
  obtain ⟨t, rfl, ht⟩ : ∃ t, w = .value (.type t) ∧ Spelled Anything (.type t) x := by
    obtain hbase | hbase := Derives.choice_iff.1 hbase
    · obtain ⟨_, rfl, htuple⟩ := Derives.map_iff.1 hbase
      obtain ⟨es, rfl, hes⟩ := derives_tuple hn (by omega) htuple
      refine ⟨.tuple es, ?_, hes⟩
      have hlist : Value.list? Value.element? (.list (es.map fun e => (Item.element e).value)) =
          some es := list?_map (Item.value ∘ .element) (fun _ => rfl) es
      simp [toTuple, making, hlist]
    · exact derives_namedType hn (by omega) hbase
  refine ⟨(items.map (·.1)).foldl (fun t _ => .array t) t, rfl, ?_⟩
  clear h hbase hsuffixes hu
  -- Every suffix makes an array of the type before it.
  induction items generalizing t x with
  | nil => simpa using ht
  | cons i items ih =>
    obtain ⟨hi, hitems⟩ := List.forall_mem_cons.1 hitems
    obtain ⟨g, g', hg, hg', hi⟩ := derives_arraySuffix hi
    have := ih (x ++ (g ++ '[' :: (g' ++ [']']))) hitems (.array t) (.array ht hg hg')
    simpa [hi] using this

end Types

theorem readsTypes (n : Nat) : ReadsTypes n := by
  induction n using Nat.strongRecOn with
  | _ n ih =>
    intro v u hu h
    obtain ⟨p, ⟨-, hp⟩, h⟩ := Derives.rule_iff.1 (Derives.boxed_iff.1 h)
    obtain ⟨-, rfl⟩ | ⟨hslot, -⟩ := hp
    · exact derives_type (ih u.length hu) (Nat.le_refl _) h
    · cases hslot

/-- **Whatever the grammar derives from the rule for types** is a type and a spelling of it. -/
theorem spelled_of_derives (h : Derives Defined (.boxed (.rule typeRule)) v u) :
    ∃ t, v = .value (.type t) ∧ Spelled Anything (.type t) u :=
  readsTypes (u.length + 1) v u (Nat.lt_succ_self _) h

end GrammarGraph.CSharp
