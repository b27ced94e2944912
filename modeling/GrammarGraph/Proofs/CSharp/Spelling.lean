import GrammarGraph.Proofs.CSharp.Tokens

/-!
# Proofs/CSharp/Spelling — the texts that stand for a type

    a . b < in c , ( d e , f ) [ ] >

A type may be written with blanks between its tokens; `Spelled` says which texts are spellings of a
type, and of the pieces of one.  Each type has one canonical spelling, `TypeRef.render`.

Only well-formed types have spellings: names have segments and these are identifiers, and lists
between brackets are not empty.
-/

namespace GrammarGraph.CSharp

/-! ## Well-formed types -/

/-- Whether a list of segments is a name. -/
def isName (segments : List Text) : Bool := !segments.isEmpty && segments.all isIdentifier

mutual

/-- **Well-formed types**: every name has a segment, every segment and every name of an element is
an identifier, and no list of arguments or elements is empty. -/
def TypeRef.isWellFormed : TypeRef → Bool
  | .name segments => isName segments
  | .generic segments arguments =>
    isName segments && !arguments.isEmpty && Argument.areWellFormed arguments
  | .tuple elements => !elements.isEmpty && Element.areWellFormed elements
  | .array element => element.isWellFormed

/-- Arguments of well-formed types. -/
def Argument.areWellFormed : List (Argument TypeRef) → Bool
  | [] => true
  | ⟨_, type⟩ :: rest => type.isWellFormed && Argument.areWellFormed rest

/-- Elements of well-formed types whose names are identifiers. -/
def Element.areWellFormed : List (Element TypeRef) → Bool
  | [] => true
  | ⟨type, name⟩ :: rest =>
    type.isWellFormed && name.all isIdentifier && Element.areWellFormed rest

end

/-- What is listed between brackets. -/
inductive Item
  | argument (a : Argument TypeRef)
  | element (e : Element TypeRef)

/-- Whether an item is made of a well-formed type and an identifier. -/
def Item.isWellFormed : Item → Bool
  | .argument a => a.type.isWellFormed
  | .element e => e.type.isWellFormed && e.name.all isIdentifier

theorem Argument.areWellFormed_eq (as : List (Argument TypeRef)) :
    Argument.areWellFormed as = (as.map Item.argument).all Item.isWellFormed := by
  induction as with
  | nil => rfl
  | cons a as ih => rw [Argument.areWellFormed, ih, List.map_cons, List.all_cons]; rfl

theorem Element.areWellFormed_eq (es : List (Element TypeRef)) :
    Element.areWellFormed es = (es.map Item.element).all Item.isWellFormed := by
  induction es with
  | nil => rfl
  | cons e es ih => rw [Element.areWellFormed, ih, List.map_cons, List.all_cons]; rfl

/-! ## Spellings -/

/-- The spellings of a name. -/
inductive NameSpelled : List Text → Text → Prop
  | last {x} (hx : isIdentifier x) : NameSpelled [x] x
  | dot {x xs g g' t} (hx : isIdentifier x) (hg : IsGap g) (hg' : IsGap g')
      (hxs : NameSpelled xs t) : NameSpelled (x :: xs) (x ++ (g ++ '.' :: (g' ++ t)))

/-- A piece of a type: items come with the blanks after them, and a list of items with the bracket
that closes it. -/
inductive Phrase
  | type (t : TypeRef)
  | item (i : Item)
  | items (close : Char) (is : List Item)

/-- **The spellings of a type** and of its pieces.  `Plain` restricts how an argument without a
variance may be written, the blanks after it included. -/
inductive Spelled (Plain : Text → Prop) : Phrase → Text → Prop
  | name {xs n} (hn : NameSpelled xs n) : Spelled Plain (.type (.name xs)) n
  | generic {xs n g g' as a} (hn : NameSpelled xs n) (hg : IsGap g) (hg' : IsGap g')
      (has : Spelled Plain (.items '>' (as.map .argument)) a) :
      Spelled Plain (.type (.generic xs as)) (n ++ (g ++ '<' :: (g' ++ a)))
  | tuple {es g e} (hg : IsGap g) (hes : Spelled Plain (.items ')' (es.map .element)) e) :
      Spelled Plain (.type (.tuple es)) ('(' :: (g ++ e))
  | array {t u g g'} (ht : Spelled Plain (.type t) u) (hg : IsGap g) (hg' : IsGap g') :
      Spelled Plain (.type (.array t)) (u ++ (g ++ '[' :: (g' ++ [']'])))
  | plain {t u g} (ht : Spelled Plain (.type t) u) (hg : IsGap g) (hp : Plain (u ++ g)) :
      Spelled Plain (.item (.argument ⟨none, t⟩)) (u ++ g)
  | varied {v t w g u g'} (hw : v.Written w) (hg : IsGap g) (hne : g ≠ [])
      (ht : Spelled Plain (.type t) u) (hg' : IsGap g') :
      Spelled Plain (.item (.argument ⟨some v, t⟩)) (w ++ (g ++ (u ++ g')))
  | unnamed {t u g} (ht : Spelled Plain (.type t) u) (hg : IsGap g) :
      Spelled Plain (.item (.element ⟨t, none⟩)) (u ++ g)
  | named {t u g x g'} (ht : Spelled Plain (.type t) u) (hg : IsGap g) (hne : g ≠ [])
      (hx : isIdentifier x) (hg' : IsGap g') :
      Spelled Plain (.item (.element ⟨t, some x⟩)) (u ++ (g ++ (x ++ g')))
  | last {close i u} (hi : Spelled Plain (.item i) u) :
      Spelled Plain (.items close [i]) (u ++ [close])
  | more {close i is u g w} (hi : Spelled Plain (.item i) u) (hg : IsGap g)
      (his : Spelled Plain (.items close is) w) :
      Spelled Plain (.items close (i :: is)) (u ++ ',' :: (g ++ w))

/-- Whether a piece of a type is well formed. -/
def Phrase.isWellFormed : Phrase → Bool
  | .type t => t.isWellFormed
  | .item i => i.isWellFormed
  | .items _ is => !is.isEmpty && is.all Item.isWellFormed

theorem NameSpelled.isName {xs : List Text} {n : Text} (h : NameSpelled xs n) : isName xs := by
  induction h with
  | last hx => simp [CSharp.isName, hx]
  | dot hx _ _ _ ih => simp_all [CSharp.isName]

/-- **What has a spelling is well formed.** -/
theorem Spelled.isWellFormed {Plain : Text → Prop} {p : Phrase} {u : Text} (h : Spelled Plain p u) :
    p.isWellFormed := by
  induction h with
  | name hn => exact hn.isName
  | generic hn _ _ _ ih =>
    simp only [Phrase.isWellFormed, Bool.and_eq_true, List.isEmpty_map] at ih
    simp only [Phrase.isWellFormed, TypeRef.isWellFormed, Argument.areWellFormed_eq, hn.isName, ih,
      Bool.and_self]
  | tuple _ _ ih =>
    simp only [Phrase.isWellFormed, Bool.and_eq_true, List.isEmpty_map] at ih
    simp only [Phrase.isWellFormed, TypeRef.isWellFormed, Element.areWellFormed_eq, ih,
      Bool.and_self]
  | array _ _ _ ih => exact ih
  | plain _ _ _ ih => exact ih
  | varied _ _ _ _ _ ih => exact ih
  | unnamed _ _ ih => simpa [Phrase.isWellFormed, Item.isWellFormed] using ih
  | named _ _ _ hx _ ih => simpa [Phrase.isWellFormed, Item.isWellFormed, hx] using ih
  | last _ ih => simpa [Phrase.isWellFormed] using ih
  | more _ _ _ ih ihs => simp_all [Phrase.isWellFormed]

/-! ## Values

The grammar makes a value of every item, and collects them in lists. -/

/-- The value of an item. -/
def Item.value : Item → Output Value
  | .argument a => .value (.argument a)
  | .element e => .value (.element e)

/-- Items that are all read alike. -/
theorem list?_map {β : Type} {item? : Output Value → Option β} (f : β → Output Value)
    (h : ∀ b, item? (f b) = some b) (bs : List β) :
    Value.list? item? (.list (bs.map f)) = some bs := by
  rw [Value.list?]
  induction bs with
  | nil => rfl
  | cons b bs ih => simp [h, ih]

/-! ## The canonical spelling

An argument without a variance must not look like one with a variance: `in` with a blank after it
would be read as one.  In the canonical spelling no blank follows the first word of a type. -/

/-- The text does not begin with a word for a variance and a blank. -/
def Unvaried (s : Text) : Prop :=
  ∀ (v : Variance) (w : Text) (c : Char) (r : Text),
    s = w ++ c :: r → v.Written w → isBlank c = false

/-- No blank follows the first word of the text. -/
def FirstWordEnds (s : Text) : Prop := Stops isBlank (s.dropWhile isWordPart)

theorem FirstWordEnds.unvaried {s : Text} (h : FirstWordEnds s) : Unvaried s := by
  rintro v w c r rfl hw
  cases hc : isBlank c with
  | false => rfl
  | true =>
    rw [FirstWordEnds, dropWhile_run hw.all (.cons (not_isWordPart_of_isBlank hc))] at h
    rw [← hc, h c rfl]

/-- A word at the start, with something after it that is no blank. -/
theorem FirstWordEnds.word {x r : Text} (hx : x.all isWordPart) (hr : Stops isWordPart r)
    (hr' : Stops isBlank r) : FirstWordEnds (x ++ r) := by
  rwa [FirstWordEnds, dropWhile_run hx hr]

theorem FirstWordEnds.append {s r : Text} (hs : FirstWordEnds s) (hr : Stops isWordPart r)
    (hr' : Stops isBlank r) : FirstWordEnds (s ++ r) := by
  obtain ⟨x, d, rfl, hx, hd⟩ := exists_run isWordPart s
  rw [FirstWordEnds, dropWhile_run hx hd] at hs
  rw [List.append_assoc]
  exact .word hx (hd.append hr) (hs.append hr')

theorem renderName_cons_cons (x y : Text) (xs : List Text) :
    renderName (x :: y :: xs) = x ++ '.' :: renderName (y :: xs) := by
  rw [renderName, List.intercalate_cons_cons, List.append_assoc]
  rfl

theorem isName_cons {x : Text} {xs : List Text} :
    isName (x :: xs) ↔ isIdentifier x ∧ (xs = [] ∨ isName xs) := by
  cases xs <;> simp [isName]

theorem nameSpelled_render {xs : List Text} (h : isName xs) : NameSpelled xs (renderName xs) := by
  induction xs with
  | nil => cases h
  | cons x xs ih =>
    obtain ⟨hx, hxs⟩ := isName_cons.1 h
    cases xs with
    | nil =>
      rw [renderName, List.intercalate_singleton]
      exact .last hx
    | cons y xs =>
      rw [renderName_cons_cons]
      exact .dot hx .nil .nil (ih (hxs.resolve_left (List.cons_ne_nil y xs)))

theorem firstWordEnds_renderName {xs : List Text} (h : isName xs) :
    FirstWordEnds (renderName xs) := by
  match xs, h with
  | [x], h =>
    rw [renderName, List.intercalate_singleton, ← List.append_nil x]
    exact .word (all_of_isIdentifier (isName_cons.1 h).1) .nil .nil
  | x :: y :: xs, h =>
    rw [renderName_cons_cons]
    exact .word (all_of_isIdentifier (isName_cons.1 h).1) (.cons rfl) (.cons rfl)

theorem firstWordEnds_render : (t : TypeRef) → t.isWellFormed → FirstWordEnds t.render
  | .name xs, h => firstWordEnds_renderName h
  | .generic xs as, h => by
    simp only [TypeRef.isWellFormed, Bool.and_eq_true] at h
    rw [TypeRef.render, List.append_assoc]
    exact (firstWordEnds_renderName h.1.1).append (.cons rfl) (.cons rfl)
  | .tuple es, _ => by
    rw [TypeRef.render]
    exact .word (x := []) rfl (.cons rfl) (.cons rfl)
  | .array t, h => (firstWordEnds_render t h).append (.cons rfl) (.cons rfl)

/-- An item as it is written. -/
def Item.render : Item → Text
  | .argument a => (a.variance.map Variance.render).getD [] ++ a.type.render
  | .element e => e.type.render ++ (e.name.map (' ' :: ·)).getD []

theorem Argument.renderList_eq (as : List (Argument TypeRef)) :
    Argument.renderList as = (as.map Item.argument).map Item.render := by
  induction as with
  | nil => rfl
  | cons a as ih => rw [Argument.renderList, ih]; rfl

theorem Element.renderList_eq (es : List (Element TypeRef)) :
    Element.renderList es = (es.map Item.element).map Item.render := by
  induction es with
  | nil => rfl
  | cons e es ih => rw [Element.renderList, ih]; rfl

/-- Items with commas between them and a bracket after them. -/
theorem items_spelled_render (close : Char) {is : List Item} (hne : is ≠ [])
    (h : ∀ i ∈ is, Spelled Unvaried (.item i) i.render) :
    Spelled Unvaried (.items close is) (comma.intercalate (is.map Item.render) ++ [close]) := by
  induction is with
  | nil => exact absurd rfl hne
  | cons i is ih =>
    obtain ⟨hi, his⟩ := List.forall_mem_cons.1 h
    cases is with
    | nil =>
      rw [List.map_singleton, List.intercalate_singleton]
      exact .last hi
    | cons j is =>
      rw [List.map_cons, List.map_cons, List.intercalate_cons_cons, List.append_assoc,
        List.append_assoc]
      exact .more hi .blank (ih (List.cons_ne_nil j is) his)

theorem Variance.written_keyword (v : Variance) : v.Written v.keyword := by cases v <;> rfl

theorem Argument.spelled_render {a : Argument TypeRef} (h : a.type.isWellFormed)
    (ht : Spelled Unvaried (.type a.type) a.type.render) :
    Spelled Unvaried (.item (.argument a)) (Item.argument a).render := by
  match a with
  | ⟨none, t⟩ =>
    have hp : Unvaried (t.render ++ []) := by
      rw [List.append_nil]
      exact (firstWordEnds_render t h).unvaried
    have := Spelled.plain ht .nil hp
    rwa [List.append_nil] at this
  | ⟨some v, t⟩ =>
    have := Spelled.varied v.written_keyword .blank (List.cons_ne_nil _ _) ht .nil
    rw [List.append_nil] at this
    cases v <;> exact this

theorem Element.spelled_render {e : Element TypeRef} (hname : e.name.all isIdentifier)
    (ht : Spelled Unvaried (.type e.type) e.type.render) :
    Spelled Unvaried (.item (.element e)) (Item.element e).render := by
  match e with
  | ⟨t, none⟩ => exact .unnamed ht rfl
  | ⟨t, some x⟩ =>
    have := Spelled.named ht .blank (List.cons_ne_nil _ _) hname .nil
    rwa [List.append_nil] at this

mutual

/-- **A well-formed type is spelled the way it is written.** -/
theorem spelled_render : (t : TypeRef) → t.isWellFormed → Spelled Unvaried (.type t) t.render
  | .name xs, h => .name (nameSpelled_render h)
  | .generic xs as, h => by
    simp only [TypeRef.isWellFormed, Bool.and_eq_true, Bool.not_eq_true', List.isEmpty_eq_false_iff]
      at h
    have hitems := items_spelled_render '>' (by simpa using h.1.2) (arguments_spelled as h.2)
    rw [← Argument.renderList_eq] at hitems
    rw [TypeRef.render, List.append_assoc]
    have htype := Spelled.generic (nameSpelled_render h.1.1) .nil .nil hitems
    exact htype
  | .tuple es, h => by
    simp only [TypeRef.isWellFormed, Bool.and_eq_true, Bool.not_eq_true', List.isEmpty_eq_false_iff]
      at h
    have hitems := items_spelled_render ')' (by simpa using h.1) (elements_spelled es h.2)
    rw [← Element.renderList_eq] at hitems
    have htype := Spelled.tuple .nil hitems
    exact htype
  | .array t, h => .array (spelled_render t h) .nil .nil

theorem arguments_spelled : (as : List (Argument TypeRef)) → Argument.areWellFormed as →
    ∀ i ∈ as.map Item.argument, Spelled Unvaried (.item i) i.render
  | [], _ => nofun
  | ⟨v, t⟩ :: as, h => by
    obtain ⟨ht, has⟩ := Bool.and_eq_true_iff.1 h
    exact List.forall_mem_cons.2
      ⟨Argument.spelled_render ht (spelled_render t ht), arguments_spelled as has⟩

theorem elements_spelled : (es : List (Element TypeRef)) → Element.areWellFormed es →
    ∀ i ∈ es.map Item.element, Spelled Unvaried (.item i) i.render
  | [], _ => nofun
  | ⟨t, x⟩ :: es, h => by
    simp only [Element.areWellFormed, Bool.and_eq_true] at h
    exact List.forall_mem_cons.2
      ⟨Element.spelled_render h.1.2 (spelled_render t h.1.1), elements_spelled es h.2⟩

end

end GrammarGraph.CSharp
