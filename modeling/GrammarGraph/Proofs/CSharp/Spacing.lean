import GrammarGraph.Proofs.CSharp.Reading
import Mathlib.Data.List.Basic

/-!
# Proofs/CSharp/Spacing — a type as its tokens, with blanks between them

    a | . | b | < | in | c | , | ( | d | e | ) | >

A type is a sequence of tokens.  `Spaced` says which texts are these tokens with blanks between
them, and asks for blanks only where two words would run together.  The texts in which a type has
its tokens so written are its spellings (`spelled_iff`): spellings follow the structure of a type,
its tokens do not.
-/

namespace GrammarGraph.CSharp

/-- A token of the grammar. -/
inductive Token
  /-- An identifier that is a segment of a name, or the name of an alias. -/
  | word (x : Text)
  /-- An identifier that is the name of an element of a tuple. -/
  | elementName (x : Text)
  | variance (v : Variance)
  | usingWord
  | mark (c : Char)
deriving DecidableEq

namespace Token

/-- How a token is written: a variance in any case, other tokens in one way. -/
def Written : Token → Text → Prop
  | .word x, w | .elementName x, w => w = x
  | .variance v, w => v.Written w
  | .usingWord, w => w = "using".toList
  | .mark c, w => w = [c]

/-- Whether a blank must stand before the token. -/
def needsBlankBefore : Token → Bool
  | .elementName _ => true
  | _ => false

/-- Whether a blank must stand after the token. -/
def needsBlankAfter : Token → Bool
  | .variance _ | .usingWord => true
  | _ => false

end Token

variable {l m : List Token} {s u : Text}

/-- **The texts of a sequence of tokens**: any blanks between two of them, some where they must
stand, none at either end. -/
inductive Spaced : List Token → Text → Prop
  | nil : Spaced [] []
  | one {a w} (ha : a.Written w) : Spaced [a] w
  | more {a b ts w g s} (ha : a.Written w) (hg : IsGap g)
      (hne : a.needsBlankAfter || b.needsBlankBefore → g ≠ []) (hs : Spaced (b :: ts) s) :
      Spaced (a :: b :: ts) (w ++ (g ++ s))

/-! ## Sequences put together -/

theorem spaced_singleton_iff {a : Token} : Spaced [a] s ↔ a.Written s := by
  constructor
  · rintro (_ | ha)
    exact ha
  · exact .one

theorem spaced_cons_cons_iff {a b : Token} {ts : List Token} : Spaced (a :: b :: ts) s ↔
    ∃ w g u, s = w ++ (g ++ u) ∧ a.Written w ∧ IsGap g ∧
      (a.needsBlankAfter || b.needsBlankBefore → g ≠ []) ∧ Spaced (b :: ts) u := by
  constructor
  · rintro (_ | _ | ⟨ha, hg, hne, hs⟩)
    exact ⟨_, _, _, rfl, ha, hg, hne, hs⟩
  · rintro ⟨w, g, u, rfl, ha, hg, hne, hs⟩
    exact .more ha hg hne hs

/-- Whether a blank must stand between two sequences of tokens. -/
def needBlank (l m : List Token) : Bool :=
  l.getLast?.any Token.needsBlankAfter || m.head?.any Token.needsBlankBefore

/-- **One sequence of tokens after another.** -/
theorem spaced_append_iff (hl : l ≠ []) (hm : m ≠ []) : Spaced (l ++ m) s ↔
    ∃ u g w, s = u ++ (g ++ w) ∧ IsGap g ∧ (needBlank l m → g ≠ []) ∧ Spaced l u ∧ Spaced m w := by
  obtain ⟨b, m, rfl⟩ := List.exists_cons_of_ne_nil hm
  induction l generalizing s with
  | nil => exact absurd rfl hl
  | cons a l ih =>
    cases l with
    | nil =>
      rw [List.singleton_append, spaced_cons_cons_iff]
      constructor
      · rintro ⟨w, g, u, rfl, ha, hg, hne, hs⟩
        exact ⟨w, g, u, rfl, hg, hne, .one ha, hs⟩
      · rintro ⟨u, g, w, rfl, hg, hne, ha, hs⟩
        exact ⟨u, g, w, rfl, spaced_singleton_iff.1 ha, hg, hne, hs⟩
    | cons c l =>
      have ih (s : Text) := ih (s := s) (List.cons_ne_nil c l)
      rw [List.cons_append, List.cons_append, spaced_cons_cons_iff]
      constructor
      · rintro ⟨w, g, s, rfl, ha, hg, hne, hs⟩
        obtain ⟨u, g', v, rfl, hg', hne', hu, hv⟩ := (ih s).1 hs
        exact ⟨w ++ (g ++ u), g', v, by simp, hg', hne', .more ha hg hne hu, hv⟩
      · rintro ⟨_, g', v, rfl, hg', hne', hu, hv⟩
        obtain ⟨w, g, u, rfl, ha, hg, hne, hu⟩ := spaced_cons_cons_iff.1 hu
        have hs := (ih _).2 ⟨u, g', v, rfl, hg', hne', hu, hv⟩
        exact ⟨w, g, u ++ (g' ++ v), by simp, ha, hg, hne, hs⟩

/-- The first token is one that no blank has to stand before. -/
def StartsFree (l : List Token) : Prop := ∃ a ∈ l.head?, a.needsBlankBefore = false

/-- The last token is one that no blank has to stand after. -/
def EndsFree (l : List Token) : Prop := ∃ a ∈ l.getLast?, a.needsBlankAfter = false

theorem StartsFree.ne_nil (h : StartsFree l) : l ≠ [] := by
  rintro rfl
  obtain ⟨_, ⟨⟩, _⟩ := h

theorem EndsFree.ne_nil (h : EndsFree l) : l ≠ [] := by
  rintro rfl
  obtain ⟨_, ⟨⟩, _⟩ := h

theorem StartsFree.append (h : StartsFree l) (m : List Token) : StartsFree (l ++ m) := by
  obtain ⟨a, ha, hfree⟩ := h
  exact ⟨a, List.mem_head?_append_of_mem_head? ha, hfree⟩

theorem EndsFree.append (h : EndsFree m) (l : List Token) : EndsFree (l ++ m) := by
  obtain ⟨a, ha, hfree⟩ := h
  exact ⟨a, List.mem_getLast?_append_of_mem_getLast? ha, hfree⟩

theorem startsFree_cons {a : Token} (h : a.needsBlankBefore = false) (l : List Token) :
    StartsFree (a :: l) :=
  ⟨a, rfl, h⟩

theorem endsFree_singleton {a : Token} (h : a.needsBlankAfter = false) : EndsFree [a] :=
  ⟨a, rfl, h⟩

theorem needBlank_eq_false (hl : EndsFree l) (hm : StartsFree m) : needBlank l m = false := by
  obtain ⟨a, ha, hafter⟩ := hl
  obtain ⟨b, hb, hbefore⟩ := hm
  rw [needBlank, Option.mem_def.1 ha, Option.mem_def.1 hb, Option.any_some, Option.any_some, hafter,
    hbefore, Bool.or_self]

/-- A mark at the start. -/
theorem spaced_open_iff {c : Char} (hm : StartsFree m) :
    Spaced (.mark c :: m) s ↔ ∃ g w, s = c :: (g ++ w) ∧ IsGap g ∧ Spaced m w := by
  have hfree := needBlank_eq_false (endsFree_singleton (a := .mark c) rfl) hm
  rw [← List.singleton_append, spaced_append_iff (List.cons_ne_nil _ _) hm.ne_nil, hfree]
  constructor
  · rintro ⟨u, g, w, rfl, hg, -, hc, hw⟩
    obtain rfl := spaced_singleton_iff.1 hc
    exact ⟨g, w, rfl, hg, hw⟩
  · rintro ⟨g, w, rfl, hg, hw⟩
    exact ⟨[c], g, w, rfl, hg, nofun, .one rfl, hw⟩

/-- A mark at the end. -/
theorem spaced_close_iff {c : Char} (hl : EndsFree l) :
    Spaced (l ++ [.mark c]) s ↔ ∃ u g, s = u ++ (g ++ [c]) ∧ IsGap g ∧ Spaced l u := by
  have hfree := needBlank_eq_false hl (startsFree_cons (a := .mark c) rfl [])
  rw [spaced_append_iff hl.ne_nil (List.cons_ne_nil _ _), hfree]
  constructor
  · rintro ⟨u, g, w, rfl, hg, -, hu, hc⟩
    obtain rfl := spaced_singleton_iff.1 hc
    exact ⟨u, g, rfl, hg, hu⟩
  · rintro ⟨u, g, rfl, hg, hu⟩
    exact ⟨u, g, [c], rfl, hg, nofun, hu, .one rfl⟩

/-- **A mark between two sequences of tokens.** -/
theorem spaced_mark_iff {c : Char} (hl : EndsFree l) (hm : StartsFree m) :
    Spaced (l ++ .mark c :: m) s ↔ ∃ u g g' w, s = u ++ (g ++ c :: (g' ++ w)) ∧ IsGap g ∧
      IsGap g' ∧ Spaced l u ∧ Spaced m w := by
  have hfree := needBlank_eq_false hl (startsFree_cons (a := .mark c) rfl m)
  rw [spaced_append_iff hl.ne_nil (List.cons_ne_nil _ _), hfree]
  constructor
  · rintro ⟨u, g, _, rfl, hg, -, hu, h⟩
    obtain ⟨g', w, rfl, hg', hw⟩ := (spaced_open_iff hm).1 h
    exact ⟨u, g, g', w, rfl, hg, hg', hu, hw⟩
  · rintro ⟨u, g, g', w, rfl, hg, hg', hu, hw⟩
    exact ⟨u, g, _, rfl, hg, nofun, hu, (spaced_open_iff hm).2 ⟨g', w, rfl, hg', hw⟩⟩

/-! ## The tokens of a type -/

/-- Sequences of tokens with a mark between any two. -/
def separated (c : Char) (sequences : List (List Token)) : List Token :=
  [.mark c].intercalate sequences

/-- The tokens of a list between brackets. -/
def bracketed (left right : Char) (items : List (List Token)) : List Token :=
  .mark left :: (separated ',' items ++ [.mark right])

/-- The tokens of a name. -/
def nameTokens (segments : List Text) : List Token :=
  separated '.' (segments.map fun x => [.word x])

mutual

/-- **The tokens of a type.** -/
def TypeRef.tokens : TypeRef → List Token
  | .name segments => nameTokens segments
  | .generic segments arguments =>
    nameTokens segments ++ bracketed '<' '>' (Argument.tokenLists arguments)
  | .tuple elements => bracketed '(' ')' (Element.tokenLists elements)
  | .array element => element.tokens ++ [.mark '[', .mark ']']

/-- The tokens of each of the arguments. -/
def Argument.tokenLists : List (Argument TypeRef) → List (List Token)
  | [] => []
  | ⟨variance, type⟩ :: rest =>
    (variance.toList.map Token.variance ++ type.tokens) :: Argument.tokenLists rest

/-- The tokens of each of the elements. -/
def Element.tokenLists : List (Element TypeRef) → List (List Token)
  | [] => []
  | ⟨type, name⟩ :: rest =>
    (type.tokens ++ name.toList.map Token.elementName) :: Element.tokenLists rest

end

/-- The tokens of an item. -/
def Item.tokens : Item → List Token
  | .argument a => a.variance.toList.map Token.variance ++ a.type.tokens
  | .element e => e.type.tokens ++ e.name.toList.map Token.elementName

theorem Argument.tokenLists_eq (as : List (Argument TypeRef)) :
    Argument.tokenLists as = (as.map Item.argument).map Item.tokens := by
  induction as with
  | nil => rfl
  | cons a as ih => rw [Argument.tokenLists, ih]; rfl

theorem Element.tokenLists_eq (es : List (Element TypeRef)) :
    Element.tokenLists es = (es.map Item.element).map Item.tokens := by
  induction es with
  | nil => rfl
  | cons e es ih => rw [Element.tokenLists, ih]; rfl

theorem separated_singleton (c : Char) (ts : List Token) : separated c [ts] = ts :=
  List.intercalate_singleton ..

theorem separated_cons_cons (c : Char) (ts us : List Token) (l : List (List Token)) :
    separated c (ts :: us :: l) = ts ++ .mark c :: separated c (us :: l) := by
  rw [separated, List.intercalate_cons_cons, List.append_assoc]
  rfl

theorem startsFree_separated {c : Char} {ts : List Token} (h : StartsFree ts)
    (l : List (List Token)) : StartsFree (separated c (ts :: l)) := by
  cases l with
  | nil => rwa [separated_singleton]
  | cons us l =>
    rw [separated_cons_cons]
    exact h.append _

theorem endsFree_separated {c : Char} {l : List (List Token)} (hl : l ≠ [])
    (h : ∀ ts ∈ l, EndsFree ts) : EndsFree (separated c l) := by
  induction l with
  | nil => exact absurd rfl hl
  | cons ts l ih =>
    obtain ⟨hts, hl⟩ := List.forall_mem_cons.1 h
    cases l with
    | nil => rwa [separated_singleton]
    | cons us l =>
      rw [separated_cons_cons, ← List.singleton_append, ← List.append_assoc]
      exact (ih (List.cons_ne_nil us l) hl).append _

theorem nameTokens_cons_cons (x y : Text) (xs : List Text) :
    nameTokens (x :: y :: xs) = [.word x] ++ .mark '.' :: nameTokens (y :: xs) :=
  separated_cons_cons ..

theorem startsFree_nameTokens {xs : List Text} (h : isName xs) : StartsFree (nameTokens xs) := by
  cases xs with
  | nil => cases h
  | cons x xs => exact startsFree_separated (startsFree_cons rfl []) _

theorem endsFree_nameTokens {xs : List Text} (h : isName xs) : EndsFree (nameTokens xs) := by
  refine endsFree_separated (fun hnil => ?_) fun ts hts => ?_
  · rw [List.map_eq_nil_iff.1 hnil] at h
    cases h
  · obtain ⟨x, -, rfl⟩ := List.mem_map.1 hts
    exact endsFree_singleton rfl

theorem TypeRef.startsFree_tokens (t : TypeRef) (h : t.isWellFormed) : StartsFree t.tokens := by
  cases t with
  | name xs => exact startsFree_nameTokens h
  | generic xs as =>
    simp only [TypeRef.isWellFormed, Bool.and_eq_true] at h
    exact (startsFree_nameTokens h.1.1).append _
  | tuple es => exact startsFree_cons rfl _
  | array t => exact (startsFree_tokens t h).append _

theorem TypeRef.endsFree_tokens {t : TypeRef} (h : t.isWellFormed) : EndsFree t.tokens := by
  have hmark (c : Char) (l : List Token) : EndsFree (l ++ [.mark c]) :=
    (endsFree_singleton rfl).append l
  cases t with
  | name xs => exact endsFree_nameTokens h
  | generic xs as =>
    rw [TypeRef.tokens, bracketed, ← List.cons_append, ← List.append_assoc]
    exact hmark '>' _
  | tuple es =>
    rw [TypeRef.tokens, bracketed, ← List.cons_append]
    exact hmark ')' _
  | array t => exact EndsFree.append (m := [.mark '[', .mark ']']) ⟨_, rfl, rfl⟩ _

theorem Item.startsFree_tokens {i : Item} (h : i.isWellFormed) : StartsFree i.tokens := by
  match i with
  | .argument ⟨none, t⟩ => exact t.startsFree_tokens h
  | .argument ⟨some v, t⟩ => exact startsFree_cons rfl _
  | .element e => exact (e.type.startsFree_tokens (Bool.and_eq_true_iff.1 h).1).append _

theorem Item.endsFree_tokens {i : Item} (h : i.isWellFormed) : EndsFree i.tokens := by
  match i with
  | .argument a => exact (TypeRef.endsFree_tokens h).append _
  | .element ⟨t, none⟩ =>
    rw [Item.tokens, Option.toList_none, List.map_nil, List.append_nil]
    exact TypeRef.endsFree_tokens (Bool.and_eq_true_iff.1 h).1
  | .element ⟨t, some x⟩ => exact (endsFree_singleton rfl).append _

/-! ## Spellings -/

/-- A piece of a type as its tokens: an item with the blanks after it, a list of items with the
bracket that closes it. -/
def Phrase.Spaced : Phrase → Text → Prop
  | .type t, u => CSharp.Spaced t.tokens u
  | .item i, u => ∃ x g, u = x ++ g ∧ IsGap g ∧ CSharp.Spaced i.tokens x
  | .items close is, u => CSharp.Spaced (separated ',' (is.map Item.tokens) ++ [.mark close]) u

theorem nameSpelled_iff {xs : List Text} (h : isName xs) :
    NameSpelled xs u ↔ Spaced (nameTokens xs) u := by
  induction xs generalizing u with
  | nil => cases h
  | cons x xs ih =>
    obtain ⟨hx, hxs⟩ := isName_cons.1 h
    cases xs with
    | nil =>
      rw [nameTokens, List.map_singleton, separated_singleton, spaced_singleton_iff]
      constructor
      · rintro (_ | ⟨_, _, _, ⟨⟩⟩)
        rfl
      · rintro rfl
        exact .last hx
    | cons y xs =>
      have hrest := hxs.resolve_left (List.cons_ne_nil y xs)
      rw [nameTokens_cons_cons,
        spaced_mark_iff (endsFree_singleton rfl) (startsFree_nameTokens hrest)]
      constructor
      · rintro (_ | ⟨-, hg, hg', hn⟩)
        exact ⟨x, _, _, _, rfl, hg, hg', .one rfl, (ih hrest).1 hn⟩
      · rintro ⟨_, g, g', w, rfl, hg, hg', hx', hw⟩
        obtain rfl := spaced_singleton_iff.1 hx'
        exact .dot hx hg hg' ((ih hrest).2 hw)

section Items

variable {close : Char} {i : Item} {is : List Item}

theorem exists_cons_of_isWellFormed (h : (Phrase.items close is).isWellFormed) :
    ∃ i js, is = i :: js ∧ i.isWellFormed ∧ js.all Item.isWellFormed := by
  cases is with
  | nil => cases h
  | cons i js => exact ⟨i, js, rfl, Bool.and_eq_true_iff.1 h⟩

theorem startsFree_items (h : (Phrase.items close is).isWellFormed) :
    StartsFree (separated ',' (is.map Item.tokens) ++ [.mark close]) := by
  obtain ⟨i, js, rfl, hi, -⟩ := exists_cons_of_isWellFormed h
  exact (startsFree_separated (Item.startsFree_tokens hi) _).append _

/-- The last item, and the bracket after it. -/
theorem spaced_items_singleton_iff (hi : i.isWellFormed) :
    (Phrase.items close [i]).Spaced s ↔ ∃ u, s = u ++ [close] ∧ (Phrase.item i).Spaced u := by
  rw [Phrase.Spaced, List.map_singleton, separated_singleton,
    spaced_close_iff (Item.endsFree_tokens hi)]
  constructor
  · rintro ⟨x, g, rfl, hg, hx⟩
    exact ⟨x ++ g, by simp, x, g, rfl, hg, hx⟩
  · rintro ⟨_, rfl, x, g, rfl, hg, hx⟩
    exact ⟨x, g, by simp, hg, hx⟩

/-- An item, and more after a comma. -/
theorem spaced_items_cons_iff (hi : i.isWellFormed) (his : (Phrase.items close is).isWellFormed) :
    (Phrase.items close (i :: is)).Spaced s ↔ ∃ u g w, s = u ++ ',' :: (g ++ w) ∧
      (Phrase.item i).Spaced u ∧ IsGap g ∧ (Phrase.items close is).Spaced w := by
  have hstart := startsFree_items his
  obtain ⟨j, js, rfl, -⟩ := exists_cons_of_isWellFormed his
  rw [List.map_cons] at hstart
  rw [Phrase.Spaced, List.map_cons, List.map_cons, separated_cons_cons, List.append_assoc,
    List.cons_append, spaced_mark_iff (Item.endsFree_tokens hi) hstart]
  constructor
  · rintro ⟨x, g, g', w, rfl, hg, hg', hx, hw⟩
    exact ⟨x ++ g, g', w, by simp, ⟨x, g, rfl, hg, hx⟩, hg', hw⟩
  · rintro ⟨_, g', w, rfl, ⟨x, g, rfl, hg, hx⟩, hg', hw⟩
    exact ⟨x, g, g', w, by simp, hg, hg', hx, hw⟩

end Items

/-- **A spelling is a text of the tokens.** -/
theorem Spelled.spaced {Plain : Text → Prop} {p : Phrase} (h : Spelled Plain p u) :
    p.Spaced u := by
  induction h with
  | name hn => exact (nameSpelled_iff hn.isName).1 hn
  | @generic xs n g g' as a hn hg hg' has ih =>
    rw [Phrase.Spaced, TypeRef.tokens, bracketed, Argument.tokenLists_eq,
      spaced_mark_iff (endsFree_nameTokens hn.isName) (startsFree_items has.isWellFormed)]
    exact ⟨n, g, g', a, rfl, hg, hg', (nameSpelled_iff hn.isName).1 hn, ih⟩
  | @tuple es g e hg hes ih =>
    rw [Phrase.Spaced, TypeRef.tokens, bracketed, Element.tokenLists_eq,
      spaced_open_iff (startsFree_items hes.isWellFormed)]
    exact ⟨g, e, rfl, hg, ih⟩
  | @array t u g g' ht hg hg' ih =>
    rw [Phrase.Spaced, TypeRef.tokens,
      spaced_mark_iff (TypeRef.endsFree_tokens ht.isWellFormed) (startsFree_cons rfl [])]
    exact ⟨u, g, g', [']'], rfl, hg, hg', ih, .one rfl⟩
  | @plain t u g _ hg _ ih => exact ⟨u, g, rfl, hg, ih⟩
  | @varied v t w g u g' hw hg hne ht hg' ih =>
    have htokens := (t.startsFree_tokens ht.isWellFormed).ne_nil
    refine ⟨w ++ (g ++ u), g', by simp, hg', ?_⟩
    exact (spaced_append_iff (l := [.variance v]) (List.cons_ne_nil _ _) htokens).2
      ⟨w, g, u, rfl, hg, fun _ => hne, .one hw, ih⟩
  | @unnamed t u g _ hg ih =>
    refine ⟨u, g, rfl, hg, ?_⟩
    rw [Item.tokens, Option.toList_none, List.map_nil, List.append_nil]
    exact ih
  | @named t u g x g' ht hg hne _ hg' ih =>
    have htokens := (t.startsFree_tokens ht.isWellFormed).ne_nil
    refine ⟨u ++ (g ++ x), g', by simp, hg', ?_⟩
    exact (spaced_append_iff (m := [.elementName x]) htokens (List.cons_ne_nil _ _)).2
      ⟨u, g, x, rfl, hg, fun _ => hne, ih, .one rfl⟩
  | last hi ih => exact (spaced_items_singleton_iff hi.isWellFormed).2 ⟨_, rfl, ih⟩
  | more hi hg his ih ihs =>
    exact (spaced_items_cons_iff hi.isWellFormed his.isWellFormed).2 ⟨_, _, _, rfl, ih, hg, ihs⟩

/-! Conversely, the tokens of a well-formed type can be told apart again. -/

theorem items_spelled_of_spaced {close : Char} {is : List Item}
    (hwf : (Phrase.items close is).isWellFormed)
    (h : ∀ i ∈ is, ∀ u, (Phrase.item i).Spaced u → Spelled Anything (.item i) u) :
    ∀ {u}, (Phrase.items close is).Spaced u → Spelled Anything (.items close is) u := by
  induction is with
  | nil => cases hwf
  | cons i is ih =>
    intro s hs
    obtain ⟨hi, his⟩ := List.forall_mem_cons.1 h
    obtain ⟨_, _, ⟨⟩, hiwf, hiswf⟩ := exists_cons_of_isWellFormed hwf
    cases is with
    | nil =>
      obtain ⟨u, rfl, hu⟩ := (spaced_items_singleton_iff hiwf).1 hs
      exact .last (hi u hu)
    | cons j js =>
      have hiswf : (Phrase.items close (j :: js)).isWellFormed := hiswf
      obtain ⟨u, g, w, rfl, hu, hg, hw⟩ := (spaced_items_cons_iff hiwf hiswf).1 hs
      exact .more (hi u hu) hg (ih hiswf his hw)

theorem Argument.spelled_of_spaced {a : Argument TypeRef} (h : a.type.isWellFormed)
    (ht : ∀ u, Spaced a.type.tokens u → Spelled Anything (.type a.type) u) :
    ∀ u, (Phrase.item (.argument a)).Spaced u → Spelled Anything (.item (.argument a)) u := by
  rintro _ ⟨x, g, rfl, hg, hx⟩
  match a with
  | ⟨none, t⟩ => exact .plain (ht x hx) hg trivial
  | ⟨some v, t⟩ =>
    have htokens := (t.startsFree_tokens h).ne_nil
    obtain ⟨w, g', u, rfl, hg', hne, hw, hu⟩ :=
      (spaced_append_iff (l := [.variance v]) (List.cons_ne_nil _ _) htokens).1 hx
    have hw := spaced_singleton_iff.1 hw
    have : Spelled Anything _ _ := .varied hw hg' (hne rfl) (ht u hu) hg
    simpa using this

theorem Element.spelled_of_spaced {e : Element TypeRef} (h : e.type.isWellFormed)
    (hname : e.name.all isIdentifier)
    (ht : ∀ u, Spaced e.type.tokens u → Spelled Anything (.type e.type) u) :
    ∀ u, (Phrase.item (.element e)).Spaced u → Spelled Anything (.item (.element e)) u := by
  rintro _ ⟨x, g, rfl, hg, hx⟩
  match e with
  | ⟨t, none⟩ =>
    rw [Item.tokens, Option.toList_none, List.map_nil, List.append_nil] at hx
    exact .unnamed (ht x hx) hg
  | ⟨t, some y⟩ =>
    have htokens := (t.startsFree_tokens h).ne_nil
    obtain ⟨u, g', w, rfl, hg', hne, hu, hw⟩ :=
      (spaced_append_iff (m := [.elementName y]) htokens (List.cons_ne_nil _ _)).1 hx
    obtain rfl := spaced_singleton_iff.1 hw
    have hblank : needBlank t.tokens [.elementName w] := Bool.or_true _
    have : Spelled Anything _ _ := .named (ht u hu) hg' (hne hblank) hname hg
    simpa using this

mutual

theorem spelled_of_spaced : (t : TypeRef) → t.isWellFormed → ∀ u, Spaced t.tokens u →
    Spelled Anything (.type t) u
  | .name xs, h, u, hu => .name ((nameSpelled_iff h).2 hu)
  | .generic xs as, h, s, hs => by
    simp only [TypeRef.isWellFormed, Bool.and_eq_true, Argument.areWellFormed_eq] at h
    have hwf : (Phrase.items '>' (as.map Item.argument)).isWellFormed := by
      simpa [Phrase.isWellFormed] using And.intro h.1.2 h.2
    rw [TypeRef.tokens, bracketed, Argument.tokenLists_eq,
      spaced_mark_iff (endsFree_nameTokens h.1.1) (startsFree_items hwf)] at hs
    obtain ⟨n, g, g', a, rfl, hg, hg', hn, ha⟩ := hs
    have hargs := arguments_spelled_of_spaced as (Argument.areWellFormed_eq as ▸ h.2)
    exact .generic ((nameSpelled_iff h.1.1).2 hn) hg hg' (items_spelled_of_spaced hwf hargs ha)
  | .tuple es, h, s, hs => by
    simp only [TypeRef.isWellFormed, Bool.and_eq_true, Element.areWellFormed_eq] at h
    have hwf : (Phrase.items ')' (es.map Item.element)).isWellFormed := by
      simpa [Phrase.isWellFormed] using h
    rw [TypeRef.tokens, bracketed, Element.tokenLists_eq,
      spaced_open_iff (startsFree_items hwf)] at hs
    obtain ⟨g, e, rfl, hg, he⟩ := hs
    have helems := elements_spelled_of_spaced es (Element.areWellFormed_eq es ▸ h.2)
    exact .tuple hg (items_spelled_of_spaced hwf helems he)
  | .array t, h, s, hs => by
    rw [TypeRef.tokens,
      spaced_mark_iff (TypeRef.endsFree_tokens (t := t) h) (startsFree_cons rfl [])] at hs
    obtain ⟨u, g, g', w, rfl, hg, hg', hu, hw⟩ := hs
    obtain rfl := spaced_singleton_iff.1 hw
    exact .array (spelled_of_spaced t h u hu) hg hg'

theorem arguments_spelled_of_spaced : (as : List (Argument TypeRef)) → Argument.areWellFormed as →
    ∀ i ∈ as.map Item.argument, ∀ u, (Phrase.item i).Spaced u → Spelled Anything (.item i) u
  | [], _ => nofun
  | ⟨_, t⟩ :: as, h => by
    obtain ⟨ht, has⟩ := Bool.and_eq_true_iff.1 h
    exact List.forall_mem_cons.2 ⟨Argument.spelled_of_spaced ht (spelled_of_spaced t ht),
      arguments_spelled_of_spaced as has⟩

theorem elements_spelled_of_spaced : (es : List (Element TypeRef)) → Element.areWellFormed es →
    ∀ i ∈ es.map Item.element, ∀ u, (Phrase.item i).Spaced u → Spelled Anything (.item i) u
  | [], _ => nofun
  | ⟨t, _⟩ :: es, h => by
    simp only [Element.areWellFormed, Bool.and_eq_true] at h
    exact List.forall_mem_cons.2 ⟨Element.spelled_of_spaced h.1.1 h.1.2 (spelled_of_spaced t h.1.1),
      elements_spelled_of_spaced es h.2⟩

end

/-- **The spellings of a well-formed type** are the texts of its tokens. -/
theorem spelled_iff {t : TypeRef} :
    Spelled Anything (.type t) u ↔ t.isWellFormed ∧ Spaced t.tokens u :=
  ⟨fun h => ⟨h.isWellFormed, h.spaced⟩, fun h => spelled_of_spaced t h.1 u h.2⟩

end GrammarGraph.CSharp
