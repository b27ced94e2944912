import GrammarGraph.Proofs.CSharp.Spelling
import GrammarGraph.Proofs.CSharp.Start
import GrammarGraph.Proofs.Outcome

/-!
# Proofs/CSharp/Acceptance — the grammar reads every spelling

No part of the grammar goes back on what an earlier part has taken, so a spelling is read only if
every part stops where its own token stops.  That depends on what comes next: a name goes on with
a dot, a type with a bracket, and any of these may come after blanks (`Avoids`).
-/

namespace GrammarGraph.CSharp

open Rules

variable {C : Calls Value} {s r u g : Text}

/-! ## Tokens -/

/-- The next character after blanks is none of these. -/
def Avoids (chars : List Char) (r : Text) : Prop :=
  ∃ g r', r = g ++ r' ∧ IsGap g ∧ Stops isBlank r' ∧ ∀ c ∈ chars, r'.head? ≠ some c

theorem gives_spaces (hg : IsGap g) (hne : g ≠ []) (hr : Stops isBlank r) :
    Gives Live C (.boxed spaces) (g ++ r) (some (.text g, r)) :=
  .boxed (.named (.pattern (match?_spaces hg hne hr)))

theorem gives_spaces_none (hr : Stops isBlank r) : Gives Live C (.boxed spaces) r none :=
  .boxed (.named (.pattern_none (matchesRuns_spaces.none hr)))

theorem gives_gap (hg : IsGap g) (hr : Stops isBlank r) :
    ∃ v, Gives Live C (.boxed gap) (g ++ r) (some (v, r)) := by
  by_cases hne : g = []
  · subst hne
    exact ⟨_, .boxed (.absent (gives_spaces_none hr))⟩
  · exact ⟨_, .boxed (.present (gives_spaces hg hne hr))⟩

theorem gives_identifier {x : Text} (hx : isIdentifier x) (hr : Stops isWordPart r) :
    Gives Live C (.boxed identifier) (x ++ r) (some (.value (.identifier x), r)) :=
  .boxed (.named (.map (.pattern (match?_identifier hx hr))))

theorem gives_identifier_none (hr : Stops isWordStart r) :
    Gives Live C (.boxed identifier) r none :=
  .boxed (.named (.map (.pattern_none (matchesRuns_identifier.none hr))))

theorem gives_mark {id : NodeId} {c : Char} (hg : IsGap g) (hc : isBlank c = false) (r : Text) :
    Gives Live C (mark id c) (g ++ c :: r) (some (.text [c], r)) := by
  obtain ⟨v, hv⟩ := gives_gap hg (.cons (r := r) hc)
  exact .sequence hv (.literal id [c] r)

theorem gives_literal_none {i : NodeId} {c : Char} (h : r.head? ≠ some c) :
    Gives Live C (.literal i [c]) r none := by
  refine .literal_none ?_
  cases r with
  | nil => rfl
  | cons d r =>
    have hne : c ≠ d := fun hcd => h (congrArg some hcd.symm)
    rw [Text.dropPrefix?, if_neg hne]

theorem gives_mark_none {id : NodeId} {c : Char} (h : Avoids [c] r) :
    Gives Live C (mark id c) r none := by
  obtain ⟨g, r', rfl, hg, hr, hc⟩ := h
  obtain ⟨v, hv⟩ := gives_gap hg hr
  exact .sequence_right hv (gives_literal_none (hc c (List.mem_singleton_self c)))

theorem Avoids.mono {chars chars' : List Char} (h : Avoids chars r) (hsub : chars' ⊆ chars) :
    Avoids chars' r := by
  obtain ⟨g, r', rfl, hg, hr, hc⟩ := h
  exact ⟨g, r', rfl, hg, hr, fun c hm => hc c (hsub hm)⟩

theorem avoids_cons {chars : List Char} {c : Char} (hg : IsGap g) (hc : isBlank c = false)
    (hm : c ∉ chars) (r : Text) : Avoids chars (g ++ c :: r) := by
  refine ⟨g, c :: r, rfl, hg, .cons hc, fun d hd h => hm ?_⟩
  rwa [← Option.some.inj h] at hd

/-! ## Names -/

/-- A word and the mark after it, with the blanks around the mark. -/
theorem gives_wordMark {i j k l : NodeId} {x g' : Text} {c : Char} (hc : isBlank c = false)
    (hword : isWordPart c = false) (hx : isIdentifier x) (hg : IsGap g) (hg' : IsGap g')
    (hr : Stops isBlank r) :
    Gives Live C (before l (before k (before i (.boxed identifier) (.boxed gap)) (.literal j [c]))
      (.boxed gap)) (x ++ (g ++ c :: (g' ++ r))) (some (.value (.identifier x), r)) := by
  have hword := gives_identifier (C := C) hx (hg.stops_isWordPart (.cons (r := g' ++ r) hword))
  obtain ⟨v, hv⟩ := gives_gap (C := C) hg (.cons (r := g' ++ r) hc)
  obtain ⟨w, hw⟩ := gives_gap (C := C) hg' hr
  exact ((hword.sequence hv).sequence (.literal j [c] _)).sequence hw

theorem gives_wordMark_none {i j k l : NodeId} {x : Text} {c : Char} (hx : isIdentifier x)
    (hr : Stops isWordPart r) (hc : Avoids [c] r) :
    Gives Live C (before l (before k (before i (.boxed identifier) (.boxed gap)) (.literal j [c]))
      (.boxed gap)) (x ++ r) none := by
  obtain ⟨g, r', rfl, hg, hr', hc⟩ := hc
  obtain ⟨v, hv⟩ := gives_gap (C := C) hg hr'
  have hmark := gives_literal_none (C := C) (i := j) (hc c (List.mem_singleton_self _))
  exact .sequence_left (.sequence_right ((gives_identifier hx hr).sequence hv) hmark)

theorem gives_dotted {x g' : Text} (hx : isIdentifier x) (hg : IsGap g) (hg' : IsGap g')
    (hr : Stops isBlank r) :
    Gives Live C dotted (x ++ (g ++ '.' :: (g' ++ r))) (some (.value (.identifier x), r)) :=
  gives_wordMark rfl rfl hx hg hg' hr

theorem gives_dotted_none {x : Text} (hx : isIdentifier x) (hr : Stops isWordPart r)
    (hdot : Avoids ['.'] r) : Gives Live C dotted (x ++ r) none :=
  gives_wordMark_none hx hr hdot

/-- A name begins like a word. -/
theorem NameSpelled.exists_cons {xs : List Text} {n : Text} (h : NameSpelled xs n) :
    ∃ c t, n = c :: t ∧ isWordStart c := by
  have hword : ∀ {x : Text}, isIdentifier x → ∃ c t, x = c :: t ∧ isWordStart c := by
    intro x hx
    cases x with
    | nil => cases hx
    | cons c t => exact ⟨c, t, rfl, (Bool.and_eq_true_iff.1 hx).1⟩
  cases h with
  | last hx => exact hword hx
  | dot hx _ _ _ =>
    obtain ⟨c, t, rfl, hc⟩ := hword hx
    exact ⟨c, _, rfl, hc⟩

theorem NameSpelled.stops_isBlank {xs : List Text} {n : Text} (h : NameSpelled xs n) (r : Text) :
    Stops isBlank (n ++ r) := by
  obtain ⟨c, t, rfl, hc⟩ := h.exists_cons
  refine .cons (Bool.eq_false_iff.2 fun hblank => ?_)
  have hword := not_isWordPart_of_isBlank hblank
  rw [isWordPart_of_isWordStart hc] at hword
  cases hword

/-- The leading segments of a name, up to the last one. -/
theorem repeats_dotted {xs : List Text} {n : Text} (h : NameSpelled xs n) (hr : Stops isWordPart r)
    (hdot : Avoids ['.'] r) : ∃ (ys : List Text) (x : Text), xs = ys ++ [x] ∧ isIdentifier x ∧
      Gives.Repeats Live C dotted (n ++ r) (ys.map fun y => .value (.identifier y)) (x ++ r) := by
  induction h with
  | @last x hx => exact ⟨[], x, rfl, hx, Gives.done (gives_dotted_none hx hr hdot)⟩
  | @dot x xs g g' t hx hg hg' hxs ih =>
    obtain ⟨ys, y, rfl, hy, hrepeats⟩ := ih
    refine ⟨x :: ys, y, rfl, hy, ?_⟩
    have hfirst := gives_dotted (C := C) hx hg hg' (hxs.stops_isBlank r)
    have := Gives.more hfirst (by simp; omega) hrepeats
    simpa using this

theorem gives_namespacedName {xs : List Text} {n : Text} (h : NameSpelled xs n)
    (hr : Stops isWordPart r) (hdot : Avoids ['.'] r) :
    Gives Live C (.boxed namespacedName) (n ++ r) (some (.value (.name xs), r)) := by
  obtain ⟨ys, x, rfl, hx, hrepeats⟩ := repeats_dotted (C := C) h hr hdot
  have hpair : Gives Live C (both 11 (.star 10 dotted) (.boxed identifier)) (n ++ r)
      (some (.pair (.list (ys.map fun y => .value (.identifier y))) (.value (.identifier x)), r)) :=
    .sequence (.star hrepeats) (gives_identifier hx hr)
  have hlist : Value.list? Value.identifier? (.list (ys.map fun y => .value (.identifier y))) =
      some ys := list?_map (fun y => .value (.identifier y)) (fun _ => rfl) ys
  have hname : toName (.pair (.list (ys.map fun y => .value (.identifier y)))
      (.value (.identifier x))) = .value (.name (ys ++ [x])) := by
    simp [toName, making, hlist, Value.identifier?]
  rw [← hname]
  exact .boxed (.named (.map hpair))

/-! ## Lists between brackets -/

/-- The rule for an item. -/
def Item.parser : Item → Parser Value
  | .argument _ => .boxed Rules.argument
  | .element _ => .boxed Rules.element

/-- The characters that may follow an item and the blanks after it. -/
def itemEnds : List Char := [',', '>', ')']

/-- **An item is read up to the blanks after it**, where definitions may be `n` deep. -/
def ReadsItem (i : Item) (u : Text) : Prop :=
  ∃ x g, u = x ++ g ∧ IsGap g ∧ ∀ n, 2 * u.length < n → ∀ c ∈ itemEnds, ∀ r,
    Gives Live (Calls.upTo n) i.parser (u ++ c :: r) (some (i.value, g ++ c :: r))

/-- **The items of a list are read** one after another, up to the blanks before the bracket. -/
def ReadsItems (close : Char) (is : List Item) (u : Text) : Prop :=
  close ∈ itemEnds → close ≠ ',' → ∀ p, (∀ i ∈ is, i.parser = p) →
    ∀ n, 2 * u.length ≤ n → ∀ id r, ∃ v vs x s g, is.map Item.value = v :: vs ∧
      u ++ r = x ++ s ∧ IsGap g ∧ Gives Live (Calls.upTo n) p (u ++ r) (some (v, s)) ∧
        Gives.Repeats Live (Calls.upTo n) (furtherItem id p) s vs (g ++ close :: r)

theorem itemEnds_stops {c : Char} (hc : c ∈ itemEnds) :
    isBlank c = false ∧ isWordPart c = false := by
  have hends : itemEnds.all fun c => isBlank c = false ∧ isWordPart c = false := by decide
  exact of_decide_eq_true (List.all_eq_true.1 hends c hc)

theorem readsItems_last {close : Char} {i : Item} (hi : ReadsItem i u) :
    ReadsItems close [i] (u ++ [close]) := by
  intro hclose hcomma p hp n hn id r
  obtain ⟨x, g, rfl, hg, hgives⟩ := hi
  rw [List.length_append, List.length_singleton] at hn
  have hfirst := hgives n (by omega) close hclose r
  have hp := hp i (List.mem_singleton_self i)
  subst hp
  refine ⟨i.value, [], x, g ++ close :: r, g, rfl, by simp, hg, by simpa using hfirst, ?_⟩
  have hmark : Gives Live (Calls.upTo n) (mark id ',') (g ++ close :: r) none :=
    gives_mark_none (avoids_cons hg (itemEnds_stops hclose).1 (by simpa using hcomma) r)
  exact Gives.done (.sequence_left (.sequence_left hmark))

theorem readsItems_more {close : Char} {i : Item} {is : List Item} {w : Text} (hi : ReadsItem i u)
    (hg : IsGap g) (hw : ∀ r, Stops isBlank (w ++ r)) (his : ReadsItems close is w) :
    ReadsItems close (i :: is) (u ++ ',' :: (g ++ w)) := by
  intro hclose hcomma p hp n hn id r
  obtain ⟨hpi, hp⟩ := List.forall_mem_cons.1 hp
  obtain ⟨x, g', rfl, hg', hgives⟩ := hi
  simp only [List.length_append, List.length_cons] at hn
  have hfirst := hgives n (by simp; omega) ',' (by decide) (g ++ (w ++ r))
  obtain ⟨v, vs, y, s, g'', hvs, hs, hg'', hitem, hrepeats⟩ :=
    his hclose hcomma p hp n (by omega) id r
  rw [hpi] at hfirst
  refine ⟨i.value, v :: vs, x, g' ++ ',' :: (g ++ (w ++ r)), g'', by rw [List.map_cons, hvs],
    by simp, hg'', by simpa using hfirst, ?_⟩
  have hmark : Gives Live (Calls.upTo n) (mark id ',') (g' ++ ',' :: (g ++ (w ++ r)))
      (some (.text [','], g ++ (w ++ r))) := gives_mark hg' rfl _
  obtain ⟨_, hgap⟩ := gives_gap (C := Calls.upTo n) hg (hw r)
  have hlength := congrArg List.length hs
  simp only [List.length_append] at hlength
  exact Gives.more ((hmark.sequence hgap).sequence hitem) (by simp; omega) hrepeats

theorem gives_bracketed {left right : Char} {is : List Item} {w : Text} {p : Parser Value}
    (his : ReadsItems right is w) (hright : right ∈ itemEnds) (hcomma : right ≠ ',')
    (hp : ∀ i ∈ is, i.parser = p) (hg : IsGap g) (hw : ∀ r, Stops isBlank (w ++ r)) {n : Nat}
    (hn : 2 * w.length ≤ n) (i j : NodeId) (r : Text) :
    Gives Live (Calls.upTo n) (bracketed i left right p (.boxed (furtherItems j p)))
      (left :: (g ++ (w ++ r))) (some (.list (is.map Item.value), r)) := by
  obtain ⟨v, vs, x, s, g', hvs, -, hg', hitem, hrepeats⟩ := his hright hcomma p hp n hn j r
  obtain ⟨_, hgap⟩ := gives_gap (C := Calls.upTo n) hg (hw r)
  obtain ⟨_, hgap'⟩ := gives_gap (C := Calls.upTo n) hg'
    (.cons (r := r) (itemEnds_stops hright).1)
  have hopen : Gives Live (Calls.upTo n)
      (after (i + 2) (after (i + 1) (.literal i [left]) (.boxed gap)) p)
      (left :: (g ++ (w ++ r))) (some (v, s)) :=
    .sequence (.sequence (.literal i [left] _) hgap) hitem
  rw [hvs]
  exact .map (.sequence (.sequence (.sequence hopen (.boxed (.star hrepeats))) hgap')
    (.literal (i + 5) [right] r))

/-! ## Types -/

/-- What may follow a type, array suffixes aside. -/
structure FollowsBase (r : Text) : Prop where
  word : Stops isWordPart r
  next : Avoids ['.', '<'] r

/-- **What may follow a type.** -/
structure FollowsType (r : Text) : Prop where
  word : Stops isWordPart r
  next : Avoids ['.', '<', '['] r

/-- A type without its array suffixes. -/
def base : Parser Value := .choice 53 (.map 52 (.boxed tuple) toTuple) (.boxed namedType)

/-- The spelling of an array suffix. -/
def IsSuffix (u : Text) : Prop := ∃ g g', IsGap g ∧ IsGap g' ∧ u = g ++ '[' :: (g' ++ [']'])

/-- **A type is read** in two parts: what is not an array, where definitions may be `n` deep, and
the suffixes that make an array of it. -/
def ReadsType (t : TypeRef) (u : Text) : Prop :=
  ∃ (b : TypeRef) (x : Text) (suffixes : List Text), u = x ++ suffixes.flatten ∧
    t = suffixes.foldl (fun t _ => .array t) b ∧ (∀ y ∈ suffixes, IsSuffix y) ∧
    ∀ n, 2 * x.length ≤ n → ∀ r, FollowsBase r →
      Gives Live (Calls.upTo n) base (x ++ r) (some (.value (.type b), r))

theorem FollowsType.base (h : FollowsType r) : FollowsBase r :=
  ⟨h.word, h.next.mono (by simp)⟩

theorem IsSuffix.followsBase (h : IsSuffix u) (r : Text) : FollowsBase (u ++ r) := by
  obtain ⟨g, g', hg, -, rfl⟩ := h
  rw [List.append_assoc]
  exact ⟨hg.stops_isWordPart (.cons rfl), avoids_cons hg rfl (by decide) _⟩

theorem gives_arraySuffix (h : IsSuffix u) (r : Text) :
    ∃ v, Gives Live C (.boxed arraySuffix) (u ++ r) (some (v, r)) := by
  obtain ⟨g, g', hg, hg', rfl⟩ := h
  have hmark : Gives Live C (mark 47 '[') (g ++ '[' :: (g' ++ ']' :: r))
      (some (.text ['['], g' ++ ']' :: r)) := gives_mark hg rfl _
  obtain ⟨_, hgap⟩ := gives_gap (C := C) hg' (.cons (c := ']') (r := r) rfl)
  refine ⟨.text [']'], ?_⟩
  have hsuffix : Gives Live C arraySuffix (g ++ '[' :: (g' ++ ']' :: r)) (some (.text [']'], r)) :=
    .sequence (.sequence hmark hgap) (.literal 50 [']'] r)
  simpa using hsuffix.boxed

/-- The suffixes are read as far as they go. -/
theorem repeats_arraySuffix {suffixes : List Text} (h : ∀ y ∈ suffixes, IsSuffix y)
    (hr : Avoids ['['] r) : ∃ vs : List (Output Value), vs.length = suffixes.length ∧
      Gives.Repeats Live C (.boxed arraySuffix) (suffixes.flatten ++ r) vs r := by
  induction suffixes with
  | nil =>
    exact ⟨[], rfl, Gives.done (.boxed (.sequence_left (.sequence_left (gives_mark_none hr))))⟩
  | cons y suffixes ih =>
    obtain ⟨hy, hsuffixes⟩ := List.forall_mem_cons.1 h
    obtain ⟨vs, hvs, hrepeats⟩ := ih hsuffixes
    obtain ⟨v, hv⟩ := gives_arraySuffix (C := C) hy (suffixes.flatten ++ r)
    rw [List.flatten_cons, List.append_assoc]
    refine ⟨v :: vs, by simp [hvs], Gives.more hv ?_ hrepeats⟩
    obtain ⟨g, g', -, -, rfl⟩ := hy
    simp
    omega

theorem foldl_array {vs : List (Output Value)} {ys : List Text} (h : vs.length = ys.length) :
    ∀ b, vs.foldl (fun t _ => TypeRef.array t) b = ys.foldl (fun t _ => .array t) b := by
  induction vs generalizing ys with
  | nil =>
    obtain rfl := List.eq_nil_of_length_eq_zero h.symm
    exact fun _ => rfl
  | cons v vs ih =>
    match ys, h with
    | y :: ys, h => exact fun b => ih (Nat.succ.inj h) (.array b)

theorem gives_type {t : TypeRef} (h : ReadsType t u) {n : Nat} (hn : 2 * u.length ≤ n)
    (hr : FollowsType r) :
    Gives Live (Calls.upTo n) type (u ++ r) (some (.value (.type t), r)) := by
  obtain ⟨b, x, suffixes, rfl, rfl, hsuffixes, hbase⟩ := h
  rw [List.length_append] at hn
  obtain ⟨vs, hvs, hrepeats⟩ :=
    repeats_arraySuffix (C := Calls.upTo n) hsuffixes (hr.next.mono (by simp))
  have hfollows : FollowsBase (suffixes.flatten ++ r) := by
    cases suffixes with
    | nil => exact hr.base
    | cons y suffixes =>
      rw [List.flatten_cons, List.append_assoc]
      exact (hsuffixes y List.mem_cons_self).followsBase _
  have hpair : Gives Live (Calls.upTo n) (both 55 base (.star 54 (.boxed arraySuffix)))
      (x ++ (suffixes.flatten ++ r)) (some (.pair (.value (.type b)) (.list vs), r)) :=
    .sequence (hbase n (by omega) _ hfollows) (.star hrepeats)
  have harrays : toArrays (.pair (.value (.type b)) (.list vs)) =
      .value (.type (suffixes.foldl (fun t _ => .array t) b)) := by
    rw [← foldl_array hvs]
    rfl
  rw [List.append_assoc, ← harrays]
  exact .named (.map hpair)

/-- The rule for types does what its definition does, one definition deeper. -/
theorem gives_rule_type {n : Nat} {outcome : Option (Output Value × Text)}
    (h : Gives Live (Calls.upTo n) type s outcome) :
    Gives Live (Calls.upTo (n + 1)) (.boxed (.rule typeRule)) s outcome := by
  have hforce := (returns_force_type (h := typeRule) rfl rfl (Calls.upTo (n + 1)).build).mono
    (Q := fun r => ∃ p, r = .ok p ∧ p = type) fun _ h => ⟨type, h, rfl⟩
  refine .boxed (.rule hforce ?_)
  rintro _ rfl
  exact h

theorem gives_typeRule {t : TypeRef} (h : ReadsType t u) {n : Nat} (hn : 2 * u.length < n)
    (hr : FollowsType r) : Gives Live (Calls.upTo n) (.boxed (.rule typeRule)) (u ++ r)
      (some (.value (.type t), r)) := by
  obtain ⟨m, rfl⟩ := Nat.exists_eq_add_of_lt hn
  exact gives_rule_type (gives_type h (by omega) hr)

/-! ## Items -/

theorem followsType_item {c : Char} (hg : IsGap g) (hc : c ∈ itemEnds) (r : Text) :
    FollowsType (g ++ c :: r) := by
  have hends : itemEnds.all (· ∉ ['.', '<', '[']) := by decide
  have hnext := of_decide_eq_true (List.all_eq_true.1 hends c hc)
  exact ⟨hg.stops_isWordPart (.cons (itemEnds_stops hc).2),
    avoids_cons hg (itemEnds_stops hc).1 hnext r⟩

theorem followsType_identifier {x : Text} (hg : IsGap g) (hne : g ≠ []) (hx : isIdentifier x)
    (r : Text) : FollowsType (g ++ (x ++ r)) := by
  obtain ⟨c, g, rfl⟩ := List.exists_cons_of_ne_nil hne
  cases x with
  | nil => cases hx
  | cons d x =>
    have hd : isWordStart d := (Bool.and_eq_true_iff.1 hx).1
    have hnext : d ∉ ['.', '<', '['] := by
      have hmarks : ['.', '<', '['].all (¬isWordStart ·) := by decide
      exact fun hm => of_decide_eq_true (List.all_eq_true.1 hmarks d hm) hd
    exact ⟨.cons (not_isWordPart_of_isBlank (Bool.and_eq_true_iff.1 hg).1),
      avoids_cons hg (stops_isBlank_of_isIdentifier hx [] d rfl) hnext _⟩

/-- What ends an item does not make a variance of its first word. -/
theorem Unvaried.append (h : Unvaried s) {c : Char} (hc : c ∈ itemEnds) (r : Text) :
    Unvaried (s ++ c :: r) := by
  rintro v w d r' heq hw
  obtain ⟨e, rfl, he⟩ | ⟨e, rfl, he⟩ := List.append_eq_append_iff.1 heq
  · cases e with
    | nil => exact (List.cons.inj he).1 ▸ (itemEnds_stops hc).1
    | cons _ e =>
      obtain ⟨rfl, -⟩ := List.cons.inj he
      have hword := List.all_eq_true.1 hw.all c (by simp)
      rw [(itemEnds_stops hc).2] at hword
      cases hword
  · cases e with
    | nil => exact (List.cons.inj he).1 ▸ (itemEnds_stops hc).1
    | cons _ e =>
      obtain ⟨rfl, -⟩ := List.cons.inj he
      exact h v w d e rfl hw

theorem gives_variance_none (h : Unvaried s) : Gives Live C (.boxed variance) s none := by
  refine .boxed (.named (.map_none ?_))
  cases hmatch : variancePattern.match? s with
  | none => exact .sequence_left (.pattern_none hmatch)
  | some m =>
    obtain ⟨w, r⟩ := m
    obtain ⟨v, hw⟩ := written_of_match? hmatch
    obtain rfl := Pattern.append_of_match? hmatch
    refine .sequence_right (.pattern hmatch) (gives_spaces_none ?_)
    cases r with
    | nil => exact .nil
    | cons c r => exact .cons (h v w c r rfl hw)

theorem readsItem_plain {t : TypeRef} (ht : ReadsType t u) (hg : IsGap g) (hp : Unvaried (u ++ g)) :
    ReadsItem (.argument ⟨none, t⟩) (u ++ g) := by
  refine ⟨u, g, rfl, hg, fun n hn c hc r => ?_⟩
  rw [List.length_append] at hn
  have hvariance := gives_variance_none (C := Calls.upTo n) (hp.append hc r)
  rw [List.append_assoc] at hvariance ⊢
  exact .boxed (.named (.map (.sequence (.absent hvariance)
    (gives_typeRule ht (by omega) (followsType_item hg hc r)))))

theorem readsItem_varied {v : Variance} {t : TypeRef} {w g' : Text} (hw : v.Written w)
    (hg : IsGap g) (hne : g ≠ []) (ht : ReadsType t u) (hu : ∀ r, Stops isBlank (u ++ r))
    (hg' : IsGap g') :
    ReadsItem (.argument ⟨some v, t⟩) (w ++ (g ++ (u ++ g'))) := by
  refine ⟨w ++ (g ++ u), g', by simp, hg', fun n hn c hc r => ?_⟩
  simp only [List.length_append] at hn
  have hvariance : Gives Live (Calls.upTo n) (.boxed variance) (w ++ (g ++ (u ++ (g' ++ c :: r))))
      (some (.value (.variance v), u ++ (g' ++ c :: r))) := by
    rw [← toVariance_text hw]
    exact .boxed (.named (.map
      (.sequence (.pattern (match?_variance hw _)) (gives_spaces hg hne (hu _)))))
  have hargument : Gives Live (Calls.upTo n) (.boxed argument) (w ++ (g ++ (u ++ (g' ++ c :: r))))
      (some (.value (.argument ⟨some v, t⟩), g' ++ c :: r)) :=
    .boxed (.named (.map (.sequence (.present hvariance)
      (gives_typeRule ht (by omega) (followsType_item hg' hc r)))))
  simpa [Item.parser, Item.value] using hargument

theorem readsItem_unnamed {t : TypeRef} (ht : ReadsType t u) (hg : IsGap g) :
    ReadsItem (.element ⟨t, none⟩) (u ++ g) := by
  refine ⟨u, g, rfl, hg, fun n hn c hc r => ?_⟩
  rw [List.length_append] at hn
  have hname : Gives Live (Calls.upTo n) (after 24 (.boxed spaces) (.boxed identifier))
      (g ++ c :: r) none := by
    by_cases hne : g = []
    · subst hne
      exact .sequence_left (gives_spaces_none (.cons (itemEnds_stops hc).1))
    · refine .sequence_right (gives_spaces hg hne (.cons (itemEnds_stops hc).1))
        (gives_identifier_none ?_)
      exact Stops.imp (fun _ => isWordPart_of_isWordStart) (.cons (itemEnds_stops hc).2)
  rw [List.append_assoc]
  exact .boxed (.named (.map (.sequence (gives_typeRule ht (by omega) (followsType_item hg hc r))
    (.absent hname))))

theorem readsItem_named {t : TypeRef} {x g' : Text} (ht : ReadsType t u) (hg : IsGap g)
    (hne : g ≠ []) (hx : isIdentifier x) (hg' : IsGap g') :
    ReadsItem (.element ⟨t, some x⟩) (u ++ (g ++ (x ++ g'))) := by
  refine ⟨u ++ (g ++ x), g', by simp, hg', fun n hn c hc r => ?_⟩
  simp only [List.length_append] at hn
  have hend := hg'.stops_isWordPart (.cons (r := r) (itemEnds_stops hc).2)
  have hname : Gives Live (Calls.upTo n) (after 24 (.boxed spaces) (.boxed identifier))
      (g ++ (x ++ (g' ++ c :: r))) (some (.value (.identifier x), g' ++ c :: r)) :=
    .sequence (gives_spaces hg hne (stops_isBlank_of_isIdentifier hx _)) (gives_identifier hx hend)
  have hfollows := followsType_identifier hg hne hx (g' ++ c :: r)
  have helement : Gives Live (Calls.upTo n) (.boxed element) (u ++ (g ++ (x ++ (g' ++ c :: r))))
      (some (.value (.element ⟨t, some x⟩), g' ++ c :: r)) :=
    .boxed (.named (.map (.sequence (gives_typeRule ht (by omega) hfollows) (.present hname))))
  simpa [Item.parser, Item.value] using helement

/-! ## Types without array suffixes -/

theorem gives_arguments_none (n : Nat) (hr : r.head? ≠ some '<') :
    Gives Live (Calls.upTo (n + 1)) (.boxed (.rule argumentsRule)) r none := by
  refine .boxed (.rule (returns_force_arguments rfl rfl n) ?_)
  rintro _ ⟨id, rfl⟩
  exact .named (.map_none (.sequence_left (.sequence_left (.sequence_left (.sequence_left
    (.sequence_left (gives_literal_none hr)))))))

/-- What does not begin with a bracket is tried as a tuple in vain. -/
theorem gives_base {outcome : Option (Output Value × Text)} (hs : s.head? ≠ some '(')
    (h : Gives Live C (.boxed namedType) s outcome) : Gives Live C base s outcome := by
  have htuple : Gives Live C (.map 52 (.boxed tuple) toTuple) s none :=
    .map_none (.boxed (.named (.map_none (.sequence_left (.sequence_left (.sequence_left
      (.sequence_left (.sequence_left (gives_literal_none hs)))))))))
  exact .second (fun _ _ => Live.log) (.pure trivial) htuple h

theorem NameSpelled.head?_ne {xs : List Text} {n : Text} (h : NameSpelled xs n) (r : Text) :
    (n ++ r).head? ≠ some '(' := by
  obtain ⟨c, t, rfl, hc⟩ := h.exists_cons
  intro hhead
  obtain rfl := Option.some.inj hhead
  cases hc

theorem readsType_name {xs : List Text} {n : Text} (h : NameSpelled xs n) :
    ReadsType (.name xs) n := by
  refine ⟨.name xs, n, [], by simp, rfl, nofun, fun m hm r hr => ?_⟩
  obtain ⟨g, r', rfl, hg, hr', hc⟩ := hr.next
  obtain ⟨k, rfl⟩ : ∃ k, m = k + 1 := by
    obtain ⟨c, t, rfl, -⟩ := h.exists_cons
    exact ⟨m - 1, by simp at hm; omega⟩
  obtain ⟨_, hgap⟩ := gives_gap (C := Calls.upTo (k + 1)) hg hr'
  have harguments := gives_arguments_none k (hc '<' (by simp))
  have hname := gives_namespacedName (C := Calls.upTo (k + 1)) h hr.word (hr.next.mono (by simp))
  exact gives_base (h.head?_ne _)
    (.boxed (.map (.sequence hname (.absent (.sequence_right hgap harguments)))))

theorem gives_arguments {as : List (Argument TypeRef)} {a : Text} (hg : IsGap g)
    (has : ReadsItems '>' (as.map .argument) a) (ha : ∀ r, Stops isBlank (a ++ r)) {n : Nat}
    (hn : 2 * a.length < n) (r : Text) :
    Gives Live (Calls.upTo n) (.boxed (.rule argumentsRule)) ('<' :: (g ++ (a ++ r)))
      (some (.list ((as.map Item.argument).map Item.value), r)) := by
  obtain ⟨k, rfl⟩ : ∃ k, n = k + 1 := ⟨n - 1, by omega⟩
  refine .boxed (.rule (returns_force_arguments rfl rfl k) ?_)
  rintro _ ⟨id, rfl⟩
  have hp : ∀ i ∈ as.map Item.argument, i.parser = .boxed argument := by simp [Item.parser]
  exact .named (gives_bracketed has (by decide) (by decide) hp hg ha (by omega) _ _ r)

theorem gives_tuple {es : List (Element TypeRef)} {e : Text} (hg : IsGap g)
    (hes : ReadsItems ')' (es.map .element) e) (he : ∀ r, Stops isBlank (e ++ r)) {n : Nat}
    (hn : 2 * e.length ≤ n) (r : Text) :
    Gives Live (Calls.upTo n) (.boxed tuple) ('(' :: (g ++ (e ++ r)))
      (some (.list ((es.map Item.element).map Item.value), r)) := by
  have hp : ∀ i ∈ es.map Item.element, i.parser = .boxed element := by simp [Item.parser]
  exact .boxed (.named (gives_bracketed hes (by decide) (by decide) hp hg he hn 34 29 r))

theorem readsType_generic {xs : List Text} {n g' : Text} {as : List (Argument TypeRef)} {a : Text}
    (h : NameSpelled xs n) (hg : IsGap g) (hg' : IsGap g')
    (has : ReadsItems '>' (as.map .argument) a) (ha : ∀ r, Stops isBlank (a ++ r)) :
    ReadsType (.generic xs as) (n ++ (g ++ '<' :: (g' ++ a))) := by
  refine ⟨.generic xs as, n ++ (g ++ '<' :: (g' ++ a)), [], by simp, rfl, nofun,
    fun m hm r hr => ?_⟩
  simp only [List.length_append, List.length_cons] at hm
  have hname : Gives Live (Calls.upTo m) (.boxed namespacedName)
      (n ++ (g ++ '<' :: (g' ++ (a ++ r))))
      (some (.value (.name xs), g ++ '<' :: (g' ++ (a ++ r)))) :=
    gives_namespacedName h (hg.stops_isWordPart (.cons rfl)) (avoids_cons hg rfl (by decide) _)
  obtain ⟨_, hgap⟩ := gives_gap (C := Calls.upTo m) hg
    (.cons (c := '<') (r := g' ++ (a ++ r)) rfl)
  have harguments := gives_arguments (n := m) hg' has ha (by omega) r
  have hlist : Value.list? Value.argument? (.list ((as.map Item.argument).map Item.value)) =
      some as := by
    rw [List.map_map]
    exact list?_map (Item.value ∘ .argument) (fun _ => rfl) as
  have htype : toNamedType (.pair (.value (.name xs))
      (.present (.list ((as.map Item.argument).map Item.value)))) =
        .value (.type (.generic xs as)) := by
    simp only [toNamedType, making, Value.name?, Value.option?, hlist]
    rfl
  have hnamed : Gives Live (Calls.upTo m) (.boxed namedType)
      (n ++ (g ++ '<' :: (g' ++ (a ++ r)))) (some (.value (.type (.generic xs as)), r)) := by
    rw [← htype]
    exact .boxed (.map (.sequence hname (.present (.sequence hgap harguments))))
  simpa using gives_base (h.head?_ne _) hnamed

theorem readsType_tuple {es : List (Element TypeRef)} {e : Text} (hg : IsGap g)
    (hes : ReadsItems ')' (es.map .element) e) (he : ∀ r, Stops isBlank (e ++ r)) :
    ReadsType (.tuple es) ('(' :: (g ++ e)) := by
  refine ⟨.tuple es, '(' :: (g ++ e), [], by simp, rfl, nofun, fun m hm r hr => ?_⟩
  simp only [List.length_append, List.length_cons] at hm
  have helements := gives_tuple (n := m) hg hes he (by omega) r
  have hlist : Value.list? Value.element? (.list ((es.map Item.element).map Item.value)) =
      some es := by
    rw [List.map_map]
    exact list?_map (Item.value ∘ .element) (fun _ => rfl) es
  have htuple : toTuple (.list ((es.map Item.element).map Item.value)) =
      .value (.type (.tuple es)) := by
    simp only [toTuple, making, hlist]
    rfl
  have hbase : Gives Live (Calls.upTo m) base ('(' :: (g ++ (e ++ r)))
      (some (.value (.type (.tuple es)), r)) := by
    rw [← htuple]
    exact .first (.map helements)
  simpa using hbase

theorem readsType_array {t : TypeRef} {g' : Text} (ht : ReadsType t u) (hg : IsGap g)
    (hg' : IsGap g') : ReadsType (.array t) (u ++ (g ++ '[' :: (g' ++ [']']))) := by
  obtain ⟨b, x, suffixes, rfl, rfl, hsuffixes, hbase⟩ := ht
  refine ⟨b, x, suffixes ++ [g ++ '[' :: (g' ++ [']'])], by simp, by simp, ?_, hbase⟩
  intro y hy
  obtain hy | hy := List.mem_append.1 hy
  · exact hsuffixes y hy
  · obtain rfl := List.mem_singleton.1 hy
    exact ⟨g, g', hg, hg', rfl⟩

/-! ## Every spelling -/

theorem Variance.Written.stops_isBlank {v : Variance} {w : Text} (hw : v.Written w) (r : Text) :
    Stops isBlank (w ++ r) := by
  cases w with
  | nil => cases v <;> cases hw
  | cons c w =>
    refine .cons (Bool.eq_false_iff.2 fun hblank => ?_)
    have hword := List.all_eq_true.1 hw.all c List.mem_cons_self
    rw [not_isWordPart_of_isBlank hblank] at hword
    cases hword

/-- No spelling begins with a blank. -/
theorem Spelled.stops_isBlank {Plain : Text → Prop} {p : Phrase} (h : Spelled Plain p u) :
    ∀ r, Stops isBlank (u ++ r) := by
  induction h with
  | name hn => exact hn.stops_isBlank
  | generic hn _ _ _ _ =>
    intro r
    rw [List.append_assoc]
    exact hn.stops_isBlank _
  | tuple _ _ _ => exact fun r => .cons rfl
  | varied hw _ _ _ _ _ =>
    intro r
    rw [List.append_assoc]
    exact hw.stops_isBlank _
  | array _ _ _ ih | plain _ _ _ ih | unnamed _ _ ih | named _ _ _ _ _ ih | last _ ih
  | more _ _ _ ih _ =>
    intro r
    rw [List.append_assoc]
    exact ih _

/-- How the grammar reads a piece of a type. -/
def Phrase.Reads : Phrase → Text → Prop
  | .type t, u => ReadsType t u
  | .item i, u => ReadsItem i u
  | .items close is, u => ReadsItems close is u

/-- **Every spelling is read**, as long as no argument without a variance looks like one that has
it. -/
theorem Spelled.reads {p : Phrase} (h : Spelled Unvaried p u) : p.Reads u := by
  induction h with
  | name hn => exact readsType_name hn
  | generic hn hg hg' has ih => exact readsType_generic hn hg hg' ih has.stops_isBlank
  | tuple hg hes ih => exact readsType_tuple hg ih hes.stops_isBlank
  | array _ hg hg' ih => exact readsType_array ih hg hg'
  | plain _ hg hp ih => exact readsItem_plain ih hg hp
  | varied hw hg hne ht hg' ih => exact readsItem_varied hw hg hne ih ht.stops_isBlank hg'
  | unnamed _ hg ih => exact readsItem_unnamed ih hg
  | named _ hg hne hx hg' ih => exact readsItem_named ih hg hne hx hg'
  | last _ ih => exact readsItems_last ih
  | more _ hg his ih ihs => exact readsItems_more ih hg his.stops_isBlank ihs

end GrammarGraph.CSharp
