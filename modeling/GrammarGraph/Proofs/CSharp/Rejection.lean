import GrammarGraph.Proofs.CSharp.RoundTrip
import GrammarGraph.Proofs.CSharp.Spacing
import GrammarGraph.Proofs.Consumed

/-!
# Proofs/CSharp/Rejection — the spellings that are not read

    a < in >        `in` and a blank: a variance, and then no type

The rule for arguments tries a variance first, and never goes back on one it has found.  So an
argument that has no variance is not read if its first word is that of a variance and a blank comes
after it.  There the arguments come to nothing, and whatever has been read stops before their
bracket (`Spelled.unvaried_or_sticks`).  All other spellings are read: `parseAll_type_iff` says
exactly which texts stand for which type.
-/

namespace GrammarGraph.CSharp

open Rules

variable {s r u w g : Text} {n : Nat}

/-! ## Coming to a halt -/

/-- The next character after blanks opens generic arguments. -/
def AtArguments (r : Text) : Prop := ∃ g r', r = g ++ '<' :: r' ∧ IsGap g

/-- **The parser fails, or stops where generic arguments are left over.** -/
def Sticks (n : Nat) (p : Parser Value) (s : Text) : Prop :=
  Gives Live (Calls.upTo n) p s none ∨
    ∃ v r, Gives Live (Calls.upTo n) p s (some (v, r)) ∧ AtArguments r

theorem AtArguments.avoids (h : AtArguments r) {chars : List Char} (hc : '<' ∉ chars) :
    Avoids chars r := by
  obtain ⟨g, r', rfl, hg⟩ := h
  exact avoids_cons hg rfl hc r'

theorem AtArguments.gives_name_none (h : AtArguments r) :
    Gives Live (Calls.upTo n) (after 24 (.boxed spaces) (.boxed identifier)) r none := by
  obtain ⟨g, r', rfl, hg⟩ := h
  by_cases hne : g = []
  · subst hne
    exact .sequence_left (gives_spaces_none (.cons rfl))
  · exact .sequence_right (gives_spaces hg hne (.cons rfl)) (gives_identifier_none (.cons rfl))

/-- No array suffix is read where generic arguments are left over. -/
theorem gives_type_at_arguments {v : Output Value} (hr : AtArguments r)
    (h : Gives Live (Calls.upTo n) base s (some (v, r))) :
    ∃ w, Gives Live (Calls.upTo n) type s (some (w, r)) := by
  have hsuffix : Gives Live (Calls.upTo n) (.boxed arraySuffix) r none :=
    .boxed (.sequence_left (.sequence_left (gives_mark_none (hr.avoids (by decide)))))
  exact ⟨_, .named (.map (.sequence h (.star (Gives.done hsuffix))))⟩

theorem Sticks.type (h : Sticks n base s) : Sticks n type s := by
  obtain h | ⟨v, r, h, hr⟩ := h
  · exact .inl (.named (.map_none (.sequence_left h)))
  · obtain ⟨w, h⟩ := gives_type_at_arguments hr h
    exact .inr ⟨w, r, h, hr⟩

theorem Sticks.typeRule (h : Sticks n Rules.type s) :
    Sticks (n + 1) (.boxed (.rule Rules.typeRule)) s := by
  obtain h | ⟨v, r, h, hr⟩ := h
  · exact .inl (gives_rule_type h)
  · exact .inr ⟨v, r, gives_rule_type h, hr⟩

theorem Sticks.argument {v : Output Value}
    (hv : Gives Live (Calls.upTo n) (.optional 19 (.boxed variance)) s (some (v, r)))
    (h : Sticks n (.boxed (.rule Rules.typeRule)) r) : Sticks n (.boxed Rules.argument) s := by
  obtain h | ⟨v, r, h, hr⟩ := h
  · exact .inl (.boxed (.named (.map_none (.sequence_right hv h))))
  · exact .inr ⟨_, r, .boxed (.named (.map (.sequence hv h))), hr⟩

theorem Sticks.element (h : Sticks n (.boxed (.rule Rules.typeRule)) s) :
    Sticks n (.boxed Rules.element) s := by
  obtain h | ⟨v, r, h, hr⟩ := h
  · exact .inl (.boxed (.named (.map_none (.sequence_left h))))
  · exact .inr ⟨_, r, .boxed (.named (.map (.sequence h (.absent hr.gives_name_none)))), hr⟩

/-- What a parser leaves is the end of what it was given. -/
theorem Gives.exists_append {p : Parser Value} {v : Output Value}
    (h : Gives Live (Calls.upTo n) p s (some (v, r))) : ∃ t, s = t ++ r := by
  obtain ⟨result, σ, hparse, -, hresult⟩ := h _ (live_session false)
  match result, hresult with
  | .ok (_, _), rfl =>
    obtain ⟨t, ht, -⟩ := derives_of_parse_eq_some hparse
    exact ⟨t, ht⟩

/-! ## Pieces of a type -/

/-- A type is not read beyond some generic arguments in it. -/
def TypeSticks (u : Text) : Prop := ∀ n, 2 * u.length ≤ n → ∀ r, Sticks n base (u ++ r)

/-- An item is not read up to its end. -/
def ItemSticks (i : Item) (u : Text) : Prop :=
  ∀ n, 2 * u.length < n → ∀ c ∈ itemEnds, ∀ r, Sticks n i.parser (u ++ c :: r)

/-- **The items of a list are not read up to the bracket**: the first is not read, or what is read
of them ends before something else. -/
def ItemsStick (close : Char) (is : List Item) (u : Text) : Prop :=
  close ∈ itemEnds → close ≠ ',' → ∀ p, (∀ i ∈ is, i.parser = p) →
    ∀ n, 2 * u.length ≤ n → ∀ id r, Gives Live (Calls.upTo n) p (u ++ r) none ∨
      ∃ v vs s r', Gives Live (Calls.upTo n) p (u ++ r) (some (v, s)) ∧
        Gives.Repeats Live (Calls.upTo n) (furtherItem id p) s vs r' ∧ Avoids [close] r'

/-- **A type is not read up to its end**, whatever comes after it: generic arguments in it are left
over. -/
def FallsShort (u : Text) : Prop := ∀ n, 2 * u.length ≤ n → ∀ r,
  Gives Live (Calls.upTo n) base (u ++ r) none ∨
    ∃ v y, Gives Live (Calls.upTo n) base (u ++ r) (some (v, y ++ r)) ∧ AtArguments y

theorem AtArguments.append (h : AtArguments r) (w : Text) : AtArguments (r ++ w) := by
  obtain ⟨g, r', rfl, hg⟩ := h
  exact ⟨g, r' ++ w, by simp, hg⟩

theorem FallsShort.typeSticks (h : FallsShort u) : TypeSticks u := by
  intro n hn r
  obtain h | ⟨v, y, h, hy⟩ := h n hn r
  · exact .inl h
  · exact .inr ⟨v, y ++ r, h, hy.append r⟩

theorem FallsShort.append (h : FallsShort u) (w : Text) : FallsShort (u ++ w) := by
  intro n hn r
  rw [List.length_append] at hn
  rw [List.append_assoc]
  obtain h | ⟨v, y, h, hy⟩ := h n (by omega) (w ++ r)
  · exact .inl h
  · exact .inr ⟨v, y ++ w, by rwa [List.append_assoc], hy.append w⟩

theorem FallsShort.typeRule (h : FallsShort u) (hn : 2 * u.length < n) (r : Text) :
    Gives Live (Calls.upTo n) (.boxed (.rule Rules.typeRule)) (u ++ r) none ∨
      ∃ v y, Gives Live (Calls.upTo n) (.boxed (.rule Rules.typeRule)) (u ++ r)
        (some (v, y ++ r)) ∧ AtArguments y := by
  obtain ⟨m, rfl⟩ := Nat.exists_eq_add_of_lt hn
  obtain h | ⟨v, y, h, hy⟩ := h _ (Nat.le_add_right _ m) r
  · exact .inl (gives_rule_type (.named (.map_none (.sequence_left h))))
  · obtain ⟨w, h⟩ := gives_type_at_arguments (hy.append r) h
    exact .inr ⟨w, y, gives_rule_type h, hy⟩

theorem TypeSticks.typeRule (h : TypeSticks u) (hn : 2 * u.length < n) (r : Text) :
    Sticks n (.boxed (.rule Rules.typeRule)) (u ++ r) := by
  obtain ⟨m, rfl⟩ := Nat.exists_eq_add_of_lt hn
  exact (h _ (Nat.le_add_right _ m) r).type.typeRule

/-- An item that is not read up to its end is the last that is read. -/
theorem ItemSticks.itemsStick {close : Char} {i : Item} {is : List Item} (h : ItemSticks i u)
    {c : Char} (hc : c ∈ itemEnds) (w : Text) : ItemsStick close (i :: is) (u ++ c :: w) := by
  intro hclose hcomma p hp n hn id r
  rw [List.length_append, List.length_cons] at hn
  obtain rfl := hp i List.mem_cons_self
  rw [List.append_assoc, List.cons_append]
  obtain h | ⟨v, s, h, hs⟩ := h n (by omega) c hc (w ++ r)
  · exact .inl h
  · have hmark : Gives Live (Calls.upTo n) (mark id ',') s none :=
      gives_mark_none (hs.avoids (by decide))
    have hclose : '<' ∉ [close] := by
      intro hmem
      obtain rfl := List.mem_singleton.1 hmem
      exact absurd hclose (by decide)
    exact .inr ⟨v, [], s, s, h, Gives.done (.sequence_left (.sequence_left hmark)),
      hs.avoids hclose⟩

theorem itemsStick_more {close : Char} {i : Item} {is : List Item} (hi : ReadsItem i u)
    (hg : IsGap g) (hw : ∀ r, Stops isBlank (w ++ r)) (his : ItemsStick close is w) :
    ItemsStick close (i :: is) (u ++ ',' :: (g ++ w)) := by
  intro hclose hcomma p hp n hn id r
  obtain ⟨hpi, hp⟩ := List.forall_mem_cons.1 hp
  obtain ⟨x, g', rfl, hg', hgives⟩ := hi
  simp only [List.length_append, List.length_cons] at hn
  have hfirst := hgives n (by simp; omega) ',' (by decide) (g ++ (w ++ r))
  have hmark : Gives Live (Calls.upTo n) (mark id ',') (g' ++ ',' :: (g ++ (w ++ r)))
      (some (.text [','], g ++ (w ++ r))) := gives_mark hg' rfl _
  obtain ⟨_, hgap⟩ := gives_gap (C := Calls.upTo n) hg (hw r)
  rw [hpi] at hfirst
  refine .inr ?_
  obtain hitem | ⟨v, vs, s, r', hitem, hrepeats, hr'⟩ := his hclose hcomma p hp n (by omega) id r
  · refine ⟨i.value, [], g' ++ ',' :: (g ++ (w ++ r)), _, by simpa using hfirst,
      Gives.done (.sequence_right (hmark.sequence hgap) hitem), ?_⟩
    exact avoids_cons hg' rfl (by simpa using Ne.symm hcomma) _
  · obtain ⟨t, ht⟩ := Gives.exists_append hitem
    have hlength := congrArg List.length ht
    simp only [List.length_append] at hlength
    exact ⟨i.value, v :: vs, g' ++ ',' :: (g ++ (w ++ r)), r', by simpa using hfirst,
      Gives.more ((hmark.sequence hgap).sequence hitem) (by simp; omega) hrepeats, hr'⟩

theorem gives_bracketed_none {left right : Char} {is : List Item} {p : Parser Value}
    (his : ItemsStick right is w) (hright : right ∈ itemEnds) (hcomma : right ≠ ',')
    (hp : ∀ i ∈ is, i.parser = p) (hg : IsGap g) (hw : ∀ r, Stops isBlank (w ++ r))
    (hn : 2 * w.length ≤ n) (i j : NodeId) (r : Text) :
    Gives Live (Calls.upTo n) (Rules.bracketed i left right p (.boxed (furtherItems j p)))
      (left :: (g ++ (w ++ r))) none := by
  obtain ⟨_, hgap⟩ := gives_gap (C := Calls.upTo n) hg (hw r)
  have hopen : Gives Live (Calls.upTo n) (after (i + 1) (.literal i [left]) (.boxed gap))
      (left :: (g ++ (w ++ r))) (some (_, w ++ r)) := .sequence (.literal i [left] _) hgap
  obtain hitem | ⟨v, vs, s, _, hitem, hrepeats, g', r', rfl, hg', hr', hc⟩ :=
    his hright hcomma p hp n hn j r
  · exact .map_none (.sequence_left (.sequence_left (.sequence_left (.sequence_right hopen hitem))))
  · obtain ⟨_, hgap'⟩ := gives_gap (C := Calls.upTo n) hg' hr'
    exact .map_none (.sequence_right
      (.sequence (.sequence (.sequence hopen hitem) (.boxed (.star hrepeats))) hgap')
      (gives_literal_none (hc right (List.mem_singleton_self _))))

/-! ## Types -/

theorem gives_namedType_none (hr : Stops isWordStart r) :
    Gives Live (Calls.upTo n) (.boxed namedType) r none := by
  have hword := gives_identifier_none (C := Calls.upTo n) hr
  have hdotted : Gives Live (Calls.upTo n) dotted r none :=
    .sequence_left (.sequence_left (.sequence_left hword))
  exact .boxed (.map_none (.sequence_left (.boxed (.named (.map_none
    (.sequence_right (.star (Gives.done hdotted)) hword))))))

/-- What does not begin like a type is none. -/
theorem gives_type_none (hr : Stops isWordStart r) (hparen : r.head? ≠ some '(') :
    Gives Live (Calls.upTo n) type r none :=
  .named (.map_none (.sequence_left (gives_base hparen (gives_namedType_none hr))))

theorem gives_arguments_stuck {as : List (Argument TypeRef)} {a : Text} (hg : IsGap g)
    (has : ItemsStick '>' (as.map .argument) a) (ha : ∀ r, Stops isBlank (a ++ r))
    (hn : 2 * a.length < n) (r : Text) :
    Gives Live (Calls.upTo n) (.boxed (.rule argumentsRule)) ('<' :: (g ++ (a ++ r))) none := by
  obtain ⟨k, rfl⟩ : ∃ k, n = k + 1 := ⟨n - 1, by omega⟩
  refine .boxed (.rule (returns_force_arguments rfl rfl k) ?_)
  rintro _ ⟨id, rfl⟩
  have hp : ∀ i ∈ as.map Item.argument, i.parser = .boxed argument := by simp [Item.parser]
  exact .named (gives_bracketed_none has (by decide) (by decide) hp hg ha (by omega) _ _ r)

theorem gives_tuple_stuck {es : List (Element TypeRef)} {e : Text} (hg : IsGap g)
    (hes : ItemsStick ')' (es.map .element) e) (he : ∀ r, Stops isBlank (e ++ r))
    (hn : 2 * e.length ≤ n) (r : Text) :
    Gives Live (Calls.upTo n) (.boxed tuple) ('(' :: (g ++ (e ++ r))) none := by
  have hp : ∀ i ∈ es.map Item.element, i.parser = .boxed element := by simp [Item.parser]
  exact .boxed (.named (gives_bracketed_none hes (by decide) (by decide) hp hg he hn 34 29 r))

theorem fallsShort_generic {xs : List Text} {m g' a : Text} {as : List (Argument TypeRef)}
    (hm : NameSpelled xs m) (hg : IsGap g) (hg' : IsGap g')
    (has : ItemsStick '>' (as.map .argument) a) (ha : ∀ r, Stops isBlank (a ++ r)) :
    FallsShort (m ++ (g ++ '<' :: (g' ++ a))) := by
  intro n hn r
  simp only [List.length_append, List.length_cons] at hn
  have hname : Gives Live (Calls.upTo n) (.boxed namespacedName)
      (m ++ (g ++ '<' :: (g' ++ (a ++ r))))
      (some (.value (.name xs), g ++ '<' :: (g' ++ (a ++ r)))) :=
    gives_namespacedName hm (hg.stops_isWordPart (.cons rfl)) (avoids_cons hg rfl (by decide) _)
  obtain ⟨_, hgap⟩ := gives_gap (C := Calls.upTo n) hg
    (.cons (c := '<') (r := g' ++ (a ++ r)) rfl)
  have harguments := gives_arguments_stuck (n := n) hg' has ha (by omega) r
  have hnamed : Gives Live (Calls.upTo n) (.boxed namedType) _ _ :=
    .boxed (.map (.sequence hname (.absent (.sequence_right hgap harguments))))
  have hrest : g ++ '<' :: (g' ++ (a ++ r)) = g ++ '<' :: (g' ++ a) ++ r := by simp
  rw [hrest] at hnamed
  rw [List.append_assoc]
  exact .inr ⟨_, _, gives_base (hm.head?_ne _) hnamed, g, _, rfl, hg⟩

theorem fallsShort_tuple {es : List (Element TypeRef)} {e : Text} (hg : IsGap g)
    (hes : ItemsStick ')' (es.map .element) e) (he : ∀ r, Stops isBlank (e ++ r)) :
    FallsShort ('(' :: (g ++ e)) := by
  intro n hn r
  simp only [List.length_append, List.length_cons] at hn
  have htuple := gives_tuple_stuck (n := n) hg hes he (by omega) r
  have hbase : Gives Live (Calls.upTo n) base ('(' :: (g ++ (e ++ r))) none :=
    .second (fun _ _ => Live.log) (.pure trivial) (.map_none htuple)
      (gives_namedType_none (.cons rfl))
  exact .inl (by simpa using hbase)

/-! ## Words for a variance -/

/-- Neither a word goes on here, nor does a type begin after the blanks. -/
def NoType (r : Text) : Prop :=
  Stops isWordPart r ∧ ∃ g r', r = g ++ r' ∧ IsGap g ∧ Stops isBlank r' ∧ Stops isWordStart r' ∧
    r'.head? ≠ some '('

theorem noType_cons {c : Char} (hg : IsGap g) (hblank : isBlank c = false)
    (hword : isWordPart c = false) (hc : c ≠ '(') (r : Text) : NoType (g ++ c :: r) := by
  refine ⟨hg.stops_isWordPart (.cons hword), g, c :: r, rfl, hg, .cons hblank, ?_, ?_⟩
  · exact Stops.imp (fun _ => isWordPart_of_isWordStart) (.cons hword)
  · exact fun h => hc (Option.some.inj h)

/-- **After the first word of a type** no other type begins. -/
theorem Spelled.exists_word {Plain : Text → Prop} {p : Phrase} (h : Spelled Plain p u) :
    ∀ t, p = .type t → u.head? = some '(' ∨
      ∃ x y, u = x ++ y ∧ x.all isWordPart ∧ ∀ s, NoType s → NoType (y ++ s) := by
  have name {xs : List Text} {m : Text} (hm : NameSpelled xs m) :
      ∃ x y, m = x ++ y ∧ x.all isWordPart ∧ ∀ s, NoType s → NoType (y ++ s) := by
    cases hm with
    | last hx => exact ⟨_, [], by simp, all_of_isIdentifier hx, fun s hs => hs⟩
    | dot hx hg _ _ =>
      refine ⟨_, _, rfl, all_of_isIdentifier hx, fun s _ => ?_⟩
      rw [List.append_assoc]
      exact noType_cons hg rfl rfl (by decide) _
  have more {m g : Text} {c : Char} (w : Text) (hg : IsGap g) (hblank : isBlank c = false)
      (hword : isWordPart c = false) (hc : c ≠ '(')
      (h : ∃ x y, m = x ++ y ∧ x.all isWordPart ∧ ∀ s, NoType s → NoType (y ++ s)) :
      ∃ x y, m ++ (g ++ c :: w) = x ++ y ∧ x.all isWordPart ∧ ∀ s, NoType s → NoType (y ++ s) := by
    obtain ⟨x, y, rfl, hx, hy⟩ := h
    refine ⟨x, y ++ (g ++ c :: w), by simp, hx, fun s _ => ?_⟩
    rw [List.append_assoc, List.append_assoc]
    exact hy _ (noType_cons hg hblank hword hc _)
  induction h with
  | name hm => exact fun _ _ => .inr (name hm)
  | generic hm hg => exact fun _ _ => .inr (more _ hg rfl rfl (by decide) (name hm))
  | tuple => exact fun _ _ => .inl rfl
  | @array t u g g' _ hg _ ih =>
    intro _ _
    obtain hhead | hword := ih t rfl
    · refine .inl ?_
      rw [List.head?_append, hhead]
      rfl
    · exact .inr (more _ hg rfl rfl (by decide) hword)
  | _ => exact nofun

theorem Variance.Written.exists_cons {v : Variance} (hw : v.Written w) :
    ∃ a x, w = a :: x ∧ isWordPart a := by
  cases w with
  | nil => cases v <;> cases hw
  | cons a x => exact ⟨a, x, rfl, List.all_eq_true.1 hw.all a List.mem_cons_self⟩

/-- A word for a variance and a blank at the start of an item: the first word of its type. -/
theorem Spelled.noType_of_varied {Plain : Text → Prop} {t : TypeRef}
    (ht : Spelled Plain (.type t) u) {v : Variance} (hw : v.Written w) {d : Char}
    (hd : isBlank d) {r' : Text} (heq : u ++ s = w ++ d :: r') (hs : NoType s) :
    NoType (d :: r') := by
  obtain hhead | ⟨x, y, rfl, hx, hy⟩ := ht.exists_word t rfl
  · obtain ⟨a, x, rfl, ha⟩ := hw.exists_cons
    have hfirst := congrArg List.head? heq
    rw [List.head?_append, hhead] at hfirst
    obtain rfl : '(' = a := Option.some.inj hfirst
    cases ha
  · have hstops : Stops isWordPart (d :: r') := .cons (not_isWordPart_of_isBlank hd)
    have hrest := congrArg (List.dropWhile isWordPart) heq
    rw [List.append_assoc, dropWhile_run hx (hy s hs).1, dropWhile_run hw.all hstops] at hrest
    exact hrest ▸ hy s hs

/-- **A word for a variance, and blanks, where there is no variance.** -/
theorem itemSticks_plain {Plain : Text → Prop} {t : TypeRef} (ht : Spelled Plain (.type t) u)
    (hg : IsGap g) (hp : ¬Unvaried (u ++ g)) : ItemSticks (.argument ⟨none, t⟩) (u ++ g) := by
  intro n hn c hc r
  obtain ⟨k, rfl⟩ : ∃ k, n = k + 1 := ⟨n - 1, by omega⟩
  simp only [Unvaried, not_forall, Bool.not_eq_false] at hp
  obtain ⟨v, w, d, r', heq, hw, hd⟩ := hp
  have hends : itemEnds.all (· ≠ '(') := by decide
  have hparen := of_decide_eq_true (List.all_eq_true.1 hends c hc)
  have hno := noType_cons hg (itemEnds_stops hc).1 (itemEnds_stops hc).2 hparen r
  have htext : u ++ (g ++ c :: r) = w ++ d :: (r' ++ c :: r) := by
    rw [← List.append_assoc, heq, List.append_assoc, List.cons_append]
  obtain ⟨-, g', z, hz, hg', hstops, hstart, hz'⟩ := ht.noType_of_varied hw hd htext hno
  have hne : g' ≠ [] := by
    rintro rfl
    rw [List.nil_append] at hz
    rw [hstops d (hz ▸ rfl)] at hd
    cases hd
  rw [List.append_assoc, htext, hz]
  have hvariance : Gives Live (Calls.upTo (k + 1)) (.boxed variance) (w ++ (g' ++ z))
      (some (_, z)) :=
    .boxed (.named (.map (.sequence (.pattern (match?_variance hw _))
      (gives_spaces hg' hne hstops))))
  exact .inl (.boxed (.named (.map_none (.sequence_right (.present hvariance)
    (gives_rule_type (gives_type_none hstart hz'))))))

theorem itemSticks_unvaried {t : TypeRef} (ht : TypeSticks u) (hp : Unvaried (u ++ g)) :
    ItemSticks (.argument ⟨none, t⟩) (u ++ g) := by
  intro n hn c hc r
  rw [List.length_append] at hn
  have hvariance := gives_variance_none (C := Calls.upTo n) (hp.append hc r)
  rw [List.append_assoc] at hvariance ⊢
  exact .argument (.absent hvariance) (ht.typeRule (by omega) _)

theorem itemSticks_varied {v : Variance} {t : TypeRef} {g' : Text} (hw : v.Written w)
    (hg : IsGap g) (hne : g ≠ []) (ht : TypeSticks u) (hu : ∀ r, Stops isBlank (u ++ r)) :
    ItemSticks (.argument ⟨some v, t⟩) (w ++ (g ++ (u ++ g'))) := by
  intro n hn c hc r
  simp only [List.length_append] at hn
  have hvariance : Gives Live (Calls.upTo n) (.boxed variance) (w ++ (g ++ (u ++ (g' ++ c :: r))))
      (some (_, u ++ (g' ++ c :: r))) :=
    .boxed (.named (.map (.sequence (.pattern (match?_variance hw _))
      (gives_spaces hg hne (hu _)))))
  simpa [Item.parser] using Sticks.argument (.present hvariance) (ht.typeRule (by omega) _)

theorem itemSticks_element {t : TypeRef} {x : Option Text} (ht : TypeSticks u) :
    ItemSticks (.element ⟨t, x⟩) (u ++ w) := by
  intro n hn c hc r
  rw [List.length_append] at hn
  rw [List.append_assoc]
  exact .element (ht.typeRule (by omega) _)

/-! ## Every other spelling -/

/-- How the grammar comes to a halt in a piece of a type. -/
def Phrase.Sticks : Phrase → Text → Prop
  | .type _, u => TypeSticks u
  | .item i, u => ItemSticks i u
  | .items close is, u => ItemsStick close is u

/-- **How a piece of a type is not read up to its end**: a type falls short. -/
def Phrase.StopsShort : Phrase → Text → Prop
  | .type _, u => FallsShort u
  | .item i, u => ItemSticks i u
  | .items close is, u => ItemsStick close is u

theorem Phrase.StopsShort.sticks {p : Phrase} (h : p.StopsShort u) : p.Sticks u := by
  cases p with
  | type t => exact FallsShort.typeSticks h
  | item i => exact h
  | items close is => exact h

/-- **No other spelling is read up to its end**: one in which an argument without a variance looks
like one that has it. -/
theorem Spelled.unvaried_or_stopsShort {p : Phrase} (h : Spelled Anything p u) :
    Spelled Unvaried p u ∨ p.StopsShort u := by
  induction h with
  | name hn => exact .inl (.name hn)
  | generic hn hg hg' has ih =>
    exact ih.imp (.generic hn hg hg') fun h => fallsShort_generic hn hg hg' h has.stops_isBlank
  | tuple hg hes ih => exact ih.imp (.tuple hg) fun h => fallsShort_tuple hg h hes.stops_isBlank
  | array _ hg hg' ih => exact ih.imp (.array · hg hg') fun h => h.append _
  | @plain t u g ht hg _ ih =>
    by_cases hp : Unvaried (u ++ g)
    · exact ih.imp (.plain · hg hp) fun h => itemSticks_unvaried h.typeSticks hp
    · exact .inr (itemSticks_plain ht hg hp)
  | varied hw hg hne ht hg' ih =>
    exact ih.imp (.varied hw hg hne · hg') fun h =>
      itemSticks_varied hw hg hne h.typeSticks ht.stops_isBlank
  | unnamed _ hg ih => exact ih.imp (.unnamed · hg) fun h => itemSticks_element h.typeSticks
  | named _ hg hne hx hg' ih =>
    exact ih.imp (.named · hg hne hx hg') fun h => itemSticks_element h.typeSticks
  | @last close i u _ ih =>
    refine ih.imp .last fun h hclose => ?_
    exact h.itemsStick hclose [] hclose
  | more _ hg his ih ihs =>
    obtain hi | hi := ih
    · exact ihs.imp (.more hi hg) fun h => itemsStick_more hi.reads hg his.stops_isBlank h
    · exact .inr (hi.itemsStick (by decide) _)

/-- **The grammar comes to a halt in every other spelling.** -/
theorem Spelled.unvaried_or_sticks {p : Phrase} (h : Spelled Anything p u) :
    Spelled Unvaried p u ∨ p.Sticks u :=
  h.unvaried_or_stopsShort.imp_right Phrase.StopsShort.sticks

/-! ## Whole texts -/

/-- Where the grammar comes to a halt in a type, it accepts none. -/
theorem TypeSticks.returns_parseAll_error (h : TypeSticks s) (hn : 2 * s.length < n) :
    Run.Returns Live ((Parser.boxed (.rule Rules.typeRule)).parseAll (Calls.upTo n) s)
      fun result => ∃ e, result = .error e := by
  obtain ⟨m, rfl⟩ := Nat.exists_eq_add_of_lt hn
  rw [Parser.parseAll, Parser.parseAll]
  refine (returns_force_type rfl rfl _).bind fun result hresult => ?_
  subst hresult
  have hsticks := (h _ (Nat.le_add_right _ m) []).type
  rw [List.append_nil] at hsticks
  obtain hgives | ⟨v, r, hgives, g, r', rfl, -⟩ := hsticks
  · exact Run.Returns.bind_error hgives fun e => .pure ⟨e, rfl⟩
  · refine Run.Returns.bind_ok hgives ?_
    cases g with
    | nil => exact .pure ⟨_, rfl⟩
    | cons c g => exact .pure ⟨_, rfl⟩

/-- **What is read as a type**: the spellings of the type, save those in which an argument without a
variance begins with a word for one and a blank. -/
theorem parseAll_type_iff (t : TypeRef) (s : Text) :
    Grammar.parseAll "type" s = some (.parsedAll (.value (.type t))) ↔
      Spelled Unvaried (.type t) s := by
  have hn : 2 * s.length < 9 * (s.length + 2) := by omega
  rw [parseAll_type, Option.map_eq_some_iff]
  constructor
  · rintro ⟨⟨result, u⟩, hparse, hreply⟩
    cases result with
    | error e => cases hreply
    | ok v =>
      obtain rfl := Reply.parsedAll.inj hreply
      obtain ⟨-, h⟩ := keeps_parseAll _ _ _ _ (live_session false) hparse
      obtain ⟨_, ⟨⟩, hspelled⟩ := h _ rfl
      refine hspelled.unvaried_or_sticks.resolve_right fun hsticks => ?_
      obtain ⟨_, _, herror, -, e, rfl⟩ := hsticks.returns_parseAll_error hn _ (live_session false)
      cases hparse.symm.trans herror
  · intro h
    obtain ⟨result, u, hparse, -, rfl⟩ := returns_parseAll h hn _ (live_session false)
    exact ⟨_, hparse, rfl⟩

/-- `a<in>`: the type `a` of the type `in`. -/
def keywordArgument : TypeRef := .generic [['a']] [⟨none, .name [['i', 'n']]⟩]

theorem not_spelled_keywordArgument :
    ¬Spelled Unvaried (.type keywordArgument) "a<in >".toList := by
  intro h
  obtain ⟨result, u, hparse, -, hresult⟩ := gives_type (n := 12) h.reads (by decide)
    (r := []) .nil (session false) (live_session false)
  rw [List.append_nil] at hparse
  have hstops : (type.parse (Calls.upTo 12) "a<in >".toList (session false)).map
      (fun x => x.1.toOption.map (·.2)) = some (some "<in >".toList) := by
    decide +kernel
  rw [hparse, Option.map_some, hresult] at hstops
  cases hstops

/-- **A blank between two tokens is not always immaterial**: after an argument that is called `in`
it keeps the type from being read. -/
theorem spaced_not_read :
    keywordArgument.isWellFormed ∧ Spaced keywordArgument.tokens "a<in >".toList ∧
      Grammar.parseAll "type" "a<in >".toList ≠
        some (.parsedAll (.value (.type keywordArgument))) := by
  have hargument : Spelled Anything (.items '>' [.argument ⟨none, .name [['i', 'n']]⟩])
      "in >".toList := .last (.plain (.name (.last rfl)) .blank trivial)
  have hspelled : Spelled Anything (.type keywordArgument) "a<in >".toList :=
    .generic (.last rfl) .nil .nil hargument
  exact ⟨hspelled.isWellFormed, hspelled.spaced,
    fun h => not_spelled_keywordArgument ((parseAll_type_iff _ _).1 h)⟩

end GrammarGraph.CSharp
