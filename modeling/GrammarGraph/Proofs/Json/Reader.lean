import GrammarGraph.Proofs.Json.Grammar

/-!
# Proofs/Json/Reader — reading JSON texts

A reader of JSON that goes through a text once, from left to right.  It finds every value that the
grammar gives to a text (`read?_of_reads`), so a text has at most one.

Values lie in each other, and many lie side by side; both kinds of depth are bounded by the length
of the text.
-/

namespace GrammarGraph.Json

variable {β : Type}

/-! ## The reader -/

/-- A text after the blanks at its start. -/
def skip (t : Text) : Text := t.dropWhile isBlank

/-- One more character before what is read. -/
def prepend (c : Char) (r : Option (Text × Text)) : Option (Text × Text) :=
  r.map fun (s, r) => (c :: s, r)

/-- The rest of a string, and what follows its closing quote. -/
def readString : Text → Option (Text × Text)
  | [] => none
  | '"' :: r => some ([], r)
  | '\\' :: 'u' :: a :: b :: c :: d :: t =>
    match unit? a b c d with
    | none => none
    | some m =>
      if isLow m then none
      else if isHigh m then
        match t with
        | '\\' :: 'u' :: a :: b :: c :: d :: t =>
          match unit? a b c d with
          | none => none
          | some n => if isLow n then prepend (Char.ofNat (joined m n)) (readString t) else none
        | _ => none
      else prepend (Char.ofNat m) (readString t)
  | '\\' :: e :: t =>
    match shortEscape? e with
    | none => none
    | some c => prepend c (readString t)
  | c :: t => if isPlain c then prepend c (readString t) else none
termination_by structural t => t

/-- A number: as many characters as may belong to one. -/
def readNumber (t : Text) : Option (Value × Text) :=
  if isNumber (t.takeWhile isNumberChar) then
    some (.number (t.takeWhile isNumberChar), t.dropWhile isNumberChar)
  else none

/-- One of the three words. -/
def readWord (t : Text) : Option (Value × Text) :=
  [("null", Value.null), ("true", .bool true), ("false", .bool false)].findSome?
    fun (word, v) => (Text.dropPrefix? word.toList t).map fun r => (v, r)

/-- Things with commas between them, up to a closing bracket. -/
def readList (item : Text → Option (β × Text)) (close : Char) :
    Nat → Text → Option (List β × Text)
  | 0, _ => none
  | n + 1, t =>
    match item t with
    | some (v, c :: r) =>
      if c = ',' then (readList item close n r).map fun (vs, r) => (v :: vs, r)
      else if c = close then some ([v], r)
      else none
    | _ => none

/-- What stands between brackets, perhaps nothing. -/
def readGroup (item : Text → Option (β × Text)) (close : Char) (n : Nat) (t : Text) :
    Option (List β × Text) :=
  match skip t with
  | [] => none
  | c :: r => if c = close then some ([], r) else readList item close n t

/-- A value with blanks around it. -/
def readSpaced (value : Text → Option (Value × Text)) (t : Text) : Option (Value × Text) :=
  (value (skip t)).map fun (v, r) => (v, skip r)

/-- A key and a value. -/
def readField (value : Text → Option (Value × Text)) (t : Text) :
    Option ((Text × Value) × Text) :=
  match skip t with
  | '"' :: t =>
    match readString t with
    | none => none
    | some (k, r) =>
      match skip r with
      | ':' :: r => (readSpaced value r).map fun (v, r) => ((k, v), r)
      | _ => none
  | _ => none

/-- A value, and what follows it. -/
def readValue : Nat → Text → Option (Value × Text)
  | 0, _ => none
  | _ + 1, [] => none
  | n + 1, c :: t =>
    if c = '"' then (readString t).map fun (s, r) => (.string s, r)
    else if c = '[' then
      (readGroup (readSpaced (readValue n)) ']' n t).map fun (vs, r) => (.array vs, r)
    else if c = '{' then
      (readGroup (readField (readValue n)) '}' n t).map fun (fs, r) => (.object fs, r)
    else (readWord (c :: t)).or (readNumber (c :: t))

/-- **The value of a JSON text.** -/
def read? (t : Text) : Option Value :=
  match readSpaced (readValue t.length) t with
  | some (v, []) => some v
  | _ => none

/-! ## Strings -/

theorem prepend_some (c : Char) (s r : Text) : prepend c (some (s, r)) = some (c :: s, r) := rfl

/-- **A string is read up to its closing quote.** -/
theorem readString_of_spells {t s : Text} (h : Spells t s) (r : Text) :
    readString (t ++ '"' :: r) = some (s, r) := by
  induction h with
  | nil => rfl
  | @plain c t s hc _ ih =>
    have hquote : c ≠ '"' := by
      rintro rfl
      cases hc
    have hbackslash : c ≠ '\\' := by
      rintro rfl
      cases hc
    simp_all [readString, prepend_some]
  | @short e c t s hc _ ih =>
    have hu : e ≠ 'u' := by
      rintro rfl
      cases hc
    simp [readString, hu, hc, ih, prepend_some]
  | unit hn hhigh hlow _ ih =>
    simp [readString, hn, hhigh, hlow, ih, prepend_some]
  | @pair _ _ _ _ m _ _ _ _ n _ _ hm hhigh hn hlow _ ih =>
    have hnot : ¬isLow m := by
      simp only [isHigh, isLow, Bool.and_eq_true, decide_eq_true_eq] at hhigh ⊢
      omega
    simp [readString, hm, hhigh, hnot, hn, hlow, ih, prepend_some]

/-! ## Numbers and words -/

theorem isNumberChar_of_isDigits {t : Text} (h : isDigits t) : t.all isNumberChar := by
  rw [isDigits, Bool.and_eq_true, List.all_eq_true] at h
  exact List.all_eq_true.2 fun c hc => by simp [isNumberChar, h.2 c hc]

theorem isNumberChar_of_isExponent {t : Text} (h : isExponent t) : t.all isNumberChar := by
  match t with
  | [] => rfl
  | [_] => cases h
  | e :: c :: t =>
    rw [isExponent, Bool.and_eq_true] at h
    obtain ⟨he, h⟩ := h
    have hc : (c :: t).all isNumberChar := by
      split at h
      · next hsign =>
        rw [List.all_cons, isNumberChar_of_isDigits h]
        simp only [Bool.or_eq_true, decide_eq_true_eq] at hsign
        obtain rfl | rfl := hsign <;> rfl
      · exact isNumberChar_of_isDigits h
    rw [List.all_cons, hc]
    simp only [Bool.or_eq_true, decide_eq_true_eq] at he
    obtain rfl | rfl := he <;> rfl

/-- Digits, and what may follow them. -/
theorem isNumberChar_of_span {t : Text} (h : isDigits (t.takeWhile Char.isDigit))
    (h' : (t.dropWhile Char.isDigit).all isNumberChar) : t.all isNumberChar := by
  rw [← List.takeWhile_append_dropWhile (p := Char.isDigit) (l := t), List.all_append,
    isNumberChar_of_isDigits h, h']
  rfl

theorem isNumberChar_of_isFraction {t : Text} (h : isFraction t) : t.all isNumberChar := by
  unfold isFraction at h
  split at h
  · rw [Bool.and_eq_true] at h
    rw [List.all_cons, isNumberChar_of_span h.1 (isNumberChar_of_isExponent h.2)]
    rfl
  · exact isNumberChar_of_isExponent h

theorem isNumberChar_of_isUnsigned {t : Text} (h : isUnsigned t) :
    t ≠ [] ∧ t.all isNumberChar := by
  unfold isUnsigned at h
  split at h
  · rw [List.all_cons, isNumberChar_of_isFraction h]
    exact ⟨List.cons_ne_nil _ _, rfl⟩
  · rw [Bool.and_eq_true] at h
    refine ⟨?_, isNumberChar_of_span h.1 (isNumberChar_of_isFraction h.2)⟩
    rintro rfl
    cases h.1

theorem isNumberChar_of_isNumber {t : Text} (h : isNumber t) : t ≠ [] ∧ t.all isNumberChar := by
  unfold isNumber at h
  split at h
  · rw [List.all_cons, (isNumberChar_of_isUnsigned h).2]
    exact ⟨List.cons_ne_nil _ _, rfl⟩
  · exact isNumberChar_of_isUnsigned h

/-- No number goes on with a blank. -/
theorem not_isNumberChar_of_isBlank {c : Char} (h : isBlank c) : ¬isNumberChar c := by
  simp only [isBlank, Bool.or_eq_true, decide_eq_true_eq] at h
  obtain ((rfl | rfl) | rfl) | rfl := h <;> decide

/-- No number goes on here. -/
def Ends (r : Text) : Prop := ∀ c ∈ r.head?, ¬isNumberChar c

/-- **A number is read as far as it goes.** -/
theorem readNumber_append {t r : Text} (h : isNumber t) (hr : Ends r) :
    readNumber (t ++ r) = some (.number t, r) := by
  have hall := List.all_eq_true.1 (isNumberChar_of_isNumber h).2
  have htake : r.takeWhile isNumberChar = [] := by
    cases r with
    | nil => rfl
    | cons c r => exact List.takeWhile_cons_of_neg (hr c rfl)
  have hdrop : r.dropWhile isNumberChar = r := by
    cases r with
    | nil => rfl
    | cons c r => exact List.dropWhile_cons_of_neg (hr c rfl)
  rw [readNumber, List.takeWhile_append_of_pos hall, List.dropWhile_append_of_pos hall, htake,
    hdrop, List.append_nil, if_pos h]

/-! ## Blanks -/

/-- Neither a number nor blanks go on here. -/
def Delimits (r : Text) : Prop := ∀ c ∈ r.head?, ¬isNumberChar c ∧ ¬isBlank c

theorem skip_append {b : Text} (hb : b.all isBlank) (t : Text) : skip (b ++ t) = skip t :=
  List.dropWhile_append_of_pos (List.all_eq_true.1 hb)

theorem skip_cons {c : Char} (hc : ¬isBlank c) (t : Text) : skip (c :: t) = c :: t :=
  List.dropWhile_cons_of_neg hc

theorem Delimits.skip {r : Text} (hr : Delimits r) : skip r = r := by
  cases r with
  | nil => rfl
  | cons c r => exact skip_cons (hr c rfl).2 r

theorem Delimits.ends {b r : Text} (hb : b.all isBlank) (hr : Delimits r) : Ends (b ++ r) := by
  cases b with
  | nil => exact fun c hc => (hr c hc).1
  | cons c b =>
    rintro _ ⟨⟩
    rw [List.all_cons, Bool.and_eq_true] at hb
    exact not_isNumberChar_of_isBlank hb.1

/-- A value starts with neither a blank nor a closing bracket. -/
theorem Denotes.exists_cons {t : Text} {v : Value} (h : Denotes t v) :
    ∃ c u, t = c :: u ∧ ¬isBlank c ∧ c ≠ ']' := by
  cases h with
  | number h =>
    obtain ⟨hne, hall⟩ := isNumberChar_of_isNumber h
    obtain ⟨c, u, rfl⟩ := List.exists_cons_of_ne_nil hne
    rw [List.all_cons, Bool.and_eq_true] at hall
    refine ⟨c, u, rfl, fun hb => not_isNumberChar_of_isBlank hb hall.1, ?_⟩
    rintro rfl
    exact absurd hall.1 (by decide)
  | _ => exact ⟨_, _, rfl, by decide, by decide⟩

theorem Denotes.skip {t : Text} {v : Value} (h : Denotes t v) (r : Text) :
    skip (t ++ r) = t ++ r := by
  obtain ⟨c, u, rfl, hc, -⟩ := h.exists_cons
  exact skip_cons hc _

/-! ## Groups -/

theorem readList_append {P : Text → β → Prop} {item : Text → Option (β × Text)} {close : Char}
    {m : Nat} (hclose : close ≠ ',')
    (hitem : ∀ t v c r, t.length ≤ m → P t v → c = ',' ∨ c = close →
      item (t ++ c :: r) = some (v, c :: r))
    {t : Text} {vs : List β} (h : Separated P t vs) (ht : t.length ≤ m) {n : Nat}
    (hn : t.length < n) (r : Text) : readList item close n (t ++ close :: r) = some (vs, r) := by
  induction h generalizing n with
  | @last t v h =>
    obtain ⟨n, rfl⟩ := Nat.exists_eq_succ_of_ne_zero (Nat.ne_zero_of_lt hn)
    rw [readList, hitem t v close r ht h (.inr rfl)]
    simp only [hclose, if_true, if_false]
  | @more t u v vs h _ ih =>
    obtain ⟨n, rfl⟩ := Nat.exists_eq_succ_of_ne_zero (Nat.ne_zero_of_lt hn)
    rw [List.length_append, List.length_cons] at ht hn
    rw [List.append_assoc, List.cons_append, readList,
      hitem t v ',' _ (by omega) h (.inl rfl)]
    simp only [if_true, ih (by omega) (by omega : u.length < n), Option.map_some]

theorem readGroup_blank {item : Text → Option (β × Text)} {close : Char} (hclose : ¬isBlank close)
    {b : Text} (hb : b.all isBlank) (n : Nat) (r : Text) :
    readGroup item close n (b ++ close :: r) = some ([], r) := by
  rw [readGroup, skip_append hb, skip_cons hclose]
  exact if_pos rfl

theorem Separated.exists_first {P : Text → β → Prop} {t : Text} {vs : List β}
    (h : Separated P t vs) : ∃ u v r, P u v ∧ t = u ++ r := by
  cases h with
  | last h => exact ⟨_, _, [], h, (List.append_nil _).symm⟩
  | more h => exact ⟨_, _, _, h, rfl⟩

theorem readGroup_eq {item : Text → Option (β × Text)} {close c : Char} {t u : Text}
    (ht : skip t = c :: u) (hc : c ≠ close) (n : Nat) :
    readGroup item close n t = readList item close n t := by
  rw [readGroup, ht]
  exact if_neg hc

/-! ## Values -/

/-- Between brackets, an item is followed by a comma or by the closing one. -/
theorem delimits_cons {c close : Char} (hclose : ¬isNumberChar close ∧ ¬isBlank close)
    (hc : c = ',' ∨ c = close) (r : Text) : Delimits (c :: r) := by
  rintro _ ⟨⟩
  obtain rfl | rfl := hc
  · decide
  · exact hclose

theorem exists_skip_of_reads {t : Text} {v : Value} (h : Reads t v) (r : Text) :
    ∃ c u, skip (t ++ r) = c :: u ∧ c ≠ ']' := by
  obtain @⟨b, t, b', v, hb, h, hb'⟩ := h
  obtain ⟨c, u, rfl, hc, hclose⟩ := h.exists_cons
  refine ⟨c, u ++ (b' ++ r), ?_, hclose⟩
  rw [List.append_assoc, List.append_assoc, skip_append hb]
  exact skip_cons hc _

theorem exists_skip_of_keyed {P : Text → Value → Prop} {t : Text} {f : Text × Value}
    (h : Keyed P t f) (r : Text) : ∃ c u, skip (t ++ r) = c :: u ∧ c ≠ '}' := by
  obtain @⟨b, k, s, b', t, v, hb, hk, hb', h⟩ := h
  simp only [List.append_assoc, List.cons_append]
  rw [skip_append hb]
  exact ⟨_, _, skip_cons (by decide) _, by decide⟩

/-- **A group is read up to its closing bracket.** -/
theorem readGroup_append {P : Text → β → Prop} {item : Text → Option (β × Text)} {close : Char}
    {n : Nat} (hclose : ¬isNumberChar close ∧ ¬isBlank close) (hcomma : close ≠ ',')
    (hstart : ∀ t v r, P t v → ∃ c u, skip (t ++ r) = c :: u ∧ c ≠ close)
    (hitem : ∀ t v r, t.length ≤ n → P t v → Delimits r → item (t ++ r) = some (v, r))
    {t : Text} {vs : List β} (h : Separated P t vs) (ht : t.length < n) (r : Text) :
    readGroup item close n (t ++ close :: r) = some (vs, r) := by
  obtain ⟨u, v, z, hu, heq⟩ := h.exists_first
  obtain ⟨c, y, hskip, hc⟩ := hstart u v (z ++ close :: r) hu
  rw [← List.append_assoc, ← heq] at hskip
  rw [readGroup_eq hskip hc]
  exact readList_append hcomma
    (fun t v c r ht h hc => hitem t v _ ht h (delimits_cons hclose hc r)) h (Nat.le_of_lt ht) ht r

section Values

variable {n : Nat} {value : Text → Option (Value × Text)}
  (hvalue : ∀ t v r, t.length ≤ n → Denotes t v → Ends r → value (t ++ r) = some (v, r))

include hvalue

theorem readSpaced_append {t r : Text} {v : Value} (h : Reads t v) (ht : t.length ≤ n)
    (hr : Delimits r) : readSpaced value (t ++ r) = some (v, r) := by
  obtain @⟨b, t, b', v, hb, h, hb'⟩ := h
  rw [List.length_append, List.length_append] at ht
  rw [readSpaced, List.append_assoc, List.append_assoc, skip_append hb, h.skip,
    hvalue t v _ (by omega) h (hr.ends hb'), Option.map_some]
  simp only [skip_append hb', hr.skip]

theorem readField_append {t r : Text} {f : Text × Value} (h : Keyed Denotes t f)
    (ht : t.length ≤ n) (hr : Delimits r) : readField value (t ++ r) = some (f, r) := by
  obtain @⟨b, k, s, b', t, v, hb, hk, hb', h⟩ := h
  have hlength : t.length ≤ n := by
    simp only [List.length_append, List.length_cons] at ht
    omega
  have hspaced := readSpaced_append hvalue h hlength hr
  simp only [List.append_assoc, List.cons_append]
  rw [readField, skip_append hb, skip_cons (by decide)]
  simp only [readString_of_spells hk]
  rw [skip_append hb', skip_cons (by decide)]
  simp only [hspaced, Option.map_some]

end Values

/-- No word starts as a number does. -/
theorem readWord_eq_none {c : Char} (hc : isNumberChar c) (t : Text) :
    readWord (c :: t) = none := by
  have hn : 'n' ≠ c := by
    rintro rfl
    cases hc
  have ht : 't' ≠ c := by
    rintro rfl
    cases hc
  have hf : 'f' ≠ c := by
    rintro rfl
    cases hc
  simp [readWord, Text.dropPrefix?, hn, ht, hf]

/-- **Every value of the grammar is read.** -/
theorem readValue_append (n : Nat) : ∀ t v r, t.length ≤ n → Denotes t v → Ends r →
    readValue n (t ++ r) = some (v, r) := by
  induction n with
  | zero =>
    intro t v r ht h
    obtain ⟨c, u, rfl, -⟩ := h.exists_cons
    cases ht
  | succ n ih =>
    intro t v r ht h hr
    have hlength {left right : Char} {u : Text} (hu : (left :: u ++ [right]).length ≤ n + 1) :
        u.length < n := by
      rw [List.cons_append, List.length_cons, List.length_append, List.length_singleton] at hu
      omega
    cases h with
    | null => rfl
    | true => rfl
    | false => rfl
    | number h =>
      obtain ⟨hne, hall⟩ := isNumberChar_of_isNumber h
      obtain ⟨c, u, rfl⟩ := List.exists_cons_of_ne_nil hne
      rw [List.all_cons, Bool.and_eq_true] at hall
      have hnumber := readNumber_append h hr
      have hc (d : Char) (hd : ¬isNumberChar d) : c ≠ d := by
        rintro rfl
        exact hd hall.1
      rw [List.cons_append] at hnumber ⊢
      rw [readValue, if_neg (hc '"' (by decide)), if_neg (hc '[' (by decide)),
        if_neg (hc '{' (by decide)), readWord_eq_none hall.1, Option.none_or, hnumber]
    | @string t s h =>
      rw [List.append_assoc, List.cons_append, readValue, if_pos rfl]
      exact congrArg _ (readString_of_spells h r)
    | @noItems b hb =>
      rw [List.append_assoc, List.cons_append, readValue, if_neg (by decide), if_pos rfl]
      exact congrArg _ (readGroup_blank (by decide) hb n r)
    | @array t vs h =>
      rw [List.append_assoc, List.cons_append, readValue, if_neg (by decide), if_pos rfl]
      have hgroup : readGroup (readSpaced (readValue n)) ']' n (t ++ ']' :: r) = some (vs, r) :=
        readGroup_append (by decide) (by decide) (fun _ _ r h => exists_skip_of_reads h r)
          (fun _ _ _ ht h hr => readSpaced_append ih h ht hr) h (hlength ht) r
      exact congrArg _ hgroup
    | @noFields b hb =>
      rw [List.append_assoc, List.cons_append, readValue, if_neg (by decide), if_neg (by decide),
        if_pos rfl]
      exact congrArg _ (readGroup_blank (by decide) hb n r)
    | @object t fs h =>
      rw [List.append_assoc, List.cons_append, readValue, if_neg (by decide), if_neg (by decide),
        if_pos rfl]
      have hgroup : readGroup (readField (readValue n)) '}' n (t ++ '}' :: r) = some (fs, r) :=
        readGroup_append (by decide) (by decide)
          (fun _ _ r h => exists_skip_of_keyed h r)
          (fun _ _ _ ht h hr => readField_append ih h ht hr) h (hlength ht) r
      exact congrArg _ hgroup

/-- **The reader finds the value that the grammar gives to a text.** -/
theorem read?_of_reads {t : Text} {v : Value} (h : Reads t v) : read? t = some v := by
  have hread := readSpaced_append (readValue_append t.length) h t.length.le_refl (r := [])
    (fun _ hc => nomatch hc)
  rw [List.append_nil] at hread
  rw [read?, hread]

/-- **A text denotes one value only.** -/
theorem Reads.unique {t : Text} {v w : Value} (h : Reads t v) (h' : Reads t w) : v = w :=
  Option.some.inj ((read?_of_reads h).symm.trans (read?_of_reads h'))

end GrammarGraph.Json
