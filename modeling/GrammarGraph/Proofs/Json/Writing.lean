import GrammarGraph.Proofs.Json.Reader
import Mathlib.Data.List.TakeWhile

/-!
# Proofs/Json/Writing — what is written is JSON, in every layout

    {"a":[1,2]}          { "a": [ 1, 2 ] }          one text, but for its blanks

Strings, numbers, arrays and objects are written as texts of the grammar.  A layout may put blanks
where lines break and after colons (`Layout.IsSpacing`); a reader passes over them, and the text
without them is that of the compact layout (`Strips`).

Both are shown piece by piece.  An array or object is cut at its commas, and the line before its
closing bracket goes with the last of the pieces.
-/

namespace GrammarGraph.Json

variable {β : Type} {l : Layout}

/-! ## Strings -/

/-- The control characters need no more than two of the four digits. -/
theorem fourHexDigits_eq : ∀ n < 0x20,
    fourHexDigits n = ['0', '0', (n / 16).digitChar, (n % 16).digitChar] ∧
      unit? '0' '0' (n / 16).digitChar (n % 16).digitChar = some n := by
  decide

/-- **Every character is written so that it is read as itself.** -/
theorem spells_escapeChar (c : Char) {t s : Text} (h : Spells t s) :
    Spells (escapeChar c ++ t) (c :: s) := by
  unfold escapeChar
  split
  case h_8 hquote hbackslash _ _ _ _ _ =>
    split
    · next hlt =>
      obtain ⟨hdigits, hunit⟩ := fourHexDigits_eq c.toNat hlt
      have hnot : ¬isHigh c.toNat ∧ ¬isLow c.toNat := by
        simp only [isHigh, isLow, Bool.and_eq_true, decide_eq_true_eq]
        omega
      rw [hdigits]
      have hspells := Spells.unit hunit hnot.1 hnot.2 h
      rw [Char.ofNat_toNat] at hspells
      exact hspells
    · next hge =>
      refine .plain ?_ h
      simp only [isPlain, Bool.and_eq_true, decide_eq_true_eq]
      exact ⟨⟨hquote, hbackslash⟩, Nat.le_of_not_lt hge⟩
  all_goals exact .short rfl h

theorem spells_flatMap (s : Text) : Spells (s.flatMap escapeChar) s := by
  induction s with
  | nil => exact .nil
  | cons c s ih => exact spells_escapeChar c ih

theorem denotes_string (s : Text) : Denotes (string s) (.string s) := .string (spells_flatMap s)

/-! ## Numbers -/

/-- No number but zero is written with a zero at its start. -/
theorem eq_zero_of_toDigits {n : Nat} {t : Text} (h : Nat.toDigits 10 n = '0' :: t) : n = 0 := by
  induction n using Nat.strongRecOn generalizing t with
  | _ n ih =>
    obtain hlt | hle := Nat.lt_or_ge n 10
    · rw [Nat.toDigits_of_lt_base hlt] at h
      have hall : ∀ n < 10, n.digitChar = '0' → n = 0 := by decide
      exact hall n hlt (List.cons.inj h).1
    · rw [Nat.toDigits_of_base_le (by decide) hle] at h
      obtain ⟨c, u, hu⟩ := List.exists_cons_of_ne_nil (Nat.toDigits_ne_nil (n := n / 10) (b := 10))
      rw [hu] at h
      obtain ⟨rfl, -⟩ := List.cons.inj h
      have := ih (n / 10) (by omega) hu
      omega

theorem isDigits_number (n : Nat) : isDigits (number n) := by
  rw [isDigits, number, Bool.and_eq_true]
  refine ⟨?_, List.all_eq_true.2 fun c hc =>
    Nat.isDigit_of_mem_toDigits (by decide) (by decide) hc⟩
  cases h : Nat.toDigits 10 n with
  | nil => exact absurd h Nat.toDigits_ne_nil
  | cons => rfl

theorem isNumber_number (n : Nat) : isNumber (number n) := by
  have hdigits := isDigits_number n
  have hall : ∀ c ∈ number n, c.isDigit := by
    rw [isDigits, Bool.and_eq_true, List.all_eq_true] at hdigits
    exact hdigits.2
  have htake : (number n).takeWhile Char.isDigit = number n := List.takeWhile_eq_self_iff.2 hall
  have hdrop : (number n).dropWhile Char.isDigit = [] := List.dropWhile_eq_nil_iff.2 hall
  have hunsigned : isUnsigned (number n) := by
    unfold isUnsigned
    split
    · next t h =>
      obtain rfl := eq_zero_of_toDigits h
      cases h
      rfl
    · rw [htake, hdrop, hdigits]
      rfl
  unfold isNumber
  split
  · next t h =>
    have := hall '-' (by rw [h]; exact List.mem_cons_self)
    cases this
  · exact hunsigned

/-! ## Texts without blanks -/

/-- Where a character stands. -/
inductive Place
  | outside
  /-- In a string. -/
  | inside
  /-- In a string, after a backslash. -/
  | escaped

/-- A text from some place on, without the blanks outside strings. -/
def unspacedFrom : Place → Text → Text
  | _, [] => []
  | .outside, c :: t =>
    if isBlank c then unspacedFrom .outside t
    else c :: unspacedFrom (if c = '"' then .inside else .outside) t
  | .inside, c :: t =>
    c :: unspacedFrom (if c = '"' then .outside else if c = '\\' then .escaped else .inside) t
  | .escaped, c :: t => c :: unspacedFrom .inside t

/-- **A JSON text without the blanks outside its strings.** -/
def unspaced (t : Text) : Text := unspacedFrom .outside t

/-- A piece of a JSON text that becomes another one. -/
def Strips (t u : Text) : Prop := ∀ r, unspaced (t ++ r) = u ++ unspaced r

namespace Strips

variable {t u t' u' : Text}

theorem nil : Strips [] [] := fun _ => rfl

theorem append (h : Strips t u) (h' : Strips t' u') : Strips (t ++ t') (u ++ u') := by
  intro r
  rw [List.append_assoc, h, h', List.append_assoc]

theorem blanks {b : Text} (hb : b.all isBlank) : Strips b [] := by
  induction b with
  | nil => exact nil
  | cons c b ih =>
    rw [List.all_cons, Bool.and_eq_true] at hb
    intro r
    rw [List.cons_append, unspaced, unspacedFrom, if_pos hb.1]
    exact ih hb.2 r

/-- Characters that are no blanks, and do not begin a string. -/
theorem marks (h : ∀ c ∈ t, ¬isBlank c ∧ c ≠ '"') : Strips t t := by
  induction t with
  | nil => exact nil
  | cons c t ih =>
    obtain ⟨hblank, hquote⟩ := h c List.mem_cons_self
    intro r
    rw [List.cons_append, unspaced, unspacedFrom, if_neg hblank, if_neg hquote]
    exact congrArg _ (ih (fun d hd => h d (List.mem_cons_of_mem c hd)) r)

theorem mark {c : Char} (hblank : ¬isBlank c) (hquote : c ≠ '"') : Strips [c] [c] :=
  marks fun _ hd => List.mem_singleton.1 hd ▸ ⟨hblank, hquote⟩

theorem unspaced_eq (h : Strips t u) : unspaced t = u := by
  have hnil := h []
  rwa [List.append_nil, show unspaced [] = [] from rfl, List.append_nil] at hnil

end Strips

theorem strips_number (n : Nat) : Strips (number n) (number n) := by
  refine .marks fun c hc => ?_
  have hdigit := Nat.isDigit_of_mem_toDigits (by decide) (by decide) hc
  refine ⟨fun hb => not_isNumberChar_of_isBlank hb (by simp [isNumberChar, hdigit]), ?_⟩
  rintro rfl
  cases hdigit

theorem unspacedFrom_inside {c : Char} (hquote : c ≠ '"') (hbackslash : c ≠ '\\') (t : Text) :
    unspacedFrom .inside (c :: t) = c :: unspacedFrom .inside t := by
  rw [unspacedFrom, if_neg hquote, if_neg hbackslash]

/-- No character ends the string that it is in. -/
theorem unspacedFrom_escapeChar (c : Char) (r : Text) :
    unspacedFrom .inside (escapeChar c ++ r) = escapeChar c ++ unspacedFrom .inside r := by
  unfold escapeChar
  split
  case h_8 hquote hbackslash _ _ _ _ _ =>
    split
    · next hlt =>
      have hdigit : ∀ n < 16, n.digitChar ≠ '"' ∧ n.digitChar ≠ '\\' := by decide
      have hhigh := hdigit (c.toNat / 16) (by omega)
      have hlow := hdigit (c.toNat % 16) (by omega)
      rw [(fourHexDigits_eq c.toNat hlt).1]
      change '\\' :: 'u' :: '0' :: '0' :: unspacedFrom .inside (_ :: _ :: r) = _
      rw [unspacedFrom_inside hhigh.1 hhigh.2, unspacedFrom_inside hlow.1 hlow.2]
      rfl
    · exact unspacedFrom_inside hquote hbackslash r
  all_goals rfl

theorem strips_string (s : Text) : Strips (string s) (string s) := by
  intro r
  have hinside : unspacedFrom .inside (s.flatMap escapeChar ++ '"' :: r) =
      s.flatMap escapeChar ++ '"' :: unspaced r := by
    induction s with
    | nil => rfl
    | cons c s ih =>
      rw [List.flatMap_cons, List.append_assoc, unspacedFrom_escapeChar, ih, List.append_assoc]
  rw [string, List.append_assoc, List.append_assoc]
  exact congrArg ('"' :: ·) hinside

/-! ## Layouts -/

/-- **A layout that differs from the compact one in blanks only.** -/
structure Layout.IsSpacing (l : Layout) : Prop where
  line : ∀ depth, (l.line depth).all isBlank
  colon : ∃ b, b.all isBlank ∧ l.colon = ':' :: b

theorem Layout.isSpacing_compact : Layout.compact.IsSpacing := ⟨fun _ => rfl, [], rfl, rfl⟩

theorem Layout.isSpacing_pretty : Layout.pretty.IsSpacing where
  line depth := by
    rw [Layout.pretty, List.all_cons, List.all_replicate]
    split <;> rfl
  colon := ⟨[' '], rfl, rfl⟩

/-- Blanks may stand before and after things that are separated. -/
structure Padded (P : Text → β → Prop) : Prop where
  before : ∀ {b t v}, b.all isBlank → P t v → P (b ++ t) v
  after : ∀ {b t v}, b.all isBlank → P t v → P (t ++ b) v

theorem Spaced.padded (P : Text → β → Prop) : Padded (Spaced P) where
  before hb h := by
    obtain @⟨b, t, b', v, hc, h, hc'⟩ := h
    rw [← List.append_assoc, ← List.append_assoc]
    refine .intro ?_ h hc'
    rw [List.all_append, hb, hc]
    rfl
  after hb h := by
    obtain @⟨b, t, b', v, hc, h, hc'⟩ := h
    rw [List.append_assoc]
    refine .intro hc h ?_
    rw [List.all_append, hb, hc']
    rfl

theorem Keyed.padded (P : Text → Value → Prop) : Padded (Keyed P) where
  before {d t f} hd h := by
    obtain @⟨b, k, s, b', t, v, hb, hk, hb', h⟩ := h
    have hall : (d ++ b).all isBlank := by
      rw [List.all_append, hd, hb]
      rfl
    have hkeyed := Keyed.intro hall hk hb' h
    simp only [List.append_assoc] at hkeyed ⊢
    exact hkeyed
  after {d t f} hd h := by
    obtain @⟨b, k, s, b', t, v, hb, hk, hb', h⟩ := h
    have hkeyed := Keyed.intro hb hk hb' ((Spaced.padded P).after hd h)
    simp only [List.append_assoc, List.cons_append] at hkeyed ⊢
    exact hkeyed

/-- **What stands between the brackets of a block.** -/
theorem separated_body {P : Text → β → Prop} (hP : Padded P) (hl : l.IsSpacing) (depth : Nat)
    {items : List (Text × β)} (hne : items ≠ []) (h : ∀ i ∈ items, P i.1 i.2) :
    Separated P
      ([','].intercalate ((items.map (·.1)).map (l.line (depth + 1) ++ ·)) ++ l.line depth)
      (items.map (·.2)) := by
  induction items with
  | nil => exact absurd rfl hne
  | cons i items ih =>
    have hi := hP.before (hl.line (depth + 1)) (h i List.mem_cons_self)
    cases items with
    | nil => exact .last (hP.after (hl.line depth) (List.intercalate_singleton ▸ hi))
    | cons j items =>
      have hrest := ih (List.cons_ne_nil j items) fun k hk => h k (List.mem_cons_of_mem i hk)
      have hmore := Separated.more hi hrest
      simp only [List.map_cons, List.intercalate_cons_cons, List.append_assoc, List.cons_append,
        List.nil_append] at hmore ⊢
      exact hmore

theorem all_isBlank_nil : ([] : Text).all isBlank := rfl

theorem reads_of_denotes {t : Text} {v : Value} (h : Denotes t v) : Reads t v := by
  have hreads := Spaced.intro all_isBlank_nil h all_isBlank_nil
  rwa [List.append_nil] at hreads

theorem keyed_field (hl : l.IsSpacing) (key : String) {t : Text} {v : Value} (h : Denotes t v) :
    Keyed Denotes (l.field key t) (key.toList, v) := by
  obtain ⟨b, hb, hcolon⟩ := hl.colon
  have hkeyed := Keyed.intro all_isBlank_nil (spells_flatMap key.toList) all_isBlank_nil
    ((Spaced.padded Denotes).before hb (reads_of_denotes h))
  rw [Layout.field, hcolon, string]
  simp only [List.nil_append, List.append_assoc, List.cons_append] at hkeyed ⊢
  exact hkeyed

theorem denotes_array (hl : l.IsSpacing) (depth : Nat) {items : List (Text × Value)}
    (hne : items ≠ []) (h : ∀ i ∈ items, Denotes i.1 i.2) :
    Denotes (l.array depth (items.map (·.1))) (.array (items.map (·.2))) :=
  .array (separated_body (Spaced.padded Denotes) hl depth hne fun i hi => reads_of_denotes (h i hi))

theorem denotes_object (hl : l.IsSpacing) (depth : Nat) {fields : List (String × Text × Value)}
    (hne : fields ≠ []) (h : ∀ f ∈ fields, Denotes f.2.1 f.2.2) :
    Denotes (l.object depth (fields.map fun f => (f.1, f.2.1)))
      (.object (fields.map fun f => (f.1.toList, f.2.2))) := by
  have hne : fields.map (fun f => (l.field f.1 f.2.1, (f.1.toList, f.2.2))) ≠ [] := by
    simpa using hne
  have hbody := separated_body (Keyed.padded Denotes) hl depth hne fun i hi => by
    obtain ⟨f, hf, rfl⟩ := List.mem_map.1 hi
    exact keyed_field hl f.1 (h f hf)
  simp only [List.map_map, Function.comp_def] at hbody
  simp only [Layout.object, Layout.block, List.map_map, Function.comp_def]
  exact .object hbody


/-! ## Blocks without blanks -/

theorem strips_intercalate (hl : l.IsSpacing) (depth : Nat) {parts : List (Text × Text)}
    (h : ∀ p ∈ parts, Strips p.1 p.2) :
    Strips ([','].intercalate ((parts.map (·.1)).map (l.line depth ++ ·)))
      ([','].intercalate (parts.map (·.2))) := by
  induction parts with
  | nil => exact .nil
  | cons p parts ih =>
    have hp := (Strips.blanks (hl.line depth)).append (h p List.mem_cons_self)
    cases parts with
    | nil =>
      simpa only [List.map_cons, List.map_nil, List.intercalate_singleton, List.nil_append] using hp
    | cons q parts =>
      have hrest := ih fun r hr => h r (List.mem_cons_of_mem p hr)
      have hcomma : Strips [','] [','] := .mark (by decide) (by decide)
      have happend := (hp.append hcomma).append hrest
      simp only [List.map_cons, List.intercalate_cons_cons, List.append_assoc,
        List.nil_append] at happend ⊢
      exact happend

theorem strips_block (hl : l.IsSpacing) (left right : Char)
    (hleft : ¬isBlank left ∧ left ≠ '"') (hright : ¬isBlank right ∧ right ≠ '"')
    (depth depth' : Nat) {parts : List (Text × Text)} (h : ∀ p ∈ parts, Strips p.1 p.2) :
    Strips (l.block depth left right (parts.map (·.1)))
      (Layout.compact.block depth' left right (parts.map (·.2))) := by
  have hbody := strips_intercalate hl (depth + 1) h
  have hline := Strips.blanks (hl.line depth)
  have hright := Strips.mark hright.1 hright.2
  have hblock := (Strips.mark hleft.1 hleft.2).append ((hbody.append hline).append hright)
  have hcompact : (parts.map (·.2)).map (Layout.compact.line (depth' + 1) ++ ·) =
      parts.map (·.2) := List.map_id _
  rw [Layout.block, Layout.block, hcompact]
  simp only [Layout.compact, List.append_nil, List.append_assoc, List.cons_append,
    List.nil_append] at hblock ⊢
  exact hblock

theorem strips_field (hl : l.IsSpacing) (key : String) {t u : Text} (h : Strips t u) :
    Strips (l.field key t) (Layout.compact.field key u) := by
  obtain ⟨b, hb, hcolon⟩ := hl.colon
  have hmark : Strips [':'] [':'] := .mark (by decide) (by decide)
  have hfield := (strips_string key.toList).append ((hmark.append (.blanks hb)).append h)
  rw [Layout.field, Layout.field, hcolon]
  simp only [Layout.compact, List.append_assoc, List.cons_append, List.nil_append] at hfield ⊢
  exact hfield

theorem strips_array (hl : l.IsSpacing) (depth depth' : Nat) {items : List (Text × Text)}
    (h : ∀ i ∈ items, Strips i.1 i.2) :
    Strips (l.array depth (items.map (·.1))) (Layout.compact.array depth' (items.map (·.2))) :=
  strips_block hl '[' ']' (by decide) (by decide) depth depth' h

theorem strips_object (hl : l.IsSpacing) (depth depth' : Nat)
    {fields : List (String × Text × Text)} (h : ∀ f ∈ fields, Strips f.2.1 f.2.2) :
    Strips (l.object depth (fields.map fun f => (f.1, f.2.1)))
      (Layout.compact.object depth' (fields.map fun f => (f.1, f.2.2))) := by
  have hparts : ∀ p ∈ fields.map fun f => (l.field f.1 f.2.1, Layout.compact.field f.1 f.2.2),
      Strips p.1 p.2 := by
    intro p hp
    obtain ⟨f, hf, rfl⟩ := List.mem_map.1 hp
    exact strips_field hl f.1 (h f hf)
  have hblock := strips_block hl '{' '}' (by decide) (by decide) depth depth' hparts
  simp only [List.map_map, Function.comp_def] at hblock
  simp only [Layout.object, List.map_map, Function.comp_def]
  exact hblock

end GrammarGraph.Json
