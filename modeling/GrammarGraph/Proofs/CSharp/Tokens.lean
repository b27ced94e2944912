import GrammarGraph.Proofs.CSharp.Rules

/-!
# Proofs/CSharp/Tokens — what the patterns of the grammar match

The grammar has three patterns: blanks, identifiers and variances.  The first two match a run of
characters of one kind, as long as there are any (`scan_run`); the third is a choice between two
words and is followed letter by letter.
-/

namespace GrammarGraph.CSharp

/-! ## Characters -/

/-- Whether a character may stand between tokens. -/
def isBlank (c : Char) : Bool := Unicode.blank.contains c

/-- Whether an identifier may begin with the character. -/
def isWordStart (c : Char) : Bool := c.isAlpha || c == '_'

/-- Whether an identifier may go on with the character. -/
def isWordPart (c : Char) : Bool := c.isAlphanum || c == '_'

theorem isWordStart_iff (c : Char) : isWordStart c ↔
    65 ≤ c.toNat ∧ c.toNat ≤ 90 ∨ 97 ≤ c.toNat ∧ c.toNat ≤ 122 ∨ c.toNat = 95 := by
  have hupper : c.isUpper ↔ 65 ≤ c.toNat ∧ c.toNat ≤ 90 :=
    decide_eq_true_iff.trans (and_congr UInt32.le_iff_toNat_le UInt32.le_iff_toNat_le)
  have hlower : c.isLower ↔ 97 ≤ c.toNat ∧ c.toNat ≤ 122 :=
    Bool.and_eq_true_iff.trans (and_congr (decide_eq_true_iff.trans UInt32.le_iff_toNat_le)
      (decide_eq_true_iff.trans UInt32.le_iff_toNat_le))
  have hscore : (c == '_') = true ↔ c.toNat = 95 := beq_iff_eq.trans Char.toNat_inj.symm
  change ((c.isUpper || c.isLower) || c == '_') = true ↔ _
  rw [Bool.or_eq_true, Bool.or_eq_true, hupper, hlower, hscore, or_assoc]

theorem isWordPart_iff (c : Char) :
    isWordPart c ↔ isWordStart c ∨ 48 ≤ c.toNat ∧ c.toNat ≤ 57 := by
  have h : c.isDigit ↔ 48 ≤ c.toNat ∧ c.toNat ≤ 57 := by
    simp only [Char.isDigit, UInt32.le_iff_toNat_le, ge_iff_le, Bool.and_eq_true, decide_eq_true_eq,
      Char.toNat]
    rfl
  change ((c.isAlpha || c.isDigit) || c == '_') = true ↔ (c.isAlpha || c == '_') = true ∨ _
  rw [Bool.or_eq_true, Bool.or_eq_true, Bool.or_eq_true, h, or_right_comm]

theorem wordStart_contains (c : Char) : Rules.wordStart.contains c = isWordStart c := by
  rw [Bool.eq_iff_iff, isWordStart_iff]
  simp [Rules.wordStart, CharSet.contains, CharSet.holdsAt]
  omega

theorem wordPart_contains (c : Char) : Rules.wordPart.contains c = isWordPart c := by
  rw [Bool.eq_iff_iff, isWordPart_iff, isWordStart_iff]
  simp [Rules.wordPart, CharSet.contains, CharSet.holdsAt]
  omega

theorem isWordPart_of_isWordStart {c : Char} (h : isWordStart c) : isWordPart c :=
  (isWordPart_iff c).2 (.inl h)

/-- **Blanks end words.** -/
theorem not_isWordPart_of_isBlank {c : Char} (h : isBlank c) : isWordPart c = false := by
  rw [Bool.eq_false_iff, Ne, isWordPart_iff, isWordStart_iff]
  simp [isBlank, Unicode.blank, CharSet.contains, CharSet.holdsAt] at h
  omega

theorem letter_contains (upper lower : Nat) (h : upper < lower) (c : Char) :
    (Rules.letter upper lower).contains c ↔ c.toNat = upper ∨ c.toNat = lower := by
  simp [Rules.letter, CharSet.contains, CharSet.holdsAt]
  omega

/-- Two characters become one small letter if they are that letter in either case. -/
theorem toLower_eq_iff {c d : Char} (h : 97 ≤ d.toNat ∧ d.toNat ≤ 122) :
    c.toLower = d ↔ c.toNat = d.toNat - 32 ∨ c.toNat = d.toNat := by
  have hA : ('A' : Char).val ≤ c.val ↔ 65 ≤ c.toNat := UInt32.le_iff_toNat_le
  have hZ : c.val ≤ ('Z' : Char).val ↔ c.toNat ≤ 90 := UInt32.le_iff_toNat_le
  rw [← Char.toNat_inj]
  by_cases hc : c.val ≥ 'A'.val ∧ c.val ≤ 'Z'.val
  · obtain ⟨hlo, hhi⟩ : 65 ≤ c.toNat ∧ c.toNat ≤ 90 := ⟨hA.1 hc.1, hZ.1 hc.2⟩
    have hlower : c.toLower.val = c.val + ('a'.val - 'A'.val) := congrArg Char.val (dif_pos hc)
    have hsum : c.toLower.toNat = c.toNat + 32 := by
      rw [Char.toNat, hlower, UInt32.toNat_add]
      change (c.toNat + 32) % 2 ^ 32 = c.toNat + 32
      omega
    rw [hsum]
    omega
  · have hlower : c.toLower = c := dif_neg hc
    rw [hlower]
    rw [ge_iff_le, hA, hZ] at hc
    omega

/-! ## Runs of characters of one kind -/

/-- The text does not begin with a character of this kind. -/
def Stops (kind : Char → Bool) (r : Text) : Prop := ∀ c ∈ r.head?, kind c = false

theorem Stops.nil {kind : Char → Bool} : Stops kind [] := nofun

theorem Stops.cons {kind : Char → Bool} {c : Char} {r : Text} (h : kind c = false) :
    Stops kind (c :: r) := by
  rintro _ ⟨⟩
  exact h

theorem Stops.imp {kind kind' : Char → Bool} (h : ∀ c, kind' c → kind c) {r : Text}
    (hr : Stops kind r) : Stops kind' r := by
  intro c hc
  rw [Bool.eq_false_iff]
  intro hk
  exact Bool.false_ne_true ((hr c hc).symm.trans (h c hk))

theorem Stops.append {kind : Char → Bool} {r r' : Text} (h : Stops kind r) (h' : Stops kind r') :
    Stops kind (r ++ r') := by
  cases r with
  | nil => exact h'
  | cons c r => exact .cons (h c rfl)

theorem dropWhile_run {kind : Char → Bool} {u r : Text} (hu : u.all kind) (hr : Stops kind r) :
    (u ++ r).dropWhile kind = r := by
  rw [List.dropWhile_append_of_pos (List.all_eq_true.1 hu)]
  cases r with
  | nil => rfl
  | cons c r => rw [List.dropWhile_cons, hr c rfl, if_neg Bool.false_ne_true]

/-- Every text is a run of one kind and something else. -/
theorem exists_run (kind : Char → Bool) (s : Text) :
    ∃ u r, s = u ++ r ∧ u.all kind ∧ Stops kind r := by
  induction s with
  | nil => exact ⟨[], [], rfl, rfl, .nil⟩
  | cons c s ih =>
    cases h : kind c with
    | false => exact ⟨[], c :: s, rfl, rfl, .cons h⟩
    | true =>
      obtain ⟨u, r, rfl, hu, hr⟩ := ih
      exact ⟨c :: u, r, rfl, by simp [h, hu], hr⟩

open Thread in
/-- A thread that takes another character of the set or is done matches all there are.  Where the
thread stands in its expression does not matter. -/
theorem scan_run {chars : CharSet} {path : List Nat} {unicode : Bool} {t : Thread}
    (ht : t.move = .split [.meet path (.set chars unicode) :: t, []]) (fuel : Nat)
    {u r : Text} (hu : u.all chars.contains) (hr : Stops chars.contains r) :
    ∀ (before : Option Char) (read : Nat) (best : Option Nat),
      scan (fuel + 3) [t] before read best (u ++ r) = some (read + u.length) := by
  have hne : t ≠ [] := by
    rintro rfl
    cases ht
  have hsettle (holds : Assertion → Bool) :
      settle holds (fuel + 3) [t] [] = [.meet path (.set chars unicode) :: t, []] := by
    have hcons : Goal.meet path (.set chars unicode) :: t ≠ t := List.cons_ne_self _ _
    have hset : move (.meet path (.set chars unicode) :: t) = .rest := rfl
    have hdone : move [] = .rest := rfl
    have hend (seen : List Thread) : settle holds fuel [] seen = [] := by cases fuel <;> rfl
    simp [settle, ht, hset, hdone, hcons, hne.symm, hend]
  induction u with
  | nil =>
    intro before read best
    cases r with
    | nil => simp [scan, hsettle]
    | cons c r =>
      have hc : chars.contains c = false := hr c rfl
      simp [scan, hsettle, advance, hc]
  | cons c u ih =>
    intro before read best
    simp only [List.all_cons, Bool.and_eq_true] at hu
    rw [List.cons_append, scan]
    simp only [hsettle]
    simp [advance, hu.1, ih hu.2]
    omega

/-- A pattern that matches a character of one kind, and then as many of another as there are. -/
structure MatchesRuns (p : Pattern) (first part : Char → Bool) : Prop where
  run : ∀ {c u r}, first c → u.all part → Stops part r → p.match? (c :: u ++ r) = some (c :: u, r)
  none : ∀ {r}, Stops first r → p.match? r = none

open Thread in
/-- A thread that first waits for a character of one set and then runs along another. -/
theorem matchesRuns {source : String} {regex : Regex} {first part : CharSet}
    {path path' : List Nat} {u u' : Bool} {t : Thread} {n : Nat} (hfuel : regex.fuel = n + 3)
    (hstart : ∀ holds, settle holds regex.fuel [[.meet [] regex]] [] =
      [.meet path (.set first u) :: t])
    (ht : t.move = .split [.meet path' (.set part u') :: t, []]) :
    MatchesRuns (.ofRegex source regex) first.contains part.contains where
  run {c u r} hc hu hr := by
    have hnext : scan regex.fuel [[.meet [] regex]] Option.none 0 Option.none (c :: (u ++ r)) =
        scan regex.fuel [t] (some c) 1 Option.none (u ++ r) := by
      rw [scan, hstart]
      simp [advance, hc]
    have hlength : regex.matchLength? (c :: u ++ r) = some (1 + u.length) := by
      rw [Regex.matchLength?, List.cons_append, hnext, hfuel, scan_run ht n hu hr]
    rw [Pattern.match?_ofRegex, hlength]
    simp [Nat.add_comm 1]
  none {r} hr := by
    have hlength : regex.matchLength? r = Option.none := by
      rw [Regex.matchLength?]
      cases r with
      | nil => simp [scan, hstart]
      | cons c r =>
        have hc : first.contains c = false := hr c rfl
        simp [scan, hstart, advance, hc]
    rw [Pattern.match?_ofRegex, hlength, Option.map_none]

/-- **What such a pattern matches** is a run, and as long as possible. -/
theorem MatchesRuns.eq_of_match? {p : Pattern} {first part : Char → Bool}
    (h : MatchesRuns p first part) {s u r : Text} (hm : p.match? s = some (u, r)) :
    ∃ c w, u = c :: w ∧ first c ∧ w.all part ∧ Stops part r := by
  cases s with
  | nil =>
    rw [h.none .nil] at hm
    cases hm
  | cons c s =>
    cases hc : first c with
    | false =>
      rw [h.none (.cons hc)] at hm
      cases hm
    | true =>
      obtain ⟨w, r', rfl, hw, hr⟩ := exists_run part s
      rw [← List.cons_append, h.run hc hw hr] at hm
      obtain ⟨rfl, rfl⟩ := Prod.mk.inj (Option.some.inj hm)
      exact ⟨c, w, rfl, hc, hw, hr⟩

/-! ## Blanks and identifiers -/

theorem matchesRuns_spaces : MatchesRuns Rules.spacesPattern isBlank isBlank :=
  matchesRuns (n := 27) rfl (fun _ => rfl) rfl

theorem matchesRuns_identifier : MatchesRuns Rules.identifierPattern isWordStart isWordPart := by
  have h : MatchesRuns Rules.identifierPattern _ _ := matchesRuns (n := 24) rfl (fun _ => rfl) rfl
  rwa [funext wordStart_contains, funext wordPart_contains] at h

/-- The text between two tokens. -/
def IsGap (u : Text) : Prop := u.all isBlank

theorem IsGap.nil : IsGap [] := rfl

theorem IsGap.blank : IsGap [' '] := rfl

/-- Whether a text is an identifier. -/
def isIdentifier : Text → Bool
  | [] => false
  | c :: s => isWordStart c && s.all isWordPart

theorem all_of_isIdentifier {x : Text} (h : isIdentifier x) : x.all isWordPart := by
  cases x with
  | nil => rfl
  | cons c x =>
    obtain ⟨hc, hx⟩ := Bool.and_eq_true_iff.1 h
    rw [List.all_cons, isWordPart_of_isWordStart hc, hx, Bool.and_self]

/-- No text begins with a blank that begins with an identifier. -/
theorem stops_isBlank_of_isIdentifier {x : Text} (h : isIdentifier x) (r : Text) :
    Stops isBlank (x ++ r) := by
  cases x with
  | nil => cases h
  | cons c x =>
    refine .cons (Bool.eq_false_iff.2 fun hc => ?_)
    have hpart := isWordPart_of_isWordStart (Bool.and_eq_true_iff.1 h).1
    rw [not_isWordPart_of_isBlank hc] at hpart
    cases hpart

/-- Blanks before what ends a word end it too. -/
theorem IsGap.stops_isWordPart {g r : Text} (hg : IsGap g) (hr : Stops isWordPart r) :
    Stops isWordPart (g ++ r) := by
  cases g with
  | nil => exact hr
  | cons c g => exact .cons (not_isWordPart_of_isBlank (Bool.and_eq_true_iff.1 hg).1)

theorem match?_spaces {u r : Text} (hu : IsGap u) (hne : u ≠ []) (hr : Stops isBlank r) :
    Rules.spacesPattern.match? (u ++ r) = some (u, r) := by
  obtain ⟨c, u, rfl⟩ := List.exists_cons_of_ne_nil hne
  obtain ⟨hc, hu⟩ := Bool.and_eq_true_iff.1 hu
  exact matchesRuns_spaces.run hc hu hr

theorem match?_identifier {x r : Text} (hx : isIdentifier x) (hr : Stops isWordPart r) :
    Rules.identifierPattern.match? (x ++ r) = some (x, r) := by
  cases x with
  | nil => cases hx
  | cons c x =>
    obtain ⟨hc, hx⟩ := Bool.and_eq_true_iff.1 hx
    exact matchesRuns_identifier.run hc hx hr

theorem isGap_of_match? {s u r : Text} (h : Rules.spacesPattern.match? s = some (u, r)) :
    IsGap u ∧ u ≠ [] := by
  obtain ⟨c, w, rfl, hc, hw, -⟩ := matchesRuns_spaces.eq_of_match? h
  exact ⟨Bool.and_eq_true_iff.2 ⟨hc, hw⟩, List.cons_ne_nil c w⟩

theorem isIdentifier_of_match? {s x r : Text}
    (h : Rules.identifierPattern.match? s = some (x, r)) : isIdentifier x := by
  obtain ⟨c, w, rfl, hc, hw, -⟩ := matchesRuns_identifier.eq_of_match? h
  exact Bool.and_eq_true_iff.2 ⟨hc, hw⟩

/-! ## Variances -/

/-- The word for a variance. -/
def Variance.keyword : Variance → Text
  | .contravariant => ['i', 'n']
  | .covariant => ['o', 'u', 't']

/-- A word for the variance, in any case. -/
def Variance.Written (v : Variance) (w : Text) : Prop := w.map Char.toLower = v.keyword

open Thread in
/-- A thread that waits for a character of a set. -/
theorem scan_letter {fuel : Nat} {t k : Thread} {p : List Nat} {chars : CharSet} {u : Bool}
    (h : ∀ holds, settle holds fuel [t] [] = [.meet p (.set chars u) :: k])
    (before : Option Char) (read : Nat) (s : Text) :
    scan fuel [t] before read none s =
      match s with
      | [] => none
      | c :: s => if chars.contains c then scan fuel [k] (some c) (read + 1) none s else none := by
  cases s with
  | nil => rw [scan, h]; rfl
  | cons c s =>
    rw [scan, h]
    cases hc : chars.contains c <;> simp [advance, hc]

/-- A letter in either case. -/
theorem letter_contains_eq {upper lower : Nat} (d : Char) (hd : 97 ≤ d.toNat ∧ d.toNat ≤ 122)
    (hlower : lower = d.toNat) (hupper : upper + 32 = d.toNat) (c : Char) :
    (Rules.letter upper lower).contains c = decide (c.toLower = d) := by
  rw [Bool.eq_iff_iff, letter_contains _ _ (by omega), decide_eq_true_eq, toLower_eq_iff hd]
  omega

open Thread in
/-- The matcher tries both words at once; no letter begins both. -/
theorem matchLength?_variance (s : Text) : Rules.varianceRegex.matchLength? s =
    if (s.take 2).map Char.toLower = Variance.contravariant.keyword then some 2
    else if (s.take 3).map Char.toLower = Variance.covariant.keyword then some 3
    else none := by
  let i := Rules.letter 73 105
  let n := Rules.letter 78 110
  let o := Rules.letter 79 111
  let u := Rules.letter 85 117
  let t := Rules.letter 84 116
  have hi : ∀ c, i.contains c = decide (c.toLower = 'i') :=
    letter_contains_eq 'i' (by decide) rfl rfl
  have hn : ∀ c, n.contains c = decide (c.toLower = 'n') :=
    letter_contains_eq 'n' (by decide) rfl rfl
  have ho : ∀ c, o.contains c = decide (c.toLower = 'o') :=
    letter_contains_eq 'o' (by decide) rfl rfl
  have hu : ∀ c, u.contains c = decide (c.toLower = 'u') :=
    letter_contains_eq 'u' (by decide) rfl rfl
  have ht : ∀ c, t.contains c = decide (c.toLower = 't') :=
    letter_contains_eq 't' (by decide) rfl rfl
  have hstart (holds : Assertion → Bool) :
      settle holds 30 [[.meet [] Rules.varianceRegex]] [] =
        [[.meet [0, 0] (.set i true), .meet [1, 0] (.set n true)],
         [.meet [0, 1] (.set o true), .meet [1, 1] (.seq (.set u true) (.set t true))]] := rfl
  have hdone (before : Option Char) (read : Nat) (s : Text) :
      scan 30 [[]] before read none s = some read := by
    cases s <;> rw [scan] <;> rfl
  have hin (before : Option Char) (s : Text) :
      scan 30 [[.meet [1, 0] (.set n true)]] before 1 none s =
        if (s.take 1).map Char.toLower = ['n'] then some 2 else none := by
    rw [scan_letter fun _ => rfl]
    cases s <;> simp [hn, hdone]
  have hout (before : Option Char) (s : Text) :
      scan 30 [[.meet [1, 1] (.seq (.set u true) (.set t true))]] before 1 none s =
        if (s.take 2).map Char.toLower = ['u', 't'] then some 3 else none := by
    rw [scan_letter (p := [0, 1, 1]) (k := [.meet [1, 1, 1] (.set t true)]) fun _ => rfl]
    cases s with
    | nil => rfl
    | cons c s =>
      dsimp only
      rw [scan_letter fun _ => rfl]
      cases s <;> by_cases hc : c.toLower = 'u' <;> simp [hu, ht, hdone, hc]
  change scan 30 [[.meet [] Rules.varianceRegex]] none 0 none s = _
  match s with
  | [] => rfl
  | a :: s =>
    rw [scan, hstart]
    by_cases hia : a.toLower = 'i'
    · have hoa : a.toLower ≠ 'o' := by simp [hia]
      simp [advance, hi, ho, hia, hin, Variance.keyword]
    · by_cases hoa : a.toLower = 'o'
      · simp [advance, hi, ho, hoa, hout, Variance.keyword]
      · simp [advance, hi, ho, hia, hoa, Variance.keyword]

theorem match?_variance {v : Variance} {w : Text} (hw : v.Written w) (r : Text) :
    Rules.variancePattern.match? (w ++ r) = some (w, r) := by
  rw [Variance.Written] at hw
  have hlength : w.length = v.keyword.length := by rw [← hw, List.length_map]
  rw [Rules.variancePattern, Pattern.match?_ofRegex, matchLength?_variance]
  cases v with
  | contravariant =>
    have h2 : (w ++ r).take 2 = w := List.take_left' hlength
    have hr : (w ++ r).drop 2 = r := List.drop_left' hlength
    rw [h2, if_pos hw, Option.map_some, h2, hr]
  | covariant =>
    have h3 : (w ++ r).take 3 = w := List.take_left' hlength
    have hr : (w ++ r).drop 3 = r := List.drop_left' hlength
    have h2 : ((w ++ r).take 2).map Char.toLower = ['o', 'u'] := by
      rw [show 2 = Nat.min 2 3 from rfl, ← List.take_take, h3, List.map_take, hw]
      rfl
    rw [h2, h3, if_neg (by decide), if_pos hw, Option.map_some, h3, hr]

theorem written_of_match? {s w r : Text} (h : Rules.variancePattern.match? s = some (w, r)) :
    ∃ v : Variance, v.Written w := by
  rw [Rules.variancePattern, Pattern.match?_ofRegex] at h
  obtain ⟨n, hn, hw⟩ := Option.map_eq_some_iff.1 h
  obtain ⟨rfl, -⟩ := Prod.mk.inj hw
  rw [matchLength?_variance] at hn
  split at hn
  · next hin =>
    cases hn
    exact ⟨.contravariant, hin⟩
  · split at hn
    · next hout =>
      cases hn
      exact ⟨.covariant, hout⟩
    · cases hn

theorem toVariance_text {v : Variance} {w : Text} (hw : v.Written w) :
    toVariance (.text w) = .value (.variance v) := by
  rw [toVariance, making]
  dsimp only
  rw [hw]
  cases v <;> rfl

/-- **No word for a variance has anything but letters in it.** -/
theorem Variance.Written.all {v : Variance} {w : Text} (hw : v.Written w) : w.all isWordPart := by
  rw [List.all_eq_true]
  intro c hc
  have hlower : c.toLower ∈ v.keyword := hw ▸ List.mem_map_of_mem hc
  have hsmall : v.keyword.all fun d => 97 ≤ d.toNat ∧ d.toNat ≤ 122 := by cases v <;> decide
  have hd := of_decide_eq_true (List.all_eq_true.1 hsmall _ hlower)
  rw [isWordPart_iff, isWordStart_iff]
  have := (toLower_eq_iff hd).1 rfl
  omega

end GrammarGraph.CSharp
