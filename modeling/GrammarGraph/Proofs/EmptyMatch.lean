import GrammarGraph.Proofs.Iteration
import GrammarGraph.Proofs.MatchLength

/-!
# Proofs/EmptyMatch — a pattern that is not reported can be repeated

    compiling ──▸ "can match the empty string"         no record ──▸ every round shortens the text

A pattern is reported if the library of regular expressions knows that the minimum of its matches is
zero.  As no match is shorter than the minimum, every match of a pattern that is not reported takes
something, and a repetition of it ends where it does not match.

The library must know a minimum for that.  Where it knows none nothing is reported, and if the
pattern then matches the empty text all the same, nothing warns of it: of `(?:a|[a&&b])*` no minimum
is known, since the second branch has no match.

* `readPattern_eq_ok_iff` — what compiling a pattern leads to.
* `empty_match_reported` — with any library, a pattern that matches the empty text is reported, and
  a repetition of one that is not reported succeeds on every text, if a minimum is known of all that
  matches.
-/

namespace GrammarGraph

open Evaluation

variable {α : Type} {s s' t : Session α} {p : Pattern} {x y : Text} {r : Parsed α}
  {source : String} {options : Pattern.Options} {library : Pattern.Library}

/-! ## Compiling -/

namespace Pattern

/-- What is logged of a pattern that is suspected of matching the empty text. -/
def emptyMatchRecord (source : String) : LogRecord :=
  ⟨.debug, "pattern " ++ Text.quoteString source ++ " can match the empty string"⟩

/-- **What is logged of a pattern when it is compiled**, by the minimum of its matches. -/
def records (source : String) (minimum : Option ℕ) : List LogRecord :=
  if minimum = some 0 then [emptyMatchRecord source] else []

end Pattern

namespace Expr

/-- A pattern is reported before it is compiled. -/
theorem readPattern_of_read? (hlogging : s.logging) {e : library.Expression}
    (he : library.read? options source = some e) :
    readPattern library source options s =
      some ((library.compile? e).elim (.error (.uncompilablePattern source))
          fun matcher => .ok ⟨source, library.search matcher⟩,
        { s with log := s.log ++ Pattern.records source (library.minimumLength? e) }) := by
  rw [readPattern, he]
  by_cases hmin : library.minimumLength? e = some 0 <;>
    cases hcompile : library.compile? e
  all_goals
    simp only [hcompile, Pattern.records, hmin, Run.log, beq_self_eq_true, beq_iff_eq, if_true,
      if_false, Run.modify_bind, if_pos hlogging, List.append_nil, Option.elim]
    rfl

/-- **A pattern is compiled if it is well formed and not too large**, and its records are logged. -/
theorem readPattern_eq_ok_iff (hlogging : s.logging) :
    readPattern library source options s = some (.ok p, s') ↔
      ∃ e matcher, library.read? options source = some e ∧ library.compile? e = some matcher ∧
        p = ⟨source, library.search matcher⟩ ∧
        s' = { s with log := s.log ++ Pattern.records source (library.minimumLength? e) } := by
  cases he : library.read? options source with
  | none =>
    rw [readPattern, he]
    constructor
    · rintro ⟨⟩
    · rintro ⟨_, _, ⟨⟩, -⟩
  | some e =>
    rw [readPattern_of_read? hlogging he]
    cases hcompile : library.compile? e with
    | none =>
      constructor
      · rintro ⟨⟩
      · rintro ⟨_, _, ⟨⟩, hsome, -⟩
        cases hcompile.symm.trans hsome
    | some matcher =>
      constructor
      · rintro ⟨⟩
        exact ⟨e, matcher, rfl, hcompile, rfl, rfl⟩
      · rintro ⟨_, _, ⟨⟩, hsome, rfl, rfl⟩
        cases hcompile.symm.trans hsome
        rfl

end Expr

/-! ## Repeating -/

namespace Parser

variable {id : NodeId} {v : Output α}

/-- **A pattern replies on every text** with what it matches. -/
theorem replies_pattern_iff : (Parser.pattern id p : Parser α).Replies s x r ↔
    r = (match p.match? x with
      | some (matched, y) => .ok (.text matched, y)
      | none => .error (.mismatch p.label (Text.preview x))) := by
  rw [Replies]
  simp only [parse]
  cases p.match? x <;> exact attains_pure_iff

theorem replies_pattern_ok_iff : (Parser.pattern id p : Parser α).Replies s x (.ok (v, y)) ↔
    ∃ matched, p.match? x = some (matched, y) ∧ v = .text matched := by
  rw [replies_pattern_iff]
  obtain _ | ⟨matched, z⟩ := p.match? x
  · exact ⟨nofun, nofun⟩
  · constructor
    · rintro ⟨⟩
      exact ⟨matched, rfl, rfl⟩
    · rintro ⟨_, ⟨⟩, rfl⟩
      rfl

theorem replies_pattern_error_iff {e : ParseError} :
    (Parser.pattern id p : Parser α).Replies s x (.error e) ↔
      p.match? x = none ∧ e = .mismatch p.label (Text.preview x) := by
  rw [replies_pattern_iff]
  cases p.match? x <;> simp

/-- **A pattern that never matches the empty text shortens every text that it matches.** -/
theorem shortens_of_replies_pattern (hp : ∀ x y, p.match? x ≠ some ([], y))
    (h : (Parser.pattern id p : Parser α).Replies s x (.ok (v, y))) : Shortens x y := by
  obtain ⟨matched, hmatch, -⟩ := replies_pattern_ok_iff.1 h
  obtain _ | ⟨c, matched⟩ := matched
  · exact absurd hmatch (hp x y)
  · rw [← Pattern.append_of_match? hmatch]
    rw [Shortens, List.cons_append, List.length_cons, List.length_append]
    omega

/-- **The repetition of such a pattern succeeds on every text**, and ends where the pattern does not
match. -/
theorem exists_replies_star_pattern (hp : ∀ x y, p.match? x ≠ some ([], y)) (s : Session α)
    (k id : NodeId) (x : Text) :
    ∃ vs y, Takes s (.pattern id p) Shortens vs x y ∧ p.match? y = none ∧
      ∀ r, (Parser.star k (.pattern id p)).Replies s x r ↔ r = .ok (.list vs, y) := by
  have hs : Settled s (.pattern id p) := .pattern id p
  have hrounds (vs : List (Output α)) (y : Text) (_ : Takes s (.pattern id p) Shortens vs x y) :
      ∃ r, (Parser.pattern id p).Replies s y r := ⟨_, replies_pattern_iff.2 rfl⟩
  obtain ⟨e | ⟨w, y⟩, h⟩ := exists_replies_star hs k hrounds
  · obtain ⟨vs, y, v, -, hstall, -⟩ := (replies_star_error_iff hs).1 h
    exact absurd (shortens_of_replies_pattern hp hstall) (Nat.lt_irrefl _)
  · obtain ⟨vs, e, rfl, htakes, he⟩ := (replies_star_ok_iff hs).1 h
    refine ⟨vs, y, htakes, (replies_pattern_error_iff.1 he).1, fun r => ⟨fun hr => ?_, ?_⟩⟩
    · exact ((hs.star k).steady x).unique hr h
    · rintro rfl
      exact h

end Parser

/-! ## Reporting -/

/-- **A pattern that matches the empty text is reported when it is compiled**, and its minimum is
zero; and if nothing is reported, a repetition of the pattern succeeds on every text, and ends where
the pattern does not match.  This needs a minimum of every pattern that matches at all: nothing is
reported of a pattern without one. -/
theorem empty_match_reported {Matches : library.Expression → Text → Text → Prop}
    (hsound : library.Sound Matches) (hlogging : s.logging)
    (hread : Expr.readPattern library source options s = some (.ok p, s')) :
    ∃ e, library.read? options source = some e ∧
      (library.minimumLength? e ≠ some 0 → s'.log = s.log) ∧
      ((library.minimumLength? e = none → ∀ x, p.match? x = none) →
        ((∃ (t : Session α) (id : NodeId) (x y : Text),
            (Parser.pattern id p).Replies t x (.ok (.text [], y))) →
          library.minimumLength? e = some 0 ∧ s'.log = s.log ++ [Pattern.emptyMatchRecord source]) ∧
        (s'.log = s.log → ∀ (t : Session α) (k id : NodeId) (x : Text),
          ∃ vs y, Takes t (.pattern id p) Shortens vs x y ∧ p.match? y = none ∧
            ∀ r, (Parser.star k (.pattern id p)).Replies t x r ↔ r = .ok (.list vs, y))) := by
  obtain ⟨e, matcher, he, hcompile, rfl, rfl⟩ := (Expr.readPattern_eq_ok_iff hlogging).1 hread
  refine ⟨e, he, fun hmin => ?_, fun hknown => ?_⟩
  · rw [Pattern.records, if_neg hmin, List.append_nil]
  have hempty {x y : Text} (h : Pattern.match? ⟨source, library.search matcher⟩ x = some ([], y)) :
      library.minimumLength? e = some 0 := by
    obtain ⟨m, hmin⟩ : ∃ m, library.minimumLength? e = some m :=
      Option.ne_none_iff_exists'.1 fun hnone => by cases (hknown hnone x).symm.trans h
    obtain ⟨n, hsearch, hcut⟩ := Option.map_eq_some_iff.1 h
    have hmatches := (hsound.found hcompile hsearch).2
    rw [(Prod.mk.inj hcut).1] at hmatches
    rw [hmin, Nat.le_zero.1 (hsound.bounded hmin hmatches)]
  constructor
  · rintro ⟨t, id, x, y, h⟩
    obtain ⟨_, hmatch, ⟨⟩⟩ := Parser.replies_pattern_ok_iff.1 h
    exact ⟨hempty hmatch, by rw [Pattern.records, if_pos (hempty hmatch)]⟩
  · intro hlog t k id x
    refine Parser.exists_replies_star_pattern (fun x y hmatch => ?_) t k id x
    rw [Pattern.records, if_pos (hempty hmatch)] at hlog
    exact List.cons_ne_nil _ _ (List.append_right_eq_self.1 hlog)

/-- `a*` matches the empty text, and is reported; `a+` is not, and its repetition ends where there
is no `a`. -/
theorem empty_match_reported_rounds :
    let s : Session Empty := { logging := true }
    let s' : Session Empty := { logging := true, log := [Pattern.emptyMatchRecord "a*"] }
    let some₀ : Regex := .repetition 0 none true (.literal ['a'])
    let some₁ : Regex := .repetition 1 none true (.literal ['a'])
    Expr.readPattern Regex.library "a*" {} s = some (.ok (.ofRegex "a*" some₀), s') ∧
      (Parser.pattern 0 (.ofRegex "a*" some₀)).Replies s ['b'] (.ok (.text [], ['b'])) ∧
      Regex.library.minimumLength? some₀ = some 0 ∧
      Expr.readPattern Regex.library "a+" {} s = some (.ok (.ofRegex "a+" some₁), s) ∧
      ∃ vs y, Takes s (.pattern 0 (.ofRegex "a+" some₁)) Shortens vs ['a', 'a', 'b'] y ∧
        Pattern.match? (.ofRegex "a+" some₁) y = none ∧
        (Parser.star 1 (.pattern 0 (.ofRegex "a+" some₁))).Replies s ['a', 'a', 'b']
          (.ok (.list vs, y)) := by
  intro s s' some₀ some₁
  have hread₀ : Regex.library.read? {} "a*" = some some₀ := by
    change Pattern.read? _ _ = _
    decide +kernel
  have hread₁ : Regex.library.read? {} "a+" = some some₁ := by
    change Pattern.read? _ _ = _
    decide +kernel
  have hcompiled₀ : Expr.readPattern Regex.library "a*" {} s =
      some (.ok (.ofRegex "a*" some₀), s') :=
    (Expr.readPattern_eq_ok_iff rfl).2 ⟨_, _, hread₀, rfl, rfl, rfl⟩
  have hcompiled₁ : Expr.readPattern Regex.library "a+" {} s =
      some (.ok (.ofRegex "a+" some₁), s) :=
    (Expr.readPattern_eq_ok_iff rfl).2 ⟨_, _, hread₁, rfl, rfl, rfl⟩
  have hempty : (Parser.pattern 0 (.ofRegex "a*" some₀) : Parser Empty).Replies s ['b']
      (.ok (.text [], ['b'])) := Parser.replies_pattern_ok_iff.2 ⟨[], by decide +kernel, rfl⟩
  obtain ⟨e, he, -, h⟩ := empty_match_reported Regex.library_sound rfl hcompiled₀
  obtain rfl := Option.some.inj (hread₀.symm.trans he)
  obtain ⟨hmin, -⟩ := (h nofun).1 ⟨s, 0, _, _, hempty⟩
  obtain ⟨e, he, -, h⟩ := empty_match_reported Regex.library_sound rfl hcompiled₁
  obtain rfl := Option.some.inj (hread₁.symm.trans he)
  obtain ⟨vs, y, htakes, hend, hreplies⟩ := (h nofun).2 rfl s 1 0 ['a', 'a', 'b']
  exact ⟨hcompiled₀, hempty, hmin, hcompiled₁, vs, y, htakes, hend, (hreplies _).2 rfl⟩

/-- **A branch that matches nothing hides that the pattern matches the empty text**: its minimum is
not known, nothing is reported, and the repetition fails. -/
theorem empty_match_unreported :
    let s : Session Empty := { logging := true }
    ∃ e p, Regex.library.read? {} "(?:a|[a&&b])*" = some e ∧
      Regex.library.minimumLength? e = none ∧
      Expr.readPattern Regex.library "(?:a|[a&&b])*" {} s = some (.ok p, s) ∧
      (Parser.pattern 0 p).Replies s [] (.ok (.text [], [])) ∧
      (Parser.star 1 (.pattern 0 p)).Replies s []
        (.error (.definition (NodeId.label 1 Unary.star.tag) (Text.preview []) .zeroProgress)) := by
  intro s
  let e : Regex := .repetition 0 none true (.alt (.literal ['a']) .nothing)
  have he : Regex.library.read? {} "(?:a|[a&&b])*" = some e := by
    change Pattern.read? _ _ = _
    decide +kernel
  have hread : Expr.readPattern Regex.library "(?:a|[a&&b])*" {} s =
      some (.ok (.ofRegex "(?:a|[a&&b])*" e), s) :=
    (Expr.readPattern_eq_ok_iff rfl).2 ⟨e, e, he, rfl, rfl, rfl⟩
  have hempty : (Parser.pattern 0 (.ofRegex "(?:a|[a&&b])*" e) : Parser Empty).Replies s []
      (.ok (.text [], [])) := Parser.replies_pattern_ok_iff.2 ⟨[], by decide +kernel, rfl⟩
  exact ⟨e, _, he, rfl, hread, hempty,
    (Parser.replies_star_error_iff (.pattern _ _)).2 ⟨[], [], _, .none, hempty, rfl⟩⟩

end GrammarGraph
