import GrammarGraph.Proofs.Replies
import GrammarGraph.Proofs.Repetition

/-!
# Proofs/Iteration — counted and unbounded repetitions go through the same rounds

    x ──v₀──▸ y₁ ──v₁──▸ ⋯ ──▸ y ──▸ ✗          `star` ends here, `exactly` fails
    x ──v₀──▸ y₁ ──v₁──▸ ⋯ ──▸ y ──v──▸ y ⋯     `star` fails here, `exactly` goes on

In a settled grammar the rounds of a repetition are a relation between texts (`Takes`): the
sessions that `Taken` threads through differ in their logs only.  Both repetitions are told by it,
and differ in what ends them.

* `exactly_composes` — a counted repetition is one after another, and agrees with an unbounded one
  up to where that ends, as long as there is room for its outputs.
* `repetition_of_nothing_diagnosed` — the unbounded repetition of what may match nothing is stopped
  where the repetition of the part comes to its end.
-/

namespace GrammarGraph

open Evaluation

variable {α : Type} {s σ τ : Session α} {p : Parser α} {goesOn : Text → Text → Prop}
  {x y z : Text} {us vs ws : List (Output α)} {v w : Output α} {r : Parsed α} {e : ParseError}

/-! ## Rounds without sessions -/

/-- **Rounds of a parser that succeed one after another**, with their outputs.  `goesOn` is what
must hold of the texts before and after a round. -/
inductive Takes (s : Session α) (p : Parser α) (goesOn : Text → Text → Prop) :
    List (Output α) → Text → Text → Prop
  | none {x : Text} : Takes s p goesOn [] x x
  | more {v : Output α} {vs : List (Output α)} {x y z : Text} (h : p.Replies s x (.ok (v, y)))
      (hgo : goesOn x y) (hs : Takes s p goesOn vs y z) : Takes s p goesOn (v :: vs) x z

namespace Takes

theorem mono {goesOn' : Text → Text → Prop} (hgo : ∀ x y, goesOn x y → goesOn' x y)
    (h : Takes s p goesOn vs x y) : Takes s p goesOn' vs x y := by
  induction h with
  | none => exact .none
  | more h hxy _ ih => exact .more h (hgo _ _ hxy) ih

/-- **The rounds of a concatenation** are the rounds of one list and then those of the other. -/
theorem append_iff :
    Takes s p goesOn (us ++ ws) x z ↔ ∃ y, Takes s p goesOn us x y ∧ Takes s p goesOn ws y z := by
  induction us generalizing x with
  | nil =>
    constructor
    · exact fun h => ⟨x, .none, h⟩
    · rintro ⟨y, hus, hws⟩
      cases hus
      exact hws
  | cons u us ih =>
    constructor
    · intro h
      cases h with
      | more h hgo hs =>
        obtain ⟨y, hus, hws⟩ := ih.1 hs
        exact ⟨y, .more h hgo hus, hws⟩
    · rintro ⟨y, hus, hws⟩
      cases hus with
      | more h hgo hs => exact .more h hgo (ih.2 ⟨y, hs, hws⟩)

/-- The first of the rounds. -/
theorem take (h : Takes s p goesOn vs x z) (k : Nat) :
    ∃ y, Takes s p goesOn (vs.take k) x y ∧ Takes s p goesOn (vs.drop k) y z :=
  append_iff.1 ((List.take_append_drop k vs).symm ▸ h)

/-- **A round that leaves its text as it was can be repeated.** -/
theorem replicate (h : p.Replies s y (.ok (v, y))) (k : Nat) :
    Takes s p (fun _ _ => True) (.replicate k v) y y := by
  induction k with
  | zero => exact .none
  | succ k ih => exact .more h trivial ih

end Takes

/-! ## Rounds in a session

A session in which something more has been logged replies as the session itself. -/

theorem Parser.Answers.replies (hs : Settled s p) (hσ : s.Logged σ) (h : p.Answers x σ r τ) :
    p.Replies s x r ∧ s.Logged τ := by
  obtain ⟨n, h⟩ := h
  obtain ⟨hτ, hr⟩ := hs.steady x n σ r τ hσ h
  exact ⟨hr.exists_eq_some, hτ⟩

theorem Parser.Replies.answers (hs : Settled s p) (hσ : s.Logged σ) (h : p.Replies s x r) :
    ∃ τ, p.Answers x σ r τ ∧ s.Logged τ := by
  obtain ⟨n, hn⟩ := (hs.steady x).attains_iff.1 h
  obtain ⟨_, τ, hrun, hτ, rfl⟩ := hn n (Nat.le_refl n) σ hσ
  exact ⟨τ, ⟨n, hrun⟩, hτ⟩

theorem Taken.takes (hs : Settled s p) (hσ : s.Logged σ)
    (h : Taken p.Answers goesOn vs x σ y τ) : Takes s p goesOn vs x y ∧ s.Logged τ := by
  induction h with
  | none => exact ⟨.none, hσ⟩
  | more h hgo _ ih =>
    obtain ⟨hr, hτ⟩ := h.replies hs hσ
    obtain ⟨htakes, hυ⟩ := ih hτ
    exact ⟨.more hr hgo htakes, hυ⟩

theorem Takes.taken (hs : Settled s p) (hσ : s.Logged σ) (h : Takes s p goesOn vs x y) :
    ∃ τ, Taken p.Answers goesOn vs x σ y τ ∧ s.Logged τ := by
  induction h generalizing σ with
  | none => exact ⟨σ, .none, hσ⟩
  | more h hgo _ ih =>
    obtain ⟨τ, hr, hτ⟩ := h.answers hs hσ
    obtain ⟨υ, htaken, hυ⟩ := ih hτ
    exact ⟨υ, .more hr hgo htaken, hυ⟩

/-! ## Replies of repetitions -/

namespace Parser

variable {id : NodeId} {count : Count}

/-- An unbounded repetition succeeds if a round fails, after rounds that have shortened the text. -/
theorem replies_star_ok_iff (hs : Settled s p) :
    (Parser.star id p).Replies s x (.ok (w, y)) ↔
      ∃ vs e, w = .list vs ∧ Takes s p Shortens vs x y ∧ p.Replies s y (.error e) := by
  rw [replies_iff]
  constructor
  · rintro ⟨υ, h⟩
    obtain ⟨vs, rfl, τ, e, htaken, he⟩ := star_answers_ok_iff.1 h
    obtain ⟨htakes, hτ⟩ := htaken.takes hs ⟨s.log, rfl⟩
    exact ⟨vs, e, rfl, htakes, (he.replies hs hτ).1⟩
  · rintro ⟨vs, e, rfl, htakes, he⟩
    obtain ⟨τ, htaken, hτ⟩ := htakes.taken hs ⟨s.log, rfl⟩
    obtain ⟨υ, he, -⟩ := he.answers hs hτ
    exact ⟨υ, star_answers_ok_iff.2 ⟨vs, rfl, τ, e, htaken, he⟩⟩

/-- It fails if a round leaves its text as it was. -/
theorem replies_star_error_iff (hs : Settled s p) :
    (Parser.star id p).Replies s x (.error e) ↔
      ∃ vs y v, Takes s p Shortens vs x y ∧ p.Replies s y (.ok (v, y)) ∧
        e = .definition (id.label Unary.star.tag) (Text.preview y) .zeroProgress := by
  rw [replies_iff]
  constructor
  · rintro ⟨υ, h⟩
    obtain ⟨y, ρ, ⟨vs, τ, v, htaken, hv⟩, rfl, -⟩ := star_answers_error_iff.1 h
    obtain ⟨htakes, hτ⟩ := htaken.takes hs ⟨s.log, rfl⟩
    exact ⟨vs, y, v, htakes, (hv.replies hs hτ).1, rfl⟩
  · rintro ⟨vs, y, v, htakes, hv, rfl⟩
    obtain ⟨τ, htaken, hτ⟩ := htakes.taken hs ⟨s.log, rfl⟩
    obtain ⟨ρ, hv, -⟩ := hv.answers hs hτ
    obtain ⟨log, hlog⟩ := Run.exists_log_eq .debug
      (id.label Unary.star.tag ++ " made no progress on " ++ Text.label y) ρ
    exact ⟨_, star_answers_error_iff.2 ⟨y, ρ, ⟨vs, τ, v, htaken, hv⟩, rfl, hlog⟩⟩

/-! A counted repetition in a session, at any depth. -/

theorem fits_of_exactly_answers (h : (Parser.exactly id count p).Answers x σ r τ) :
    count.Fits := by
  obtain ⟨n, h⟩ := h
  rw [parse_exactly] at h
  split at h
  · assumption
  · cases h

theorem exactly_answers_ok_iff :
    (Parser.exactly id count p).Answers x σ (.ok (w, y)) τ ↔
      count.Fits ∧ ∃ vs, w = .list vs ∧ vs.length = count.rounds ∧
        Taken p.Answers (fun _ _ => True) vs x σ y τ := by
  constructor
  · intro h
    have hfits := fits_of_exactly_answers h
    obtain ⟨n, h⟩ := h
    rw [parse_exactly, if_pos hfits] at h
    obtain ⟨result, τ, hrounds, h⟩ := Run.bind_eq_some_iff.1 h
    obtain _ | ⟨vs, y⟩ := result
    · cases (Run.pure_eq_some_iff.1 h).1
    · obtain ⟨⟨⟩, rfl⟩ := Run.pure_eq_some_iff.1 h
      obtain ⟨hlength, htaken⟩ := countedRounds_eq_ok_iff.1 hrounds
      exact ⟨hfits, vs, rfl, hlength, taken_answers_iff.2 ⟨n, htaken⟩⟩
  · rintro ⟨hfits, vs, rfl, hlength, htaken⟩
    obtain ⟨n, htaken⟩ := taken_answers_iff.1 htaken
    refine ⟨n, ?_⟩
    rw [parse_exactly, if_pos hfits]
    exact Run.bind_of_eq_some (countedRounds_eq_ok_iff.2 ⟨hlength, htaken⟩)

theorem exactly_answers_error_iff :
    (Parser.exactly id count p).Answers x σ (.error e) τ ↔
      count.Fits ∧ ∃ vs y ρ c, vs.length < count.rounds ∧
        Taken p.Answers (fun _ _ => True) vs x σ y ρ ∧ p.Answers y ρ (.error c) τ ∧
        e = c.within (id.label (Unary.exactly count.rounds).tag) y := by
  constructor
  · intro h
    have hfits := fits_of_exactly_answers h
    obtain ⟨n, h⟩ := h
    rw [parse_exactly, if_pos hfits] at h
    obtain ⟨result, τ, hrounds, h⟩ := Run.bind_eq_some_iff.1 h
    obtain e | ⟨_, _⟩ := result
    · obtain ⟨⟨⟩, rfl⟩ := Run.pure_eq_some_iff.1 h
      obtain ⟨vs, y, ρ, c, hlt, htaken, hc, rfl⟩ := countedRounds_eq_error_iff.1 hrounds
      exact ⟨hfits, vs, y, ρ, c, hlt, taken_answers_iff.2 ⟨n, htaken⟩, ⟨n, hc⟩, rfl⟩
    · cases (Run.pure_eq_some_iff.1 h).1
  · rintro ⟨hfits, vs, y, ρ, c, hlt, htaken, hc, rfl⟩
    obtain ⟨n, htaken, hc⟩ := exists_depth_of_taken htaken hc
    refine ⟨n, ?_⟩
    rw [parse_exactly, if_pos hfits]
    exact Run.bind_of_eq_some (countedRounds_eq_error_iff.2 ⟨vs, y, ρ, c, hlt, htaken, hc, rfl⟩)

/-- **A counted repetition succeeds if all of its rounds do**, and there is room for what they
give. -/
theorem replies_exactly_ok_iff (hs : Settled s p) :
    (Parser.exactly id count p).Replies s x (.ok (w, y)) ↔
      count.Fits ∧ ∃ vs, w = .list vs ∧ vs.length = count.rounds ∧
        Takes s p (fun _ _ => True) vs x y := by
  rw [replies_iff]
  constructor
  · rintro ⟨υ, h⟩
    obtain ⟨hfits, vs, rfl, hlength, htaken⟩ := exactly_answers_ok_iff.1 h
    exact ⟨hfits, vs, rfl, hlength, (htaken.takes hs ⟨s.log, rfl⟩).1⟩
  · rintro ⟨hfits, vs, rfl, hlength, htakes⟩
    obtain ⟨τ, htaken, -⟩ := htakes.taken hs ⟨s.log, rfl⟩
    exact ⟨τ, exactly_answers_ok_iff.2 ⟨hfits, vs, rfl, hlength, htaken⟩⟩

/-- **A counted repetition fails as the first of its rounds that does**, if there is room for what
the rounds could have given. -/
theorem replies_exactly_error_iff (hs : Settled s p) :
    (Parser.exactly id count p).Replies s x (.error e) ↔
      count.Fits ∧ ∃ vs y c, vs.length < count.rounds ∧ Takes s p (fun _ _ => True) vs x y ∧
        p.Replies s y (.error c) ∧ e = c.within (id.label (Unary.exactly count.rounds).tag) y := by
  rw [replies_iff]
  constructor
  · rintro ⟨υ, h⟩
    obtain ⟨hfits, vs, y, ρ, c, hlt, htaken, hc, rfl⟩ := exactly_answers_error_iff.1 h
    obtain ⟨htakes, hρ⟩ := htaken.takes hs ⟨s.log, rfl⟩
    exact ⟨hfits, vs, y, c, hlt, htakes, (hc.replies hs hρ).1, rfl⟩
  · rintro ⟨hfits, vs, y, c, hlt, htakes, hc, rfl⟩
    obtain ⟨ρ, htaken, hρ⟩ := htakes.taken hs ⟨s.log, rfl⟩
    obtain ⟨τ, hc, -⟩ := hc.answers hs hρ
    exact ⟨τ, exactly_answers_error_iff.2 ⟨hfits, vs, y, ρ, c, hlt, htaken, hc, rfl⟩⟩

/-- **Without room a counted repetition does not reply at all**, whatever its part would do. -/
theorem fits_of_replies_exactly (h : (Parser.exactly id count p).Replies s x r) : count.Fits :=
  let ⟨_, h⟩ := replies_iff.1 h
  fits_of_exactly_answers h

end Parser

/-! ## One of the two -/

/-- **So many rounds succeed, or one of them is the first to fail**, if all of them reply. -/
theorem takes_or_fails (count : Nat)
    (h : ∀ vs y, vs.length < count → Takes s p (fun _ _ => True) vs x y → ∃ r, p.Replies s y r) :
    (∃ vs y, vs.length = count ∧ Takes s p (fun _ _ => True) vs x y) ∨
      ∃ vs y c, vs.length < count ∧ Takes s p (fun _ _ => True) vs x y ∧
        p.Replies s y (.error c) := by
  induction count generalizing x with
  | zero => exact .inl ⟨[], x, rfl, .none⟩
  | succ count ih =>
    obtain ⟨e | ⟨v, y⟩, hfirst⟩ := h [] x (Nat.succ_pos count) .none
    · exact .inr ⟨[], x, e, Nat.succ_pos count, .none, hfirst⟩
    · have hrest := ih fun vs z hlt hs => h (v :: vs) z (Nat.succ_lt_succ hlt)
        (.more hfirst trivial hs)
      obtain ⟨vs, z, rfl, htakes⟩ | ⟨vs, z, c, hlt, htakes, hc⟩ := hrest
      · exact .inl ⟨v :: vs, z, rfl, .more hfirst trivial htakes⟩
      · exact .inr ⟨v :: vs, z, c, Nat.succ_lt_succ hlt, .more hfirst trivial htakes, hc⟩

namespace Parser

variable {count : Count}

/-- A counted repetition for which there is room replies if its rounds do. -/
theorem exists_replies_exactly (hs : Settled s p) (id : NodeId) (hfits : count.Fits)
    (h : ∀ vs y, vs.length < count.rounds → Takes s p (fun _ _ => True) vs x y →
      ∃ r, p.Replies s y r) : ∃ r, (Parser.exactly id count p).Replies s x r := by
  obtain ⟨vs, y, hlength, htakes⟩ | ⟨vs, y, c, hlt, htakes, hc⟩ := takes_or_fails count.rounds h
  · exact ⟨_, (replies_exactly_ok_iff hs).2 ⟨hfits, vs, rfl, hlength, htakes⟩⟩
  · exact ⟨_, (replies_exactly_error_iff hs).2 ⟨hfits, vs, y, c, hlt, htakes, hc, rfl⟩⟩

/-- An unbounded repetition replies if its rounds do. -/
theorem exists_replies_star (hs : Settled s p) (id : NodeId)
    (h : ∀ vs y, Takes s p Shortens vs x y → ∃ r, p.Replies s y r) :
    ∃ r, (Parser.star id p).Replies s x r := by
  have hanswers vs y τ (htaken : Taken p.Answers Shortens vs x s y τ) :
      ∃ r ρ, p.Answers y τ r ρ := by
    obtain ⟨htakes, hτ⟩ := htaken.takes hs ⟨s.log, rfl⟩
    obtain ⟨r, hr⟩ := h vs y htakes
    obtain ⟨ρ, hr, -⟩ := hr.answers hs hτ
    exact ⟨r, ρ, hr⟩
  obtain ⟨vs, y, υ, τ, e, htaken, he⟩ | ⟨y, υ, vs, τ, v, htaken, hv⟩ :=
    exists_failsAfter_or_stallsAt hanswers
  · obtain ⟨htakes, hτ⟩ := htaken.takes hs ⟨s.log, rfl⟩
    exact ⟨_, (replies_star_ok_iff hs).2 ⟨vs, e, rfl, htakes, (he.replies hs hτ).1⟩⟩
  · obtain ⟨htakes, hτ⟩ := htaken.takes hs ⟨s.log, rfl⟩
    exact ⟨_, (replies_star_error_iff hs).2 ⟨vs, y, v, htakes, (hv.replies hs hτ).1, rfl⟩⟩

/-! ## Both repetitions -/

/-- **A counted repetition is one repetition after another**, if there is room for the outputs of
both. -/
theorem replies_exactly_add_iff (hs : Settled s p) (i j k : NodeId) (m n size : Nat) :
    (Parser.exactly i ⟨m + n, size⟩ p).Replies s x (.ok (w, z)) ↔
      Count.Fits ⟨m + n, size⟩ ∧ ∃ us ws y, w = .list (us ++ ws) ∧
        (Parser.exactly j ⟨m, size⟩ p).Replies s x (.ok (.list us, y)) ∧
        (Parser.exactly k ⟨n, size⟩ p).Replies s y (.ok (.list ws, z)) := by
  simp only [replies_exactly_ok_iff hs]
  refine and_congr_right fun hfits => ?_
  have hleft : Count.Fits ⟨m, size⟩ := hfits.of_le (Nat.le_add_right m n)
  have hright : Count.Fits ⟨n, size⟩ := hfits.of_le (Nat.le_add_left n m)
  constructor
  · rintro ⟨vs, rfl, hlength, htakes⟩
    obtain ⟨y, hus, hws⟩ := htakes.take m
    exact ⟨vs.take m, vs.drop m, y, by rw [List.take_append_drop],
      ⟨hleft, _, rfl, by rw [List.length_take]; omega, hus⟩,
      hright, _, rfl, by rw [List.length_drop]; omega, hws⟩
  · rintro ⟨us, ws, y, rfl, ⟨-, _, ⟨⟩, rfl, hus⟩, -, _, ⟨⟩, rfl, hws⟩
    exact ⟨_, rfl, List.length_append, Takes.append_iff.2 ⟨y, hus, hws⟩⟩

/-- The first of some rounds are those of a counted repetition. -/
theorem exists_replies_exactly_take (hs : Settled s p) (h : Takes s p goesOn vs x y) (j : NodeId)
    (hfits : count.Fits) (hk : count.rounds ≤ vs.length) :
    ∃ z, (Parser.exactly j count p).Replies s x (.ok (.list (vs.take count.rounds), z)) ∧
      (count.rounds = vs.length → z = y) := by
  obtain ⟨z, hfirst, hrest⟩ := h.take count.rounds
  refine ⟨z, (replies_exactly_ok_iff hs).2
    ⟨hfits, _, rfl, ?_, hfirst.mono fun _ _ _ => trivial⟩, fun hall => ?_⟩
  · rw [List.length_take, Nat.min_eq_left hk]
  · rw [hall, List.drop_length] at hrest
    cases hrest
    rfl

/-- **Counted repetitions compose, and agree with an unbounded one**: `m + n` rounds are `m` rounds
and then `n` on what is left.  If they do not succeed, they fail as the first of them that does, in
the context of the repetition; and they do one of the two if their rounds reply.

Where an unbounded repetition succeeds, a counted one succeeds with as many of its outputs as there
are rounds, and fails on what that has left if there are more.  Where it is stopped by a round that
leaves its text as it was, a counted one succeeds with any number of rounds, those that are more all
with the output of that round.

All of this where there is room for the outputs.  A counted repetition makes room for as many as it
has rounds, and where that is more than any list could be it neither succeeds nor fails. -/
theorem exactly_composes (hs : Settled s p) (x : Text) :
    (∀ i j k m n size w z, (Parser.exactly i ⟨m + n, size⟩ p).Replies s x (.ok (w, z)) ↔
      Count.Fits ⟨m + n, size⟩ ∧ ∃ us ws y, w = .list (us ++ ws) ∧
        (Parser.exactly j ⟨m, size⟩ p).Replies s x (.ok (.list us, y)) ∧
        (Parser.exactly k ⟨n, size⟩ p).Replies s y (.ok (.list ws, z))) ∧
    (∀ i (n : Count) e, (Parser.exactly i n p).Replies s x (.error e) ↔
      n.Fits ∧ ∃ us y c, us.length < n.rounds ∧ Takes s p (fun _ _ => True) us x y ∧
        p.Replies s y (.error c) ∧ e = c.within (NodeId.label i (Unary.exactly n.rounds).tag) y) ∧
    (∀ i (n : Count), (∀ us y, us.length < n.rounds → Takes s p (fun _ _ => True) us x y →
        ∃ r, p.Replies s y r) → ((∃ r, (Parser.exactly i n p).Replies s x r) ↔ n.Fits)) ∧
    (∀ i w r, (Parser.star i p).Replies s x (.ok (w, r)) →
      ∃ vs c, w = .list vs ∧ Takes s p Shortens vs x r ∧ p.Replies s r (.error c) ∧
        (∀ j (k : Count), k.Fits → k.rounds ≤ vs.length → ∃ y,
          (Parser.exactly j k p).Replies s x (.ok (.list (vs.take k.rounds), y)) ∧
            (k.rounds = vs.length → y = r)) ∧
        ∀ j (k : Count), k.Fits → vs.length < k.rounds → (Parser.exactly j k p).Replies s x
          (.error (c.within (NodeId.label j (Unary.exactly k.rounds).tag) r))) ∧
    (∀ i e, (Parser.star i p).Replies s x (.error e) →
      ∃ vs t v, e = .definition (NodeId.label i Unary.star.tag) (Text.preview t) .zeroProgress ∧
        Takes s p Shortens vs x t ∧ p.Replies s t (.ok (v, t)) ∧
        (∀ j (k : Count), k.Fits → k.rounds ≤ vs.length → ∃ y,
          (Parser.exactly j k p).Replies s x (.ok (.list (vs.take k.rounds), y)) ∧
            (k.rounds = vs.length → y = t)) ∧
        ∀ j (k : Count), k.Fits → vs.length ≤ k.rounds → (Parser.exactly j k p).Replies s x
          (.ok (.list (vs ++ .replicate (k.rounds - vs.length) v), t))) ∧
    ∀ i (n : Count) r, (Parser.exactly i n p).Replies s x r → n.Fits := by
  refine ⟨fun _ _ _ _ _ _ _ _ => replies_exactly_add_iff hs _ _ _ _ _ _,
    fun _ _ _ => replies_exactly_error_iff hs,
    fun i _ h => ⟨fun ⟨_, hr⟩ => fits_of_replies_exactly hr,
      fun hfits => exists_replies_exactly hs i hfits h⟩,
    ?_, ?_, fun _ _ _ => fits_of_replies_exactly⟩
  · intro i w r h
    obtain ⟨vs, c, rfl, htakes, hc⟩ := (replies_star_ok_iff hs).1 h
    refine ⟨vs, c, rfl, htakes, hc, fun j k => exists_replies_exactly_take hs htakes j,
      fun j k hfits hk => ?_⟩
    exact (replies_exactly_error_iff hs).2
      ⟨hfits, vs, r, c, hk, htakes.mono fun _ _ _ => trivial, hc, rfl⟩
  · intro i e h
    obtain ⟨vs, t, v, htakes, hv, rfl⟩ := (replies_star_error_iff hs).1 h
    refine ⟨vs, t, v, rfl, htakes, hv, fun j k => exists_replies_exactly_take hs htakes j,
      fun j k hfits hk => (replies_exactly_ok_iff hs).2 ⟨hfits, _, rfl, ?_, Takes.append_iff.2
        ⟨t, htakes.mono fun _ _ _ => trivial, .replicate hv _⟩⟩⟩
    rw [List.length_append, List.length_replicate]
    omega

/-- The second round of an optional `a` leaves its text as it was, and so does every other. -/
theorem exactly_composes_optional :
    let p : Parser Empty := .optional 2 (.literal 1 ['a'])
    let e : ParseError := .definition "star#3" ['b'] .zeroProgress
    Settled {} p ∧ (Parser.star 3 p).Replies {} ['a', 'b'] (.error e) ∧
      ∃ vs t v, e = .definition "star#3" (Text.preview t) .zeroProgress ∧
        ∀ j (k : Count), k.Fits → vs.length ≤ k.rounds →
          (Parser.exactly j k p).Replies {} ['a', 'b']
            (.ok (.list (vs ++ .replicate (k.rounds - vs.length) v), t)) := by
  intro p e
  have hsettled : Settled {} p := (Settled.literal 1 ['a']).optional 2
  have hstar : (Parser.star 3 p).Replies {} ['a', 'b'] (.error e) :=
    (replies_star_error_iff hsettled).2 ⟨[.present (.text ['a'])], ['b'], .absent,
      .more ⟨0, _, rfl⟩ (Nat.lt_succ_self 1) .none, ⟨0, _, rfl⟩, rfl⟩
  obtain ⟨vs, t, v, he, -, -, -, hlater⟩ := (exactly_composes hsettled _).2.2.2.2.1 3 e hstar
  exact ⟨hsettled, hstar, vs, t, v, he, hlater⟩

/-- More rounds than there is room for: the first of them fails, and so does one round by itself,
but all of them together do not reply. -/
theorem exactly_composes_not_without_room :
    let p : Parser Empty := .literal 0 ['a']
    let e : ParseError := .mismatch (Text.label ['a']) ['b']
    Settled {} p ∧ p.Replies {} ['b'] (.error e) ∧
      (Parser.exactly 1 ⟨1, 24⟩ p).Replies {} ['b'] (.error (e.within "repeat#1" ['b'])) ∧
      ∀ r, ¬(Parser.exactly 1 ⟨UInt64.size - 1, 24⟩ p).Replies {} ['b'] r := by
  intro p e
  have hsettled : Settled {} p := .literal 0 ['a']
  have hfails : p.Replies {} ['b'] (.error e) := ⟨0, _, rfl⟩
  exact ⟨hsettled, hfails, (replies_exactly_error_iff hsettled).2
    ⟨by decide, [], ['b'], e, Nat.zero_lt_one, .none, hfails, rfl⟩,
    fun _ h => absurd (fits_of_replies_exactly h) (by decide)⟩

end Parser

/-! ## Repetitions of what may match nothing -/

namespace Takes

theorem optional (hs : Settled s p) (k : NodeId) (h : Takes s p goesOn vs x y) :
    Takes s (.optional k p) goesOn (vs.map .present) x y := by
  induction h with
  | none => exact .none
  | more h hgo _ ih =>
    exact .more ((Parser.replies_optional_iff hs).2 (.inl ⟨_, _, h, rfl⟩)) hgo ih

/-- Rounds that shorten the text shorten it together, if there are any. -/
theorem eq_or_shortens (h : Takes s p Shortens vs x y) : y = x ∨ Shortens x y := by
  induction h with
  | none => exact .inl rfl
  | more _ hgo _ ih =>
    obtain rfl | hrest := ih
    · exact .inr hgo
    · exact .inr (Nat.lt_trans hrest hgo)

end Takes

namespace Parser

/-- **The repetition of a parser is stopped at this text**: it gets there by rounds that shorten the
text, and the next round leaves the text as it was. -/
def StuckAt (s : Session α) (id : NodeId) (p : Parser α) (x y : Text) : Prop :=
  (∃ vs v, Takes s p Shortens vs x y ∧ p.Replies s y (.ok (v, y))) ∧
    (Parser.star id p).Replies s x
      (.error (.definition (id.label Unary.star.tag) (Text.preview y) .zeroProgress))

/-- A repetition that gets to such a round fails. -/
theorem stuckAt_of_takes (hs : Settled s p) (id : NodeId) (h : Takes s p Shortens vs x y)
    (hv : p.Replies s y (.ok (v, y))) : StuckAt s id p x y :=
  ⟨⟨vs, v, h, hv⟩, (replies_star_error_iff hs).2 ⟨vs, y, v, h, hv, rfl⟩⟩

/-- An optional part never fails, so nothing ends its repetition. -/
theorem not_replies_star_optional_ok (hs : Settled s p) (j k : NodeId) :
    ¬(Parser.star j (.optional k p)).Replies s x (.ok (w, y)) := by
  intro h
  obtain ⟨_, _, -, -, he⟩ := (replies_star_ok_iff (hs.optional k)).1 h
  obtain ⟨_, _, -, ⟨⟩⟩ | ⟨_, -, ⟨⟩⟩ := (replies_optional_iff hs).1 he

/-- Where the part fails, an optional part takes nothing. -/
theorem stuckAt_optional_of_ok (hs : Settled s p) (i j k : NodeId)
    (h : (Parser.star i p).Replies s x (.ok (w, y))) : StuckAt s j (.optional k p) x y := by
  obtain ⟨vs, e, rfl, htakes, he⟩ := (replies_star_ok_iff hs).1 h
  exact stuckAt_of_takes (hs.optional k) j (htakes.optional hs k)
    ((replies_optional_iff hs).2 (.inr ⟨e, he, rfl⟩))

/-- Where a repetition has ended, it takes nothing more. -/
theorem stuckAt_star_of_ok (hs : Settled s p) (i j : NodeId)
    (h : (Parser.star i p).Replies s x (.ok (w, y))) : StuckAt s j (.star i p) x y := by
  obtain ⟨vs, e, rfl, htakes, he⟩ := (replies_star_ok_iff hs).1 h
  obtain rfl | hshort := htakes.eq_or_shortens
  · exact stuckAt_of_takes (hs.star i) j .none h
  · have hnothing : (Parser.star i p).Replies s y (.ok (.list [], y)) :=
      (replies_star_ok_iff hs).2 ⟨[], e, rfl, .none, he⟩
    exact stuckAt_of_takes (hs.star i) j (.more h hshort .none) hnothing

/-- **The repetition of what may match nothing is a defect, and is found where the repetition of the
part comes to its end.**  That of an optional part never succeeds: it is stopped at what the
repetition of the part has left, or where that is stopped itself.  So is the repetition of a
repetition that succeeds; if the inner one fails, the outer one recovers from it, and takes no
round. -/
theorem repetition_of_nothing_diagnosed (hs : Settled s p) (x : Text) (i j k : NodeId) :
    (∀ w r, ¬(Parser.star j (.optional k p)).Replies s x (.ok (w, r))) ∧
    (∀ w r, (Parser.star i p).Replies s x (.ok (w, r)) →
      StuckAt s j (.optional k p) x r ∧ StuckAt s j (.star i p) x r) ∧
    ∀ e, (Parser.star i p).Replies s x (.error e) →
      (Parser.star j (.star i p)).Replies s x (.ok (.list [], x)) ∧
      ∃ t, e = .definition (i.label Unary.star.tag) (Text.preview t) .zeroProgress ∧
        StuckAt s i p x t ∧ StuckAt s j (.optional k p) x t := by
  refine ⟨fun _ _ => not_replies_star_optional_ok hs j k,
    fun _ _ h => ⟨stuckAt_optional_of_ok hs i j k h, stuckAt_star_of_ok hs i j h⟩, fun e h => ?_⟩
  obtain ⟨vs, t, v, htakes, hv, rfl⟩ := (replies_star_error_iff hs).1 h
  have hpresent : (Parser.optional k p).Replies s t (.ok (.present v, t)) :=
    (replies_optional_iff hs).2 (.inl ⟨v, t, hv, rfl⟩)
  exact ⟨(replies_star_ok_iff (hs.star i)).2 ⟨[], _, rfl, .none, h⟩, t, rfl,
    stuckAt_of_takes hs i htakes hv,
    stuckAt_of_takes (hs.optional k) j (htakes.optional hs k) hpresent⟩

/-- Repetitions of `a` as often as there is one, on a text where there is one. -/
theorem repetition_of_nothing_diagnosed_literal :
    let p : Parser Empty := .literal 1 ['a']
    Settled {} p ∧
      (Parser.star 2 p).Replies {} ['a', 'b'] (.ok (.list [.text ['a']], ['b'])) ∧
      StuckAt {} 4 (.optional 3 p) ['a', 'b'] ['b'] ∧
      StuckAt {} 4 (.star 2 p) ['a', 'b'] ['b'] ∧
      StuckAt {} 2 (.optional 3 p) ['a', 'b'] ['b'] ∧
      (Parser.star 4 (.star 2 (.optional 3 p))).Replies {} ['a', 'b']
        (.ok (.list [], ['a', 'b'])) := by
  intro p
  have hp : Settled {} p := .literal 1 ['a']
  have hstar : (Parser.star 2 p).Replies {} ['a', 'b'] (.ok (.list [.text ['a']], ['b'])) :=
    (replies_star_ok_iff hp).2 ⟨[.text ['a']], .mismatch (Text.label ['a']) ['b'], rfl,
      .more ⟨0, _, rfl⟩ (Nat.lt_succ_self 1) .none, 0, _, rfl⟩
  obtain ⟨hoptional, hstar'⟩ := (repetition_of_nothing_diagnosed hp _ 2 4 3).2.1 _ _ hstar
  have hinner := ((repetition_of_nothing_diagnosed hp _ 2 2 3).2.1 _ _ hstar).1
  have houter := (repetition_of_nothing_diagnosed (hp.optional 3) _ 2 4 5).2.2 _ hinner.2
  exact ⟨hp, hstar, hoptional, hstar', hinner, houter.1⟩

end Parser

end GrammarGraph
