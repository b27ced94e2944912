import GrammarGraph.Proofs.Depth
import GrammarGraph.Proofs.Guard
import Mathlib.Logic.Basic

/-!
# Proofs/Repetition — an unbounded repetition takes all that it can

    x ──v₀──▸ y₁ ──v₁──▸ ⋯ ──▸ y ──▸ ✗          the outputs v₀, v₁, …, and what is left is y
    x ──v₀──▸ y₁ ──v₁──▸ ⋯ ──▸ y ──▸ y          a defect

A repetition goes on as long as its item succeeds and takes something.  It ends with a round that
fails, whatever the failure, and is stopped by one that takes nothing.  Nothing else can come of it:
if all rounds have answers, it ends in one of these two ways, after no more rounds than there are
characters, and one.

Answers are told without a depth, so the item may be a rule that leads back to the repetition.
-/

namespace GrammarGraph

open Evaluation

variable {α : Type} {p : Parser α} {x y : Text} {σ τ υ : Session α} {vs : List (Output α)}

/-! ## Rounds at any depth -/

theorem Taken.mono {item item' : Text → Session α → Parsed α → Session α → Prop}
    {goesOn : Text → Text → Prop} (hitem : ∀ x σ r τ, item x σ r τ → item' x σ r τ)
    (h : Taken item goesOn vs x σ y τ) : Taken item' goesOn vs x σ y τ := by
  induction h with
  | none => exact .none
  | more h hgo _ ih => exact .more (hitem _ _ _ _ h) hgo ih

/-- **All rounds can be had at one depth.** -/
theorem taken_answers_iff {goesOn : Text → Text → Prop} :
    Taken p.Answers goesOn vs x σ y τ ↔
      ∃ n, Taken (Run.Comes (p.parse (Calls.upTo n))) goesOn vs x σ y τ := by
  constructor
  · intro h
    induction h with
    | none => exact ⟨0, .none⟩
    | more h hgo _ ih =>
      obtain ⟨n, hn⟩ := h
      obtain ⟨m, hm⟩ := ih
      refine ⟨max n m, .more (Parser.parse_of_le (Nat.le_max_left n m) hn) hgo ?_⟩
      exact hm.mono fun _ _ _ _ => Parser.parse_of_le (Nat.le_max_right n m)
  · rintro ⟨n, h⟩
    exact h.mono fun _ _ _ _ hn => ⟨n, hn⟩

/-- Rounds, and what comes of the next one, can be had at one depth. -/
theorem exists_depth_of_taken {goesOn : Text → Text → Prop} {r : Parsed α}
    (h : Taken p.Answers goesOn vs x σ y τ) (hr : p.Answers y τ r υ) :
    ∃ n, Taken (Run.Comes (p.parse (Calls.upTo n))) goesOn vs x σ y τ ∧
      p.parse (Calls.upTo n) y τ = some (r, υ) := by
  obtain ⟨n, hn⟩ := taken_answers_iff.1 h
  obtain ⟨m, hm⟩ := hr
  refine ⟨max n m, ?_, Parser.parse_of_le (Nat.le_max_right n m) hm⟩
  exact hn.mono fun _ _ _ _ => Parser.parse_of_le (Nat.le_max_left n m)

namespace Parser

/-! ## The two ways to end -/

/-- **The item fails in the end**: each round before has shortened the text. -/
def FailsAfter (p : Parser α) (x : Text) (σ : Session α) (vs : List (Output α)) (r : Text)
    (υ : Session α) : Prop :=
  ∃ τ e, Taken p.Answers Shortens vs x σ r τ ∧ p.Answers r τ (.error e) υ

/-- **The item takes nothing in the end**: each round before has shortened the text, and one
succeeds and leaves its text as it was. -/
def StallsAt (p : Parser α) (x : Text) (σ : Session α) (y : Text) (υ : Session α) : Prop :=
  ∃ vs τ v, Taken p.Answers Shortens vs x σ y τ ∧ p.Answers y τ (.ok (v, y)) υ

variable {id : NodeId} {w : Output α} {r : Text} {e : ParseError}

theorem star_answers_ok_iff :
    (Parser.star id p).Answers x σ (.ok (w, r)) υ ↔
      ∃ vs, w = .list vs ∧ p.FailsAfter x σ vs r υ := by
  constructor
  · rintro ⟨n, h⟩
    obtain ⟨result, τ, hrounds, h⟩ := Run.bind_eq_some_iff.1 h
    obtain _ | ⟨vs, y, c⟩ := result
    · cases (Run.pure_eq_some_iff.1 h).1
    · obtain ⟨⟨⟩, rfl⟩ := Run.pure_eq_some_iff.1 h
      obtain ⟨ρ, htaken, hc⟩ := rounds_eq_ok_iff.1 hrounds
      exact ⟨vs, rfl, ρ, c, taken_answers_iff.2 ⟨n, htaken⟩, n, hc⟩
  · rintro ⟨vs, rfl, τ, c, htaken, hc⟩
    obtain ⟨n, htaken, hc⟩ := exists_depth_of_taken htaken hc
    have hrounds : rounds (id.label Unary.star.tag) (p.parse (Calls.upTo n)) x σ =
        some (.ok ⟨vs, r, c⟩, υ) := rounds_eq_ok_iff.2 ⟨τ, htaken, hc⟩
    exact ⟨n, Run.bind_of_eq_some hrounds⟩

theorem star_answers_error_iff :
    (Parser.star id p).Answers x σ (.error e) υ ↔
      ∃ y ρ, p.StallsAt x σ y ρ ∧
        e = .definition (id.label Unary.star.tag) (Text.preview y) .zeroProgress ∧
        Run.log .debug (id.label Unary.star.tag ++ " made no progress on " ++ Text.label y) ρ =
          some (⟨⟩, υ) := by
  constructor
  · rintro ⟨n, h⟩
    obtain ⟨result, τ, hrounds, h⟩ := Run.bind_eq_some_iff.1 h
    obtain c | _ := result
    · obtain ⟨⟨⟩, rfl⟩ := Run.pure_eq_some_iff.1 h
      obtain ⟨vs, y, ρ, v, z, ρ', htaken, hv, hlong, hlog, rfl⟩ := rounds_eq_error_iff.1 hrounds
      obtain rfl := eq_of_not_shortens hv hlong
      exact ⟨_, ρ', ⟨vs, ρ, v, taken_answers_iff.2 ⟨n, htaken⟩, n, hv⟩, rfl, hlog⟩
    · cases (Run.pure_eq_some_iff.1 h).1
  · rintro ⟨y, ρ, ⟨vs, τ, v, htaken, hv⟩, rfl, hlog⟩
    obtain ⟨n, htaken, hv⟩ := exists_depth_of_taken htaken hv
    exact ⟨n, Run.bind_of_eq_some
      (rounds_eq_error_iff.2 ⟨vs, y, τ, v, y, ρ, htaken, hv, Nat.lt_irrefl _, hlog, rfl⟩)⟩

/-! ## No other way -/

/-- **If all rounds have answers, one of them is the last.** -/
theorem exists_failsAfter_or_stallsAt
    (h : ∀ vs y τ, Taken p.Answers Shortens vs x σ y τ → ∃ r ρ, p.Answers y τ r ρ) :
    (∃ vs r υ, p.FailsAfter x σ vs r υ) ∨ ∃ y υ, p.StallsAt x σ y υ := by
  induction hlength : x.length using Nat.strongRecOn generalizing x σ with
  | _ length ih =>
    obtain ⟨e | ⟨v, y⟩, τ, hfirst⟩ := h [] x σ .none
    · exact .inl ⟨[], x, τ, σ, e, .none, hfirst⟩
    · by_cases hshort : Shortens x y
      · have hrest := ih _ (hlength ▸ hshort)
          (fun vs z ρ hs => h _ z ρ (.more hfirst hshort hs)) rfl
        obtain ⟨vs, r, υ, ρ, e, htaken, he⟩ | ⟨z, υ, vs, ρ, w, htaken, hw⟩ := hrest
        · exact .inl ⟨v :: vs, r, υ, ρ, e, .more hfirst hshort htaken, he⟩
        · exact .inr ⟨z, υ, v :: vs, ρ, w, .more hfirst hshort htaken, hw⟩
      · obtain ⟨n, hn⟩ := hfirst
        obtain rfl := eq_of_not_shortens hn hshort
        exact .inr ⟨y, τ, [], σ, v, .none, n, hn⟩

/-- **An unbounded repetition takes all that it can**: it succeeds with the outputs of its rounds if
and only if a round fails after rounds that have shortened the text, and with what that round was
given.  It fails if and only if a round has left its text as it was, and then with the defect that
tells of it.  It does one of the two if all of its rounds have answers, and never has more rounds
than there are characters, and one. -/
theorem star_takes_all (id : NodeId) (p : Parser α) (x : Text) (σ : Session α) :
    (∀ w r υ, (Parser.star id p).Answers x σ (.ok (w, r)) υ ↔
      ∃ vs, w = .list vs ∧ p.FailsAfter x σ vs r υ) ∧
    (∀ e υ, (Parser.star id p).Answers x σ (.error e) υ ↔
      ∃ y ρ, p.StallsAt x σ y ρ ∧
        e = .definition (id.label Unary.star.tag) (Text.preview y) .zeroProgress ∧
        Run.log .debug (id.label Unary.star.tag ++ " made no progress on " ++ Text.label y) ρ =
          some (⟨⟩, υ)) ∧
    ((∀ vs y τ, Taken p.Answers Shortens vs x σ y τ → ∃ r ρ, p.Answers y τ r ρ) →
      Xor (∃ w r υ, (Parser.star id p).Answers x σ (.ok (w, r)) υ)
        (∃ e υ, (Parser.star id p).Answers x σ (.error e) υ)) ∧
    ∀ vs y τ, Taken p.Answers Shortens vs x σ y τ → vs.length + 1 ≤ x.length + 1 := by
  refine ⟨fun _ _ _ => star_answers_ok_iff, fun _ _ => star_answers_error_iff, fun h => ?_, ?_⟩
  · have hnot : ¬((∃ w r υ, (Parser.star id p).Answers x σ (.ok (w, r)) υ) ∧
        ∃ e υ, (Parser.star id p).Answers x σ (.error e) υ) := by
      rintro ⟨⟨w, r, υ, hok⟩, e, υ', herror⟩
      cases (hok.unique herror).1
    obtain ⟨vs, r, υ, hfails⟩ | ⟨y, ρ, hstalls⟩ := exists_failsAfter_or_stallsAt h
    · have hok : (Parser.star id p).Answers x σ (.ok (.list vs, r)) υ :=
        star_answers_ok_iff.2 ⟨vs, rfl, hfails⟩
      exact .inl ⟨⟨_, _, _, hok⟩, fun herror => hnot ⟨⟨_, _, _, hok⟩, herror⟩⟩
    · obtain ⟨log, hlog⟩ := Run.exists_log_eq .debug
        (id.label Unary.star.tag ++ " made no progress on " ++ Text.label y) ρ
      have herror : (Parser.star id p).Answers x σ _ _ :=
        star_answers_error_iff.2 ⟨y, ρ, hstalls, rfl, hlog⟩
      exact .inr ⟨⟨_, _, herror⟩, fun hok => hnot ⟨hok, _, _, herror⟩⟩
  · intro vs y τ htaken
    have hlength := htaken.length_le
    omega

/-- A parser without rules always has an answer, if its repetitions take something. -/
theorem exists_answers (hp : p.isGuarded []) (x : Text) (σ : Session α) :
    ∃ r τ, p.Answers x σ r τ := by
  have hguarded : Guarded (α := α) (fun _ => True) (fun _ _ => True) [] (fun _ => 0) 0 :=
    { log := fun _ _ _ => trivial
      keeps := fun _ _ _ _ _ _ _ => ⟨trivial, fun _ _ => trivial⟩
      never := fun _ _ hh => absurd hh List.not_mem_nil
      returns := fun _ _ hh => absurd hh List.not_mem_nil
      guarded := fun _ hh => absurd hh List.not_mem_nil
      bounded := fun _ hh => absurd hh List.not_mem_nil }
  have hreach := reach_le hguarded.bounded hp
  obtain ⟨r, τ, hr, -⟩ := hguarded.returns_parse 0 (x := x) hp (by omega) σ trivial
  exact ⟨r, τ, 0, hr⟩

/-- The second round of a repetition of an optional `a` takes nothing. -/
theorem star_takes_all_optional :
    let p : Parser Empty := .optional 2 (.literal 1 ['a'])
    let e : ParseError := .definition "star#3" ['b'] .zeroProgress
    (∀ vs y τ, Taken p.Answers Shortens vs ['a', 'b'] {} y τ → ∃ r ρ, p.Answers y τ r ρ) ∧
      Xor (∃ w r υ, (Parser.star 3 p).Answers ['a', 'b'] {} (.ok (w, r)) υ)
        (∃ e υ, (Parser.star 3 p).Answers ['a', 'b'] {} (.error e) υ) ∧
      (Parser.star 3 p).Answers ['a', 'b'] {} (.error e) {} := by
  intro p e
  have hanswers (y : Text) (τ : Session Empty) : ∃ r ρ, p.Answers y τ r ρ := exists_answers rfl y τ
  have hstalls : p.StallsAt ['a', 'b'] {} ['b'] {} :=
    ⟨_, _, _, .more ⟨0, rfl⟩ (Nat.lt_succ_self 1) .none, 0, rfl⟩
  have hends := star_takes_all 3 p ['a', 'b'] {}
  exact ⟨fun _ y τ _ => hanswers y τ, hends.2.2.1 fun _ y τ _ => hanswers y τ,
    (hends.2.1 _ _).2 ⟨_, _, hstalls, rfl, rfl⟩⟩

end Parser

end GrammarGraph
