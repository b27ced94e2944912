import GrammarGraph.Proofs.Evaluation

/-!
# Proofs/Rounds — repetitions, round by round

    x ──v₀──▸ y₁ ──v₁──▸ y₂ ──▸ ⋯ ──▸ y        each round on what the one before has left

A repetition runs its item again and again.  The rounds that have succeeded are told by their
outputs (`Taken`), in one relation for both repetitions: an unbounded one goes on as long as its
text gets shorter, a counted one in any case.  What ends them is told by equivalences
(`rounds_eq_ok_iff`, `rounds_eq_error_iff`, `countedRounds_eq_ok_iff`,
`countedRounds_eq_error_iff`), so that nothing more needs to be known of the loops.
-/

namespace GrammarGraph

open Evaluation

variable {α : Type} {x y z : Text} {σ τ υ : Session α}

/-- What comes of a computation on a text, as a relation. -/
def Run.Comes (item : Text → Run α (Parsed α)) (x : Text) (σ : Session α) (r : Parsed α)
    (τ : Session α) : Prop :=
  item x σ = some (r, τ)

/-- **Rounds that succeed one after another**, with their outputs.  `goesOn` is what must hold of
the texts before and after a round for there to be another. -/
inductive Taken (item : Text → Session α → Parsed α → Session α → Prop)
    (goesOn : Text → Text → Prop) : List (Output α) → Text → Session α → Text → Session α → Prop
  | none {x : Text} {σ : Session α} : Taken item goesOn [] x σ x σ
  | more {v : Output α} {vs : List (Output α)} {x y z : Text} {σ τ υ : Session α}
      (h : item x σ (.ok (v, y)) τ) (hgo : goesOn x y) (hs : Taken item goesOn vs y τ z υ) :
      Taken item goesOn (v :: vs) x σ z υ

/-- Rounds that shorten the text are no more than it has characters. -/
theorem Taken.length_le {item : Text → Session α → Parsed α → Session α → Prop}
    {vs : List (Output α)} (h : Taken item Shortens vs x σ y τ) :
    vs.length + y.length ≤ x.length := by
  induction h with
  | none => exact Nat.le_of_eq (Nat.zero_add _)
  | more _ hgo _ ih =>
    have hshort := Nat.succ_le_of_lt hgo
    rw [List.length_cons]
    omega

namespace Parser

variable {label : String} {item : Text → Run α (Parsed α)} {vs : List (Output α)}
  {e : ParseError}

/-! ## Unbounded repetitions -/

/-- The outcome of a repetition with rounds before it. -/
def Rounds.after (vs : List (Output α)) (rounds : Rounds α) : Rounds α :=
  { rounds with outputs := vs ++ rounds.outputs }

/-- **Rounds that have succeeded leave the rest of the repetition to be run.** -/
theorem rounds_of_taken (h : Taken (Run.Comes item) Shortens vs x σ y τ) :
    rounds label item x σ =
      (rounds label item y τ).map fun r => (r.1.map (Rounds.after vs), r.2) := by
  induction h with
  | @none x σ =>
    cases rounds label item x σ with
    | none => rfl
    | some r =>
      obtain ⟨_ | _, _⟩ := r
      · rfl
      · rfl
  | @more v vs x y z σ τ υ h hgo _ ih =>
    have hgo : y.length < x.length := hgo
    rw [rounds, Run.bind_of_eq_some h]
    dsimp only
    rw [if_pos hgo, Run.bind_apply, ih]
    cases rounds label item z υ with
    | none => rfl
    | some r =>
      obtain ⟨_ | _, _⟩ := r
      · rfl
      · rfl

/-- A repetition ends with a round that fails, or with one that does not shorten the text. -/
theorem exists_taken_of_rounds {result : Except ParseError (Rounds α)}
    (h : rounds label item x σ = some (result, υ)) :
    ∃ vs y τ, Taken (Run.Comes item) Shortens vs x σ y τ ∧
      ((∃ e, item y τ = some (.error e, υ)) ∨
        ∃ v z ρ, item y τ = some (.ok (v, z), ρ) ∧ ¬Shortens y z) := by
  induction hlength : x.length using Nat.strongRecOn generalizing x σ result υ with
  | _ length ih =>
    rw [rounds] at h
    obtain ⟨first, τ, hfirst, h⟩ := Run.bind_eq_some_iff.1 h
    obtain e | ⟨v, y⟩ := first
    · obtain ⟨-, rfl⟩ := Run.pure_eq_some_iff.1 h
      exact ⟨[], x, σ, .none, .inl ⟨e, hfirst⟩⟩
    · dsimp only at h
      split at h
      · next hshort =>
        obtain ⟨rest, τ', hrest, h⟩ := Run.bind_eq_some_iff.1 h
        have hυ : τ' = υ := by
          cases rest with
          | error => exact (Run.pure_eq_some_iff.1 h).2
          | ok => exact (Run.pure_eq_some_iff.1 h).2
        obtain ⟨vs, z, ρ, htaken, hend⟩ := ih _ (hlength ▸ hshort) (hυ ▸ hrest) rfl
        exact ⟨v :: vs, z, ρ, .more hfirst hshort htaken, hend⟩
      · next hlong => exact ⟨[], x, σ, .none, .inr ⟨v, y, τ, hfirst, hlong⟩⟩

/-- A round that fails ends the repetition. -/
theorem rounds_of_error (h : item y τ = some (.error e, υ)) :
    rounds label item y τ = some (.ok ⟨[], y, e⟩, υ) := by
  rw [rounds]
  exact Run.bind_of_eq_some h

/-- A round that does not shorten the text is a defect. -/
theorem rounds_of_not_shortens {v : Output α} {ρ : Session α}
    (h : item y τ = some (.ok (v, z), ρ)) (hlong : ¬Shortens y z) :
    rounds label item y τ =
      (Run.log .debug (label ++ " made no progress on " ++ Text.label y) ρ).map
        fun r => (.error (.definition label (Text.preview y) .zeroProgress), r.2) := by
  have hlong : ¬z.length < y.length := hlong
  rw [rounds, Run.bind_of_eq_some h]
  dsimp only
  rw [if_neg hlong, Run.bind_apply]
  cases Run.log .debug (label ++ " made no progress on " ++ Text.label y) ρ <;> rfl

/-- **A repetition succeeds if and only if a round fails** after rounds that have shortened the
text. -/
theorem rounds_eq_ok_iff {result : Rounds α} :
    rounds label item x σ = some (.ok result, υ) ↔
      ∃ τ, Taken (Run.Comes item) Shortens result.outputs x σ result.remaining τ ∧
        item result.remaining τ = some (.error result.last, υ) := by
  constructor
  · intro h
    obtain ⟨vs, y, τ, htaken, ⟨e, he⟩ | ⟨v, z, ρ, hv, hlong⟩⟩ := exists_taken_of_rounds h
    · rw [rounds_of_taken htaken, rounds_of_error he] at h
      obtain ⟨hresult, -⟩ := Prod.mk.inj (Option.some.inj h)
      obtain rfl := Except.ok.inj hresult
      refine ⟨τ, ?_, he⟩
      rw [Rounds.after, List.append_nil]
      exact htaken
    · rw [rounds_of_taken htaken, rounds_of_not_shortens hv hlong, Option.map_map] at h
      obtain ⟨r, -, hr⟩ := Option.map_eq_some_iff.1 h
      cases (Prod.mk.inj hr).1
  · rintro ⟨τ, htaken, he⟩
    rw [rounds_of_taken htaken, rounds_of_error he, Option.map_some, Except.map, Rounds.after,
      List.append_nil]

/-- **A repetition fails if and only if a round does not shorten the text**, after rounds that
have. -/
theorem rounds_eq_error_iff :
    rounds label item x σ = some (.error e, υ) ↔
      ∃ vs y τ v z ρ, Taken (Run.Comes item) Shortens vs x σ y τ ∧
        item y τ = some (.ok (v, z), ρ) ∧ ¬Shortens y z ∧
        Run.log .debug (label ++ " made no progress on " ++ Text.label y) ρ = some (⟨⟩, υ) ∧
        e = .definition label (Text.preview y) .zeroProgress := by
  constructor
  · intro h
    obtain ⟨vs, y, τ, htaken, ⟨e, he⟩ | ⟨v, z, ρ, hv, hlong⟩⟩ := exists_taken_of_rounds h
    · rw [rounds_of_taken htaken, rounds_of_error he] at h
      cases (Prod.mk.inj (Option.some.inj h)).1
    · rw [rounds_of_taken htaken, rounds_of_not_shortens hv hlong, Option.map_map] at h
      obtain ⟨⟨⟨⟩, ρ'⟩, hlog, hr⟩ := Option.map_eq_some_iff.1 h
      obtain ⟨he, rfl⟩ := Prod.mk.inj hr
      exact ⟨vs, y, τ, v, z, ρ, htaken, hv, hlong, hlog, (Except.error.inj he).symm⟩
  · rintro ⟨vs, y, τ, v, z, ρ, htaken, hv, hlong, hlog, rfl⟩
    rw [rounds_of_taken htaken, rounds_of_not_shortens hv hlong, hlog]
    rfl

/-! ## Counted repetitions -/

/-- **A counted repetition succeeds if and only if all of its rounds do.** -/
theorem countedRounds_eq_ok_iff {count : Nat} :
    countedRounds label item count x σ = some (.ok (vs, y), υ) ↔
      vs.length = count ∧ Taken (Run.Comes item) (fun _ _ => True) vs x σ y υ := by
  induction count generalizing vs x σ with
  | zero =>
    constructor
    · intro h
      obtain ⟨⟨⟩, rfl⟩ := Run.pure_eq_some_iff.1 h
      exact ⟨rfl, .none⟩
    · rintro ⟨hlength, htaken⟩
      obtain rfl := List.eq_nil_of_length_eq_zero hlength
      cases htaken with
      | none => rfl
  | succ count ih =>
    rw [countedRounds]
    constructor
    · intro h
      obtain ⟨first, τ, hfirst, h⟩ := Run.bind_eq_some_iff.1 h
      obtain _ | ⟨v, z⟩ := first
      · cases (Run.pure_eq_some_iff.1 h).1
      · obtain ⟨rest, τ', hrest, h⟩ := Run.bind_eq_some_iff.1 h
        obtain _ | ⟨ws, _⟩ := rest
        · cases (Run.pure_eq_some_iff.1 h).1
        · obtain ⟨⟨⟩, rfl⟩ := Run.pure_eq_some_iff.1 h
          obtain ⟨rfl, htaken⟩ := ih.1 hrest
          exact ⟨rfl, .more hfirst trivial htaken⟩
    · rintro ⟨hlength, htaken⟩
      cases htaken with
      | none => cases hlength
      | more h _ htaken =>
        refine (Run.bind_of_eq_some h).trans ?_
        exact Run.bind_of_eq_some (ih.2 ⟨Nat.succ.inj hlength, htaken⟩)

/-- **A counted repetition fails if and only if one of its rounds does.** -/
theorem countedRounds_eq_error_iff {count : Nat} :
    countedRounds label item count x σ = some (.error e, υ) ↔
      ∃ vs y τ c, vs.length < count ∧ Taken (Run.Comes item) (fun _ _ => True) vs x σ y τ ∧
        item y τ = some (.error c, υ) ∧ e = c.within label y := by
  induction count generalizing x σ with
  | zero =>
    constructor
    · intro h
      cases (Run.pure_eq_some_iff.1 h).1
    · rintro ⟨vs, _, _, _, hlt, -⟩
      exact absurd hlt (Nat.not_lt_zero _)
  | succ count ih =>
    constructor
    · intro h
      rw [countedRounds] at h
      obtain ⟨first, τ, hfirst, h⟩ := Run.bind_eq_some_iff.1 h
      obtain c | ⟨v, y⟩ := first
      · obtain ⟨⟨⟩, rfl⟩ := Run.pure_eq_some_iff.1 h
        exact ⟨[], x, σ, c, Nat.succ_pos count, .none, hfirst, rfl⟩
      · obtain ⟨rest, τ', hrest, h⟩ := Run.bind_eq_some_iff.1 h
        obtain _ | ⟨_, _⟩ := rest
        · obtain ⟨⟨⟩, rfl⟩ := Run.pure_eq_some_iff.1 h
          obtain ⟨vs, z, ρ, c, hlt, htaken, hc, he⟩ := ih.1 hrest
          exact ⟨v :: vs, z, ρ, c, Nat.succ_lt_succ hlt, .more hfirst trivial htaken, hc, he⟩
        · cases (Run.pure_eq_some_iff.1 h).1
    · rintro ⟨vs, z, ρ, c, hlt, htaken, hc, rfl⟩
      rw [countedRounds]
      cases htaken with
      | none => exact Run.bind_of_eq_some hc
      | @more v vs _ y _ _ τ _ h _ htaken =>
        have hrest := ih.2 ⟨vs, z, ρ, c, Nat.lt_of_succ_lt_succ hlt, htaken, hc, rfl⟩
        refine (Run.bind_of_eq_some h).trans ?_
        exact Run.bind_of_eq_some hrest

/-- A round without a result, after rounds that have succeeded, leaves the repetition without
one. -/
theorem countedRounds_eq_none {count : Nat}
    (h : Taken (Run.Comes item) (fun _ _ => True) vs x σ y τ) (hlt : vs.length < count)
    (hy : item y τ = none) : countedRounds label item count x σ = none := by
  induction h generalizing count with
  | none =>
    obtain ⟨count, rfl⟩ := Nat.exists_eq_succ_of_ne_zero (Nat.ne_of_gt hlt)
    exact Run.bind_of_eq_none hy
  | more h _ _ ih =>
    obtain ⟨count, rfl⟩ := Nat.exists_eq_succ_of_ne_zero (Nat.ne_of_gt (Nat.zero_lt_of_lt hlt))
    refine (Run.bind_of_eq_some h).trans ?_
    exact Run.bind_of_eq_none (ih (Nat.lt_of_succ_lt_succ hlt) hy)

end Parser

/-! ## Rounds of a parser -/

namespace Evaluation

variable {n k : Nat} {p : Parser α} {goesOn : Text → Text → Prop} {label : String}

theorem Turns.exists_taken (h : Turns n p goesOn k x σ y τ) :
    ∃ vs, vs.length = k ∧ Taken (Run.Comes (p.parse (Calls.upTo n))) goesOn vs x σ y τ := by
  induction h with
  | none => exact ⟨[], rfl, .none⟩
  | more h hgo _ ih =>
    obtain ⟨v, hv⟩ := h
    obtain ⟨vs, rfl, htaken⟩ := ih
    exact ⟨v :: vs, rfl, .more hv hgo htaken⟩

theorem turns_of_taken {vs : List (Output α)}
    (h : Taken (Run.Comes (p.parse (Calls.upTo n))) goesOn vs x σ y τ) :
    Turns n p goesOn vs.length x σ y τ := by
  induction h with
  | none => exact .none
  | more h hgo _ ih => exact .more ⟨_, h⟩ hgo ih

/-- What does not shorten its text leaves all of it. -/
theorem eq_of_not_shortens {v : Output α}
    (h : p.parse (Calls.upTo n) x σ = some (.ok (v, y), τ)) (hlong : ¬Shortens x y) : y = x :=
  (Leaves.suffix (E := ⟨n, p, x, σ⟩) ⟨v, h⟩).eq_of_length_le (Nat.le_of_not_lt hlong)

/-- **An unbounded repetition ends** with a round that fails, or is stopped by one that has left all
of its text. -/
def Ends (n : Nat) (label : String) (item : Parser α) (y : Text) (τ : Session α) :
    Except ParseError (Parser.Rounds α) → Prop
  | .ok rounds => rounds.remaining = y ∧ Fails ⟨n, item, y, τ⟩ rounds.last
  | .error e => e = .definition label (Text.preview y) .zeroProgress ∧
      ∃ υ, Leaves ⟨n, item, y, τ⟩ y υ

theorem ends_of_rounds {result : Except ParseError (Parser.Rounds α)}
    (h : Parser.rounds label (p.parse (Calls.upTo n)) x σ = some (result, υ)) :
    ∃ k y τ, Turns n p Shortens k x σ y τ ∧ Ends n label p y τ result := by
  cases result with
  | ok rounds =>
    obtain ⟨τ, htaken, hlast⟩ := Parser.rounds_eq_ok_iff.1 h
    exact ⟨_, _, τ, turns_of_taken htaken, rfl, υ, hlast⟩
  | error e =>
    obtain ⟨vs, y, τ, v, z, ρ, htaken, hv, hlong, -, rfl⟩ := Parser.rounds_eq_error_iff.1 h
    obtain rfl := eq_of_not_shortens hv hlong
    exact ⟨_, _, τ, turns_of_taken htaken, rfl, ρ, v, hv⟩

end Evaluation

end GrammarGraph
