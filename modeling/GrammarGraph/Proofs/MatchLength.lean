import GrammarGraph.Pattern.Library
import GrammarGraph.Proofs.Consumed
import Mathlib.Data.List.TakeWhile

/-!
# Proofs/MatchLength — a match is as long as the shortest text of its expression

    shortest t ≤ shortest t'                 t ──move──▸ t'
    shortest t ≤ bytes of c + shortest t'    t ──c──▸ t'

`Regex.shortest` is the number of bytes an expression asks for at least if all assertions hold; a
set asks for those of its first character.  What a thread has read and what it has still to read
never gets less together, so the thread that is done has read that much.

* `Regex.shortest_le_of_matchLength?` — no match is shorter.
* `Regex.library_sound` — so the library of this project keeps to what patterns rely on.
-/

namespace GrammarGraph

/-! ## The first character of a set -/

theorem utf8Size_le_of_toNat_le {c d : Char} (h : c.toNat ≤ d.toNat) :
    c.utf8Size ≤ d.utf8Size := by
  rw [Char.toNat, Char.toNat] at h
  simp only [Char.utf8Size, UInt32.le_iff_toNat_le, UInt32.toNat_ofNatLT]
  split_ifs <;> omega

/-- No character of a set takes less than the first. -/
theorem CharSet.utf8Size_le_of_contains {chars : CharSet} {c d : Char}
    (hd : chars.least? = some d) (hc : chars.contains c) : d.utf8Size ≤ c.utf8Size := by
  obtain ⟨n, hn, rfl⟩ := Option.map_eq_some_iff.1 hd
  obtain ⟨_, hturns⟩ := List.head?_eq_some_iff.1 hn
  refine utf8Size_le_of_toNat_le ?_
  rw [contains, hturns, holdsAt] at hc
  have hle : n ≤ c.toNat := by
    by_contra hlt
    rw [if_pos (Nat.lt_of_not_le hlt)] at hc
    cases hc
  by_cases hvalid : n.isValidChar
  · rw [Char.ofNat, dif_pos hvalid]
    exact hle
  · rw [Char.ofNat, dif_neg hvalid]
    exact Nat.zero_le _

/-! ## The shortest text -/

namespace Regex

/-- **The least number of bytes that the expression asks for**, all assertions granted. -/
def shortest : Regex → ℕ
  | .empty | .assertion _ => 0
  | .literal text => text.byteLength
  | .set chars _ => (chars.least?.map Char.utf8Size).getD 0
  | .repetition min _ _ body => min * body.shortest
  | .group _ body => body.shortest
  | .seq first rest => first.shortest + rest.shortest
  | .alt first rest => Nat.min first.shortest rest.shortest

/-- **A bound is the length of the shortest text.** -/
theorem shortest_eq_of_minLength {r : Regex} {m : ℕ} (h : r.minLength = some m) :
    r.shortest = m := by
  induction r generalizing m with
  | empty | assertion | literal => exact Option.some.inj h
  | set chars unicode =>
    rw [minLength] at h
    rw [shortest, h, Option.getD_some]
  | repetition min max greedy body ih =>
    obtain ⟨n, hn, rfl⟩ := Option.map_eq_some_iff.1 h
    rw [shortest, ih hn, Nat.mul_comm]
  | group index body ih => exact ih h
  | seq first rest ihf ihr | alt first rest ihf ihr =>
    obtain ⟨n, hn, h⟩ := Option.bind_eq_some_iff.1 h
    obtain ⟨k, hk, rfl⟩ := Option.map_eq_some_iff.1 h
    rw [shortest, ihf hn, ihr hk]

end Regex

/-- What is left to match at least for a goal; further rounds need not be. -/
def Goal.shortest : Goal → ℕ
  | .meet _ r => r.shortest
  | .again _ _ _ => 0

namespace Thread

variable {t k k' : Thread}

/-- What is left to match at least for all goals of a thread. -/
def shortest : Thread → ℕ
  | [] => 0
  | g :: k => g.shortest + shortest k

@[simp] theorem shortest_nil : shortest [] = 0 := rfl

theorem shortest_le_cons (g : Goal) (k : Thread) : k.shortest ≤ shortest (g :: k) :=
  Nat.le_add_left _ _

@[simp] theorem shortest_meet (path : List ℕ) (r : Regex) :
    shortest (.meet path r :: k) = r.shortest + k.shortest := rfl

@[simp] theorem shortest_again (path : List ℕ) (greedy : Bool) (body : Regex) :
    shortest (.again path greedy body :: k) = k.shortest :=
  Nat.zero_add _

/-! ## Moves -/

/-- The threads that a thread goes on as, where its assertions hold. -/
def Move.threads : Move → List Thread
  | .rest => []
  | .split ts => ts
  | .check _ k => [k]

theorem mem_moreOrDone {greedy : Bool} {more finished : Thread}
    (h : k ∈ (moreOrDone greedy more finished).threads) : k = more ∨ k = finished := by
  cases greedy
  · exact (List.mem_cons.1 h).symm.imp_left List.mem_singleton.1
  · exact (List.mem_cons.1 h).imp_right List.mem_singleton.1

/-- Another round or none leaves as much to match as none. -/
theorem shortest_le_of_mem_moreOrDone {greedy : Bool} {body later : Goal}
    (h : k' ∈ (moreOrDone greedy (body :: later :: k) k).threads) : k.shortest ≤ k'.shortest := by
  obtain rfl | rfl := mem_moreOrDone h
  · exact (shortest_le_cons _ _).trans (shortest_le_cons _ _)
  · exact Nat.le_refl _

/-- **The moves of a repetition** leave no less to match. -/
theorem shortest_le_of_mem_move_repetition {path : List ℕ} {min : ℕ} {max : Option ℕ}
    {greedy : Bool} {body : Regex}
    (h : k' ∈ (move (.meet path (.repetition min max greedy body) :: k)).threads) :
    shortest (.meet path (.repetition min max greedy body) :: k) ≤ k'.shortest := by
  cases min with
  | zero =>
    rw [shortest_meet, Regex.shortest, Nat.zero_mul, Nat.zero_add]
    obtain _ | _ | n := max
    · exact shortest_le_of_mem_moreOrDone h
    · obtain rfl := List.mem_singleton.1 h
      exact Nat.le_refl _
    · exact shortest_le_of_mem_moreOrDone h
  | succ min =>
    rw [shortest_meet, Regex.shortest, Nat.succ_mul]
    obtain _ | n := max <;> obtain _ | min := min
    -- The later rounds are those without bound for the first of these, counted ones for the others.
    all_goals
      obtain rfl := List.mem_singleton.1 h
      simp only [shortest_meet, shortest_again, Regex.shortest]
      omega

/-- **A thread goes on with no less left to match.** -/
theorem shortest_le_of_mem_move (h : k' ∈ t.move.threads) : t.shortest ≤ k'.shortest := by
  obtain _ | ⟨⟨path, r⟩ | ⟨path, greedy, body⟩, k⟩ := t
  · cases h
  · cases r with
    | repetition => exact shortest_le_of_mem_move_repetition h
    | set => cases h
    | literal text =>
      cases text with
      | nil =>
        obtain rfl := List.mem_singleton.1 h
        simp [Regex.shortest]
      | cons => cases h
    | alt first rest =>
      have hmin : Nat.min first.shortest rest.shortest ≤ first.shortest ∧
          Nat.min first.shortest rest.shortest ≤ rest.shortest :=
        ⟨Nat.min_le_left _ _, Nat.min_le_right _ _⟩
      obtain rfl | h := List.mem_cons.1 h
      · simp only [shortest_meet, Regex.shortest]
        omega
      · obtain rfl := List.mem_singleton.1 h
        simp only [shortest_meet, Regex.shortest]
        omega
    | empty | assertion | group | seq =>
      obtain rfl := List.mem_singleton.1 h
      simp only [shortest_meet, Regex.shortest]
      omega
  · rw [shortest_again]
    exact shortest_le_of_mem_moreOrDone h

/-- **A character makes what is left to match shorter by no more than itself.** -/
theorem shortest_le_of_advance {c : Char} (h : advance c t = some k) :
    t.shortest ≤ c.utf8Size + k.shortest := by
  obtain _ | ⟨⟨path, r⟩ | _, t⟩ := t
  · cases h
  · cases r with
    | literal text =>
      obtain _ | ⟨a, text⟩ := text
      · cases h
      · rw [advance] at h
        split at h
        · next heq =>
          obtain rfl := Option.some.inj h
          simp only [shortest_meet, Regex.shortest, Text.byteLength_cons, heq]
          omega
        · cases h
    | set chars unicode =>
      rw [advance] at h
      split at h
      · next hc =>
        obtain rfl := Option.some.inj h
        rw [shortest_meet, Regex.shortest]
        refine Nat.add_le_add_right ?_ _
        cases hleast : chars.least? with
        | none => exact Nat.zero_le _
        | some d => exact CharSet.utf8Size_le_of_contains hleast hc
      · cases h
    | _ => cases h
  · cases h

/-! ## Runs -/

variable {m fuel read n : ℕ} {holds : Assertion → Bool} {ts todo seen : List Thread}

/-- **Settled threads have no less left to match** than those they come from. -/
theorem exists_le_of_mem_settle (hk : k ∈ settle holds fuel todo seen) :
    ∃ t ∈ todo, t.shortest ≤ k.shortest := by
  induction fuel generalizing todo seen with
  | zero => cases hk
  | succ fuel ih =>
    obtain _ | ⟨t, todo⟩ := todo
    · cases hk
    have hlater {seen : List Thread} (hk : k ∈ settle holds fuel todo seen) :
        ∃ t' ∈ t :: todo, t'.shortest ≤ k.shortest := by
      obtain ⟨t', ht', hle⟩ := ih hk
      exact ⟨t', List.mem_cons_of_mem t ht', hle⟩
    have hmove {ts seen : List Thread} (hts : ∀ k' ∈ ts, k' ∈ t.move.threads)
        (hk : k ∈ settle holds fuel (ts ++ todo) seen) :
        ∃ t' ∈ t :: todo, t'.shortest ≤ k.shortest := by
      obtain ⟨k', hk', hle⟩ := ih hk
      obtain hk' | hk' := List.mem_append.1 hk'
      · exact ⟨t, List.mem_cons_self, (shortest_le_of_mem_move (hts k' hk')).trans hle⟩
      · exact ⟨k', List.mem_cons_of_mem t hk', hle⟩
    rw [settle] at hk
    split at hk
    · exact hlater hk
    split at hk
    · obtain rfl | hk := List.mem_cons.1 hk
      · exact ⟨k, List.mem_cons_self, Nat.le_refl _⟩
      · exact hlater hk
    · next ts hts => exact hmove (hts ▸ fun _ => id) hk
    · next a k' hk' =>
      split at hk
      · exact @hmove [k'] _ (hk' ▸ fun _ => id) hk
      · exact hlater hk

/-- Threads are cut off only after one that is done. -/
theorem nil_mem_of_cut (h : (ts.takeWhile (!·.isEmpty)).length < ts.length) : [] ∈ ts := by
  by_contra hnil
  have hall : ts.takeWhile (!·.isEmpty) = ts :=
    List.takeWhile_eq_self_iff.2 fun t ht => by
      cases t with
      | nil => exact absurd ht hnil
      | cons => rfl
  rw [hall] at h
  exact Nat.lt_irrefl _ h

variable {best : Option ℕ} {whole done s : Text}
  (hbest : ∀ b, best = some b → m ≤ Text.byteLength (whole.take b) ∧ b ≤ whole.length)
include hbest

/-- What is found at a place is found where a thread is done, or has been found before. -/
theorem le_of_found (hwhole : whole = done ++ s)
    (htodo : ∀ t ∈ todo, m ≤ done.byteLength + t.shortest)
    (h : (if ((settle holds fuel todo []).takeWhile (!·.isEmpty)).length <
      (settle holds fuel todo []).length then some done.length else best) = some n) :
    m ≤ Text.byteLength (whole.take n) ∧ n ≤ whole.length := by
  split at h
  · next hcut =>
    obtain rfl := Option.some.inj h
    obtain ⟨t, ht, hle⟩ := exists_le_of_mem_settle (nil_mem_of_cut hcut)
    have hm := htodo t ht
    rw [shortest_nil] at hle
    rw [hwhole, List.take_left, List.length_append]
    omega
  · exact hbest n h

/-- **A match is as long at least as what threads have read and have still to read**, and ends in
the text. -/
theorem le_of_scan {before : Option Char} (hwhole : whole = done ++ s)
    (hts : ∀ t ∈ ts, m ≤ done.byteLength + t.shortest)
    (h : scan fuel ts before done.length best s = some n) :
    m ≤ Text.byteLength (whole.take n) ∧ n ≤ whole.length := by
  induction s generalizing ts before done best with
  | nil => exact le_of_found hbest hwhole hts h
  | cons c s ih =>
    rw [scan] at h
    split at h
    · exact le_of_found hbest hwhole hts h
    · have hread : done.length + 1 = (done ++ [c]).length := by simp
      rw [hread] at h
      refine ih (fun b => le_of_found hbest hwhole hts) (by simp [hwhole]) (fun k hk => ?_) h
      obtain ⟨k', hk', hadvance⟩ := List.mem_filterMap.1 hk
      obtain ⟨t, ht, hle⟩ := exists_le_of_mem_settle (List.takeWhile_subset _ hk')
      have hm := hts t ht
      have hstep := shortest_le_of_advance hadvance
      rw [Text.byteLength_append, Text.byteLength_cons, Text.byteLength_nil]
      omega

end Thread

/-! ## Matches -/

namespace Regex

/-- **No match is shorter than the shortest text of its expression**, or longer than the text. -/
theorem shortest_le_of_matchLength? {r : Regex} {s : Text} {n : ℕ}
    (h : r.matchLength? s = some n) :
    r.shortest ≤ Text.byteLength (s.take n) ∧ n ≤ s.length := by
  refine Thread.le_of_scan ?_ (List.nil_append s).symm (fun t ht => ?_) h
  · nofun
  · obtain rfl := List.mem_singleton.1 ht
    simp

/-- The expression matches a text before another one. -/
def Matches (r : Regex) (t rest : Text) : Prop := r.matchLength? (t ++ rest) = some t.length

/-- **The library of this project keeps to what patterns rely on.** -/
theorem library_sound : library.Sound Matches where
  found {r matcher x n} hcompile hsearch := by
    have hmatch : r.matchLength? x = some n := by
      cases (Option.ite_none_right_eq_some.1 hcompile).2
      exact hsearch
    have hle := (shortest_le_of_matchLength? hmatch).2
    refine ⟨hle, ?_⟩
    change r.matchLength? (x.take n ++ x.drop n) = some (x.take n).length
    rw [List.take_append_drop, List.length_take, Nat.min_eq_left hle]
    exact hmatch
  bounded {r m t rest} hmin hmatches := by
    have hle := (shortest_le_of_matchLength? hmatches).1
    rwa [shortest_eq_of_minLength hmin, List.take_left] at hle

end Regex

end GrammarGraph
