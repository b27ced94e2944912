import GrammarGraph.Script.Run

/-!
# Proofs/Run — what a run leads to

A computation that is run in a session gives a result and the session after it, or nothing.  The
lemmas here say what that means for the pieces that computations are made of, so that later proofs
never look into the monad.
-/

namespace GrammarGraph.Run

variable {α β γ : Type} {s s' : Session α}

/-! ## Pieces of computations -/

@[simp] theorem pure_eq_some_iff {a b : β} :
    (pure a : Run α β) s = some (b, s') ↔ a = b ∧ s = s' := by
  change some (a, s) = some (b, s') ↔ _
  simp

theorem bind_apply {m : Run α β} {f : β → Run α γ} :
    (m >>= f) s = (m s).bind fun x => f x.1 x.2 := rfl

theorem bind_eq_some_iff {m : Run α β} {f : β → Run α γ} {c : γ} :
    (m >>= f) s = some (c, s') ↔ ∃ b t, m s = some (b, t) ∧ f b t = some (c, s') := by
  rw [bind_apply, Option.bind_eq_some_iff, Prod.exists]

/-- Only a first part with a result lets the second part run. -/
theorem bind_of_eq_some {m : Run α β} {f : β → Run α γ} {b : β} {t : Session α}
    (h : m s = some (b, t)) : (m >>= f) s = f b t := by
  rw [bind_apply, h]
  rfl

/-- A first part without a result is all that is run. -/
theorem bind_of_eq_none {m : Run α β} {f : β → Run α γ} (h : m s = none) : (m >>= f) s = none := by
  rw [bind_apply, h]
  rfl

/-- What is made of a result afterwards does not change the session. -/
theorem map_snd_bind_pure {m : Run α β} {f : β → γ} :
    ((m >>= fun b => pure (f b)) s).map (·.2) = (m s).map (·.2) := by
  rw [bind_apply]
  cases m s <;> rfl

@[simp] theorem get_bind {f : Session α → Run α β} : (get >>= f) s = f s s := rfl

@[simp] theorem modify_bind {f : Session α → Session α} {g : PUnit → Run α β} :
    ((modify f : Run α PUnit) >>= g) s = g ⟨⟩ (f s) := rfl

theorem modify_apply (f : Session α → Session α) :
    (modify f : Run α PUnit) s = some (⟨⟩, f s) := rfl

/-- Logging changes the log only. -/
theorem exists_log_eq (level : LogLevel) (message : String) (s : Session α) :
    ∃ log, Run.log level message s = some (⟨⟩, { s with log := log }) := by
  rw [Run.log, modify_apply]
  split
  · exact ⟨_, rfl⟩
  · exact ⟨s.log, rfl⟩

/-! ## What every run keeps -/

/-- **From a session with `I`, the computation leads to one with `I`**, and to a result with `R`,
if it leads anywhere. -/
def Keeps (I : Session α → Prop) (m : Run α β) (R : β → Prop) : Prop :=
  ∀ s b s', I s → m s = some (b, s') → I s' ∧ R b

namespace Keeps

variable {I : Session α → Prop} {m : Run α β} {R Q : β → Prop}

theorem pure {b : β} (h : R b) : Keeps I (Pure.pure b) R := by
  intro s b' s' hs hb
  obtain ⟨rfl, rfl⟩ := pure_eq_some_iff.1 hb
  exact ⟨hs, h⟩

theorem bind {f : β → Run α γ} {P : γ → Prop} (hm : Keeps I m R)
    (hf : ∀ b, R b → Keeps I (f b) P) : Keeps I (m >>= f) P := by
  intro s c s' hs hc
  obtain ⟨b, t, hb, hc⟩ := bind_eq_some_iff.1 hc
  obtain ⟨ht, hR⟩ := hm s b t hs hb
  exact hf b hR t c s' ht hc

theorem failure : Keeps I (Alternative.failure : Run α β) R := nofun

theorem read {f : Session α → Run α β} (hf : ∀ s, Keeps I (f s) R) : Keeps I (get >>= f) R :=
  fun s b s' hs hb => hf s s b s' hs hb

theorem mono (hm : Keeps I m R) (h : ∀ b, R b → Q b) : Keeps I m Q :=
  fun s b s' hs hb => (hm s b s' hs hb).imp_right (h b)

theorem modify {f : Session α → Session α} (h : ∀ s, I s → I (f s)) :
    Keeps I (modify f : Run α PUnit) fun _ => True := by
  intro s b s' hs hb
  obtain ⟨-, rfl⟩ := Prod.mk.inj (Option.some.inj hb)
  exact ⟨h s hs, trivial⟩

theorem log (h : ∀ s l, I s → I { s with log := l }) (level : LogLevel) (message : String) :
    Keeps I (Run.log level message : Run α Unit) fun _ => True := by
  refine modify fun s hs => ?_
  split
  · exact h s _ hs
  · exact hs

end Keeps

/-! ## What every run comes to -/

/-- **From every session with `I` the computation has a result**: one with `R`, in a session
with `I`. -/
def Returns (I : Session α → Prop) (m : Run α β) (R : β → Prop) : Prop :=
  ∀ s, I s → ∃ b s', m s = some (b, s') ∧ I s' ∧ R b

namespace Returns

variable {I : Session α → Prop} {m : Run α β} {R Q : β → Prop}

theorem pure {b : β} (h : R b) : Returns I (Pure.pure b) R := fun s hs => ⟨b, s, rfl, hs, h⟩

theorem bind {f : β → Run α γ} {P : γ → Prop} (hm : Returns I m R)
    (hf : ∀ b, R b → Returns I (f b) P) : Returns I (m >>= f) P := by
  intro s hs
  obtain ⟨b, t, hb, ht, hR⟩ := hm s hs
  obtain ⟨c, s', hc, hs', hP⟩ := hf b hR t ht
  exact ⟨c, s', bind_eq_some_iff.2 ⟨b, t, hb, hc⟩, hs', hP⟩

theorem read {f : Session α → Run α β} (hf : ∀ s, Returns I (f s) R) :
    Returns I (get >>= f) R :=
  fun s hs => hf s s hs

theorem mono (hm : Returns I m R) (h : ∀ b, R b → Q b) : Returns I m Q := by
  intro s hs
  obtain ⟨b, s', hb, hs', hR⟩ := hm s hs
  exact ⟨b, s', hb, hs', h b hR⟩

theorem modify {f : Session α → Session α} (h : ∀ s, I s → I (f s)) :
    Returns I (modify f : Run α PUnit) fun _ => True :=
  fun s hs => ⟨⟨⟩, f s, rfl, h s hs, trivial⟩

theorem log (h : ∀ s l, I s → I { s with log := l }) (level : LogLevel) (message : String) :
    Returns I (Run.log level message : Run α Unit) fun _ => True := by
  refine modify fun s hs => ?_
  split
  · exact h s _ hs
  · exact hs

/-- What a computation comes to is what it leads to. -/
theorem keeps (hm : Returns I m R) : Keeps I m R := by
  intro s b s' hs hb
  obtain ⟨c, t, hc, ht, hR⟩ := hm s hs
  obtain ⟨rfl, rfl⟩ := Prod.mk.inj (Option.some.inj (hb.symm.trans hc))
  exact ⟨ht, hR⟩

end Returns

end GrammarGraph.Run
