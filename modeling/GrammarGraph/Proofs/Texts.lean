import GrammarGraph.Proofs.Consumed
import GrammarGraph.Proofs.Extension

/-!
# Proofs/Texts — no text is lost or duplicated

    input = texts of the output ++ remaining

Maps may do anything to an output, and sequences may drop one half of theirs.  A grammar with
neither keeps in its outputs all the text that it takes, in the order in which it stands in the
input.

Rules may be built while a parser runs, and what they are defined as is part of the grammar.  A
definition stays (`Session.Extends`), so the whole grammar is told by the session in which the
parse ends.
-/

namespace GrammarGraph

variable {α : Type} {s σ σ' : Session α} {p q c : Parser α}

mutual

/-- **The texts in an output**, joined in their order. -/
def Output.texts : Output α → Text
  | .text t => t
  | .value _ => []
  | .pair left right => left.texts ++ right.texts
  | .absent => []
  | .present inner => inner.texts
  | .list items => Output.textsOf items

/-- The texts in a list of outputs, joined in their order. -/
def Output.textsOf : List (Output α) → Text
  | [] => []
  | item :: rest => item.texts ++ Output.textsOf rest

end

/-! ## Grammars -/

/-- Whether a node hands on all that its parts produce. -/
def Parser.keepsTexts : Parser α → Bool
  | .map _ _ _ => false
  | .sequence _ keep _ _ => keep == .both
  | _ => true

/-- **What a parser is made of in a session**: its parts, and the definitions of the rules among
them, whether or not their arenas are alive. -/
inductive Uses (s : Session α) (p : Parser α) : Parser α → Prop
  | refl : Uses s p p
  | part {q c : Parser α} (h : Uses s p q) (hc : c ∈ q.parts) : Uses s p c
  | definition {r : Rule} {q : Parser α} (h : Uses s p (.rule r)) (hd : s.definition? r = some q) :
      Uses s p q

namespace Uses

theorem trans (h : Uses s p q) (h' : Uses s q c) : Uses s p c := by
  induction h' with
  | refl => exact h
  | part _ hc ih => exact ih.part hc
  | definition _ hd ih => exact ih.definition hd

theorem of_part (hc : c ∈ p.parts) (h : Uses s c q) : Uses s p q := (refl.part hc).trans h

theorem of_definition {r : Rule} (hd : s.definition? r = some p) (h : Uses s p q) :
    Uses s (.rule r) q :=
  (refl.definition hd).trans h

/-- A parser is made of nothing but what is closed under parts and definitions. -/
theorem of_closed {S : Parser α → Prop} (h : Uses s p q) (hp : S p)
    (hparts : ∀ q, S q → ∀ c ∈ q.parts, S c)
    (hdefs : ∀ r q, S (.rule r) → s.definition? r = some q → S q) : S q := by
  induction h with
  | refl => exact hp
  | part _ hc ih => exact hparts _ ih _ hc
  | definition _ hd ih => exact hdefs _ _ ih hd

/-- A repetition is made of nothing but itself and what its part is made of. -/
theorem of_exactly {id : NodeId} {n : Count} (h : Uses s (.exactly id n c) q) :
    q = .exactly id n c ∨ Uses s c q := by
  refine h.of_closed (S := fun q => q = .exactly id n c ∨ Uses s c q) (.inl rfl) ?_ ?_
  · rintro q (rfl | hq) d hd
    · obtain rfl := List.mem_singleton.1 hd
      exact .inr .refl
    · exact .inr (hq.part hd)
  · rintro r q (hr | hr) hd
    · cases hr
    · exact .inr (hr.definition hd)

end Uses

/-- **The texts in an output are what was read**, where no node drops or changes any. -/
theorem Derives.texts_eq {v : Output α} {t : Text}
    (h : Derives (fun r q => s.definition? r = some q) p v t)
    (hp : ∀ q, Uses s p q → q.keepsTexts) : v.texts = t := by
  have inner {p c : Parser α} (hp : ∀ q, Uses s p q → q.keepsTexts) (hc : c ∈ p.parts)
      (q : Parser α) (hq : Uses s c q) : q.keepsTexts := hp q (.of_part hc hq)
  induction h with
  | literal | pattern | absent | done | none => rfl
  | map => cases hp _ .refl
  | @sequence id keep left right v w t u _ _ ihl ihr =>
    obtain rfl : keep = .both := beq_iff_eq.1 (hp _ .refl)
    change v.texts ++ w.texts = t ++ u
    rw [ihl (inner hp (by simp [Parser.parts])), ihr (inner hp (by simp [Parser.parts]))]
  | first _ ih | second _ ih | named _ ih | boxed _ ih =>
    exact ih (inner hp (by simp [Parser.parts]))
  | present _ ih =>
    rw [Output.texts]
    exact ih (inner hp (by simp [Parser.parts]))
  | more _ _ _ ih ihs =>
    have hrest := ihs hp
    rw [Output.texts] at hrest ⊢
    rw [Output.textsOf, ih (inner hp (by simp [Parser.parts])), hrest]
  | again _ _ ih ihs =>
    -- What is left to do is a repetition of its own, of the same part.
    have hrest := ihs fun q hq => by
      rcases hq.of_exactly with rfl | hq
      · rfl
      · exact inner hp (by simp [Parser.parts]) q hq
    rw [Output.texts] at hrest ⊢
    rw [Output.textsOf, ih (inner hp (by simp [Parser.parts])), hrest]
  | rule hd _ ih => exact ih fun q hq => hp q (.of_definition hd hq)

/-! ## Parses -/

/-- **Every parse that succeeds is a derivation** by the definitions that rules have in the end. -/
theorem derives_of_definitions {n : Nat} {input r : Text} {v : Output α}
    (h : p.parse (Calls.upTo n) input σ = some (.ok (v, r), σ')) :
    ∃ t, input = t ++ r ∧ Derives (fun r q => σ'.definition? r = some q) p v t := by
  have hD : (ScriptDiscipline.extending α).Defines fun s r q => s.definition? r = some q :=
    { mono := Session.Extends.definition?
      force := fun n s r _ result t hf => by
        obtain ⟨hst, hdef⟩ := Rule.extends_force (fun _ _ _ _ => Calls.extends_build n) hf
        exact ⟨hst, fun q hq => ⟨trivial, hdef q hq⟩⟩ }
  exact (Discipline.derives hD n p input trivial _ _ h).2 v r rfl

/-- **No text is lost or duplicated**: where no node that a parser is made of changes outputs or
drops any, the texts in its output are exactly what it has consumed.  Rules may be built in the
middle of the parse; their definitions are part of the grammar. -/
theorem texts_append_remaining {n : Nat} {input remaining : Text} {v : Output α}
    (h : p.parse (Calls.upTo n) input σ = some (.ok (v, remaining), σ'))
    (hp : ∀ q, Uses σ' p q → q.keepsTexts) :
    Text.consumed? input remaining = some v.texts ∧ v.texts ++ remaining = input := by
  obtain ⟨t, rfl, ht⟩ := derives_of_definitions h
  rw [ht.texts_eq hp]
  exact ⟨Text.consumed?_append t remaining, rfl⟩

/-- Accents one after another, as a rule that is yet to be built. -/
def deferredAccents : Session Empty where
  nextId := 1
  arenas := [{ slots := [{ deferred := some ⟨"accents", [],
    .optional (.sequence .both (.literal ['é']) (.ref "accents"))⟩ }] }]
  bindings := [("accents", .rule ⟨0, 0, 0⟩)]

/-- One accent, and as many as there are after it. -/
def moreAccents : Parser Empty := .sequence 2 .both (.literal 1 ['é']) (.boxed (.rule ⟨0, 0, 0⟩))

/-- The session in which the rule has been built. -/
def builtAccents : Session Empty :=
  { deferredAccents with
    nextId := 4, arenas := [{ slots := [{ value := some (.optional 3 moreAccents) }] }]
    builds := [⟨"accents", [], .ok 3⟩] }

theorem keepsTexts_of_uses_accents {q : Parser Empty} (h : Uses builtAccents (.rule ⟨0, 0, 0⟩) q) :
    q.keepsTexts := by
  have hq : q ∈ [.rule ⟨0, 0, 0⟩, .optional 3 moreAccents, moreAccents, .literal 1 ['é'],
      .boxed (.rule ⟨0, 0, 0⟩)] := by
    refine h.of_closed (S := (· ∈ [_, _, _, _, _])) (by simp) (fun q hq c hc => ?_)
      fun r q hr hd => ?_
    · simp only [List.mem_cons, List.not_mem_nil, or_false] at hq
      rcases hq with rfl | rfl | rfl | rfl | rfl <;> simp_all [Parser.parts, moreAccents]
    · obtain rfl : r = ⟨0, 0, 0⟩ := by simpa [moreAccents] using hr
      cases hd
      simp
  simp only [List.mem_cons, List.not_mem_nil, or_false] at hq
  rcases hq with rfl | rfl | rfl | rfl | rfl <;> rfl

theorem deferredAccents_texts :
    Text.consumed? ['é', 'é', 'x'] ['x'] = some ['é', 'é'] ∧
      (['é', 'é'] : Text) ++ ['x'] = ['é', 'é', 'x'] :=
  texts_append_remaining
    (v := .present (.pair (.text ['é']) (.present (.pair (.text ['é']) .absent))))
    (show (Parser.rule ⟨0, 0, 0⟩).parse (Calls.upTo 4) ['é', 'é', 'x'] deferredAccents =
      some (_, builtAccents) from rfl)
    fun _ => keepsTexts_of_uses_accents

end GrammarGraph
