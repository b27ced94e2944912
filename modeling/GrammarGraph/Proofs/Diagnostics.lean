import GrammarGraph.Proofs.Naming
import GrammarGraph.Proofs.Trail

/-!
# Proofs/Diagnostics — names are there for messages only

    e₀ ──▸ e₁ ──▸ e₂ ──▸ e₃          told by a node, a name, a node and a literal
    e₀ ─────────▸ e₂ ──▸ e₃          without the name

If names are removed from a grammar, the errors of its parses lose the links that these names have
told, and keep all others (`Shortened`).  Who has told what is known from the trail of an error, and
the trail is followed step by step: what is exposed in one grammar is exposed in the other
(`Paired.exposes`), unless it is a name that exposes it; then that is evaluated in its place
(`Exposes.of_isGone`).
-/

namespace GrammarGraph

variable {α : Type}

/-- What a link of a chain says, its cause aside. -/
def ParseError.heading (e : ParseError) : String × Text := (e.grammar, e.input)

/-- Whether the node is a name that is removed. -/
def Parser.isGone (gone : NodeId → Bool) : Parser α → Bool
  | .named id _ _ => gone id
  | _ => false

namespace Evaluation

variable {gone : NodeId → Bool} {E F : Evaluation α} {p : Parser α} {l : String} {x : Text}
  {σ' τ' : Session α} {e c c' : ParseError} {links : List (Parser α × ParseError)}

/-- The evaluation without the names, in some session. -/
def unname (gone : NodeId → Bool) (E : Evaluation α) (σ' : Session α) : Evaluation α :=
  ⟨E.depth, E.parser.unname gone, E.input, σ'⟩

/-! ## Errors without what names have told -/

/-- **The error without the links that the names have told.**  The last link is no name's, and stays
what it is. -/
structure Shortened (gone : NodeId → Bool) (links : List (Parser α × ParseError))
    (e e' : ParseError) : Prop where
  isDefinition : e'.isDefinition = e.isDefinition
  rootCause : e'.rootCause = e.rootCause
  chain : e'.chain.map ParseError.heading =
    (links.filter fun link => !link.1.isGone gone).map fun link => link.2.heading

/-- What is raised is not told by a name. -/
theorem Raises.shortened (h : E.Raises e) : Shortened gone [(E.parser, e)] e e where
  isDefinition := rfl
  rootCause := rfl
  chain := by
    cases h with
    | literal | pattern | stalled | refused => rfl

theorem Shortened.keep (h : Shortened gone links c c') (hkept : p.isGone gone = false) :
    Shortened gone ((p, .mismatchWithin l x c) :: links) (.mismatchWithin l x c)
      (.mismatchWithin l x c') where
  isDefinition := rfl
  rootCause := h.rootCause
  chain := by
    rw [List.filter_cons_of_pos (by rw [hkept]; rfl)]
    exact congrArg (_ :: ·) h.chain

theorem Shortened.drop (h : Shortened gone links c c') (hgone : p.isGone gone = true)
    (hdefect : c.isDefinition = false) :
    Shortened gone ((p, .mismatchWithin l x c) :: links) (.mismatchWithin l x c) c' where
  isDefinition := h.isDefinition.trans hdefect
  rootCause := h.rootCause
  chain := by
    rw [List.filter_cons_of_neg (by rw [hgone]; exact Bool.not_eq_true _ ▸ rfl)]
    exact h.chain

/-- A node that is kept does with an error what it did. -/
theorem report_unname (hkept : E.parser.isGone gone = false)
    (hdefect : c'.isDefinition = c.isDefinition) :
    (E.report F c = c ∧ (E.unname gone σ').report (F.unname gone τ') c' = c') ∨
      ∃ l x, E.report F c = .mismatchWithin l x c ∧
        (E.unname gone σ').report (F.unname gone τ') c' = .mismatchWithin l x c' := by
  have hwithin (l : String) (x : Text) : (c.within l x = c ∧ c'.within l x = c') ∨
      ∃ l' x', c.within l x = .mismatchWithin l' x' c ∧
        c'.within l x = .mismatchWithin l' x' c' := by
    rw [ParseError.within, ParseError.within, hdefect]
    split
    · exact .inl ⟨rfl, rfl⟩
    · exact .inr ⟨l, Text.preview x, rfl, rfl⟩
  obtain ⟨n, p, x, σ⟩ := E
  cases p with
  | sequence id keep => exact hwithin (id.label (Binary.sequence keep).tag) x
  | choice id => exact hwithin (id.label Binary.choice.tag) x
  | exactly id count => exact hwithin (id.label (Unary.exactly count.rounds).tag) F.input
  | named id name inner =>
    rw [Evaluation.unname, Parser.unname_of_kept name inner hkept]
    exact hwithin name x
  | _ => exact .inl ⟨rfl, rfl⟩

/-- A name that is removed exposes what it names, and that is evaluated in its place. -/
theorem Exposes.of_isGone (h : Exposes E F) (hgone : E.parser.isGone gone = true) :
    (∀ σ', E.unname gone σ' = F.unname gone σ') ∧ F.parser ∈ E.parser.parts ∧
      F.session = E.session := by
  cases h with
  | @named n id name inner x σ =>
    refine ⟨fun σ' => ?_, List.mem_singleton_self _, rfl⟩
    rw [Evaluation.unname, Parser.unname_of_gone name inner hgone]
    rfl
  | _ => cases hgone

/-! ## Evaluations side by side -/

/-- **A parser of the grammar is evaluated, and next to it the same parser without the names**, with
nothing but the logs changed so far. -/
structure Paired (s : Session α) (root : Parser α) (gone : NodeId → Bool) (E : Evaluation α)
    (σ' : Session α) : Prop where
  reaches : Reaches s root E.parser
  session : s.Logged E.session
  unnamed : (s.unname gone).Logged σ'

namespace Paired

variable {s : Session α} {root : Parser α} (hs : Settled s root)

section Rounds

variable {n k : Nat} {y : Text} {σ τ : Session α}

include hs

theorem leaves (hE : Paired s root gone ⟨n, p, x, σ⟩ σ') (h : Leaves ⟨n, p, x, σ⟩ y τ) :
    ∃ τ', Leaves ⟨n, p.unname gone, x, σ'⟩ y τ' ∧ Paired s root gone ⟨n, p, y, τ⟩ τ' := by
  obtain ⟨v, hv⟩ := h
  obtain ⟨c, τ', hc, hR, hτ, hτ'⟩ :=
    (hs.matches_unname gone hE.reaches n x).of_eq_some hE.session hE.unnamed hv
  cases hR with
  | ok h => exact ⟨τ', ⟨v, h ▸ hc⟩, hE.reaches, hτ, hτ'⟩

theorem turns {goesOn : Text → Text → Prop} (hE : Paired s root gone ⟨n, p, x, σ⟩ σ')
    (h : Turns n p goesOn k x σ y τ) :
    ∃ τ', Turns n (p.unname gone) goesOn k x σ' y τ' ∧ Paired s root gone ⟨n, p, y, τ⟩ τ' := by
  induction h generalizing σ' with
  | none => exact ⟨σ', .none, hE⟩
  | more h hgo _ ih =>
    obtain ⟨τ', h', hτ⟩ := hE.leaves hs h
    obtain ⟨υ', hs', hυ⟩ := ih hτ
    exact ⟨υ', .more h' hgo hs', hυ⟩

/-- What comes before the second branch of a choice has a result, since that branch has one. -/
theorem announce (hE : Paired s root gone ⟨n, p, x, σ⟩ σ') (id : NodeId)
    (hF : Fails ⟨n, p, x, σ⟩ e) :
    ∃ υ', Parser.announce (Calls.upTo n) id (p.unname gone) σ' = some (⟨⟩, υ') ∧
      (s.unname gone).Logged υ' := by
  obtain ⟨τ, h⟩ := hF
  cases ha : Parser.announce (Calls.upTo n) id (p.unname gone) σ' with
  | none =>
    have hnone :=
      ((hs.matches_unname gone hE.reaches n x).eq_none_iff hE.session hE.unnamed).2
        (Parser.parse_eq_none_of_announce x ha)
    cases hnone.symm.trans h
  | some r =>
    have hkeeps := hs.keeps_announce_unname gone hE.reaches n id
    exact ⟨r.2, rfl, (hkeeps σ' r.1 r.2 hE.unnamed ha).1⟩

end Rounds

variable (hE : Paired s root gone E σ')

include hs hE

/-- What is raised is raised without the names. -/
theorem raises (h : E.Raises e) : (E.unname gone σ').Raises e := by
  obtain ⟨hreaches, hσ, hσ'⟩ := hE
  cases h with
  | literal h => exact .literal h
  | pattern h => exact .pattern h
  | stalled h hy =>
    have hinner := hreaches.part (List.mem_singleton_self _)
    obtain ⟨τ', hturns, hτ⟩ := turns hs ⟨hinner, hσ, hσ'⟩ h
    obtain ⟨υ', hy', -⟩ := hτ.leaves hs hy
    exact .stalled hturns hy'
  | @refused n handle fault x σ τ hf =>
    obtain ⟨r, hr⟩ := exists_forces (hs handle hreaches).2
    obtain ⟨_, τ', hf', ⟨rfl, rfl⟩, -⟩ := (Run.Matches.force hr _ _).of_eq_some hσ hσ' hf
    exact .refused hf'

/-- **What is exposed is exposed without the names**, unless it is one of them that exposes it. -/
theorem exposes (hkept : E.parser.isGone gone = false) (h : Exposes E F) (hF : F.Fails c) :
    ∃ τ', Exposes (E.unname gone σ') (F.unname gone τ') ∧ Paired s root gone F τ' := by
  obtain ⟨hreaches, hσ, hσ'⟩ := hE
  cases h with
  | map => exact ⟨σ', .map, hreaches.part (by simp [Parser.parts]), hσ, hσ'⟩
  | left => exact ⟨σ', .left, hreaches.part (by simp [Parser.parts]), hσ, hσ'⟩
  | @right n id keep left right x y σ τ h =>
    have hleft : Reaches s root left := hreaches.part (by simp [Parser.parts])
    obtain ⟨τ', h', -, hτ, hτ'⟩ := leaves hs ⟨hleft, hσ, hσ'⟩ h
    exact ⟨τ', .right h', hreaches.part (by simp [Parser.parts]), hτ, hτ'⟩
  | @second n id left right x σ e τ υ h ha =>
    have hleft : Reaches s root left := hreaches.part (by simp [Parser.parts])
    have hright : Reaches s root right := hreaches.part (by simp [Parser.parts])
    obtain ⟨_, τ', h', hR, hτ, hτ'⟩ := (hs.matches_unname gone hleft n x).of_eq_some hσ hσ' h
    have hυ := (hs.keeps_announce hright n id τ _ υ hτ ha).1
    obtain ⟨υ', ha', hυ'⟩ := announce hs ⟨hright, hυ, hτ'⟩ id hF
    cases hR with
    | error => exact ⟨υ', .second h' ha', hright, hυ, hυ'⟩
  | exactly hfits hk h =>
    have hinner := hreaches.part (List.mem_singleton_self _)
    obtain ⟨τ', h', hτ⟩ := turns hs ⟨hinner, hσ, hσ'⟩ h
    exact ⟨τ', .exactly hfits hk h', hτ⟩
  | @named n id name inner x σ =>
    refine ⟨σ', ?_, hreaches.part (List.mem_singleton_self _), hσ, hσ'⟩
    rw [Evaluation.unname, Parser.unname_of_kept name inner hkept]
    exact .named
  | boxed => exact ⟨σ', .boxed, hreaches.part (List.mem_singleton_self _), hσ, hσ'⟩
  | @rule n handle p x σ τ hf =>
    obtain ⟨r, hr⟩ := exists_forces (hs handle hreaches).2
    obtain ⟨_, τ', hf', ⟨rfl, rfl⟩, hτ, hτ'⟩ := (Run.Matches.force hr _ _).of_eq_some hσ hσ' hf
    exact ⟨τ', .rule hf', hreaches.definition hr, hτ, hτ'⟩

/-- **What fails along a trail fails without the names**, and what they have told is not told any
more. -/
theorem exists_shortened (h : E.Trail e links) :
    ∃ e', (E.unname gone σ').Fails e' ∧ Shortened gone links e e' := by
  induction h generalizing σ' with
  | raised h => exact ⟨_, fails_of_raises (hE.raises hs h), h.shortened⟩
  | @passed E F e links hF h he ih =>
    cases hgone : E.parser.isGone gone with
    | true =>
      obtain ⟨heq, hpart, hsame⟩ := hF.of_isGone hgone
      obtain ⟨e', he', hshort⟩ := ih ⟨hE.reaches.part hpart, hsame ▸ hE.session, hE.unnamed⟩
      exact ⟨e', heq σ' ▸ he', hshort⟩
    | false =>
      obtain ⟨τ', hF', hpaired⟩ := hE.exposes hs hgone hF h.fails
      obtain ⟨e', he', hshort⟩ := ih hpaired
      obtain ⟨-, hreport⟩ | ⟨l, x, hreport, -⟩ := report_unname hgone hshort.isDefinition
      · exact ⟨e', hreport ▸ fails_of_exposes hF' he', hshort⟩
      · cases he.symm.trans hreport
  | @told E F c l x links hF h he ih =>
    cases hgone : E.parser.isGone gone with
    | true =>
      obtain ⟨heq, hpart, hsame⟩ := hF.of_isGone hgone
      obtain ⟨c', hc', hshort⟩ := ih ⟨hE.reaches.part hpart, hsame ▸ hE.session, hE.unnamed⟩
      have hdefect : c.isDefinition = false := by
        by_contra hdefect
        cases he.symm.trans (report_of_isDefinition (eq_true_of_ne_false hdefect) E F)
      exact ⟨c', heq σ' ▸ hc', hshort.drop hgone hdefect⟩
    | false =>
      obtain ⟨τ', hF', hpaired⟩ := hE.exposes hs hgone hF h.fails
      obtain ⟨c', hc', hshort⟩ := ih hpaired
      obtain ⟨hreport, -⟩ | ⟨l', x', hreport, hreport'⟩ := report_unname hgone hshort.isDefinition
      · cases he.symm.trans hreport
      · obtain ⟨rfl, rfl, -⟩ := ParseError.mismatchWithin.inj (he.symm.trans hreport)
        exact ⟨_, hreport' ▸ fails_of_exposes hF' hc', hshort.keep hgone⟩

end Paired

/-! ## Grammars without names -/

/-- **Names are there for messages only.**  Whatever names are removed from a settled grammar, each
of its parsers succeeds as before, with the same output and the same text left, or fails as before,
with an error of the same kind and with the same root cause.  Its chain has lost the links that the
names have told, and no others. -/
theorem names_are_for_messages {s : Session α} {root : Parser α} (hs : Settled s root)
    (gone : NodeId → Bool) : ∀ p, Reaches s root p → ∀ n x,
    let E : Evaluation α := ⟨n, p, x, s⟩
    let E' : Evaluation α := ⟨n, p.unname gone, x, s.unname gone⟩
    (E.run = none ∧ E'.run = none) ∨
    (∃ v r τ τ', E.run = some (.ok (v, r), τ) ∧ E'.run = some (.ok (v, r), τ')) ∨
    ∃ e e', E.Fails e ∧ E'.Fails e' ∧ e'.isMismatch = e.isMismatch ∧
      ∃ links, E.Trail e links ∧ links.map (·.2) = e.chain ∧ Shortened gone links e e' := by
  intro p hp n x E E'
  have hE : Paired s root gone E (s.unname gone) := ⟨hp, ⟨s.log, rfl⟩, ⟨s.log, rfl⟩⟩
  obtain ⟨h, h'⟩ | ⟨a, τ, b, τ', h, h', hR, -⟩ :=
    hs.matches_unname gone hp n x s _ hE.session hE.unnamed
  · exact .inl ⟨h, h'⟩
  · cases hR with
    | @ok r _ heq =>
      subst heq
      exact .inr (.inl ⟨r.1, r.2, τ, τ', h, h'⟩)
    | @error e _ =>
      have hfails : E.Fails e := ⟨τ, h⟩
      obtain ⟨links, htrail⟩ := exists_trail hfails
      obtain ⟨e', hfails', hshort⟩ := hE.exists_shortened hs htrail
      have hkind : e'.isMismatch = e.isMismatch := by
        rw [isMismatch_of_fails hfails, isMismatch_of_fails hfails', hshort.isDefinition]
      exact .inr (.inr ⟨e, e', hfails, hfails', hkind, links, htrail, htrail.chain_eq, hshort⟩)

/-- Opening brackets without end, each under a name. -/
def nested : Session Empty :=
  let definition := .named 3 "nested" (.sequence 2 .both (.literal 1 ['(']) (.rule ⟨0, 0, 0⟩))
  { arenas := [{ slots := [{ value := some definition }] }] }

/-- The name tells of each bracket, and all of that goes. -/
theorem names_are_for_messages_nested : Settled nested (.rule ⟨0, 0, 0⟩) ∧
    ∃ e e', Fails ⟨2, .rule ⟨0, 0, 0⟩, ['(', 'x'], nested⟩ e ∧
      Fails ⟨2, .rule ⟨0, 0, 0⟩, ['(', 'x'], nested.unname fun _ => true⟩ e' ∧
      e'.rootCause = e.rootCause ∧ e.chain.length = 5 ∧ e'.chain.length = 3 := by
  have hsettled : Settled nested (.rule ⟨0, 0, 0⟩) := by
    intro h hr
    have hmem : h ∈ [⟨0, 0, 0⟩, ⟨0, 0, 0⟩] := hr.mem_graphRules
    obtain rfl : h = ⟨0, 0, 0⟩ := by simpa using hmem
    exact ⟨nofun, nofun⟩
  refine ⟨hsettled, ?_⟩
  obtain ⟨hnone, -⟩ | ⟨v, r, τ, τ', hok, -⟩ | ⟨e, e', he, he', -, links, -, -, hshort⟩ :=
    names_are_for_messages hsettled (fun _ => true) _ .refl 2 ['(', 'x']
  · cases hnone
  · cases hok
  · refine ⟨e, e', he, he', hshort.rootCause, ?_, ?_⟩
    · obtain ⟨τ, h⟩ := he
      cases h
      rfl
    · obtain ⟨τ, h⟩ := he'
      cases h
      rfl

end Evaluation

end GrammarGraph
