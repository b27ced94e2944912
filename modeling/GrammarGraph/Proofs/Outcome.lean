import GrammarGraph.Proofs.Run

/-!
# Proofs/Outcome — what a parse comes to

A derivation says what a parse that succeeds has read.  That a parse succeeds, and where it stops,
is a matter of what its parts do on the very texts they are tried on, those that fail included.
`Gives` says that a parser has a certain outcome on a text; there is one lemma for each way in which
a parser comes by its outcome.  They all go on with what a part has come to (`bind_ok`,
`bind_error`).
-/

namespace GrammarGraph

variable {α : Type}

namespace Run.Returns

variable {β γ ε : Type} {I : Session α → Prop} {m : Run α (Except ε β)} {f : Except ε β → Run α γ}
  {R : γ → Prop}

/-- Going on where something has succeeded. -/
theorem bind_ok {b : β} (hm : Run.Returns I m (·.toOption = some b))
    (hf : Run.Returns I (f (.ok b)) R) : Run.Returns I (m >>= f) R := by
  refine hm.bind fun result hresult => ?_
  match result, hresult with
  | .ok _, rfl => exact hf

/-- Going on where something has failed in some way. -/
theorem bind_error (hm : Run.Returns I m (·.toOption = none))
    (hf : ∀ e, Run.Returns I (f (.error e)) R) : Run.Returns I (m >>= f) R := by
  refine hm.bind fun result hresult => ?_
  match result, hresult with
  | .error e, _ => exact hf e

end Run.Returns

/-- **The outcome of a parser on a text**: output and rest, or a failure of any kind, in every
session with `I`, which is kept. -/
def Gives (I : Session α → Prop) (calls : Calls α) (p : Parser α) (s : Text)
    (outcome : Option (Output α × Text)) : Prop :=
  Run.Returns I (p.parse calls s) (·.toOption = outcome)

namespace Gives

variable {I : Session α → Prop} {calls : Calls α} {p left right : Parser α} {s r r' : Text}
  {v w : Output α} {outcome : Option (Output α × Text)}

/-! ## Leaves -/

theorem literal (i : NodeId) (text r : Text) :
    Gives I calls (.literal i text) (text ++ r) (some (.text text, r)) := by
  rw [Gives, Parser.parse, Text.dropPrefix?_eq_some_iff.2 rfl]
  exact .pure rfl

theorem literal_none {i : NodeId} {text : Text} (h : Text.dropPrefix? text s = none) :
    Gives I calls (.literal i text) s none := by
  rw [Gives, Parser.parse, h]
  exact .pure rfl

theorem pattern {i : NodeId} {p : Pattern} {matched : Text} (h : p.match? s = some (matched, r)) :
    Gives I calls (.pattern i p) s (some (.text matched, r)) := by
  rw [Gives, Parser.parse, h]
  exact .pure rfl

theorem pattern_none {i : NodeId} {p : Pattern} (h : p.match? s = none) :
    Gives I calls (.pattern i p) s none := by
  rw [Gives, Parser.parse, h]
  exact .pure rfl

/-! ## Nodes with one part -/

theorem map {i : NodeId} {f : Output α → Output α} (h : Gives I calls p s outcome) :
    Gives I calls (.map i p f) s (outcome.map fun x => (f x.1, x.2)) := by
  rw [Gives, Parser.parse]
  refine Run.Returns.bind h fun result hresult => ?_
  subst hresult
  match result with
  | .ok (_, _) => exact .pure rfl
  | .error _ => exact .pure rfl

theorem map_none {i : NodeId} {f : Output α → Output α} (h : Gives I calls p s none) :
    Gives I calls (.map i p f) s none := map h

theorem named {i : NodeId} {n : String} (h : Gives I calls p s outcome) :
    Gives I calls (.named i n p) s outcome := by
  rw [Gives, Parser.parse]
  refine Run.Returns.bind h fun result hresult => ?_
  subst hresult
  cases result with
  | ok _ => exact .pure rfl
  | error _ => exact .pure rfl

theorem boxed (h : Gives I calls p s outcome) : Gives I calls (.boxed p) s outcome := by
  rwa [Gives, Parser.parse]

theorem present {i : NodeId} (h : Gives I calls p s (some (v, r))) :
    Gives I calls (.optional i p) s (some (.present v, r)) := by
  rw [Gives, Parser.parse]
  exact Run.Returns.bind_ok h (.pure rfl)

theorem absent {i : NodeId} (h : Gives I calls p s none) :
    Gives I calls (.optional i p) s (some (.absent, s)) := by
  rw [Gives, Parser.parse]
  exact Run.Returns.bind_error h fun _ => .pure rfl

/-! ## Sequences and choices -/

theorem sequence {i : NodeId} {keep : Keep} (hl : Gives I calls left s (some (v, r)))
    (hr : Gives I calls right r (some (w, r'))) :
    Gives I calls (.sequence i keep left right) s (some (keep.combine v w, r')) := by
  rw [Gives, Parser.parse]
  exact Run.Returns.bind_ok hl (Run.Returns.bind_ok hr (.pure rfl))

theorem sequence_left {i : NodeId} {keep : Keep} (hl : Gives I calls left s none) :
    Gives I calls (.sequence i keep left right) s none := by
  rw [Gives, Parser.parse]
  exact Run.Returns.bind_error hl fun _ => .pure rfl

theorem sequence_right {i : NodeId} {keep : Keep} (hl : Gives I calls left s (some (v, r)))
    (hr : Gives I calls right r none) : Gives I calls (.sequence i keep left right) s none := by
  rw [Gives, Parser.parse]
  exact Run.Returns.bind_ok hl (Run.Returns.bind_error hr fun _ => .pure rfl)

theorem first {i : NodeId} (hl : Gives I calls left s (some (v, r))) :
    Gives I calls (.choice i left right) s (some (v, r)) := by
  rw [Gives, Parser.parse]
  exact Run.Returns.bind_ok hl (.pure rfl)

/-- The second branch is asked for its label where its use is logged. -/
theorem second {i : NodeId} (hlog : ∀ s l, I s → I { s with log := l })
    (hlabel : Run.Returns I (right.label calls) fun _ => True) (hl : Gives I calls left s none)
    (hr : Gives I calls right s outcome) : Gives I calls (.choice i left right) s outcome := by
  rw [Gives, Parser.parse]
  have hright : Run.Returns I (do
      return Parser.inContext (i.label Binary.choice.tag) s (← right.parse calls s))
      (·.toOption = outcome) := by
    refine Run.Returns.bind hr fun result hresult => ?_
    subst hresult
    cases result with
    | ok _ => exact .pure rfl
    | error _ => exact .pure rfl
  refine Run.Returns.bind_error hl fun _ => .read fun σ => ?_
  dsimp only
  split
  · exact hlabel.bind fun _ _ => (Run.Returns.log hlog _ _).bind fun _ _ => hright
  · exact hright

/-! ## Repetitions -/

section Repetition

variable {label : String} {item : Text → Run α (Parsed α)}

/-- The rounds come to these outputs and this rest. -/
def Rounds (I : Session α → Prop) (label : String) (item : Text → Run α (Parsed α)) (s : Text)
    (vs : List (Output α)) (r : Text) : Prop :=
  Run.Returns I (Parser.rounds label item s) fun result =>
    ∃ e, result = .ok ⟨vs, r, e⟩

theorem rounds_nil (h : Run.Returns I (item s) (·.toOption = none)) :
    Rounds I label item s [] s := by
  rw [Rounds, Parser.rounds]
  exact h.bind_error fun e => .pure ⟨e, rfl⟩

theorem rounds_cons {vs : List (Output α)} (h : Run.Returns I (item s) (·.toOption = some (v, r)))
    (hlt : r.length < s.length) (hs : Rounds I label item r vs r') :
    Rounds I label item s (v :: vs) r' := by
  rw [Rounds, Parser.rounds]
  refine h.bind_ok ?_
  dsimp only
  rw [if_pos hlt]
  refine Run.Returns.bind hs fun result hresult => ?_
  obtain ⟨e, rfl⟩ := hresult
  exact .pure ⟨e, rfl⟩

end Repetition

/-- The repetition comes to these outputs and this rest. -/
def Repeats (I : Session α → Prop) (calls : Calls α) (p : Parser α) (s : Text)
    (vs : List (Output α)) (r : Text) : Prop :=
  ∀ label, Rounds I label (p.parse calls) s vs r

theorem done (h : Gives I calls p s none) : Repeats I calls p s [] s := fun _ => rounds_nil h

theorem more {vs : List (Output α)} (h : Gives I calls p s (some (v, r)))
    (hlt : r.length < s.length) (hs : Repeats I calls p r vs r') :
    Repeats I calls p s (v :: vs) r' :=
  fun label => rounds_cons h hlt (hs label)

theorem star {i : NodeId} {vs : List (Output α)} (h : Repeats I calls p s vs r) :
    Gives I calls (.star i p) s (some (.list vs, r)) := by
  rw [Gives, Parser.parse]
  refine Run.Returns.bind (h _) fun result hresult => ?_
  obtain ⟨e, rfl⟩ := hresult
  exact .pure rfl

/-! ## Rules -/

/-- A rule has the outcome that everything has which it may turn out to be defined as. -/
theorem rule {n : Nat} {h : Rule} {Q : Parser α → Prop}
    (hforce : Run.Returns I (h.force (Calls.upTo (n + 1)).build) fun r => ∃ p, r = .ok p ∧ Q p)
    (hp : ∀ p, Q p → Gives I (Calls.upTo n) p s outcome) :
    Gives I (Calls.upTo (n + 1)) (.rule h) s outcome := by
  rw [Gives, Parser.parse]
  refine Run.Returns.bind hforce fun result hresult => ?_
  obtain ⟨p, rfl, hQ⟩ := hresult
  exact hp p hQ

end Gives

end GrammarGraph
