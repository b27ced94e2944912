import GrammarGraph.Parser.Label

/-!
# Parser/Parse — parsing

A parser matches at the start of a text, never further on.  It gives an output and what is left of
the text, or an error.

* A sequence, a choice, a counted repetition and a named parser put the mismatches of their parts
  into their own context; a defect of the grammar passes through all of them unchanged.
* A choice, an optional part and an unbounded repetition recover from every failure, defects
  included.
* A repetition whose item succeeds without consuming anything would never end; it fails instead.
* A counted repetition makes a list for all of its outputs before the first round.
-/

namespace GrammarGraph

variable {α : Type}

/-- The output of a sequence. -/
def Keep.combine (keep : Keep) (left right : Output α) : Output α :=
  match keep with
  | .both => .pair left right
  | .left => left
  | .right => right

namespace Parser

/-- A failed result put into the context of a rule. -/
def inContext {β : Type} (label : String) (s : Text) (result : Except ParseError β) :
    Except ParseError β :=
  result.mapError (·.within label s)

/-! ## Repetition -/

/-- The outcome of an unbounded repetition: its outputs, what is left of the text, and the failure
that ended it. -/
structure Rounds (α : Type) where
  outputs : List (Output α)
  remaining : Text
  last : ParseError

/-- **As many rounds as succeed.**  A round that leaves the text as long as it was ends the
repetition with a defect, reported under `label`. -/
def rounds (label : String) (item : Text → Run α (Parsed α)) (s : Text) :
    Run α (Except ParseError (Rounds α)) := do
  match ← item s with
  | .error e => return .ok ⟨[], s, e⟩
  | .ok (v, r) =>
    if r.length < s.length then
      match ← rounds label item r with
      | .error e => return .error e
      | .ok rest => return .ok { rest with outputs := v :: rest.outputs }
    else
      Run.log .debug (label ++ " made no progress on " ++ Text.label s)
      return .error (.definition label (Text.preview s) .zeroProgress)
termination_by s.length

/-- Exactly `count` rounds.  A mismatch is reported under `label`, on the text of its round. -/
def countedRounds (label : String) (item : Text → Run α (Parsed α)) :
    (count : Nat) → Text → Run α (Except ParseError (List (Output α) × Text))
  | 0, s => return .ok ([], s)
  | n + 1, s => do
    match inContext label s (← item s) with
    | .error e => return .error e
    | .ok (v, r) =>
      match ← countedRounds label item n r with
      | .error e => return .error e
      | .ok (vs, r) => return .ok (v :: vs, r)

/-! ## Parsing -/

/-- **The result of a parser at the start of a text.** -/
def parse (calls : Calls α) : Parser α → Text → Run α (Parsed α)
  | .literal _ text, s =>
    match Text.dropPrefix? text s with
    | some r => return .ok (.text text, r)
    | none => return .error (.mismatch (Text.label text) (Text.preview s))
  | .pattern _ p, s =>
    match p.match? s with
    | some (matched, r) => return .ok (.text matched, r)
    | none => return .error (.mismatch p.label (Text.preview s))
  | .map _ inner f, s => do
    match ← inner.parse calls s with
    | .ok (v, r) => return .ok (f v, r)
    | .error e => return .error e
  | .sequence id keep left right, s => do
    let context := inContext (id.label (Binary.sequence keep).tag) s
    match ← left.parse calls s with
    | .error e => return context (.error e)
    | .ok (v, r) =>
      match ← right.parse calls r with
      | .error e => return context (.error e)
      | .ok (w, r) => return .ok (keep.combine v w, r)
  | .choice id left right, s => do
    match ← left.parse calls s with
    | .ok result => return .ok result
    | .error _ =>
      let label := id.label Binary.choice.tag
      if (← get).logging then
        Run.log .trace (label ++ " falls back to " ++ (← right.label calls))
      return inContext label s (← right.parse calls s)
  | .optional _ inner, s => do
    match ← inner.parse calls s with
    | .ok (v, r) => return .ok (.present v, r)
    | .error _ => return .ok (.absent, s)
  | .star id inner, s => do
    match ← rounds (id.label Unary.star.tag) (inner.parse calls) s with
    | .ok result => return .ok (.list result.outputs, result.remaining)
    | .error e => return .error e
  | .exactly id count inner, s => do
    Run.reserve count
    match ← countedRounds (id.label (Unary.exactly count.rounds).tag) (inner.parse calls)
        count.rounds s with
    | .ok (vs, r) => return .ok (.list vs, r)
    | .error e => return .error e
  | .named _ name inner, s => return inContext name s (← inner.parse calls s)
  | .boxed inner, s => inner.parse calls s
  | .rule h, s => do
    match ← h.force calls.build with
    | .ok p => calls.parse p s
    | .error fault => return .error (.definition h.label (Text.preview s) fault)

/-! ## Parsing the whole of a text -/

/-- The result on a text that is to be consumed whole. -/
def whole (label : String) (s : Text) : Parsed α → Except ParseError (Output α)
  | .error e => .error e
  | .ok (v, []) => .ok v
  | .ok (_, r) => .error (.unconsumed label (Text.preview s) r)

/-- **The result of a parser on the whole of a text.**  A repetition that stops short of the end
says what made it stop. -/
def parseAll (calls : Calls α) : Parser α → Text → Run α (Except ParseError (Output α))
  | .boxed inner, s => inner.parseAll calls s
  | .rule h, s => do
    match ← h.force calls.build with
    | .ok p => calls.parseAll p s
    | .error fault => return .error (.definition h.label (Text.preview s) fault)
  | .star id inner, s => do
    let label := id.label Unary.star.tag
    match ← rounds label (inner.parse calls) s with
    | .error e => return .error e
    | .ok ⟨vs, [], _⟩ => return .ok (.list vs)
    | .ok ⟨_, r, last⟩ => return .error (.unconsumedAfter label (Text.preview s) r last)
  | p, s => do
    let result ← p.parse calls s
    return whole (← p.label calls) s result

end Parser

end GrammarGraph
