import GrammarGraph.Text

/-!
# Output — what parsers produce

Texts come from literals and patterns; sequences, optional parts and repetitions put the outputs of
their parts together.  Values of the type `α` enter through maps only.
-/

namespace GrammarGraph

/-- The output of a parser. -/
inductive Output (α : Type)
  | text (t : Text)
  | value (a : α)
  | pair (left right : Output α)
  | absent
  | present (inner : Output α)
  | list (items : List (Output α))
deriving Inhabited

/-! ## Equality of outputs is decidable -/

namespace Output

variable {α : Type} [DecidableEq α]

mutual

def decEq : (o p : Output α) → Decidable (o = p)
  | .text t, .text u => decidable_of_iff (t = u) (by simp)
  | .value a, .value b => decidable_of_iff (a = b) (by simp)
  | .pair left right, .pair left' right' =>
    have := left.decEq left'
    have := right.decEq right'
    decidable_of_iff (left = left' ∧ right = right') (by simp)
  | .absent, .absent => isTrue rfl
  | .present o, .present p =>
    have := o.decEq p
    decidable_of_iff (o = p) (by simp)
  | .list os, .list ps =>
    have := decEqList os ps
    decidable_of_iff (os = ps) (by simp)
  | .text _, .value _ | .text _, .pair _ _ | .text _, .absent | .text _, .present _
  | .text _, .list _ => isFalse nofun
  | .value _, .text _ | .value _, .pair _ _ | .value _, .absent | .value _, .present _
  | .value _, .list _ => isFalse nofun
  | .pair _ _, .text _ | .pair _ _, .value _ | .pair _ _, .absent | .pair _ _, .present _
  | .pair _ _, .list _ => isFalse nofun
  | .absent, .text _ | .absent, .value _ | .absent, .pair _ _ | .absent, .present _
  | .absent, .list _ => isFalse nofun
  | .present _, .text _ | .present _, .value _ | .present _, .pair _ _ | .present _, .absent
  | .present _, .list _ => isFalse nofun
  | .list _, .text _ | .list _, .value _ | .list _, .pair _ _ | .list _, .absent
  | .list _, .present _ => isFalse nofun

def decEqList : (os ps : List (Output α)) → Decidable (os = ps)
  | [], [] => isTrue rfl
  | [], _ :: _ | _ :: _, [] => isFalse nofun
  | o :: os, p :: ps =>
    have := o.decEq p
    have := decEqList os ps
    decidable_of_iff (o = p ∧ os = ps) (by simp)

end

instance : DecidableEq (Output α) := decEq

end Output

end GrammarGraph
