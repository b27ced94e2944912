import GrammarGraph.Proofs.Derivation

/-!
# Proofs/Consumed — what a parse leaves is the end of what it was given

    input = consumed ++ remaining

A derivation says which part of a text it took (`derives_of_parse`), so what a parse leaves is what
comes after that part.  How much was consumed is computed from lengths in bytes, and comes out right
because the end of a text is as many bytes shorter as the part before it is long.
-/

namespace GrammarGraph

/-! ## Offsets in bytes -/

namespace Text

@[simp] theorem byteLength_nil : byteLength [] = 0 := rfl

@[simp] theorem byteLength_cons (c : Char) (s : Text) :
    byteLength (c :: s) = c.utf8Size + byteLength s := rfl

@[simp] theorem byteLength_append (s t : Text) :
    byteLength (s ++ t) = byteLength s + byteLength t := by
  induction s with
  | nil => rw [List.nil_append, byteLength_nil, Nat.zero_add]
  | cons c s ih => rw [List.cons_append, byteLength_cons, byteLength_cons, ih, Nat.add_assoc]

@[simp] theorem beforeByte?_zero (s : Text) : beforeByte? 0 s = some [] := by
  cases s <;> rw [beforeByte?]

/-- **The offset after a character is one between two characters.** -/
theorem beforeByte?_cons (c : Char) (s : Text) (n : Nat) :
    beforeByte? (c.utf8Size + n) (c :: s) = (beforeByte? n s).map (c :: ·) := by
  obtain ⟨k, hk⟩ := Nat.exists_eq_add_of_lt (Char.utf8Size_pos c)
  have hn : c.utf8Size + n = k + n + 1 := by omega
  rw [hn, beforeByte?, if_pos (by omega), show k + n + 1 - c.utf8Size = n by omega]

theorem beforeByte?_byteLength (t r : Text) : beforeByte? t.byteLength (t ++ r) = some t := by
  induction t with
  | nil => exact beforeByte?_zero r
  | cons c t ih => rw [byteLength_cons, List.cons_append, beforeByte?_cons, ih, Option.map_some]

/-- **The part before the end of a text is found by lengths alone.** -/
theorem consumed?_append (t r : Text) : consumed? (t ++ r) r = some t := by
  rw [consumed?, byteLength_append, if_pos (Nat.le_add_left _ _), Nat.add_sub_cancel,
    beforeByte?_byteLength]

end Text

/-! ## Parses -/

variable {α : Type} {σ σ' : Session α}

/-- Whatever a session holds, a parse that succeeds is a derivation. -/
theorem derives_of_parse_eq_some {n : Nat} {p : Parser α} {s r : Text} {v : Output α}
    (h : p.parse (Calls.upTo n) s σ = some (.ok (v, r), σ')) :
    ∃ t, s = t ++ r ∧ Derives (fun _ _ => True) p v t :=
  (derives_of_parse (I := fun _ => True) (fun _ _ _ => trivial)
    (fun _ _ _ _ _ _ _ => ⟨trivial, fun _ _ => trivial⟩) n p s _ _ _ trivial h).2 v r rfl

/-- **What was consumed and what remains make up the input**, for every parser in every session:
whatever its rules are defined as, and whatever is defined or given up while it runs. -/
theorem consumed_append_remaining {n : Nat} {p : Parser α} {input remaining : Text} {v : Output α}
    (h : p.parse (Calls.upTo n) input σ = some (.ok (v, remaining), σ')) :
    ∃ consumed, Text.consumed? input remaining = some consumed ∧ consumed ++ remaining = input := by
  obtain ⟨t, rfl, -⟩ := derives_of_parse_eq_some h
  exact ⟨t, Text.consumed?_append t remaining, rfl⟩

/-- Accents one after another, as a rule that refers to itself. -/
def accents : Session Empty :=
  let accent : Parser Empty := .literal 1 ['é']
  let definition := .optional 3 (.sequence 2 .both accent (.rule ⟨0, 0, 0⟩))
  { arenas := [{ slots := [{ value := some definition }] }] }

theorem accents_consumed : ∃ consumed,
    Text.consumed? ['é', 'é', 'x'] ['x'] = some consumed ∧ consumed ++ ['x'] = ['é', 'é', 'x'] :=
  consumed_append_remaining <| show (Parser.rule ⟨0, 0, 0⟩).parse (Calls.upTo 4)
    ['é', 'é', 'x'] accents = some (_, accents) from rfl

end GrammarGraph
