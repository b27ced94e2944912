/-!
# Text — slices of input

Parsers work on lists of characters: what a parser leaves unread is again such a list.
-/

namespace GrammarGraph

/-- A piece of text, as the list of its characters. -/
abbrev Text := List Char

namespace Text

/-- What follows `start` in `s`, if `s` begins with it. -/
def dropPrefix? : (start s : Text) → Option Text
  | [], s => some s
  | _ :: _, [] => none
  | a :: start, c :: s => if a = c then dropPrefix? start s else none

/-- **What is dropped and what follows make up the text.** -/
theorem dropPrefix?_eq_some_iff {start s r : Text} :
    dropPrefix? start s = some r ↔ s = start ++ r := by
  fun_induction dropPrefix? start s with
  | case1 s => simp
  | case2 => simp
  | case3 start c s ih => simp [ih]
  | case4 a start c s h => simp [Ne.symm h]

/-! ## Lengths in bytes

Offsets into a text count the bytes of its UTF-8 encoding, so not every offset lies between two
characters. -/

/-- How many bytes a text takes. -/
def byteLength : Text → Nat
  | [] => 0
  | c :: s => c.utf8Size + byteLength s

/-- The part of a text before an offset, if the offset lies between two characters. -/
def beforeByte? : (offset : Nat) → Text → Option Text
  | 0, _ => some []
  | _ + 1, [] => none
  | n + 1, c :: s =>
    if c.utf8Size ≤ n + 1 then (beforeByte? (n + 1 - c.utf8Size) s).map (c :: ·) else none
termination_by structural _ s => s

/-- **What was consumed of an input**, told by how much of it remains.  There is none if more
remains than there was, or if the cut would fall inside a character. -/
def consumed? (input remaining : Text) : Option Text :=
  if remaining.byteLength ≤ input.byteLength then
    beforeByte? (input.byteLength - remaining.byteLength) input
  else none

/-! ## Previews -/

/-- Error reports quote at most this many characters of the text they are about. -/
def previewLength : Nat := 64

/-- The part of a text that an error report quotes. -/
def preview (s : Text) : Text := s.take previewLength

end Text

end GrammarGraph
