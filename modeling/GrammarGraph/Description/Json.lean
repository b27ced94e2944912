import GrammarGraph.Description

/-!
# Description/Json — descriptions as JSON texts

    {"newRef":7,"value":{"or":[{"newRef":5,"value":{"literal":"a"}},{"oldRef":7}]}}

A description is written in one of two layouts: on one line without any blanks, or with a line for
every field and item, two blanks deeper than the brackets around it.  Both are the same function of
a `Layout`, so they differ in blanks only.
-/

namespace GrammarGraph

/-! ## JSON text -/

namespace Json

/-- A code point in four hexadecimal digits. -/
def fourHexDigits (n : Nat) : Text :=
  let digits := Nat.toDigits 16 n
  List.replicate (4 - digits.length) '0' ++ digits

/-- How a character is written in a JSON string. -/
def escapeChar (c : Char) : Text :=
  match c with
  | '"' => ['\\', '"']
  | '\\' => ['\\', '\\']
  | '\x08' => ['\\', 'b']
  | '\x0C' => ['\\', 'f']
  | '\n' => ['\\', 'n']
  | '\r' => ['\\', 'r']
  | '\t' => ['\\', 't']
  | c => if c.toNat < 0x20 then ['\\', 'u'] ++ fourHexDigits c.toNat else [c]

/-- A JSON string. -/
def string (s : Text) : Text := '"' :: s.flatMap escapeChar ++ ['"']

/-- A JSON number. -/
def number (n : Nat) : Text := Nat.toDigits 10 n

/-- Where lines are broken, and what follows a key. -/
structure Layout where
  /-- The break before a field or an item, or a closing bracket, at the given depth. -/
  line : Nat → Text
  colon : Text

/-- One line without blanks. -/
def Layout.compact : Layout := ⟨fun _ => [], [':']⟩

/-- A line for every field and item, indented by two blanks for each depth. -/
def Layout.pretty : Layout := ⟨fun depth => '\n' :: List.replicate (2 * depth) ' ', [':', ' ']⟩

namespace Layout

/-- Fields or items between brackets, commas between them. -/
def block (l : Layout) (depth : Nat) (left right : Char) (parts : List Text) : Text :=
  let body := [','].intercalate (parts.map (l.line (depth + 1) ++ ·))
  left :: body ++ l.line depth ++ [right]

/-- A key and its value. -/
def field (l : Layout) (key : String) (value : Text) : Text :=
  string key.toList ++ l.colon ++ value

/-- An object with the given fields. -/
def object (l : Layout) (depth : Nat) (fields : List (String × Text)) : Text :=
  l.block depth '{' '}' (fields.map fun (key, value) => l.field key value)

/-- An array of the given items. -/
def array (l : Layout) (depth : Nat) (items : List Text) : Text := l.block depth '[' ']' items

end Layout

end Json

/-! ## Descriptions -/

open Json

/-- A node without parts. -/
def Leaf.toJson (l : Layout) (depth : Nat) (kind : Leaf) : Text :=
  match kind with
  | .literal text => l.object depth [(kind.tag, string text)]
  | .pattern source => l.object depth [(kind.tag, string source.toList)]
  | .unresolved => string kind.tag.toList

/-- A node with one part, given the depth at which that part is written and its text. -/
def Unary.toJson (l : Layout) (depth : Nat) (kind : Unary) (inner : Nat → Text) : Text :=
  let body :=
    match kind with
    | .map | .optional | .star => inner (depth + 1)
    | .exactly count =>
      l.object (depth + 1) [("count", number count), ("inner", inner (depth + 2))]
    | .named name =>
      l.object (depth + 1) [("name", string name.toList), ("inner", inner (depth + 2))]
  l.object depth [(kind.tag, body)]

/-- A node with two parts, given as for a node with one. -/
def Binary.toJson (l : Layout) (depth : Nat) (kind : Binary) (left right : Nat → Text) : Text :=
  l.object depth [(kind.tag, l.array (depth + 1) [left (depth + 2), right (depth + 2)])]

/-- A description, `depth` brackets deep. -/
def Description.toJson (l : Layout) : Description → (depth : Nat) → Text
  | .backRef id, depth => l.object depth [("oldRef", number id)]
  | .leaf id kind, depth =>
    l.object depth [("newRef", number id), ("value", kind.toJson l (depth + 1))]
  | .unary id kind inner, depth =>
    l.object depth [("newRef", number id), ("value", kind.toJson l (depth + 1) (inner.toJson l))]
  | .binary id kind left right, depth =>
    l.object depth [("newRef", number id),
      ("value", kind.toJson l (depth + 1) (left.toJson l) (right.toJson l))]

/-- The description on one line. -/
def Description.compact (d : Description) : Text := d.toJson .compact 0

/-- The description on indented lines. -/
def Description.pretty (d : Description) : Text := d.toJson .pretty 0

end GrammarGraph
