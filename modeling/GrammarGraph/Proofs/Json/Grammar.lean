import GrammarGraph.Description.Json

/-!
# Proofs/Json/Grammar — which texts are JSON, and what they stand for

    { "count" : 2 , "inner" : [ true , null ] }

The grammar of JSON as a relation between texts and values, one constructor for each of its
productions.  Nothing here is about descriptions or about how they are written: the grammar allows
all escapes, all forms of numbers and blanks wherever JSON has them.

Of strings only those stand for a text that have no unpaired surrogates.  A number stands for how it
is written, and an object for its fields in their order.
-/

namespace GrammarGraph.Json

/-- A JSON value. -/
inductive Value
  | null
  | bool (b : Bool)
  | number (lexeme : Text)
  | string (text : Text)
  | array (items : List Value)
  | object (fields : List (Text × Value))

/-! ## Blanks and numbers -/

/-- The characters that may stand between others. -/
def isBlank (c : Char) : Bool := c = ' ' || c = '\t' || c = '\n' || c = '\r'

/-- The characters that occur in numbers. -/
def isNumberChar (c : Char) : Bool :=
  c.isDigit || c = '-' || c = '+' || c = '.' || c = 'e' || c = 'E'

/-- One digit or more. -/
def isDigits (t : Text) : Bool := !t.isEmpty && t.all Char.isDigit

/-- What may follow the digits of a number: an exponent, or nothing. -/
def isExponent : Text → Bool
  | [] => true
  | [_] => false
  | e :: c :: t =>
    (e = 'e' || e = 'E') && if c = '+' || c = '-' then isDigits t else isDigits (c :: t)

/-- What may follow the integral part: a fraction and an exponent, each or both missing. -/
def isFraction : Text → Bool
  | '.' :: t => isDigits (t.takeWhile Char.isDigit) && isExponent (t.dropWhile Char.isDigit)
  | t => isExponent t

/-- A number without its sign.  A zero is not followed by other digits. -/
def isUnsigned : Text → Bool
  | '0' :: t => isFraction t
  | t => isDigits (t.takeWhile Char.isDigit) && isFraction (t.dropWhile Char.isDigit)

/-- A JSON number. -/
def isNumber : Text → Bool
  | '-' :: t => isUnsigned t
  | t => isUnsigned t

/-! ## Strings -/

/-- The characters that stand for themselves in a string. -/
def isPlain (c : Char) : Bool := c ≠ '"' && c ≠ '\\' && 0x20 ≤ c.toNat

/-- What a backslash and one character stand for. -/
def shortEscape? : Char → Option Char
  | '"' => some '"'
  | '\\' => some '\\'
  | '/' => some '/'
  | 'b' => some '\x08'
  | 'f' => some '\x0C'
  | 'n' => some '\n'
  | 'r' => some '\r'
  | 't' => some '\t'
  | _ => none

/-- The value of a hexadecimal digit. -/
def hexDigit? (c : Char) : Option Nat :=
  if c.isDigit then some (c.toNat - '0'.toNat)
  else if 'a' ≤ c ∧ c ≤ 'f' then some (c.toNat - 'a'.toNat + 10)
  else if 'A' ≤ c ∧ c ≤ 'F' then some (c.toNat - 'A'.toNat + 10)
  else none

/-- The code unit written in four hexadecimal digits. -/
def unit? (a b c d : Char) : Option Nat := do
  return (((← hexDigit? a) * 16 + (← hexDigit? b)) * 16 + (← hexDigit? c)) * 16 + (← hexDigit? d)

/-- The first unit of a surrogate pair. -/
def isHigh (n : Nat) : Bool := 0xD800 ≤ n && n < 0xDC00

/-- The second unit of a surrogate pair. -/
def isLow (n : Nat) : Bool := 0xDC00 ≤ n && n < 0xE000

/-- The code point of a surrogate pair. -/
def joined (high low : Nat) : Nat := 0x10000 + (high - 0xD800) * 0x400 + (low - 0xDC00)

/-- **What is written between the quotes of a string, and the text it stands for.** -/
inductive Spells : Text → Text → Prop
  | nil : Spells [] []
  | plain {c t s} (hc : isPlain c) (h : Spells t s) : Spells (c :: t) (c :: s)
  | short {e c t s} (hc : shortEscape? e = some c) (h : Spells t s) :
      Spells ('\\' :: e :: t) (c :: s)
  | unit {a b c d n t s} (hn : unit? a b c d = some n) (hhigh : ¬isHigh n) (hlow : ¬isLow n)
      (h : Spells t s) : Spells ('\\' :: 'u' :: a :: b :: c :: d :: t) (Char.ofNat n :: s)
  | pair {a b c d m a' b' c' d' n t s} (hm : unit? a b c d = some m) (hhigh : isHigh m)
      (hn : unit? a' b' c' d' = some n) (hlow : isLow n) (h : Spells t s) :
      Spells ('\\' :: 'u' :: a :: b :: c :: d :: '\\' :: 'u' :: a' :: b' :: c' :: d' :: t)
        (Char.ofNat (joined m n) :: s)

/-! ## Values -/

/-- Something with blanks around it. -/
inductive Spaced {β : Type} (P : Text → β → Prop) : Text → β → Prop
  | intro {b t b' v} (hb : b.all isBlank) (h : P t v) (hb' : b'.all isBlank) :
      Spaced P (b ++ t ++ b') v

/-- Things with commas between them. -/
inductive Separated {β : Type} (P : Text → β → Prop) : Text → List β → Prop
  | last {t v} (h : P t v) : Separated P t [v]
  | more {t u v vs} (h : P t v) (hs : Separated P u vs) : Separated P (t ++ ',' :: u) (v :: vs)

/-- A key and a value. -/
inductive Keyed (P : Text → Value → Prop) : Text → Text × Value → Prop
  | intro {b k s b' t v} (hb : b.all isBlank) (hk : Spells k s) (hb' : b'.all isBlank)
      (h : Spaced P t v) : Keyed P (b ++ '"' :: k ++ '"' :: b' ++ ':' :: t) (s, v)

/-- **The text is JSON and denotes the value.** -/
inductive Denotes : Text → Value → Prop
  | null : Denotes ['n', 'u', 'l', 'l'] .null
  | true : Denotes ['t', 'r', 'u', 'e'] (.bool true)
  | false : Denotes ['f', 'a', 'l', 's', 'e'] (.bool false)
  | number {t} (h : isNumber t) : Denotes t (.number t)
  | string {t s} (h : Spells t s) : Denotes ('"' :: t ++ ['"']) (.string s)
  | noItems {b} (hb : b.all isBlank) : Denotes ('[' :: b ++ [']']) (.array [])
  | array {t vs} (h : Separated (Spaced Denotes) t vs) : Denotes ('[' :: t ++ [']']) (.array vs)
  | noFields {b} (hb : b.all isBlank) : Denotes ('{' :: b ++ ['}']) (.object [])
  | object {t fs} (h : Separated (Keyed Denotes) t fs) : Denotes ('{' :: t ++ ['}']) (.object fs)

/-- **JSON texts** and the values they denote. -/
abbrev Reads : Text → Value → Prop := Spaced Denotes

end GrammarGraph.Json
