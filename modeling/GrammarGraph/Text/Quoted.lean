import GrammarGraph.Text
import GrammarGraph.Unicode.Added
import GrammarGraph.Unicode.Mark
import GrammarGraph.Unicode.Printable

/-!
# Text/Quoted — text between double quotes

Messages show the texts they are about between double quotes.  A quote, a backslash and the usual
control characters get a backslash; any other character that could not be seen, or that would
merge with the one before it, is written by its code point, as in `\u{301}`.
-/

namespace GrammarGraph.Text

/-- Whether a character is a mark that merges with the one before it.  The two sound marks of
half-width Japanese extend a character as well, but are letters with a place of their own. -/
def isExtender (c : Char) : Bool :=
  (Unicode.mark.contains c && Unicode.graphemeExtend.contains c)
    || Unicode.addedExtender.contains c

/-- Whether a quoted text shows the character as it is. -/
def isShown (c : Char) : Bool :=
  !Unicode.invisible.contains c && !Unicode.filler.contains c && !isExtender c

/-- How a character is written between quotes. -/
def quoteChar (c : Char) : Text :=
  match c with
  | '"' => ['\\', '"']
  | '\\' => ['\\', '\\']
  | '\n' => ['\\', 'n']
  | '\r' => ['\\', 'r']
  | '\t' => ['\\', 't']
  | '\x00' => ['\\', '0']
  | c => if isShown c then [c] else ['\\', 'u', '{'] ++ Nat.toDigits 16 c.toNat ++ ['}']

/-- A text between double quotes. -/
def quote (s : Text) : Text := '"' :: s.flatMap quoteChar ++ ['"']

/-- A string between double quotes. -/
def quoteString (s : String) : String := String.ofList (quote s.toList)

end GrammarGraph.Text
