import GrammarGraph.Unicode.Letter
import GrammarGraph.Unicode.Number
import GrammarGraph.Unicode.Mark

/-!
# Unicode/Word — word characters and the blanks between words

A word character is alphabetic, a mark, a decimal digit, a joining punctuation mark or a join
control.  The data is that of Unicode 16.
-/

namespace GrammarGraph.Unicode

/-- White space: the property `White_Space`. -/
def blank : CharSet := ⟨[
  0x9, 0xE, 0x20, 0x21, 0x85, 0x86, 0xA0, 0xA1, 0x1680, 0x1681, 0x2000, 0x200B, 0x2028, 0x202A,
  0x202F, 0x2030, 0x205F, 0x2060, 0x3000, 0x3001]⟩

/-- Punctuation that joins words, such as the underscore: the general category `Pc`. -/
def connector : CharSet := ⟨[
  0x5F, 0x60, 0x203F, 0x2041, 0x2054, 0x2055, 0xFE33, 0xFE35, 0xFE4D, 0xFE50, 0xFF3F, 0xFF40]⟩

/-- The two characters that ask for or forbid the joining of their neighbours. -/
def joinControl : CharSet := ⟨[0x200C, 0x200E]⟩

/-- Characters that words are made of. -/
def word : CharSet := CharSet.ofList [alphabetic, mark, decimal, connector, joinControl]

end GrammarGraph.Unicode
