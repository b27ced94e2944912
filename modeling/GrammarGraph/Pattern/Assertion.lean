import GrammarGraph.Unicode.Word

/-!
# Pattern/Assertion — conditions on the place between two characters

An assertion consumes nothing: it holds or fails at a place in a text, judged by the character
before the place and the one after it.  Either is absent at an end of the text.
-/

namespace GrammarGraph

/-- How a place lies to the words around it. -/
inductive WordEdge
  | boundary
  | interior
  | start
  | finish
  | startHalf
  | finishHalf
deriving DecidableEq, Repr

/-- A condition on a place in a text.  Word edges go by Unicode's word characters, or by the ASCII
ones only. -/
inductive Assertion
  | textStart
  | textEnd
  | lineStart
  | lineEnd
  | crlfLineStart
  | crlfLineEnd
  | word (edge : WordEdge) (unicode : Bool)
deriving DecidableEq, Repr

/-- The word characters of ASCII. -/
def asciiWord : CharSet := ⟨[0x30, 0x3A, 0x41, 0x5B, 0x5F, 0x60, 0x61, 0x7B]⟩

/-- Whether there is a character and it belongs to a word. -/
def isWordChar (unicode : Bool) (c : Option Char) : Bool :=
  c.any (if unicode then Unicode.word else asciiWord).contains

/-- Whether a place lies as said to the words around it, given whether a word character comes
before and after. -/
def WordEdge.holds (before after : Bool) : WordEdge → Bool
  | .boundary => before != after
  | .interior => before == after
  | .start => !before && after
  | .finish => before && !after
  | .startHalf => !before
  | .finishHalf => !after

namespace Assertion

/-- Whether the assertion holds between the two characters. -/
def holds (before after : Option Char) : Assertion → Bool
  | .textStart => before.isNone
  | .textEnd => after.isNone
  | .lineStart => before.isNone || before == some '\n'
  | .lineEnd => after.isNone || after == some '\n'
  | .crlfLineStart =>
    before.isNone || before == some '\n' || (before == some '\r' && after != some '\n')
  | .crlfLineEnd =>
    after.isNone || after == some '\r' || (after == some '\n' && before != some '\r')
  | .word edge unicode => edge.holds (isWordChar unicode before) (isWordChar unicode after)

end Assertion

end GrammarGraph
