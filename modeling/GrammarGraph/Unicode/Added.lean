import GrammarGraph.CharSet

/-!
# Unicode/Added — characters that came with Unicode 17

The classes of patterns go by Unicode 16.  What is not a class, but the spelling of a name or the
look of a character between quotes, goes by Unicode 17, which has everything that its predecessor
has; the sets here are what it adds.
-/

namespace GrammarGraph.Unicode

/-- Added characters with the property `Alphabetic`. -/
def addedAlphabetic : CharSet := ⟨[
  0x88F, 0x890, 0xC5C, 0xC5D, 0xCDC, 0xCDD, 0xA7CE, 0xA7D0, 0xA7D2, 0xA7D3, 0xA7D4, 0xA7D5,
  0xA7F1, 0xA7F2, 0x10940, 0x1095A, 0x10EC5, 0x10EC8, 0x10EFA, 0x10EFC, 0x11B60, 0x11B68, 0x11DB0,
  0x11DDC, 0x16EA0, 0x16EB9, 0x16EBB, 0x16ED4, 0x16FF2, 0x16FF7, 0x187F8, 0x18800, 0x18D09,
  0x18D1F, 0x18D80, 0x18DF3, 0x1E6C0, 0x1E6DF, 0x1E6E0, 0x1E6F6, 0x1E6FE, 0x1E700, 0x2B73A,
  0x2B740, 0x2CEA2, 0x2CEAE, 0x323B0, 0x3347A]⟩

/-- Added numbers. -/
def addedNumber : CharSet := ⟨[0x11DE0, 0x11DEA, 0x16FF4, 0x16FF7]⟩

/-- Added marks that extend the character before them. -/
def addedExtender : CharSet := ⟨[
  0x1ACF, 0x1ADE, 0x1AE0, 0x1AEC, 0x10EFA, 0x10EFC, 0x11B60, 0x11B61, 0x11B62, 0x11B65, 0x11B66,
  0x11B67, 0x1E6E3, 0x1E6E4, 0x1E6E6, 0x1E6E7, 0x1E6EE, 0x1E6F0, 0x1E6F5, 0x1E6F6]⟩

end GrammarGraph.Unicode
