import GrammarGraph.CharSet

/-!
# Unicode/Greek — the Greek script

The characters whose script is Greek, by the data of Unicode 16.
-/

namespace GrammarGraph.Unicode

/-- Characters of the Greek script. -/
def greek : CharSet := ⟨[
  0x370, 0x374, 0x375, 0x378, 0x37A, 0x37E, 0x37F, 0x380, 0x384, 0x385, 0x386, 0x387, 0x388,
  0x38B, 0x38C, 0x38D, 0x38E, 0x3A2, 0x3A3, 0x3E2, 0x3F0, 0x400, 0x1D26, 0x1D2B, 0x1D5D, 0x1D62,
  0x1D66, 0x1D6B, 0x1DBF, 0x1DC0, 0x1F00, 0x1F16, 0x1F18, 0x1F1E, 0x1F20, 0x1F46, 0x1F48, 0x1F4E,
  0x1F50, 0x1F58, 0x1F59, 0x1F5A, 0x1F5B, 0x1F5C, 0x1F5D, 0x1F5E, 0x1F5F, 0x1F7E, 0x1F80, 0x1FB5,
  0x1FB6, 0x1FC5, 0x1FC6, 0x1FD4, 0x1FD6, 0x1FDC, 0x1FDD, 0x1FF0, 0x1FF2, 0x1FF5, 0x1FF6, 0x1FFF,
  0x2126, 0x2127, 0xAB65, 0xAB66, 0x10140, 0x1018F, 0x101A0, 0x101A1, 0x1D200, 0x1D246]⟩

end GrammarGraph.Unicode
