import RouteTable.Text.Ranges
/-!
# Separators and controls

The separators of Unicode 16 and its characters without a shape, by category.
-/

namespace RouteTable.Text

def spaceSeparators : Ranges :=
  ⟨#[(0x20, 0x20), (0xa0, 0xa0), (0x1680, 0x1680), (0x2000, 0x200a), (0x202f, 0x202f),
   (0x205f, 0x205f), (0x3000, 0x3000)]⟩

def lineSeparators : Ranges :=
  ⟨#[(0x2028, 0x2028)]⟩

def paragraphSeparators : Ranges :=
  ⟨#[(0x2029, 0x2029)]⟩

def controls : Ranges :=
  ⟨#[(0x0, 0x1f), (0x7f, 0x9f)]⟩

def formats : Ranges :=
  ⟨#[(0xad, 0xad), (0x600, 0x605), (0x61c, 0x61c), (0x6dd, 0x6dd), (0x70f, 0x70f),
   (0x890, 0x891), (0x8e2, 0x8e2), (0x180e, 0x180e), (0x200b, 0x200f), (0x202a, 0x202e),
   (0x2060, 0x2064), (0x2066, 0x206f), (0xfeff, 0xfeff), (0xfff9, 0xfffb), (0x110bd, 0x110bd),
   (0x110cd, 0x110cd), (0x13430, 0x1343f), (0x1bca0, 0x1bca3), (0x1d173, 0x1d17a),
   (0xe0001, 0xe0001), (0xe0020, 0xe007f)]⟩

def privateUse : Ranges :=
  ⟨#[(0xe000, 0xf8ff), (0xf0000, 0xffffd), (0x100000, 0x10fffd)]⟩

end RouteTable.Text
