import RouteTable.Text.Ranges
/-!
# White space

The white space of Unicode 16: 25 characters.
-/

namespace RouteTable.Text

def whiteSpace : Ranges :=
  ⟨#[(0x9, 0xd), (0x20, 0x20), (0x85, 0x85), (0xa0, 0xa0), (0x1680, 0x1680), (0x2000, 0x200a),
   (0x2028, 0x2029), (0x202f, 0x202f), (0x205f, 0x205f), (0x3000, 0x3000)]⟩

def isWhiteSpace (c : Char) : Bool := whiteSpace.contains c

end RouteTable.Text
