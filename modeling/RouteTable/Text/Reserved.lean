import RouteTable.Text.Ranges
/-!
# Reserved code points

Code points of Unicode 16 that have no shape, or should have no use.
-/

namespace RouteTable.Text

def bidiControls : Ranges :=
  ⟨#[(0x61c, 0x61c), (0x200e, 0x200f), (0x202a, 0x202e), (0x2066, 0x2069)]⟩

def joinControls : Ranges :=
  ⟨#[(0x200c, 0x200d)]⟩

def otherIgnorable : Ranges :=
  ⟨#[(0x34f, 0x34f), (0x115f, 0x1160), (0x17b4, 0x17b5), (0x2065, 0x2065), (0x3164, 0x3164),
   (0xffa0, 0xffa0), (0xfff0, 0xfff8), (0xe0000, 0xe0000), (0xe0002, 0xe001f), (0xe0080, 0xe00ff),
   (0xe01f0, 0xe0fff)]⟩

def shownFormats : Ranges :=
  ⟨#[(0xfff9, 0xfffb), (0x13430, 0x1343f)]⟩

def deprecatedCharacters : Ranges :=
  ⟨#[(0x149, 0x149), (0x673, 0x673), (0xf77, 0xf77), (0xf79, 0xf79), (0x17a3, 0x17a4),
   (0x206a, 0x206f), (0x2329, 0x232a), (0xe0001, 0xe0001)]⟩

def noncharacters : Ranges :=
  ⟨#[(0xfdd0, 0xfdef), (0xfffe, 0xffff), (0x1fffe, 0x1ffff), (0x2fffe, 0x2ffff), (0x3fffe, 0x3ffff),
   (0x4fffe, 0x4ffff), (0x5fffe, 0x5ffff), (0x6fffe, 0x6ffff), (0x7fffe, 0x7ffff),
   (0x8fffe, 0x8ffff), (0x9fffe, 0x9ffff), (0xafffe, 0xaffff), (0xbfffe, 0xbffff),
   (0xcfffe, 0xcffff), (0xdfffe, 0xdffff), (0xefffe, 0xeffff), (0xffffe, 0xfffff),
   (0x10fffe, 0x10ffff)]⟩

end RouteTable.Text
