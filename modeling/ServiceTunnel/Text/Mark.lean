import ServiceTunnel.Text.Printable

/-!
# ServiceTunnel.Text.Mark

**Marks on other characters.** A mark takes space of its own or none. One that takes none is
transparent: its neighbours meet as if it were not there.
-/

namespace ServiceTunnel.Text

/-- Marks that take space. -/
def spacingMark : CharSet := ⟨[
    0x903, 0x904, 0x93b, 0x93c, 0x93e, 0x941, 0x949, 0x94d, 0x94e, 0x950, 0x982, 0x984, 0x9be,
    0x9c1, 0x9c7, 0x9cd, 0x9d7, 0x9d8, 0xa03, 0xa04, 0xa3e, 0xa41, 0xa83, 0xa84, 0xabe, 0xac1,
    0xac9, 0xacd, 0xb02, 0xb04, 0xb3e, 0xb3f, 0xb40, 0xb41, 0xb47, 0xb4d, 0xb57, 0xb58, 0xbbe,
    0xbc0, 0xbc1, 0xbcd, 0xbd7, 0xbd8, 0xc01, 0xc04, 0xc41, 0xc45, 0xc82, 0xc84, 0xcbe, 0xcbf,
    0xcc0, 0xcc5, 0xcc7, 0xccc, 0xcd5, 0xcd7, 0xcf3, 0xcf4, 0xd02, 0xd04, 0xd3e, 0xd41, 0xd46,
    0xd4d, 0xd57, 0xd58, 0xd82, 0xd84, 0xdcf, 0xdd2, 0xdd8, 0xde0, 0xdf2, 0xdf4, 0xf3e, 0xf40,
    0xf7f, 0xf80, 0x102b, 0x102d, 0x1031, 0x1032, 0x1038, 0x1039, 0x103b, 0x103d, 0x1056, 0x1058,
    0x1062, 0x1065, 0x1067, 0x106e, 0x1083, 0x1085, 0x1087, 0x108d, 0x108f, 0x1090, 0x109a, 0x109d,
    0x1715, 0x1716, 0x1734, 0x1735, 0x17b6, 0x17b7, 0x17be, 0x17c6, 0x17c7, 0x17c9, 0x1923, 0x1927,
    0x1929, 0x1932, 0x1933, 0x1939, 0x1a19, 0x1a1b, 0x1a55, 0x1a56, 0x1a57, 0x1a58, 0x1a61, 0x1a62,
    0x1a63, 0x1a65, 0x1a6d, 0x1a73, 0x1b04, 0x1b05, 0x1b35, 0x1b36, 0x1b3b, 0x1b3c, 0x1b3d, 0x1b42,
    0x1b43, 0x1b45, 0x1b82, 0x1b83, 0x1ba1, 0x1ba2, 0x1ba6, 0x1ba8, 0x1baa, 0x1bab, 0x1be7, 0x1be8,
    0x1bea, 0x1bed, 0x1bee, 0x1bef, 0x1bf2, 0x1bf4, 0x1c24, 0x1c2c, 0x1c34, 0x1c36, 0x1ce1, 0x1ce2,
    0x1cf7, 0x1cf8, 0x302e, 0x3030, 0xa823, 0xa825, 0xa827, 0xa828, 0xa880, 0xa882, 0xa8b4, 0xa8c4,
    0xa952, 0xa954, 0xa983, 0xa984, 0xa9b4, 0xa9b6, 0xa9ba, 0xa9bc, 0xa9be, 0xa9c1, 0xaa2f, 0xaa31,
    0xaa33, 0xaa35, 0xaa4d, 0xaa4e, 0xaa7b, 0xaa7c, 0xaa7d, 0xaa7e, 0xaaeb, 0xaaec, 0xaaee, 0xaaf0,
    0xaaf5, 0xaaf6, 0xabe3, 0xabe5, 0xabe6, 0xabe8, 0xabe9, 0xabeb, 0xabec, 0xabed, 0x11000,
    0x11001, 0x11002, 0x11003, 0x11082, 0x11083, 0x110b0, 0x110b3, 0x110b7, 0x110b9, 0x1112c,
    0x1112d, 0x11145, 0x11147, 0x11182, 0x11183, 0x111b3, 0x111b6, 0x111bf, 0x111c1, 0x111ce,
    0x111cf, 0x1122c, 0x1122f, 0x11232, 0x11234, 0x11235, 0x11236, 0x112e0, 0x112e3, 0x11302,
    0x11304, 0x1133e, 0x11340, 0x11341, 0x1134e, 0x11357, 0x11358, 0x11362, 0x11364, 0x113b8,
    0x113bb, 0x113c2, 0x113ce, 0x113cf, 0x113d0, 0x11435, 0x11438, 0x11440, 0x11442, 0x11445,
    0x11446, 0x114b0, 0x114b3, 0x114b9, 0x114ba, 0x114bb, 0x114bf, 0x114c1, 0x114c2, 0x115af,
    0x115b2, 0x115b8, 0x115bc, 0x115be, 0x115bf, 0x11630, 0x11633, 0x1163b, 0x1163d, 0x1163e,
    0x1163f, 0x116ac, 0x116ad, 0x116ae, 0x116b0, 0x116b6, 0x116b7, 0x1171e, 0x1171f, 0x11720,
    0x11722, 0x11726, 0x11727, 0x1182c, 0x1182f, 0x11838, 0x11839, 0x11930, 0x11939, 0x1193d,
    0x1193e, 0x11940, 0x11941, 0x11942, 0x11943, 0x119d1, 0x119d4, 0x119dc, 0x119e0, 0x119e4,
    0x119e5, 0x11a39, 0x11a3a, 0x11a57, 0x11a59, 0x11a97, 0x11a98, 0x11b61, 0x11b62, 0x11b65,
    0x11b66, 0x11b67, 0x11b68, 0x11c2f, 0x11c30, 0x11c3e, 0x11c3f, 0x11ca9, 0x11caa, 0x11cb1,
    0x11cb2, 0x11cb4, 0x11cb5, 0x11d8a, 0x11d8f, 0x11d93, 0x11d95, 0x11d96, 0x11d97, 0x11ef5,
    0x11ef7, 0x11f03, 0x11f04, 0x11f34, 0x11f36, 0x11f3e, 0x11f40, 0x11f41, 0x11f42, 0x1612a,
    0x1612d, 0x16f51, 0x16f88, 0x16ff0, 0x16ff2, 0x1d165, 0x1d167, 0x1d16d, 0x1d173]⟩

/-- Whether a character is a mark that takes no space. -/
def isNonspacing (c : Char) : Bool :=
  0x300 ≤ c.toNat && c != '\u200c' && graphemeExtend.contains c && !spacingMark.contains c

/-- Whether a character is a mark. -/
def isMark (c : Char) : Bool := isNonspacing c || spacingMark.contains c

end ServiceTunnel.Text
