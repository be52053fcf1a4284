/-!
# Terminal width

How many terminal cells a character takes: none for controls and combining marks, two for wide
East Asian characters and emoji, one for all others.
-/

namespace FlowCheck.Text

/-- The code points that do not take one cell, as ascending ranges with their width. -/
def cellRanges : List (Nat × Nat × Nat) :=
  [
    (0x0, 0x0, 0), (0x1, 0x1f, 0), (0x7f, 0x9f, 0), (0xad, 0xad, 0), (0x300, 0x36f, 0),
    (0x483, 0x489, 0), (0x591, 0x5bd, 0), (0x5bf, 0x5bf, 0), (0x5c1, 0x5c2, 0), (0x5c4, 0x5c5, 0),
    (0x5c7, 0x5c7, 0), (0x600, 0x605, 0), (0x610, 0x61a, 0), (0x61c, 0x61c, 0), (0x64b, 0x65f, 0),
    (0x670, 0x670, 0), (0x6d6, 0x6dd, 0), (0x6df, 0x6e4, 0), (0x6e7, 0x6e8, 0), (0x6ea, 0x6ed, 0),
    (0x70f, 0x70f, 0), (0x711, 0x711, 0), (0x730, 0x74a, 0), (0x7a6, 0x7b0, 0), (0x7eb, 0x7f3, 0),
    (0x7fd, 0x7fd, 0), (0x816, 0x819, 0), (0x81b, 0x823, 0), (0x825, 0x827, 0), (0x829, 0x82d, 0),
    (0x859, 0x85b, 0), (0x890, 0x891, 0), (0x898, 0x89f, 0), (0x8ca, 0x903, 0), (0x93a, 0x93c, 0),
    (0x93e, 0x94f, 0), (0x951, 0x957, 0), (0x962, 0x963, 0), (0x981, 0x983, 0), (0x9bc, 0x9bc, 0),
    (0x9be, 0x9c4, 0), (0x9c7, 0x9c8, 0), (0x9cb, 0x9cd, 0), (0x9d7, 0x9d7, 0), (0x9e2, 0x9e3, 0),
    (0x9fe, 0x9fe, 0), (0xa01, 0xa03, 0), (0xa3c, 0xa3c, 0), (0xa3e, 0xa42, 0), (0xa47, 0xa48, 0),
    (0xa4b, 0xa4d, 0), (0xa51, 0xa51, 0), (0xa70, 0xa71, 0), (0xa75, 0xa75, 0), (0xa81, 0xa83, 0),
    (0xabc, 0xabc, 0), (0xabe, 0xac5, 0), (0xac7, 0xac9, 0), (0xacb, 0xacd, 0), (0xae2, 0xae3, 0),
    (0xafa, 0xaff, 0), (0xb01, 0xb03, 0), (0xb3c, 0xb3c, 0), (0xb3e, 0xb44, 0), (0xb47, 0xb48, 0),
    (0xb4b, 0xb4d, 0), (0xb55, 0xb57, 0), (0xb62, 0xb63, 0), (0xb82, 0xb82, 0), (0xbbe, 0xbc2, 0),
    (0xbc6, 0xbc8, 0), (0xbca, 0xbcd, 0), (0xbd7, 0xbd7, 0), (0xc00, 0xc04, 0), (0xc3c, 0xc3c, 0),
    (0xc3e, 0xc44, 0), (0xc46, 0xc48, 0), (0xc4a, 0xc4d, 0), (0xc55, 0xc56, 0), (0xc62, 0xc63, 0),
    (0xc81, 0xc83, 0), (0xcbc, 0xcbc, 0), (0xcbe, 0xcc4, 0), (0xcc6, 0xcc8, 0), (0xcca, 0xccd, 0),
    (0xcd5, 0xcd6, 0), (0xce2, 0xce3, 0), (0xcf3, 0xcf3, 0), (0xd00, 0xd03, 0), (0xd3b, 0xd3c, 0),
    (0xd3e, 0xd44, 0), (0xd46, 0xd48, 0), (0xd4a, 0xd4d, 0), (0xd57, 0xd57, 0), (0xd62, 0xd63, 0),
    (0xd81, 0xd83, 0), (0xdca, 0xdca, 0), (0xdcf, 0xdd4, 0), (0xdd6, 0xdd6, 0), (0xdd8, 0xddf, 0),
    (0xdf2, 0xdf3, 0), (0xe31, 0xe31, 0), (0xe34, 0xe3a, 0), (0xe47, 0xe4e, 0), (0xeb1, 0xeb1, 0),
    (0xeb4, 0xebc, 0), (0xec8, 0xece, 0), (0xf18, 0xf19, 0), (0xf35, 0xf35, 0), (0xf37, 0xf37, 0),
    (0xf39, 0xf39, 0), (0xf3e, 0xf3f, 0), (0xf71, 0xf84, 0), (0xf86, 0xf87, 0), (0xf8d, 0xf97, 0),
    (0xf99, 0xfbc, 0), (0xfc6, 0xfc6, 0), (0x102b, 0x103e, 0), (0x1056, 0x1059, 0),
    (0x105e, 0x1060, 0), (0x1062, 0x1064, 0), (0x1067, 0x106d, 0), (0x1071, 0x1074, 0),
    (0x1082, 0x108d, 0), (0x108f, 0x108f, 0), (0x109a, 0x109d, 0), (0x1100, 0x115f, 2),
    (0x1160, 0x11ff, 0), (0x135d, 0x135f, 0), (0x1712, 0x1715, 0), (0x1732, 0x1734, 0),
    (0x1752, 0x1753, 0), (0x1772, 0x1773, 0), (0x17b4, 0x17d3, 0), (0x17dd, 0x17dd, 0),
    (0x180b, 0x180f, 0), (0x1885, 0x1886, 0), (0x18a9, 0x18a9, 0), (0x1920, 0x192b, 0),
    (0x1930, 0x193b, 0), (0x1a17, 0x1a1b, 0), (0x1a55, 0x1a5e, 0), (0x1a60, 0x1a7c, 0),
    (0x1a7f, 0x1a7f, 0), (0x1ab0, 0x1ace, 0), (0x1b00, 0x1b04, 0), (0x1b34, 0x1b44, 0),
    (0x1b6b, 0x1b73, 0), (0x1b80, 0x1b82, 0), (0x1ba1, 0x1bad, 0), (0x1be6, 0x1bf3, 0),
    (0x1c24, 0x1c37, 0), (0x1cd0, 0x1cd2, 0), (0x1cd4, 0x1ce8, 0), (0x1ced, 0x1ced, 0),
    (0x1cf4, 0x1cf4, 0), (0x1cf7, 0x1cf9, 0), (0x1dc0, 0x1dff, 0), (0x200b, 0x200f, 0),
    (0x2028, 0x202e, 0), (0x2060, 0x2064, 0), (0x2066, 0x206f, 0), (0x20d0, 0x20f0, 0),
    (0x231a, 0x231b, 2), (0x2329, 0x232a, 2), (0x23e9, 0x23ec, 2), (0x23f0, 0x23f0, 2),
    (0x23f3, 0x23f3, 2), (0x25fd, 0x25fe, 2), (0x2614, 0x2615, 2), (0x2648, 0x2653, 2),
    (0x267f, 0x267f, 2), (0x2693, 0x2693, 2), (0x26a1, 0x26a1, 2), (0x26aa, 0x26ab, 2),
    (0x26bd, 0x26be, 2), (0x26c4, 0x26c5, 2), (0x26ce, 0x26ce, 2), (0x26d4, 0x26d4, 2),
    (0x26ea, 0x26ea, 2), (0x26f2, 0x26f3, 2), (0x26f5, 0x26f5, 2), (0x26fa, 0x26fa, 2),
    (0x26fd, 0x26fd, 2), (0x2705, 0x2705, 2), (0x270a, 0x270b, 2), (0x2728, 0x2728, 2),
    (0x274c, 0x274c, 2), (0x274e, 0x274e, 2), (0x2753, 0x2755, 2), (0x2757, 0x2757, 2),
    (0x2795, 0x2797, 2), (0x27b0, 0x27b0, 2), (0x27bf, 0x27bf, 2), (0x2b1b, 0x2b1c, 2),
    (0x2b50, 0x2b50, 2), (0x2b55, 0x2b55, 2), (0x2cef, 0x2cf1, 0), (0x2d7f, 0x2d7f, 0),
    (0x2de0, 0x2dff, 0), (0x2e80, 0x2e99, 2), (0x2e9b, 0x2ef3, 2), (0x2f00, 0x2fd5, 2),
    (0x2ff0, 0x3029, 2), (0x302a, 0x302f, 0), (0x3030, 0x303e, 2), (0x3041, 0x3096, 2),
    (0x3099, 0x309a, 0), (0x309b, 0x30ff, 2), (0x3105, 0x312f, 2), (0x3131, 0x318e, 2),
    (0x3190, 0x31e3, 2), (0x31ef, 0x321e, 2), (0x3220, 0x3247, 2), (0x3250, 0x4dbf, 2),
    (0x4e00, 0xa48c, 2), (0xa490, 0xa4c6, 2), (0xa66f, 0xa672, 0), (0xa674, 0xa67d, 0),
    (0xa69e, 0xa69f, 0), (0xa6f0, 0xa6f1, 0), (0xa802, 0xa802, 0), (0xa806, 0xa806, 0),
    (0xa80b, 0xa80b, 0), (0xa823, 0xa827, 0), (0xa82c, 0xa82c, 0), (0xa880, 0xa881, 0),
    (0xa8b4, 0xa8c5, 0), (0xa8e0, 0xa8f1, 0), (0xa8ff, 0xa8ff, 0), (0xa926, 0xa92d, 0),
    (0xa947, 0xa953, 0), (0xa960, 0xa97c, 2), (0xa980, 0xa983, 0), (0xa9b3, 0xa9c0, 0),
    (0xa9e5, 0xa9e5, 0), (0xaa29, 0xaa36, 0), (0xaa43, 0xaa43, 0), (0xaa4c, 0xaa4d, 0),
    (0xaa7b, 0xaa7d, 0), (0xaab0, 0xaab0, 0), (0xaab2, 0xaab4, 0), (0xaab7, 0xaab8, 0),
    (0xaabe, 0xaabf, 0), (0xaac1, 0xaac1, 0), (0xaaeb, 0xaaef, 0), (0xaaf5, 0xaaf6, 0),
    (0xabe3, 0xabea, 0), (0xabec, 0xabed, 0), (0xac00, 0xd7a3, 2), (0xd7b0, 0xd7ff, 0),
    (0xf900, 0xfaff, 2), (0xfb1e, 0xfb1e, 0), (0xfe00, 0xfe0f, 0), (0xfe10, 0xfe19, 2),
    (0xfe20, 0xfe2f, 0), (0xfe30, 0xfe52, 2), (0xfe54, 0xfe66, 2), (0xfe68, 0xfe6b, 2),
    (0xfeff, 0xfeff, 0), (0xff01, 0xff60, 2), (0xffe0, 0xffe6, 2), (0xfff9, 0xfffb, 0),
    (0x101fd, 0x101fd, 0), (0x102e0, 0x102e0, 0), (0x10376, 0x1037a, 0), (0x10a01, 0x10a03, 0),
    (0x10a05, 0x10a06, 0), (0x10a0c, 0x10a0f, 0), (0x10a38, 0x10a3a, 0), (0x10a3f, 0x10a3f, 0),
    (0x10ae5, 0x10ae6, 0), (0x10d24, 0x10d27, 0), (0x10eab, 0x10eac, 0), (0x10efd, 0x10eff, 0),
    (0x10f46, 0x10f50, 0), (0x10f82, 0x10f85, 0), (0x11000, 0x11002, 0), (0x11038, 0x11046, 0),
    (0x11070, 0x11070, 0), (0x11073, 0x11074, 0), (0x1107f, 0x11082, 0), (0x110b0, 0x110ba, 0),
    (0x110bd, 0x110bd, 0), (0x110c2, 0x110c2, 0), (0x110cd, 0x110cd, 0), (0x11100, 0x11102, 0),
    (0x11127, 0x11134, 0), (0x11145, 0x11146, 0), (0x11173, 0x11173, 0), (0x11180, 0x11182, 0),
    (0x111b3, 0x111c0, 0), (0x111c9, 0x111cc, 0), (0x111ce, 0x111cf, 0), (0x1122c, 0x11237, 0),
    (0x1123e, 0x1123e, 0), (0x11241, 0x11241, 0), (0x112df, 0x112ea, 0), (0x11300, 0x11303, 0),
    (0x1133b, 0x1133c, 0), (0x1133e, 0x11344, 0), (0x11347, 0x11348, 0), (0x1134b, 0x1134d, 0),
    (0x11357, 0x11357, 0), (0x11362, 0x11363, 0), (0x11366, 0x1136c, 0), (0x11370, 0x11374, 0),
    (0x11435, 0x11446, 0), (0x1145e, 0x1145e, 0), (0x114b0, 0x114c3, 0), (0x115af, 0x115b5, 0),
    (0x115b8, 0x115c0, 0), (0x115dc, 0x115dd, 0), (0x11630, 0x11640, 0), (0x116ab, 0x116b7, 0),
    (0x1171d, 0x1172b, 0), (0x1182c, 0x1183a, 0), (0x11930, 0x11935, 0), (0x11937, 0x11938, 0),
    (0x1193b, 0x1193e, 0), (0x11940, 0x11940, 0), (0x11942, 0x11943, 0), (0x119d1, 0x119d7, 0),
    (0x119da, 0x119e0, 0), (0x119e4, 0x119e4, 0), (0x11a01, 0x11a0a, 0), (0x11a33, 0x11a39, 0),
    (0x11a3b, 0x11a3e, 0), (0x11a47, 0x11a47, 0), (0x11a51, 0x11a5b, 0), (0x11a8a, 0x11a99, 0),
    (0x11c2f, 0x11c36, 0), (0x11c38, 0x11c3f, 0), (0x11c92, 0x11ca7, 0), (0x11ca9, 0x11cb6, 0),
    (0x11d31, 0x11d36, 0), (0x11d3a, 0x11d3a, 0), (0x11d3c, 0x11d3d, 0), (0x11d3f, 0x11d45, 0),
    (0x11d47, 0x11d47, 0), (0x11d8a, 0x11d8e, 0), (0x11d90, 0x11d91, 0), (0x11d93, 0x11d97, 0),
    (0x11ef3, 0x11ef6, 0), (0x11f00, 0x11f01, 0), (0x11f03, 0x11f03, 0), (0x11f34, 0x11f3a, 0),
    (0x11f3e, 0x11f42, 0), (0x13430, 0x13440, 0), (0x13447, 0x13455, 0), (0x16af0, 0x16af4, 0),
    (0x16b30, 0x16b36, 0), (0x16f4f, 0x16f4f, 0), (0x16f51, 0x16f87, 0), (0x16f8f, 0x16f92, 0),
    (0x16fe0, 0x16fe3, 2), (0x16fe4, 0x16fe4, 0), (0x16ff0, 0x16ff1, 0), (0x17000, 0x187f7, 2),
    (0x18800, 0x18cd5, 2), (0x18d00, 0x18d08, 2), (0x1aff0, 0x1aff3, 2), (0x1aff5, 0x1affb, 2),
    (0x1affd, 0x1affe, 2), (0x1b000, 0x1b122, 2), (0x1b132, 0x1b132, 2), (0x1b150, 0x1b152, 2),
    (0x1b155, 0x1b155, 2), (0x1b164, 0x1b167, 2), (0x1b170, 0x1b2fb, 2), (0x1bc9d, 0x1bc9e, 0),
    (0x1bca0, 0x1bca3, 0), (0x1cf00, 0x1cf2d, 0), (0x1cf30, 0x1cf46, 0), (0x1d165, 0x1d169, 0),
    (0x1d16d, 0x1d182, 0), (0x1d185, 0x1d18b, 0), (0x1d1aa, 0x1d1ad, 0), (0x1d242, 0x1d244, 0),
    (0x1da00, 0x1da36, 0), (0x1da3b, 0x1da6c, 0), (0x1da75, 0x1da75, 0), (0x1da84, 0x1da84, 0),
    (0x1da9b, 0x1da9f, 0), (0x1daa1, 0x1daaf, 0), (0x1e000, 0x1e006, 0), (0x1e008, 0x1e018, 0),
    (0x1e01b, 0x1e021, 0), (0x1e023, 0x1e024, 0), (0x1e026, 0x1e02a, 0), (0x1e08f, 0x1e08f, 0),
    (0x1e130, 0x1e136, 0), (0x1e2ae, 0x1e2ae, 0), (0x1e2ec, 0x1e2ef, 0), (0x1e4ec, 0x1e4ef, 0),
    (0x1e8d0, 0x1e8d6, 0), (0x1e944, 0x1e94a, 0), (0x1f004, 0x1f004, 2), (0x1f0cf, 0x1f0cf, 2),
    (0x1f18e, 0x1f18e, 2), (0x1f191, 0x1f19a, 2), (0x1f200, 0x1f202, 2), (0x1f210, 0x1f23b, 2),
    (0x1f240, 0x1f248, 2), (0x1f250, 0x1f251, 2), (0x1f260, 0x1f265, 2), (0x1f300, 0x1f320, 2),
    (0x1f32d, 0x1f335, 2), (0x1f337, 0x1f37c, 2), (0x1f37e, 0x1f393, 2), (0x1f3a0, 0x1f3ca, 2),
    (0x1f3cf, 0x1f3d3, 2), (0x1f3e0, 0x1f3f0, 2), (0x1f3f4, 0x1f3f4, 2), (0x1f3f8, 0x1f3fa, 2),
    (0x1f3fb, 0x1f3ff, 0), (0x1f400, 0x1f43e, 2), (0x1f440, 0x1f440, 2), (0x1f442, 0x1f4fc, 2),
    (0x1f4ff, 0x1f53d, 2), (0x1f54b, 0x1f54e, 2), (0x1f550, 0x1f567, 2), (0x1f57a, 0x1f57a, 2),
    (0x1f595, 0x1f596, 2), (0x1f5a4, 0x1f5a4, 2), (0x1f5fb, 0x1f64f, 2), (0x1f680, 0x1f6c5, 2),
    (0x1f6cc, 0x1f6cc, 2), (0x1f6d0, 0x1f6d2, 2), (0x1f6d5, 0x1f6d7, 2), (0x1f6dc, 0x1f6df, 2),
    (0x1f6eb, 0x1f6ec, 2), (0x1f6f4, 0x1f6fc, 2), (0x1f7e0, 0x1f7eb, 2), (0x1f7f0, 0x1f7f0, 2),
    (0x1f90c, 0x1f93a, 2), (0x1f93c, 0x1f945, 2), (0x1f947, 0x1f9ff, 2), (0x1fa70, 0x1fa7c, 2),
    (0x1fa80, 0x1fa88, 2), (0x1fa90, 0x1fabd, 2), (0x1fabf, 0x1fac5, 2), (0x1face, 0x1fadb, 2),
    (0x1fae0, 0x1fae8, 2), (0x1faf0, 0x1faf8, 2), (0x20000, 0x2fffd, 2), (0x30000, 0x3fffd, 2),
    (0xe0001, 0xe0001, 0), (0xe0020, 0xe007f, 0), (0xe0100, 0xe01ef, 0)
  ]

/-- The number of cells of one character. -/
def charCells (c : Char) : Nat :=
  if 0x20 ≤ c.toNat && c.toNat < 0x7f then 1
  else
    match cellRanges.find? fun range => range.1 ≤ c.toNat && c.toNat ≤ range.2.1 with
    | some range => range.2.2
    | none => 1

/-- The number of cells of a text. -/
def cells (text : List Char) : Nat :=
  text.foldl (fun width c => width + charCells c) 0

end FlowCheck.Text
