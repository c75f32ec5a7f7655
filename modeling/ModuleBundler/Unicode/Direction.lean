import ModuleBundler.Unicode.Mark

/-!
# Directions of writing

* `Direction` : how a character takes part in the direction of a text;
* `direction` : that of a character, the Unicode property `Bidi_Class`.
-/

namespace ModuleBundler

/-- How a character takes part in the direction of a text. -/
inductive Direction where
  | left
  | right
  | arabicLetter
  | europeanNumber
  | arabicNumber
  | separator
  | terminator
  | commonSeparator
  | nonspacingMark
  | boundaryNeutral
  | neutral
  /-- Blanks, and characters that only set the direction. -/
  | other
  deriving DecidableEq

/-- Characters with consecutive codes and the same direction. -/
structure DirectionRange where
  first : Nat
  last : Nat
  direction : Direction

/-- The characters from U+0080 on whose direction is not from left to right. The marks among them
that take no space have a direction of their own. -/
def directionRanges : Array DirectionRange :=
  #[⟨0x80, 0x84, .boundaryNeutral⟩, ⟨0x85, 0x85, .other⟩, ⟨0x86, 0x9f, .boundaryNeutral⟩,
   ⟨0xa0, 0xa0, .commonSeparator⟩, ⟨0xa1, 0xa1, .neutral⟩, ⟨0xa2, 0xa5, .terminator⟩,
   ⟨0xa6, 0xa9, .neutral⟩, ⟨0xab, 0xac, .neutral⟩, ⟨0xad, 0xad, .boundaryNeutral⟩,
   ⟨0xae, 0xaf, .neutral⟩, ⟨0xb0, 0xb1, .terminator⟩, ⟨0xb2, 0xb3, .europeanNumber⟩,
   ⟨0xb4, 0xb4, .neutral⟩, ⟨0xb6, 0xb8, .neutral⟩, ⟨0xb9, 0xb9, .europeanNumber⟩,
   ⟨0xbb, 0xbf, .neutral⟩, ⟨0xd7, 0xd7, .neutral⟩, ⟨0xf7, 0xf7, .neutral⟩, ⟨0x2b9, 0x2ba, .neutral⟩,
   ⟨0x2c2, 0x2cf, .neutral⟩, ⟨0x2d2, 0x2df, .neutral⟩, ⟨0x2e5, 0x2ed, .neutral⟩,
   ⟨0x2ef, 0x2ff, .neutral⟩, ⟨0x374, 0x375, .neutral⟩, ⟨0x37e, 0x37e, .neutral⟩,
   ⟨0x384, 0x385, .neutral⟩, ⟨0x387, 0x387, .neutral⟩, ⟨0x3f6, 0x3f6, .neutral⟩,
   ⟨0x58a, 0x58e, .neutral⟩, ⟨0x58f, 0x58f, .terminator⟩, ⟨0x5be, 0x5f4, .right⟩,
   ⟨0x600, 0x605, .arabicNumber⟩, ⟨0x606, 0x607, .neutral⟩, ⟨0x608, 0x608, .arabicLetter⟩,
   ⟨0x609, 0x60a, .terminator⟩, ⟨0x60b, 0x60b, .arabicLetter⟩, ⟨0x60c, 0x60c, .commonSeparator⟩,
   ⟨0x60d, 0x60d, .arabicLetter⟩, ⟨0x60e, 0x60f, .neutral⟩, ⟨0x61b, 0x64a, .arabicLetter⟩,
   ⟨0x660, 0x669, .arabicNumber⟩, ⟨0x66a, 0x66a, .terminator⟩, ⟨0x66b, 0x66c, .arabicNumber⟩,
   ⟨0x66d, 0x6d5, .arabicLetter⟩, ⟨0x6dd, 0x6dd, .arabicNumber⟩, ⟨0x6de, 0x6de, .neutral⟩,
   ⟨0x6e5, 0x6e6, .arabicLetter⟩, ⟨0x6e9, 0x6e9, .neutral⟩, ⟨0x6ee, 0x6ef, .arabicLetter⟩,
   ⟨0x6f0, 0x6f9, .europeanNumber⟩, ⟨0x6fa, 0x7b1, .arabicLetter⟩, ⟨0x7c0, 0x7f5, .right⟩,
   ⟨0x7f6, 0x7f9, .neutral⟩, ⟨0x7fa, 0x85e, .right⟩, ⟨0x860, 0x88f, .arabicLetter⟩,
   ⟨0x890, 0x891, .arabicNumber⟩, ⟨0x8a0, 0x8c9, .arabicLetter⟩, ⟨0x8e2, 0x8e2, .arabicNumber⟩,
   ⟨0x9f2, 0x9f3, .terminator⟩, ⟨0x9fb, 0x9fb, .terminator⟩, ⟨0xaf1, 0xaf1, .terminator⟩,
   ⟨0xbf3, 0xbf8, .neutral⟩, ⟨0xbf9, 0xbf9, .terminator⟩, ⟨0xbfa, 0xbfa, .neutral⟩,
   ⟨0xc78, 0xc7e, .neutral⟩, ⟨0xcbf, 0xcbf, .left⟩, ⟨0xcc6, 0xcc6, .left⟩,
   ⟨0xe3f, 0xe3f, .terminator⟩, ⟨0xf3a, 0xf3d, .neutral⟩, ⟨0x1390, 0x1399, .neutral⟩,
   ⟨0x1400, 0x1400, .neutral⟩, ⟨0x1680, 0x1680, .other⟩, ⟨0x169b, 0x169c, .neutral⟩,
   ⟨0x17db, 0x17db, .terminator⟩, ⟨0x17f0, 0x180a, .neutral⟩, ⟨0x180e, 0x180e, .boundaryNeutral⟩,
   ⟨0x1940, 0x1945, .neutral⟩, ⟨0x19de, 0x19ff, .neutral⟩, ⟨0x1fbd, 0x1fbd, .neutral⟩,
   ⟨0x1fbf, 0x1fc1, .neutral⟩, ⟨0x1fcd, 0x1fcf, .neutral⟩, ⟨0x1fdd, 0x1fdf, .neutral⟩,
   ⟨0x1fed, 0x1fef, .neutral⟩, ⟨0x1ffd, 0x1ffe, .neutral⟩, ⟨0x2000, 0x200a, .other⟩,
   ⟨0x200b, 0x200d, .boundaryNeutral⟩, ⟨0x200f, 0x200f, .right⟩, ⟨0x2010, 0x2027, .neutral⟩,
   ⟨0x2028, 0x202e, .other⟩, ⟨0x202f, 0x202f, .commonSeparator⟩, ⟨0x2030, 0x2034, .terminator⟩,
   ⟨0x2035, 0x2043, .neutral⟩, ⟨0x2044, 0x2044, .commonSeparator⟩, ⟨0x2045, 0x205e, .neutral⟩,
   ⟨0x205f, 0x205f, .other⟩, ⟨0x2060, 0x2064, .boundaryNeutral⟩, ⟨0x2066, 0x2069, .other⟩,
   ⟨0x206a, 0x206f, .boundaryNeutral⟩, ⟨0x2070, 0x2070, .europeanNumber⟩,
   ⟨0x2074, 0x2079, .europeanNumber⟩, ⟨0x207a, 0x207b, .separator⟩, ⟨0x207c, 0x207e, .neutral⟩,
   ⟨0x2080, 0x2089, .europeanNumber⟩, ⟨0x208a, 0x208b, .separator⟩, ⟨0x208c, 0x208e, .neutral⟩,
   ⟨0x20a0, 0x20c1, .terminator⟩, ⟨0x2100, 0x2101, .neutral⟩, ⟨0x2103, 0x2106, .neutral⟩,
   ⟨0x2108, 0x2109, .neutral⟩, ⟨0x2114, 0x2114, .neutral⟩, ⟨0x2116, 0x2118, .neutral⟩,
   ⟨0x211e, 0x2123, .neutral⟩, ⟨0x2125, 0x2125, .neutral⟩, ⟨0x2127, 0x2127, .neutral⟩,
   ⟨0x2129, 0x2129, .neutral⟩, ⟨0x212e, 0x212e, .terminator⟩, ⟨0x213a, 0x213b, .neutral⟩,
   ⟨0x2140, 0x2144, .neutral⟩, ⟨0x214a, 0x214d, .neutral⟩, ⟨0x2150, 0x215f, .neutral⟩,
   ⟨0x2189, 0x2211, .neutral⟩, ⟨0x2212, 0x2212, .separator⟩, ⟨0x2213, 0x2213, .terminator⟩,
   ⟨0x2214, 0x2335, .neutral⟩, ⟨0x237b, 0x2394, .neutral⟩, ⟨0x2396, 0x2487, .neutral⟩,
   ⟨0x2488, 0x249b, .europeanNumber⟩, ⟨0x24ea, 0x26ab, .neutral⟩, ⟨0x26ad, 0x27ff, .neutral⟩,
   ⟨0x2900, 0x2bff, .neutral⟩, ⟨0x2ce5, 0x2cea, .neutral⟩, ⟨0x2cf9, 0x2cff, .neutral⟩,
   ⟨0x2e00, 0x2fff, .neutral⟩, ⟨0x3000, 0x3000, .other⟩, ⟨0x3001, 0x3004, .neutral⟩,
   ⟨0x3008, 0x3020, .neutral⟩, ⟨0x3030, 0x3030, .neutral⟩, ⟨0x3036, 0x3037, .neutral⟩,
   ⟨0x303d, 0x303f, .neutral⟩, ⟨0x309b, 0x309c, .neutral⟩, ⟨0x30a0, 0x30a0, .neutral⟩,
   ⟨0x30fb, 0x30fb, .neutral⟩, ⟨0x31c0, 0x31ef, .neutral⟩, ⟨0x321d, 0x321e, .neutral⟩,
   ⟨0x3250, 0x325f, .neutral⟩, ⟨0x327c, 0x327e, .neutral⟩, ⟨0x32b1, 0x32bf, .neutral⟩,
   ⟨0x32cc, 0x32cf, .neutral⟩, ⟨0x3377, 0x337a, .neutral⟩, ⟨0x33de, 0x33df, .neutral⟩,
   ⟨0x33ff, 0x33ff, .neutral⟩, ⟨0x4dc0, 0x4dff, .neutral⟩, ⟨0xa490, 0xa4c6, .neutral⟩,
   ⟨0xa60d, 0xa60f, .neutral⟩, ⟨0xa673, 0xa67f, .neutral⟩, ⟨0xa700, 0xa721, .neutral⟩,
   ⟨0xa788, 0xa788, .neutral⟩, ⟨0xa828, 0xa82b, .neutral⟩, ⟨0xa838, 0xa839, .terminator⟩,
   ⟨0xa874, 0xa877, .neutral⟩, ⟨0xab6a, 0xab6b, .neutral⟩, ⟨0xfb1d, 0xfb28, .right⟩,
   ⟨0xfb29, 0xfb29, .separator⟩, ⟨0xfb2a, 0xfb4f, .right⟩, ⟨0xfb50, 0xfbc2, .arabicLetter⟩,
   ⟨0xfbc3, 0xfbd2, .neutral⟩, ⟨0xfbd3, 0xfd3d, .arabicLetter⟩, ⟨0xfd3e, 0xfd4f, .neutral⟩,
   ⟨0xfd50, 0xfd8f, .arabicLetter⟩, ⟨0xfd90, 0xfd91, .neutral⟩, ⟨0xfd92, 0xfdc7, .arabicLetter⟩,
   ⟨0xfdc8, 0xfdcf, .neutral⟩, ⟨0xfdf0, 0xfdfc, .arabicLetter⟩, ⟨0xfdfd, 0xfe4f, .neutral⟩,
   ⟨0xfe50, 0xfe50, .commonSeparator⟩, ⟨0xfe51, 0xfe51, .neutral⟩,
   ⟨0xfe52, 0xfe52, .commonSeparator⟩, ⟨0xfe54, 0xfe54, .neutral⟩,
   ⟨0xfe55, 0xfe55, .commonSeparator⟩, ⟨0xfe56, 0xfe5e, .neutral⟩, ⟨0xfe5f, 0xfe5f, .terminator⟩,
   ⟨0xfe60, 0xfe61, .neutral⟩, ⟨0xfe62, 0xfe63, .separator⟩, ⟨0xfe64, 0xfe68, .neutral⟩,
   ⟨0xfe69, 0xfe6a, .terminator⟩, ⟨0xfe6b, 0xfe6b, .neutral⟩, ⟨0xfe70, 0xfefc, .arabicLetter⟩,
   ⟨0xfeff, 0xfeff, .boundaryNeutral⟩, ⟨0xff01, 0xff02, .neutral⟩, ⟨0xff03, 0xff05, .terminator⟩,
   ⟨0xff06, 0xff0a, .neutral⟩, ⟨0xff0b, 0xff0b, .separator⟩, ⟨0xff0c, 0xff0c, .commonSeparator⟩,
   ⟨0xff0d, 0xff0d, .separator⟩, ⟨0xff0e, 0xff0f, .commonSeparator⟩,
   ⟨0xff10, 0xff19, .europeanNumber⟩, ⟨0xff1a, 0xff1a, .commonSeparator⟩,
   ⟨0xff1b, 0xff20, .neutral⟩, ⟨0xff3b, 0xff40, .neutral⟩, ⟨0xff5b, 0xff65, .neutral⟩,
   ⟨0xffe0, 0xffe1, .terminator⟩, ⟨0xffe2, 0xffe4, .neutral⟩, ⟨0xffe5, 0xffe6, .terminator⟩,
   ⟨0xffe8, 0xfffd, .neutral⟩, ⟨0x10101, 0x10101, .neutral⟩, ⟨0x10140, 0x1018c, .neutral⟩,
   ⟨0x10190, 0x101a0, .neutral⟩, ⟨0x102e1, 0x102fb, .europeanNumber⟩, ⟨0x10800, 0x1091b, .right⟩,
   ⟨0x1091f, 0x1091f, .neutral⟩, ⟨0x10920, 0x10b35, .right⟩, ⟨0x10b39, 0x10b3f, .neutral⟩,
   ⟨0x10b40, 0x10cff, .right⟩, ⟨0x10d00, 0x10d23, .arabicLetter⟩, ⟨0x10d30, 0x10d39, .arabicNumber⟩,
   ⟨0x10d40, 0x10d65, .right⟩, ⟨0x10d6e, 0x10d6e, .neutral⟩, ⟨0x10d6f, 0x10d8f, .right⟩,
   ⟨0x10e60, 0x10e7e, .arabicNumber⟩, ⟨0x10e80, 0x10eb1, .right⟩, ⟨0x10ec2, 0x10ec7, .arabicLetter⟩,
   ⟨0x10ed0, 0x10ed8, .neutral⟩, ⟨0x10f00, 0x10f27, .right⟩, ⟨0x10f30, 0x10f59, .arabicLetter⟩,
   ⟨0x10f70, 0x10ff6, .right⟩, ⟨0x11052, 0x11065, .neutral⟩, ⟨0x11660, 0x1166c, .neutral⟩,
   ⟨0x1171e, 0x1171e, .nonspacingMark⟩, ⟨0x11a07, 0x11a08, .left⟩, ⟨0x11c3f, 0x11c3f, .left⟩,
   ⟨0x11fd5, 0x11fdc, .neutral⟩, ⟨0x11fdd, 0x11fe0, .terminator⟩, ⟨0x11fe1, 0x11ff1, .neutral⟩,
   ⟨0x16fe2, 0x16fe2, .neutral⟩, ⟨0x1bca0, 0x1bca3, .boundaryNeutral⟩, ⟨0x1cc00, 0x1ccef, .neutral⟩,
   ⟨0x1ccf0, 0x1ccf9, .europeanNumber⟩, ⟨0x1ccfa, 0x1cef0, .neutral⟩,
   ⟨0x1d173, 0x1d17a, .boundaryNeutral⟩, ⟨0x1d1e9, 0x1d245, .neutral⟩, ⟨0x1d300, 0x1d356, .neutral⟩,
   ⟨0x1d6db, 0x1d6db, .neutral⟩, ⟨0x1d715, 0x1d715, .neutral⟩, ⟨0x1d74f, 0x1d74f, .neutral⟩,
   ⟨0x1d789, 0x1d789, .neutral⟩, ⟨0x1d7c3, 0x1d7c3, .neutral⟩, ⟨0x1d7ce, 0x1d7ff, .europeanNumber⟩,
   ⟨0x1e2ff, 0x1e2ff, .terminator⟩, ⟨0x1e800, 0x1e95f, .right⟩, ⟨0x1ec71, 0x1eebb, .arabicLetter⟩,
   ⟨0x1eef0, 0x1f0f5, .neutral⟩, ⟨0x1f100, 0x1f10a, .europeanNumber⟩, ⟨0x1f10b, 0x1f10f, .neutral⟩,
   ⟨0x1f12f, 0x1f12f, .neutral⟩, ⟨0x1f16a, 0x1f16f, .neutral⟩, ⟨0x1f1ad, 0x1f1ad, .neutral⟩,
   ⟨0x1f260, 0x1fbef, .neutral⟩, ⟨0x1fbf0, 0x1fbf9, .europeanNumber⟩, ⟨0x1fbfa, 0x1fbfa, .neutral⟩,
   ⟨0xe0001, 0xe007f, .boundaryNeutral⟩]

/-- The marks that take no space and still run from left to right. -/
def leftMarks : List Nat := [0xcbf, 0xcc6, 0x11a07, 0x11a08, 0x11c3f]

def asciiDirection (c : Char) : Direction :=
  if c.isAlpha then .left
  else if c.isDigit then .europeanNumber
  else if c = '+' || c = '-' then .separator
  else if c = '#' || c = '$' || c = '%' then .terminator
  else if c = ',' || c = '.' || c = '/' || c = ':' then .commonSeparator
  else if c.toNat ≤ 0x20 || c = '\x7f' then .other
  else .neutral

def direction (c : Char) : Direction :=
  if c.toNat < 0x80 then asciiDirection c
  else if leftMarks.contains c.toNat then .left
  else if isNonspacingMark c then .nonspacingMark
  else
    match directionRanges.find? fun r => r.first ≤ c.toNat && c.toNat ≤ r.last with
    | some r => r.direction
    | none => .left

end ModuleBundler
