/-!
# Combining marks

* `markRanges` : the marks, whether they take space of their own, and their combining classes;
* `isMark`, `isNonspacingMark` : which characters are marks;
* `combiningClass` : the class by which marks on one character are put in order.
-/

namespace ModuleBundler

/-- Marks with consecutive codes and the same properties. -/
structure MarkRange where
  first : Nat
  last : Nat
  /-- Whether they take no space of their own: the general categories `Mn` and `Me`, not `Mc`. -/
  nonspacing : Bool
  combiningClass : Nat

/-- The Unicode general category `M` with the property `Canonical_Combining_Class`. -/
def markRanges : Array MarkRange :=
  #[⟨0x300, 0x314, true, 230⟩, ⟨0x315, 0x315, true, 232⟩, ⟨0x316, 0x319, true, 220⟩,
   ⟨0x31a, 0x31a, true, 232⟩, ⟨0x31b, 0x31b, true, 216⟩, ⟨0x31c, 0x320, true, 220⟩,
   ⟨0x321, 0x322, true, 202⟩, ⟨0x323, 0x326, true, 220⟩, ⟨0x327, 0x328, true, 202⟩,
   ⟨0x329, 0x333, true, 220⟩, ⟨0x334, 0x338, true, 1⟩, ⟨0x339, 0x33c, true, 220⟩,
   ⟨0x33d, 0x344, true, 230⟩, ⟨0x345, 0x345, true, 240⟩, ⟨0x346, 0x346, true, 230⟩,
   ⟨0x347, 0x349, true, 220⟩, ⟨0x34a, 0x34c, true, 230⟩, ⟨0x34d, 0x34e, true, 220⟩,
   ⟨0x34f, 0x34f, true, 0⟩, ⟨0x350, 0x352, true, 230⟩, ⟨0x353, 0x356, true, 220⟩,
   ⟨0x357, 0x357, true, 230⟩, ⟨0x358, 0x358, true, 232⟩, ⟨0x359, 0x35a, true, 220⟩,
   ⟨0x35b, 0x35b, true, 230⟩, ⟨0x35c, 0x35c, true, 233⟩, ⟨0x35d, 0x35e, true, 234⟩,
   ⟨0x35f, 0x35f, true, 233⟩, ⟨0x360, 0x361, true, 234⟩, ⟨0x362, 0x362, true, 233⟩,
   ⟨0x363, 0x36f, true, 230⟩, ⟨0x483, 0x487, true, 230⟩, ⟨0x488, 0x489, true, 0⟩,
   ⟨0x591, 0x591, true, 220⟩, ⟨0x592, 0x595, true, 230⟩, ⟨0x596, 0x596, true, 220⟩,
   ⟨0x597, 0x599, true, 230⟩, ⟨0x59a, 0x59a, true, 222⟩, ⟨0x59b, 0x59b, true, 220⟩,
   ⟨0x59c, 0x5a1, true, 230⟩, ⟨0x5a2, 0x5a7, true, 220⟩, ⟨0x5a8, 0x5a9, true, 230⟩,
   ⟨0x5aa, 0x5aa, true, 220⟩, ⟨0x5ab, 0x5ac, true, 230⟩, ⟨0x5ad, 0x5ad, true, 222⟩,
   ⟨0x5ae, 0x5ae, true, 228⟩, ⟨0x5af, 0x5af, true, 230⟩, ⟨0x5b0, 0x5b0, true, 10⟩,
   ⟨0x5b1, 0x5b1, true, 11⟩, ⟨0x5b2, 0x5b2, true, 12⟩, ⟨0x5b3, 0x5b3, true, 13⟩,
   ⟨0x5b4, 0x5b4, true, 14⟩, ⟨0x5b5, 0x5b5, true, 15⟩, ⟨0x5b6, 0x5b6, true, 16⟩,
   ⟨0x5b7, 0x5b7, true, 17⟩, ⟨0x5b8, 0x5b8, true, 18⟩, ⟨0x5b9, 0x5ba, true, 19⟩,
   ⟨0x5bb, 0x5bb, true, 20⟩, ⟨0x5bc, 0x5bc, true, 21⟩, ⟨0x5bd, 0x5bd, true, 22⟩,
   ⟨0x5bf, 0x5bf, true, 23⟩, ⟨0x5c1, 0x5c1, true, 24⟩, ⟨0x5c2, 0x5c2, true, 25⟩,
   ⟨0x5c4, 0x5c4, true, 230⟩, ⟨0x5c5, 0x5c5, true, 220⟩, ⟨0x5c7, 0x5c7, true, 18⟩,
   ⟨0x610, 0x617, true, 230⟩, ⟨0x618, 0x618, true, 30⟩, ⟨0x619, 0x619, true, 31⟩,
   ⟨0x61a, 0x61a, true, 32⟩, ⟨0x64b, 0x64b, true, 27⟩, ⟨0x64c, 0x64c, true, 28⟩,
   ⟨0x64d, 0x64d, true, 29⟩, ⟨0x64e, 0x64e, true, 30⟩, ⟨0x64f, 0x64f, true, 31⟩,
   ⟨0x650, 0x650, true, 32⟩, ⟨0x651, 0x651, true, 33⟩, ⟨0x652, 0x652, true, 34⟩,
   ⟨0x653, 0x654, true, 230⟩, ⟨0x655, 0x656, true, 220⟩, ⟨0x657, 0x65b, true, 230⟩,
   ⟨0x65c, 0x65c, true, 220⟩, ⟨0x65d, 0x65e, true, 230⟩, ⟨0x65f, 0x65f, true, 220⟩,
   ⟨0x670, 0x670, true, 35⟩, ⟨0x6d6, 0x6dc, true, 230⟩, ⟨0x6df, 0x6e2, true, 230⟩,
   ⟨0x6e3, 0x6e3, true, 220⟩, ⟨0x6e4, 0x6e4, true, 230⟩, ⟨0x6e7, 0x6e8, true, 230⟩,
   ⟨0x6ea, 0x6ea, true, 220⟩, ⟨0x6eb, 0x6ec, true, 230⟩, ⟨0x6ed, 0x6ed, true, 220⟩,
   ⟨0x711, 0x711, true, 36⟩, ⟨0x730, 0x730, true, 230⟩, ⟨0x731, 0x731, true, 220⟩,
   ⟨0x732, 0x733, true, 230⟩, ⟨0x734, 0x734, true, 220⟩, ⟨0x735, 0x736, true, 230⟩,
   ⟨0x737, 0x739, true, 220⟩, ⟨0x73a, 0x73a, true, 230⟩, ⟨0x73b, 0x73c, true, 220⟩,
   ⟨0x73d, 0x73d, true, 230⟩, ⟨0x73e, 0x73e, true, 220⟩, ⟨0x73f, 0x741, true, 230⟩,
   ⟨0x742, 0x742, true, 220⟩, ⟨0x743, 0x743, true, 230⟩, ⟨0x744, 0x744, true, 220⟩,
   ⟨0x745, 0x745, true, 230⟩, ⟨0x746, 0x746, true, 220⟩, ⟨0x747, 0x747, true, 230⟩,
   ⟨0x748, 0x748, true, 220⟩, ⟨0x749, 0x74a, true, 230⟩, ⟨0x7a6, 0x7b0, true, 0⟩,
   ⟨0x7eb, 0x7f1, true, 230⟩, ⟨0x7f2, 0x7f2, true, 220⟩, ⟨0x7f3, 0x7f3, true, 230⟩,
   ⟨0x7fd, 0x7fd, true, 220⟩, ⟨0x816, 0x819, true, 230⟩, ⟨0x81b, 0x823, true, 230⟩,
   ⟨0x825, 0x827, true, 230⟩, ⟨0x829, 0x82d, true, 230⟩, ⟨0x859, 0x85b, true, 220⟩,
   ⟨0x897, 0x898, true, 230⟩, ⟨0x899, 0x89b, true, 220⟩, ⟨0x89c, 0x89f, true, 230⟩,
   ⟨0x8ca, 0x8ce, true, 230⟩, ⟨0x8cf, 0x8d3, true, 220⟩, ⟨0x8d4, 0x8e1, true, 230⟩,
   ⟨0x8e3, 0x8e3, true, 220⟩, ⟨0x8e4, 0x8e5, true, 230⟩, ⟨0x8e6, 0x8e6, true, 220⟩,
   ⟨0x8e7, 0x8e8, true, 230⟩, ⟨0x8e9, 0x8e9, true, 220⟩, ⟨0x8ea, 0x8ec, true, 230⟩,
   ⟨0x8ed, 0x8ef, true, 220⟩, ⟨0x8f0, 0x8f0, true, 27⟩, ⟨0x8f1, 0x8f1, true, 28⟩,
   ⟨0x8f2, 0x8f2, true, 29⟩, ⟨0x8f3, 0x8f5, true, 230⟩, ⟨0x8f6, 0x8f6, true, 220⟩,
   ⟨0x8f7, 0x8f8, true, 230⟩, ⟨0x8f9, 0x8fa, true, 220⟩, ⟨0x8fb, 0x8ff, true, 230⟩,
   ⟨0x900, 0x902, true, 0⟩, ⟨0x903, 0x903, false, 0⟩, ⟨0x93a, 0x93a, true, 0⟩,
   ⟨0x93b, 0x93b, false, 0⟩, ⟨0x93c, 0x93c, true, 7⟩, ⟨0x93e, 0x940, false, 0⟩,
   ⟨0x941, 0x948, true, 0⟩, ⟨0x949, 0x94c, false, 0⟩, ⟨0x94d, 0x94d, true, 9⟩,
   ⟨0x94e, 0x94f, false, 0⟩, ⟨0x951, 0x951, true, 230⟩, ⟨0x952, 0x952, true, 220⟩,
   ⟨0x953, 0x954, true, 230⟩, ⟨0x955, 0x957, true, 0⟩, ⟨0x962, 0x963, true, 0⟩,
   ⟨0x981, 0x981, true, 0⟩, ⟨0x982, 0x983, false, 0⟩, ⟨0x9bc, 0x9bc, true, 7⟩,
   ⟨0x9be, 0x9c0, false, 0⟩, ⟨0x9c1, 0x9c4, true, 0⟩, ⟨0x9c7, 0x9cc, false, 0⟩,
   ⟨0x9cd, 0x9cd, true, 9⟩, ⟨0x9d7, 0x9d7, false, 0⟩, ⟨0x9e2, 0x9e3, true, 0⟩,
   ⟨0x9fe, 0x9fe, true, 230⟩, ⟨0xa01, 0xa02, true, 0⟩, ⟨0xa03, 0xa03, false, 0⟩,
   ⟨0xa3c, 0xa3c, true, 7⟩, ⟨0xa3e, 0xa40, false, 0⟩, ⟨0xa41, 0xa4c, true, 0⟩,
   ⟨0xa4d, 0xa4d, true, 9⟩, ⟨0xa51, 0xa51, true, 0⟩, ⟨0xa70, 0xa71, true, 0⟩,
   ⟨0xa75, 0xa75, true, 0⟩, ⟨0xa81, 0xa82, true, 0⟩, ⟨0xa83, 0xa83, false, 0⟩,
   ⟨0xabc, 0xabc, true, 7⟩, ⟨0xabe, 0xac0, false, 0⟩, ⟨0xac1, 0xac8, true, 0⟩,
   ⟨0xac9, 0xacc, false, 0⟩, ⟨0xacd, 0xacd, true, 9⟩, ⟨0xae2, 0xae3, true, 0⟩,
   ⟨0xafa, 0xb01, true, 0⟩, ⟨0xb02, 0xb03, false, 0⟩, ⟨0xb3c, 0xb3c, true, 7⟩,
   ⟨0xb3e, 0xb3e, false, 0⟩, ⟨0xb3f, 0xb3f, true, 0⟩, ⟨0xb40, 0xb40, false, 0⟩,
   ⟨0xb41, 0xb44, true, 0⟩, ⟨0xb47, 0xb4c, false, 0⟩, ⟨0xb4d, 0xb4d, true, 9⟩,
   ⟨0xb55, 0xb56, true, 0⟩, ⟨0xb57, 0xb57, false, 0⟩, ⟨0xb62, 0xb63, true, 0⟩,
   ⟨0xb82, 0xb82, true, 0⟩, ⟨0xbbe, 0xbbf, false, 0⟩, ⟨0xbc0, 0xbc0, true, 0⟩,
   ⟨0xbc1, 0xbcc, false, 0⟩, ⟨0xbcd, 0xbcd, true, 9⟩, ⟨0xbd7, 0xbd7, false, 0⟩,
   ⟨0xc00, 0xc00, true, 0⟩, ⟨0xc01, 0xc03, false, 0⟩, ⟨0xc04, 0xc04, true, 0⟩,
   ⟨0xc3c, 0xc3c, true, 7⟩, ⟨0xc3e, 0xc40, true, 0⟩, ⟨0xc41, 0xc44, false, 0⟩,
   ⟨0xc46, 0xc4c, true, 0⟩, ⟨0xc4d, 0xc4d, true, 9⟩, ⟨0xc55, 0xc55, true, 84⟩,
   ⟨0xc56, 0xc56, true, 91⟩, ⟨0xc62, 0xc63, true, 0⟩, ⟨0xc81, 0xc81, true, 0⟩,
   ⟨0xc82, 0xc83, false, 0⟩, ⟨0xcbc, 0xcbc, true, 7⟩, ⟨0xcbe, 0xcbe, false, 0⟩,
   ⟨0xcbf, 0xcbf, true, 0⟩, ⟨0xcc0, 0xcc4, false, 0⟩, ⟨0xcc6, 0xcc6, true, 0⟩,
   ⟨0xcc7, 0xccb, false, 0⟩, ⟨0xccc, 0xccc, true, 0⟩, ⟨0xccd, 0xccd, true, 9⟩,
   ⟨0xcd5, 0xcd6, false, 0⟩, ⟨0xce2, 0xce3, true, 0⟩, ⟨0xcf3, 0xcf3, false, 0⟩,
   ⟨0xd00, 0xd01, true, 0⟩, ⟨0xd02, 0xd03, false, 0⟩, ⟨0xd3b, 0xd3c, true, 9⟩,
   ⟨0xd3e, 0xd40, false, 0⟩, ⟨0xd41, 0xd44, true, 0⟩, ⟨0xd46, 0xd4c, false, 0⟩,
   ⟨0xd4d, 0xd4d, true, 9⟩, ⟨0xd57, 0xd57, false, 0⟩, ⟨0xd62, 0xd63, true, 0⟩,
   ⟨0xd81, 0xd81, true, 0⟩, ⟨0xd82, 0xd83, false, 0⟩, ⟨0xdca, 0xdca, true, 9⟩,
   ⟨0xdcf, 0xdd1, false, 0⟩, ⟨0xdd2, 0xdd6, true, 0⟩, ⟨0xdd8, 0xddf, false, 0⟩,
   ⟨0xdf2, 0xdf3, false, 0⟩, ⟨0xe31, 0xe31, true, 0⟩, ⟨0xe34, 0xe37, true, 0⟩,
   ⟨0xe38, 0xe39, true, 103⟩, ⟨0xe3a, 0xe3a, true, 9⟩, ⟨0xe47, 0xe47, true, 0⟩,
   ⟨0xe48, 0xe4b, true, 107⟩, ⟨0xe4c, 0xe4e, true, 0⟩, ⟨0xeb1, 0xeb1, true, 0⟩,
   ⟨0xeb4, 0xeb7, true, 0⟩, ⟨0xeb8, 0xeb9, true, 118⟩, ⟨0xeba, 0xeba, true, 9⟩,
   ⟨0xebb, 0xebc, true, 0⟩, ⟨0xec8, 0xecb, true, 122⟩, ⟨0xecc, 0xece, true, 0⟩,
   ⟨0xf18, 0xf19, true, 220⟩, ⟨0xf35, 0xf35, true, 220⟩, ⟨0xf37, 0xf37, true, 220⟩,
   ⟨0xf39, 0xf39, true, 216⟩, ⟨0xf3e, 0xf3f, false, 0⟩, ⟨0xf71, 0xf71, true, 129⟩,
   ⟨0xf72, 0xf72, true, 130⟩, ⟨0xf73, 0xf73, true, 0⟩, ⟨0xf74, 0xf74, true, 132⟩,
   ⟨0xf75, 0xf79, true, 0⟩, ⟨0xf7a, 0xf7d, true, 130⟩, ⟨0xf7e, 0xf7e, true, 0⟩,
   ⟨0xf7f, 0xf7f, false, 0⟩, ⟨0xf80, 0xf80, true, 130⟩, ⟨0xf81, 0xf81, true, 0⟩,
   ⟨0xf82, 0xf83, true, 230⟩, ⟨0xf84, 0xf84, true, 9⟩, ⟨0xf86, 0xf87, true, 230⟩,
   ⟨0xf8d, 0xfbc, true, 0⟩, ⟨0xfc6, 0xfc6, true, 220⟩, ⟨0x102b, 0x102c, false, 0⟩,
   ⟨0x102d, 0x1030, true, 0⟩, ⟨0x1031, 0x1031, false, 0⟩, ⟨0x1032, 0x1036, true, 0⟩,
   ⟨0x1037, 0x1037, true, 7⟩, ⟨0x1038, 0x1038, false, 0⟩, ⟨0x1039, 0x103a, true, 9⟩,
   ⟨0x103b, 0x103c, false, 0⟩, ⟨0x103d, 0x103e, true, 0⟩, ⟨0x1056, 0x1057, false, 0⟩,
   ⟨0x1058, 0x1059, true, 0⟩, ⟨0x105e, 0x1060, true, 0⟩, ⟨0x1062, 0x1064, false, 0⟩,
   ⟨0x1067, 0x106d, false, 0⟩, ⟨0x1071, 0x1074, true, 0⟩, ⟨0x1082, 0x1082, true, 0⟩,
   ⟨0x1083, 0x1084, false, 0⟩, ⟨0x1085, 0x1086, true, 0⟩, ⟨0x1087, 0x108c, false, 0⟩,
   ⟨0x108d, 0x108d, true, 220⟩, ⟨0x108f, 0x108f, false, 0⟩, ⟨0x109a, 0x109c, false, 0⟩,
   ⟨0x109d, 0x109d, true, 0⟩, ⟨0x135d, 0x135f, true, 230⟩, ⟨0x1712, 0x1713, true, 0⟩,
   ⟨0x1714, 0x1714, true, 9⟩, ⟨0x1715, 0x1715, false, 9⟩, ⟨0x1732, 0x1733, true, 0⟩,
   ⟨0x1734, 0x1734, false, 9⟩, ⟨0x1752, 0x1753, true, 0⟩, ⟨0x1772, 0x1773, true, 0⟩,
   ⟨0x17b4, 0x17b5, true, 0⟩, ⟨0x17b6, 0x17b6, false, 0⟩, ⟨0x17b7, 0x17bd, true, 0⟩,
   ⟨0x17be, 0x17c5, false, 0⟩, ⟨0x17c6, 0x17c6, true, 0⟩, ⟨0x17c7, 0x17c8, false, 0⟩,
   ⟨0x17c9, 0x17d1, true, 0⟩, ⟨0x17d2, 0x17d2, true, 9⟩, ⟨0x17d3, 0x17d3, true, 0⟩,
   ⟨0x17dd, 0x17dd, true, 230⟩, ⟨0x180b, 0x180d, true, 0⟩, ⟨0x180f, 0x180f, true, 0⟩,
   ⟨0x1885, 0x1886, true, 0⟩, ⟨0x18a9, 0x18a9, true, 228⟩, ⟨0x1920, 0x1922, true, 0⟩,
   ⟨0x1923, 0x1926, false, 0⟩, ⟨0x1927, 0x1928, true, 0⟩, ⟨0x1929, 0x1931, false, 0⟩,
   ⟨0x1932, 0x1932, true, 0⟩, ⟨0x1933, 0x1938, false, 0⟩, ⟨0x1939, 0x1939, true, 222⟩,
   ⟨0x193a, 0x193a, true, 230⟩, ⟨0x193b, 0x193b, true, 220⟩, ⟨0x1a17, 0x1a17, true, 230⟩,
   ⟨0x1a18, 0x1a18, true, 220⟩, ⟨0x1a19, 0x1a1a, false, 0⟩, ⟨0x1a1b, 0x1a1b, true, 0⟩,
   ⟨0x1a55, 0x1a55, false, 0⟩, ⟨0x1a56, 0x1a56, true, 0⟩, ⟨0x1a57, 0x1a57, false, 0⟩,
   ⟨0x1a58, 0x1a5e, true, 0⟩, ⟨0x1a60, 0x1a60, true, 9⟩, ⟨0x1a61, 0x1a61, false, 0⟩,
   ⟨0x1a62, 0x1a62, true, 0⟩, ⟨0x1a63, 0x1a64, false, 0⟩, ⟨0x1a65, 0x1a6c, true, 0⟩,
   ⟨0x1a6d, 0x1a72, false, 0⟩, ⟨0x1a73, 0x1a74, true, 0⟩, ⟨0x1a75, 0x1a7c, true, 230⟩,
   ⟨0x1a7f, 0x1a7f, true, 220⟩, ⟨0x1ab0, 0x1ab4, true, 230⟩, ⟨0x1ab5, 0x1aba, true, 220⟩,
   ⟨0x1abb, 0x1abc, true, 230⟩, ⟨0x1abd, 0x1abd, true, 220⟩, ⟨0x1abe, 0x1abe, true, 0⟩,
   ⟨0x1abf, 0x1ac0, true, 220⟩, ⟨0x1ac1, 0x1ac2, true, 230⟩, ⟨0x1ac3, 0x1ac4, true, 220⟩,
   ⟨0x1ac5, 0x1ac9, true, 230⟩, ⟨0x1aca, 0x1aca, true, 220⟩, ⟨0x1acb, 0x1adc, true, 230⟩,
   ⟨0x1add, 0x1add, true, 220⟩, ⟨0x1ae0, 0x1ae5, true, 230⟩, ⟨0x1ae6, 0x1ae6, true, 220⟩,
   ⟨0x1ae7, 0x1aea, true, 230⟩, ⟨0x1aeb, 0x1aeb, true, 234⟩, ⟨0x1b00, 0x1b03, true, 0⟩,
   ⟨0x1b04, 0x1b04, false, 0⟩, ⟨0x1b34, 0x1b34, true, 7⟩, ⟨0x1b35, 0x1b35, false, 0⟩,
   ⟨0x1b36, 0x1b3a, true, 0⟩, ⟨0x1b3b, 0x1b3b, false, 0⟩, ⟨0x1b3c, 0x1b3c, true, 0⟩,
   ⟨0x1b3d, 0x1b41, false, 0⟩, ⟨0x1b42, 0x1b42, true, 0⟩, ⟨0x1b43, 0x1b43, false, 0⟩,
   ⟨0x1b44, 0x1b44, false, 9⟩, ⟨0x1b6b, 0x1b6b, true, 230⟩, ⟨0x1b6c, 0x1b6c, true, 220⟩,
   ⟨0x1b6d, 0x1b73, true, 230⟩, ⟨0x1b80, 0x1b81, true, 0⟩, ⟨0x1b82, 0x1b82, false, 0⟩,
   ⟨0x1ba1, 0x1ba1, false, 0⟩, ⟨0x1ba2, 0x1ba5, true, 0⟩, ⟨0x1ba6, 0x1ba7, false, 0⟩,
   ⟨0x1ba8, 0x1ba9, true, 0⟩, ⟨0x1baa, 0x1baa, false, 9⟩, ⟨0x1bab, 0x1bab, true, 9⟩,
   ⟨0x1bac, 0x1bad, true, 0⟩, ⟨0x1be6, 0x1be6, true, 7⟩, ⟨0x1be7, 0x1be7, false, 0⟩,
   ⟨0x1be8, 0x1be9, true, 0⟩, ⟨0x1bea, 0x1bec, false, 0⟩, ⟨0x1bed, 0x1bed, true, 0⟩,
   ⟨0x1bee, 0x1bee, false, 0⟩, ⟨0x1bef, 0x1bf1, true, 0⟩, ⟨0x1bf2, 0x1bf3, false, 9⟩,
   ⟨0x1c24, 0x1c2b, false, 0⟩, ⟨0x1c2c, 0x1c33, true, 0⟩, ⟨0x1c34, 0x1c35, false, 0⟩,
   ⟨0x1c36, 0x1c36, true, 0⟩, ⟨0x1c37, 0x1c37, true, 7⟩, ⟨0x1cd0, 0x1cd2, true, 230⟩,
   ⟨0x1cd4, 0x1cd4, true, 1⟩, ⟨0x1cd5, 0x1cd9, true, 220⟩, ⟨0x1cda, 0x1cdb, true, 230⟩,
   ⟨0x1cdc, 0x1cdf, true, 220⟩, ⟨0x1ce0, 0x1ce0, true, 230⟩, ⟨0x1ce1, 0x1ce1, false, 0⟩,
   ⟨0x1ce2, 0x1ce8, true, 1⟩, ⟨0x1ced, 0x1ced, true, 220⟩, ⟨0x1cf4, 0x1cf4, true, 230⟩,
   ⟨0x1cf7, 0x1cf7, false, 0⟩, ⟨0x1cf8, 0x1cf9, true, 230⟩, ⟨0x1dc0, 0x1dc1, true, 230⟩,
   ⟨0x1dc2, 0x1dc2, true, 220⟩, ⟨0x1dc3, 0x1dc9, true, 230⟩, ⟨0x1dca, 0x1dca, true, 220⟩,
   ⟨0x1dcb, 0x1dcc, true, 230⟩, ⟨0x1dcd, 0x1dcd, true, 234⟩, ⟨0x1dce, 0x1dce, true, 214⟩,
   ⟨0x1dcf, 0x1dcf, true, 220⟩, ⟨0x1dd0, 0x1dd0, true, 202⟩, ⟨0x1dd1, 0x1df5, true, 230⟩,
   ⟨0x1df6, 0x1df6, true, 232⟩, ⟨0x1df7, 0x1df8, true, 228⟩, ⟨0x1df9, 0x1df9, true, 220⟩,
   ⟨0x1dfa, 0x1dfa, true, 218⟩, ⟨0x1dfb, 0x1dfb, true, 230⟩, ⟨0x1dfc, 0x1dfc, true, 233⟩,
   ⟨0x1dfd, 0x1dfd, true, 220⟩, ⟨0x1dfe, 0x1dfe, true, 230⟩, ⟨0x1dff, 0x1dff, true, 220⟩,
   ⟨0x20d0, 0x20d1, true, 230⟩, ⟨0x20d2, 0x20d3, true, 1⟩, ⟨0x20d4, 0x20d7, true, 230⟩,
   ⟨0x20d8, 0x20da, true, 1⟩, ⟨0x20db, 0x20dc, true, 230⟩, ⟨0x20dd, 0x20e0, true, 0⟩,
   ⟨0x20e1, 0x20e1, true, 230⟩, ⟨0x20e2, 0x20e4, true, 0⟩, ⟨0x20e5, 0x20e6, true, 1⟩,
   ⟨0x20e7, 0x20e7, true, 230⟩, ⟨0x20e8, 0x20e8, true, 220⟩, ⟨0x20e9, 0x20e9, true, 230⟩,
   ⟨0x20ea, 0x20eb, true, 1⟩, ⟨0x20ec, 0x20ef, true, 220⟩, ⟨0x20f0, 0x20f0, true, 230⟩,
   ⟨0x2cef, 0x2cf1, true, 230⟩, ⟨0x2d7f, 0x2d7f, true, 9⟩, ⟨0x2de0, 0x2dff, true, 230⟩,
   ⟨0x302a, 0x302a, true, 218⟩, ⟨0x302b, 0x302b, true, 228⟩, ⟨0x302c, 0x302c, true, 232⟩,
   ⟨0x302d, 0x302d, true, 222⟩, ⟨0x302e, 0x302f, false, 224⟩, ⟨0x3099, 0x309a, true, 8⟩,
   ⟨0xa66f, 0xa66f, true, 230⟩, ⟨0xa670, 0xa672, true, 0⟩, ⟨0xa674, 0xa67d, true, 230⟩,
   ⟨0xa69e, 0xa69f, true, 230⟩, ⟨0xa6f0, 0xa6f1, true, 230⟩, ⟨0xa802, 0xa802, true, 0⟩,
   ⟨0xa806, 0xa806, true, 9⟩, ⟨0xa80b, 0xa80b, true, 0⟩, ⟨0xa823, 0xa824, false, 0⟩,
   ⟨0xa825, 0xa826, true, 0⟩, ⟨0xa827, 0xa827, false, 0⟩, ⟨0xa82c, 0xa82c, true, 9⟩,
   ⟨0xa880, 0xa881, false, 0⟩, ⟨0xa8b4, 0xa8c3, false, 0⟩, ⟨0xa8c4, 0xa8c4, true, 9⟩,
   ⟨0xa8c5, 0xa8c5, true, 0⟩, ⟨0xa8e0, 0xa8f1, true, 230⟩, ⟨0xa8ff, 0xa8ff, true, 0⟩,
   ⟨0xa926, 0xa92a, true, 0⟩, ⟨0xa92b, 0xa92d, true, 220⟩, ⟨0xa947, 0xa951, true, 0⟩,
   ⟨0xa952, 0xa952, false, 0⟩, ⟨0xa953, 0xa953, false, 9⟩, ⟨0xa980, 0xa982, true, 0⟩,
   ⟨0xa983, 0xa983, false, 0⟩, ⟨0xa9b3, 0xa9b3, true, 7⟩, ⟨0xa9b4, 0xa9b5, false, 0⟩,
   ⟨0xa9b6, 0xa9b9, true, 0⟩, ⟨0xa9ba, 0xa9bb, false, 0⟩, ⟨0xa9bc, 0xa9bd, true, 0⟩,
   ⟨0xa9be, 0xa9bf, false, 0⟩, ⟨0xa9c0, 0xa9c0, false, 9⟩, ⟨0xa9e5, 0xa9e5, true, 0⟩,
   ⟨0xaa29, 0xaa2e, true, 0⟩, ⟨0xaa2f, 0xaa30, false, 0⟩, ⟨0xaa31, 0xaa32, true, 0⟩,
   ⟨0xaa33, 0xaa34, false, 0⟩, ⟨0xaa35, 0xaa36, true, 0⟩, ⟨0xaa43, 0xaa43, true, 0⟩,
   ⟨0xaa4c, 0xaa4c, true, 0⟩, ⟨0xaa4d, 0xaa4d, false, 0⟩, ⟨0xaa7b, 0xaa7b, false, 0⟩,
   ⟨0xaa7c, 0xaa7c, true, 0⟩, ⟨0xaa7d, 0xaa7d, false, 0⟩, ⟨0xaab0, 0xaab0, true, 230⟩,
   ⟨0xaab2, 0xaab3, true, 230⟩, ⟨0xaab4, 0xaab4, true, 220⟩, ⟨0xaab7, 0xaab8, true, 230⟩,
   ⟨0xaabe, 0xaabf, true, 230⟩, ⟨0xaac1, 0xaac1, true, 230⟩, ⟨0xaaeb, 0xaaeb, false, 0⟩,
   ⟨0xaaec, 0xaaed, true, 0⟩, ⟨0xaaee, 0xaaef, false, 0⟩, ⟨0xaaf5, 0xaaf5, false, 0⟩,
   ⟨0xaaf6, 0xaaf6, true, 9⟩, ⟨0xabe3, 0xabe4, false, 0⟩, ⟨0xabe5, 0xabe5, true, 0⟩,
   ⟨0xabe6, 0xabe7, false, 0⟩, ⟨0xabe8, 0xabe8, true, 0⟩, ⟨0xabe9, 0xabea, false, 0⟩,
   ⟨0xabec, 0xabec, false, 0⟩, ⟨0xabed, 0xabed, true, 9⟩, ⟨0xfb1e, 0xfb1e, true, 26⟩,
   ⟨0xfe00, 0xfe0f, true, 0⟩, ⟨0xfe20, 0xfe26, true, 230⟩, ⟨0xfe27, 0xfe2d, true, 220⟩,
   ⟨0xfe2e, 0xfe2f, true, 230⟩, ⟨0x101fd, 0x101fd, true, 220⟩, ⟨0x102e0, 0x102e0, true, 220⟩,
   ⟨0x10376, 0x1037a, true, 230⟩, ⟨0x10a01, 0x10a0c, true, 0⟩, ⟨0x10a0d, 0x10a0d, true, 220⟩,
   ⟨0x10a0e, 0x10a0e, true, 0⟩, ⟨0x10a0f, 0x10a0f, true, 230⟩, ⟨0x10a38, 0x10a38, true, 230⟩,
   ⟨0x10a39, 0x10a39, true, 1⟩, ⟨0x10a3a, 0x10a3a, true, 220⟩, ⟨0x10a3f, 0x10a3f, true, 9⟩,
   ⟨0x10ae5, 0x10ae5, true, 230⟩, ⟨0x10ae6, 0x10ae6, true, 220⟩, ⟨0x10d24, 0x10d27, true, 230⟩,
   ⟨0x10d69, 0x10d6d, true, 230⟩, ⟨0x10eab, 0x10eac, true, 230⟩, ⟨0x10efa, 0x10efb, true, 220⟩,
   ⟨0x10efc, 0x10efc, true, 0⟩, ⟨0x10efd, 0x10eff, true, 220⟩, ⟨0x10f46, 0x10f47, true, 220⟩,
   ⟨0x10f48, 0x10f4a, true, 230⟩, ⟨0x10f4b, 0x10f4b, true, 220⟩, ⟨0x10f4c, 0x10f4c, true, 230⟩,
   ⟨0x10f4d, 0x10f50, true, 220⟩, ⟨0x10f82, 0x10f82, true, 230⟩, ⟨0x10f83, 0x10f83, true, 220⟩,
   ⟨0x10f84, 0x10f84, true, 230⟩, ⟨0x10f85, 0x10f85, true, 220⟩, ⟨0x11000, 0x11000, false, 0⟩,
   ⟨0x11001, 0x11001, true, 0⟩, ⟨0x11002, 0x11002, false, 0⟩, ⟨0x11038, 0x11045, true, 0⟩,
   ⟨0x11046, 0x11046, true, 9⟩, ⟨0x11070, 0x11070, true, 9⟩, ⟨0x11073, 0x11074, true, 0⟩,
   ⟨0x1107f, 0x1107f, true, 9⟩, ⟨0x11080, 0x11081, true, 0⟩, ⟨0x11082, 0x11082, false, 0⟩,
   ⟨0x110b0, 0x110b2, false, 0⟩, ⟨0x110b3, 0x110b6, true, 0⟩, ⟨0x110b7, 0x110b8, false, 0⟩,
   ⟨0x110b9, 0x110b9, true, 9⟩, ⟨0x110ba, 0x110ba, true, 7⟩, ⟨0x110c2, 0x110c2, true, 0⟩,
   ⟨0x11100, 0x11102, true, 230⟩, ⟨0x11127, 0x1112b, true, 0⟩, ⟨0x1112c, 0x1112c, false, 0⟩,
   ⟨0x1112d, 0x11132, true, 0⟩, ⟨0x11133, 0x11134, true, 9⟩, ⟨0x11145, 0x11146, false, 0⟩,
   ⟨0x11173, 0x11173, true, 7⟩, ⟨0x11180, 0x11181, true, 0⟩, ⟨0x11182, 0x11182, false, 0⟩,
   ⟨0x111b3, 0x111b5, false, 0⟩, ⟨0x111b6, 0x111be, true, 0⟩, ⟨0x111bf, 0x111bf, false, 0⟩,
   ⟨0x111c0, 0x111c0, false, 9⟩, ⟨0x111c9, 0x111c9, true, 0⟩, ⟨0x111ca, 0x111ca, true, 7⟩,
   ⟨0x111cb, 0x111cc, true, 0⟩, ⟨0x111ce, 0x111ce, false, 0⟩, ⟨0x111cf, 0x111cf, true, 0⟩,
   ⟨0x1122c, 0x1122e, false, 0⟩, ⟨0x1122f, 0x11231, true, 0⟩, ⟨0x11232, 0x11233, false, 0⟩,
   ⟨0x11234, 0x11234, true, 0⟩, ⟨0x11235, 0x11235, false, 9⟩, ⟨0x11236, 0x11236, true, 7⟩,
   ⟨0x11237, 0x11237, true, 0⟩, ⟨0x1123e, 0x1123e, true, 0⟩, ⟨0x11241, 0x11241, true, 0⟩,
   ⟨0x112df, 0x112df, true, 0⟩, ⟨0x112e0, 0x112e2, false, 0⟩, ⟨0x112e3, 0x112e8, true, 0⟩,
   ⟨0x112e9, 0x112e9, true, 7⟩, ⟨0x112ea, 0x112ea, true, 9⟩, ⟨0x11300, 0x11301, true, 0⟩,
   ⟨0x11302, 0x11303, false, 0⟩, ⟨0x1133b, 0x1133c, true, 7⟩, ⟨0x1133e, 0x1133f, false, 0⟩,
   ⟨0x11340, 0x11340, true, 0⟩, ⟨0x11341, 0x1134c, false, 0⟩, ⟨0x1134d, 0x1134d, false, 9⟩,
   ⟨0x11357, 0x11357, false, 0⟩, ⟨0x11362, 0x11363, false, 0⟩, ⟨0x11366, 0x11374, true, 230⟩,
   ⟨0x113b8, 0x113ba, false, 0⟩, ⟨0x113bb, 0x113c0, true, 0⟩, ⟨0x113c2, 0x113cd, false, 0⟩,
   ⟨0x113ce, 0x113ce, true, 9⟩, ⟨0x113cf, 0x113cf, false, 9⟩, ⟨0x113d0, 0x113d0, true, 9⟩,
   ⟨0x113d2, 0x113d2, true, 0⟩, ⟨0x113e1, 0x113e2, true, 0⟩, ⟨0x11435, 0x11437, false, 0⟩,
   ⟨0x11438, 0x1143f, true, 0⟩, ⟨0x11440, 0x11441, false, 0⟩, ⟨0x11442, 0x11442, true, 9⟩,
   ⟨0x11443, 0x11444, true, 0⟩, ⟨0x11445, 0x11445, false, 0⟩, ⟨0x11446, 0x11446, true, 7⟩,
   ⟨0x1145e, 0x1145e, true, 230⟩, ⟨0x114b0, 0x114b2, false, 0⟩, ⟨0x114b3, 0x114b8, true, 0⟩,
   ⟨0x114b9, 0x114b9, false, 0⟩, ⟨0x114ba, 0x114ba, true, 0⟩, ⟨0x114bb, 0x114be, false, 0⟩,
   ⟨0x114bf, 0x114c0, true, 0⟩, ⟨0x114c1, 0x114c1, false, 0⟩, ⟨0x114c2, 0x114c2, true, 9⟩,
   ⟨0x114c3, 0x114c3, true, 7⟩, ⟨0x115af, 0x115b1, false, 0⟩, ⟨0x115b2, 0x115b5, true, 0⟩,
   ⟨0x115b8, 0x115bb, false, 0⟩, ⟨0x115bc, 0x115bd, true, 0⟩, ⟨0x115be, 0x115be, false, 0⟩,
   ⟨0x115bf, 0x115bf, true, 9⟩, ⟨0x115c0, 0x115c0, true, 7⟩, ⟨0x115dc, 0x115dd, true, 0⟩,
   ⟨0x11630, 0x11632, false, 0⟩, ⟨0x11633, 0x1163a, true, 0⟩, ⟨0x1163b, 0x1163c, false, 0⟩,
   ⟨0x1163d, 0x1163d, true, 0⟩, ⟨0x1163e, 0x1163e, false, 0⟩, ⟨0x1163f, 0x1163f, true, 9⟩,
   ⟨0x11640, 0x11640, true, 0⟩, ⟨0x116ab, 0x116ab, true, 0⟩, ⟨0x116ac, 0x116ac, false, 0⟩,
   ⟨0x116ad, 0x116ad, true, 0⟩, ⟨0x116ae, 0x116af, false, 0⟩, ⟨0x116b0, 0x116b5, true, 0⟩,
   ⟨0x116b6, 0x116b6, false, 9⟩, ⟨0x116b7, 0x116b7, true, 7⟩, ⟨0x1171d, 0x1171d, true, 0⟩,
   ⟨0x1171e, 0x1171e, false, 0⟩, ⟨0x1171f, 0x1171f, true, 0⟩, ⟨0x11720, 0x11721, false, 0⟩,
   ⟨0x11722, 0x11725, true, 0⟩, ⟨0x11726, 0x11726, false, 0⟩, ⟨0x11727, 0x1172a, true, 0⟩,
   ⟨0x1172b, 0x1172b, true, 9⟩, ⟨0x1182c, 0x1182e, false, 0⟩, ⟨0x1182f, 0x11837, true, 0⟩,
   ⟨0x11838, 0x11838, false, 0⟩, ⟨0x11839, 0x11839, true, 9⟩, ⟨0x1183a, 0x1183a, true, 7⟩,
   ⟨0x11930, 0x11938, false, 0⟩, ⟨0x1193b, 0x1193c, true, 0⟩, ⟨0x1193d, 0x1193d, false, 9⟩,
   ⟨0x1193e, 0x1193e, true, 9⟩, ⟨0x11940, 0x11940, false, 0⟩, ⟨0x11942, 0x11942, false, 0⟩,
   ⟨0x11943, 0x11943, true, 7⟩, ⟨0x119d1, 0x119d3, false, 0⟩, ⟨0x119d4, 0x119db, true, 0⟩,
   ⟨0x119dc, 0x119df, false, 0⟩, ⟨0x119e0, 0x119e0, true, 9⟩, ⟨0x119e4, 0x119e4, false, 0⟩,
   ⟨0x11a01, 0x11a0a, true, 0⟩, ⟨0x11a33, 0x11a33, true, 0⟩, ⟨0x11a34, 0x11a34, true, 9⟩,
   ⟨0x11a35, 0x11a38, true, 0⟩, ⟨0x11a39, 0x11a39, false, 0⟩, ⟨0x11a3b, 0x11a3e, true, 0⟩,
   ⟨0x11a47, 0x11a47, true, 9⟩, ⟨0x11a51, 0x11a56, true, 0⟩, ⟨0x11a57, 0x11a58, false, 0⟩,
   ⟨0x11a59, 0x11a5b, true, 0⟩, ⟨0x11a8a, 0x11a96, true, 0⟩, ⟨0x11a97, 0x11a97, false, 0⟩,
   ⟨0x11a98, 0x11a98, true, 0⟩, ⟨0x11a99, 0x11a99, true, 9⟩, ⟨0x11b60, 0x11b60, true, 0⟩,
   ⟨0x11b61, 0x11b61, false, 0⟩, ⟨0x11b62, 0x11b64, true, 0⟩, ⟨0x11b65, 0x11b65, false, 0⟩,
   ⟨0x11b66, 0x11b66, true, 0⟩, ⟨0x11b67, 0x11b67, false, 0⟩, ⟨0x11c2f, 0x11c2f, false, 0⟩,
   ⟨0x11c30, 0x11c3d, true, 0⟩, ⟨0x11c3e, 0x11c3e, false, 0⟩, ⟨0x11c3f, 0x11c3f, true, 9⟩,
   ⟨0x11c92, 0x11ca7, true, 0⟩, ⟨0x11ca9, 0x11ca9, false, 0⟩, ⟨0x11caa, 0x11cb0, true, 0⟩,
   ⟨0x11cb1, 0x11cb1, false, 0⟩, ⟨0x11cb2, 0x11cb3, true, 0⟩, ⟨0x11cb4, 0x11cb4, false, 0⟩,
   ⟨0x11cb5, 0x11cb6, true, 0⟩, ⟨0x11d31, 0x11d41, true, 0⟩, ⟨0x11d42, 0x11d42, true, 7⟩,
   ⟨0x11d43, 0x11d43, true, 0⟩, ⟨0x11d44, 0x11d45, true, 9⟩, ⟨0x11d47, 0x11d47, true, 0⟩,
   ⟨0x11d8a, 0x11d8e, false, 0⟩, ⟨0x11d90, 0x11d91, true, 0⟩, ⟨0x11d93, 0x11d94, false, 0⟩,
   ⟨0x11d95, 0x11d95, true, 0⟩, ⟨0x11d96, 0x11d96, false, 0⟩, ⟨0x11d97, 0x11d97, true, 9⟩,
   ⟨0x11ef3, 0x11ef4, true, 0⟩, ⟨0x11ef5, 0x11ef6, false, 0⟩, ⟨0x11f00, 0x11f01, true, 0⟩,
   ⟨0x11f03, 0x11f03, false, 0⟩, ⟨0x11f34, 0x11f35, false, 0⟩, ⟨0x11f36, 0x11f3a, true, 0⟩,
   ⟨0x11f3e, 0x11f3f, false, 0⟩, ⟨0x11f40, 0x11f40, true, 0⟩, ⟨0x11f41, 0x11f41, false, 9⟩,
   ⟨0x11f42, 0x11f42, true, 9⟩, ⟨0x11f5a, 0x11f5a, true, 0⟩, ⟨0x13440, 0x13440, true, 0⟩,
   ⟨0x13447, 0x13455, true, 0⟩, ⟨0x1611e, 0x16129, true, 0⟩, ⟨0x1612a, 0x1612c, false, 0⟩,
   ⟨0x1612d, 0x1612e, true, 0⟩, ⟨0x1612f, 0x1612f, true, 9⟩, ⟨0x16af0, 0x16af4, true, 1⟩,
   ⟨0x16b30, 0x16b36, true, 230⟩, ⟨0x16f4f, 0x16f4f, true, 0⟩, ⟨0x16f51, 0x16f87, false, 0⟩,
   ⟨0x16f8f, 0x16f92, true, 0⟩, ⟨0x16fe4, 0x16fe4, true, 0⟩, ⟨0x16ff0, 0x16ff1, false, 6⟩,
   ⟨0x1bc9d, 0x1bc9d, true, 0⟩, ⟨0x1bc9e, 0x1bc9e, true, 1⟩, ⟨0x1cf00, 0x1cf46, true, 0⟩,
   ⟨0x1d165, 0x1d166, false, 216⟩, ⟨0x1d167, 0x1d169, true, 1⟩, ⟨0x1d16d, 0x1d16d, false, 226⟩,
   ⟨0x1d16e, 0x1d172, false, 216⟩, ⟨0x1d17b, 0x1d182, true, 220⟩, ⟨0x1d185, 0x1d189, true, 230⟩,
   ⟨0x1d18a, 0x1d18b, true, 220⟩, ⟨0x1d1aa, 0x1d1ad, true, 230⟩, ⟨0x1d242, 0x1d244, true, 230⟩,
   ⟨0x1da00, 0x1da36, true, 0⟩, ⟨0x1da3b, 0x1da6c, true, 0⟩, ⟨0x1da75, 0x1da75, true, 0⟩,
   ⟨0x1da84, 0x1da84, true, 0⟩, ⟨0x1da9b, 0x1daaf, true, 0⟩, ⟨0x1e000, 0x1e02a, true, 230⟩,
   ⟨0x1e08f, 0x1e08f, true, 230⟩, ⟨0x1e130, 0x1e136, true, 230⟩, ⟨0x1e2ae, 0x1e2ae, true, 230⟩,
   ⟨0x1e2ec, 0x1e2ef, true, 230⟩, ⟨0x1e4ec, 0x1e4ed, true, 232⟩, ⟨0x1e4ee, 0x1e4ee, true, 220⟩,
   ⟨0x1e4ef, 0x1e4ef, true, 230⟩, ⟨0x1e5ee, 0x1e5ee, true, 230⟩, ⟨0x1e5ef, 0x1e5ef, true, 220⟩,
   ⟨0x1e6e3, 0x1e6e3, true, 230⟩, ⟨0x1e6e6, 0x1e6e6, true, 230⟩, ⟨0x1e6ee, 0x1e6ef, true, 230⟩,
   ⟨0x1e6f5, 0x1e6f5, true, 230⟩, ⟨0x1e8d0, 0x1e8d6, true, 220⟩, ⟨0x1e944, 0x1e949, true, 230⟩,
   ⟨0x1e94a, 0x1e94a, true, 7⟩, ⟨0xe0100, 0xe01ef, true, 0⟩]

/-- The range in which a character is. No mark comes before U+0300. -/
def markRange? (c : Char) : Option MarkRange :=
  if c.toNat < 0x300 then none
  else markRanges.find? fun r => r.first ≤ c.toNat && c.toNat ≤ r.last

def isMark (c : Char) : Bool := (markRange? c).isSome

def isNonspacingMark (c : Char) : Bool := (markRange? c).any MarkRange.nonspacing

/-- The class of a mark. Marks of class zero, and all that is no mark, keep their places. -/
def combiningClass (c : Char) : Nat := ((markRange? c).map MarkRange.combiningClass).getD 0

/-- Whether a mark takes the vowel from the consonant before it. -/
def isVirama (c : Char) : Bool := combiningClass c = 9

end ModuleBundler
