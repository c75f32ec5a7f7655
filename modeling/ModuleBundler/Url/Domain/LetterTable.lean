/-!
# Letters of domain names

* `LetterRange.apply` : what becomes of a letter of a range in a domain name;
* `letterRanges` : the ranges of letters, most of them capitals, that become other letters.
-/

namespace ModuleBundler

/-- What becomes of the letters of a range. -/
inductive LetterRule where
  /-- Their codes move by a number. -/
  | shift (distance : Int)
  /-- The first of every two becomes the second. -/
  | pairs

/-- Letters with consecutive codes and one rule. -/
structure LetterRange where
  first : Nat
  last : Nat
  rule : LetterRule

/-- What becomes of the letter with a code. -/
def LetterRange.apply (r : LetterRange) (code : Nat) : Char :=
  match r.rule with
  | .shift distance => Char.ofNat (code + distance).toNat
  | .pairs => Char.ofNat (if (code - r.first) % 2 = 0 then code + 1 else code)

/-- Letters and digits that become others in a domain name. -/
def letterRanges : Array LetterRange :=
  #[⟨0xc0, 0xd6, .shift 32⟩, ⟨0xd8, 0xde, .shift 32⟩, ⟨0x100, 0x12f, .pairs⟩,
   ⟨0x134, 0x137, .pairs⟩, ⟨0x139, 0x13e, .pairs⟩, ⟨0x141, 0x148, .pairs⟩, ⟨0x14a, 0x177, .pairs⟩,
   ⟨0x179, 0x17e, .pairs⟩, ⟨0x182, 0x185, .pairs⟩, ⟨0x187, 0x188, .pairs⟩, ⟨0x18b, 0x18c, .pairs⟩,
   ⟨0x191, 0x192, .pairs⟩, ⟨0x198, 0x199, .pairs⟩, ⟨0x1a0, 0x1a5, .pairs⟩, ⟨0x1a7, 0x1a8, .pairs⟩,
   ⟨0x1ac, 0x1ad, .pairs⟩, ⟨0x1af, 0x1b0, .pairs⟩, ⟨0x1b3, 0x1b6, .pairs⟩, ⟨0x1b8, 0x1b9, .pairs⟩,
   ⟨0x1bc, 0x1bd, .pairs⟩, ⟨0x1cd, 0x1dc, .pairs⟩, ⟨0x1de, 0x1ef, .pairs⟩, ⟨0x1f4, 0x1f5, .pairs⟩,
   ⟨0x1f8, 0x21f, .pairs⟩, ⟨0x222, 0x233, .pairs⟩, ⟨0x23b, 0x23c, .pairs⟩, ⟨0x241, 0x242, .pairs⟩,
   ⟨0x246, 0x24f, .pairs⟩, ⟨0x370, 0x373, .pairs⟩, ⟨0x376, 0x377, .pairs⟩,
   ⟨0x391, 0x3a1, .shift 32⟩, ⟨0x3a3, 0x3ab, .shift 32⟩, ⟨0x3d8, 0x3ef, .pairs⟩,
   ⟨0x3f7, 0x3f8, .pairs⟩, ⟨0x3fa, 0x3fb, .pairs⟩, ⟨0x400, 0x40f, .shift 80⟩,
   ⟨0x410, 0x42f, .shift 32⟩, ⟨0x460, 0x481, .pairs⟩, ⟨0x48a, 0x4bf, .pairs⟩,
   ⟨0x4c1, 0x4ce, .pairs⟩, ⟨0x4d0, 0x52f, .pairs⟩, ⟨0x531, 0x556, .shift 48⟩,
   ⟨0x10a0, 0x10c5, .shift 7264⟩, ⟨0x13f8, 0x13fd, .shift (-8)⟩, ⟨0x1c89, 0x1c8a, .pairs⟩,
   ⟨0x1c90, 0x1cba, .shift (-3008)⟩, ⟨0x1d33, 0x1d3a, .shift (-7372)⟩,
   ⟨0x1dae, 0x1db1, .shift (-6972)⟩, ⟨0x1e00, 0x1e95, .pairs⟩, ⟨0x1ea0, 0x1eff, .pairs⟩,
   ⟨0x1f08, 0x1f0f, .shift (-8)⟩, ⟨0x1f18, 0x1f1d, .shift (-8)⟩, ⟨0x1f28, 0x1f2f, .shift (-8)⟩,
   ⟨0x1f38, 0x1f3f, .shift (-8)⟩, ⟨0x1f48, 0x1f4d, .shift (-8)⟩, ⟨0x1f68, 0x1f6f, .shift (-8)⟩,
   ⟨0x2074, 0x2079, .shift (-8256)⟩, ⟨0x2080, 0x2089, .shift (-8272)⟩,
   ⟨0x2096, 0x2099, .shift (-8235)⟩, ⟨0x2135, 0x2138, .shift (-7013)⟩, ⟨0x2183, 0x2184, .pairs⟩,
   ⟨0x2460, 0x2468, .shift (-9263)⟩, ⟨0x24b6, 0x24cf, .shift (-9301)⟩,
   ⟨0x24d0, 0x24e9, .shift (-9327)⟩, ⟨0x2c00, 0x2c2f, .shift 48⟩, ⟨0x2c60, 0x2c61, .pairs⟩,
   ⟨0x2c67, 0x2c6c, .pairs⟩, ⟨0x2c72, 0x2c73, .pairs⟩, ⟨0x2c75, 0x2c76, .pairs⟩,
   ⟨0x2c80, 0x2ce3, .pairs⟩, ⟨0x2ceb, 0x2cee, .pairs⟩, ⟨0x2cf2, 0x2cf3, .pairs⟩,
   ⟨0x313a, 0x313f, .shift (-8074)⟩, ⟨0x3145, 0x314e, .shift (-8252)⟩,
   ⟨0x314f, 0x3163, .shift (-8174)⟩, ⟨0x3178, 0x317c, .shift (-8269)⟩,
   ⟨0x3269, 0x326d, .shift (-8539)⟩, ⟨0x32e4, 0x32e9, .shift (-538)⟩,
   ⟨0x32ee, 0x32f2, .shift (-528)⟩, ⟨0x32f5, 0x32fa, .shift (-525)⟩,
   ⟨0x32fb, 0x32fe, .shift (-524)⟩, ⟨0xa640, 0xa66d, .pairs⟩, ⟨0xa680, 0xa69b, .pairs⟩,
   ⟨0xa722, 0xa72f, .pairs⟩, ⟨0xa732, 0xa76f, .pairs⟩, ⟨0xa779, 0xa77c, .pairs⟩,
   ⟨0xa77e, 0xa787, .pairs⟩, ⟨0xa78b, 0xa78c, .pairs⟩, ⟨0xa790, 0xa793, .pairs⟩,
   ⟨0xa796, 0xa7a9, .pairs⟩, ⟨0xa7b4, 0xa7c3, .pairs⟩, ⟨0xa7c7, 0xa7ca, .pairs⟩,
   ⟨0xa7cc, 0xa7db, .pairs⟩, ⟨0xa7f5, 0xa7f6, .pairs⟩, ⟨0xab70, 0xabbf, .shift (-38864)⟩,
   ⟨0xfe41, 0xfe44, .shift (-52789)⟩, ⟨0xff01, 0xff20, .shift (-65248)⟩,
   ⟨0xff21, 0xff3a, .shift (-65216)⟩, ⟨0xff3b, 0xff5e, .shift (-65248)⟩,
   ⟨0xff85, 0xff8a, .shift (-52923)⟩, ⟨0xff8f, 0xff93, .shift (-52913)⟩,
   ⟨0xff96, 0xff9b, .shift (-52910)⟩, ⟨0xffaa, 0xffaf, .shift (-60922)⟩,
   ⟨0xffb5, 0xffbe, .shift (-61100)⟩, ⟨0xffc2, 0xffc7, .shift (-61025)⟩,
   ⟨0xffca, 0xffcf, .shift (-61027)⟩, ⟨0xffd2, 0xffd7, .shift (-61029)⟩,
   ⟨0xffe9, 0xffec, .shift (-56921)⟩, ⟨0x10400, 0x10427, .shift 40⟩, ⟨0x104b0, 0x104d3, .shift 40⟩,
   ⟨0x10570, 0x1057a, .shift 39⟩, ⟨0x1057c, 0x1058a, .shift 39⟩, ⟨0x1058c, 0x10592, .shift 39⟩,
   ⟨0x10c80, 0x10cb2, .shift 64⟩, ⟨0x10d50, 0x10d65, .shift 32⟩, ⟨0x118a0, 0x118bf, .shift 32⟩,
   ⟨0x16e40, 0x16e5f, .shift 32⟩, ⟨0x16ea0, 0x16eb8, .shift 27⟩,
   ⟨0x1ccd6, 0x1ccef, .shift (-117877)⟩, ⟨0x1ccf0, 0x1ccf9, .shift (-117952)⟩,
   ⟨0x1d400, 0x1d419, .shift (-119711)⟩, ⟨0x1d41a, 0x1d433, .shift (-119737)⟩,
   ⟨0x1d434, 0x1d44d, .shift (-119763)⟩, ⟨0x1d44e, 0x1d454, .shift (-119789)⟩,
   ⟨0x1d456, 0x1d467, .shift (-119789)⟩, ⟨0x1d468, 0x1d481, .shift (-119815)⟩,
   ⟨0x1d482, 0x1d49b, .shift (-119841)⟩, ⟨0x1d4a9, 0x1d4ac, .shift (-119867)⟩,
   ⟨0x1d4ae, 0x1d4b5, .shift (-119867)⟩, ⟨0x1d4b6, 0x1d4b9, .shift (-119893)⟩,
   ⟨0x1d4bd, 0x1d4c3, .shift (-119893)⟩, ⟨0x1d4c5, 0x1d4cf, .shift (-119893)⟩,
   ⟨0x1d4d0, 0x1d4e9, .shift (-119919)⟩, ⟨0x1d4ea, 0x1d503, .shift (-119945)⟩,
   ⟨0x1d507, 0x1d50a, .shift (-119971)⟩, ⟨0x1d50d, 0x1d514, .shift (-119971)⟩,
   ⟨0x1d516, 0x1d51c, .shift (-119971)⟩, ⟨0x1d51e, 0x1d537, .shift (-119997)⟩,
   ⟨0x1d53b, 0x1d53e, .shift (-120023)⟩, ⟨0x1d540, 0x1d544, .shift (-120023)⟩,
   ⟨0x1d54a, 0x1d550, .shift (-120023)⟩, ⟨0x1d552, 0x1d56b, .shift (-120049)⟩,
   ⟨0x1d56c, 0x1d585, .shift (-120075)⟩, ⟨0x1d586, 0x1d59f, .shift (-120101)⟩,
   ⟨0x1d5a0, 0x1d5b9, .shift (-120127)⟩, ⟨0x1d5ba, 0x1d5d3, .shift (-120153)⟩,
   ⟨0x1d5d4, 0x1d5ed, .shift (-120179)⟩, ⟨0x1d5ee, 0x1d607, .shift (-120205)⟩,
   ⟨0x1d608, 0x1d621, .shift (-120231)⟩, ⟨0x1d622, 0x1d63b, .shift (-120257)⟩,
   ⟨0x1d63c, 0x1d655, .shift (-120283)⟩, ⟨0x1d656, 0x1d66f, .shift (-120309)⟩,
   ⟨0x1d670, 0x1d689, .shift (-120335)⟩, ⟨0x1d68a, 0x1d6a3, .shift (-120361)⟩,
   ⟨0x1d6a8, 0x1d6b8, .shift (-119543)⟩, ⟨0x1d6ba, 0x1d6c0, .shift (-119543)⟩,
   ⟨0x1d6c2, 0x1d6d2, .shift (-119569)⟩, ⟨0x1d6d4, 0x1d6da, .shift (-119569)⟩,
   ⟨0x1d6e2, 0x1d6f2, .shift (-119601)⟩, ⟨0x1d6f4, 0x1d6fa, .shift (-119601)⟩,
   ⟨0x1d6fc, 0x1d70c, .shift (-119627)⟩, ⟨0x1d70e, 0x1d714, .shift (-119627)⟩,
   ⟨0x1d71c, 0x1d72c, .shift (-119659)⟩, ⟨0x1d72e, 0x1d734, .shift (-119659)⟩,
   ⟨0x1d736, 0x1d746, .shift (-119685)⟩, ⟨0x1d748, 0x1d74e, .shift (-119685)⟩,
   ⟨0x1d756, 0x1d766, .shift (-119717)⟩, ⟨0x1d768, 0x1d76e, .shift (-119717)⟩,
   ⟨0x1d770, 0x1d780, .shift (-119743)⟩, ⟨0x1d782, 0x1d788, .shift (-119743)⟩,
   ⟨0x1d790, 0x1d7a0, .shift (-119775)⟩, ⟨0x1d7a2, 0x1d7a8, .shift (-119775)⟩,
   ⟨0x1d7aa, 0x1d7ba, .shift (-119801)⟩, ⟨0x1d7bc, 0x1d7c2, .shift (-119801)⟩,
   ⟨0x1d7ce, 0x1d7d7, .shift (-120734)⟩, ⟨0x1d7d8, 0x1d7e1, .shift (-120744)⟩,
   ⟨0x1d7e2, 0x1d7eb, .shift (-120754)⟩, ⟨0x1d7ec, 0x1d7f5, .shift (-120764)⟩,
   ⟨0x1d7f6, 0x1d7ff, .shift (-120774)⟩, ⟨0x1e030, 0x1e038, .shift (-121856)⟩,
   ⟨0x1e03c, 0x1e046, .shift (-121854)⟩, ⟨0x1e051, 0x1e059, .shift (-121889)⟩,
   ⟨0x1e05f, 0x1e064, .shift (-121884)⟩, ⟨0x1e900, 0x1e921, .shift 34⟩,
   ⟨0x1ee0a, 0x1ee0d, .shift (-124871)⟩, ⟨0x1ee2a, 0x1ee2d, .shift (-124903)⟩,
   ⟨0x1f130, 0x1f149, .shift (-127183)⟩, ⟨0x1fbf0, 0x1fbf9, .shift (-129984)⟩]

end ModuleBundler
