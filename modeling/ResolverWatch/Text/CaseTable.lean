import ResolverWatch.Text.Range

/-!
# Case data of Unicode 14

`lowerRuns` holds the characters whose lower-case form is one other character; alphabets that
interleave their cases make runs of step two. `casedRanges` and `caseIgnorableRanges` decide
where a capital sigma ends a word.
-/

namespace ResolverWatch.Text

/-- The code points `first`, `first + step`, … up to `last` are lowered by adding `shift`. -/
structure LowerRun where
  first : Nat
  last : Nat
  step : Nat
  shift : Int

/-- Every code point with a lower-case form of one other character, the capital sigma apart. -/
def lowerRuns : List LowerRun :=
  [
    ⟨0x41, 0x5a, 1, 32⟩, ⟨0xc0, 0xd6, 1, 32⟩, ⟨0xd8, 0xde, 1, 32⟩, ⟨0x100, 0x12e, 2, 1⟩,
    ⟨0x132, 0x136, 2, 1⟩, ⟨0x139, 0x147, 2, 1⟩, ⟨0x14a, 0x176, 2, 1⟩, ⟨0x178, 0x178, 1, -121⟩,
    ⟨0x179, 0x17d, 2, 1⟩, ⟨0x181, 0x181, 1, 210⟩, ⟨0x182, 0x184, 2, 1⟩, ⟨0x186, 0x186, 1, 206⟩,
    ⟨0x187, 0x187, 1, 1⟩, ⟨0x189, 0x18a, 1, 205⟩, ⟨0x18b, 0x18b, 1, 1⟩, ⟨0x18e, 0x18e, 1, 79⟩,
    ⟨0x18f, 0x18f, 1, 202⟩, ⟨0x190, 0x190, 1, 203⟩, ⟨0x191, 0x191, 1, 1⟩, ⟨0x193, 0x193, 1, 205⟩,
    ⟨0x194, 0x194, 1, 207⟩, ⟨0x196, 0x196, 1, 211⟩, ⟨0x197, 0x197, 1, 209⟩, ⟨0x198, 0x198, 1, 1⟩,
    ⟨0x19c, 0x19c, 1, 211⟩, ⟨0x19d, 0x19d, 1, 213⟩, ⟨0x19f, 0x19f, 1, 214⟩, ⟨0x1a0, 0x1a4, 2, 1⟩,
    ⟨0x1a6, 0x1a6, 1, 218⟩, ⟨0x1a7, 0x1a7, 1, 1⟩, ⟨0x1a9, 0x1a9, 1, 218⟩, ⟨0x1ac, 0x1ac, 1, 1⟩,
    ⟨0x1ae, 0x1ae, 1, 218⟩, ⟨0x1af, 0x1af, 1, 1⟩, ⟨0x1b1, 0x1b2, 1, 217⟩, ⟨0x1b3, 0x1b5, 2, 1⟩,
    ⟨0x1b7, 0x1b7, 1, 219⟩, ⟨0x1b8, 0x1b8, 1, 1⟩, ⟨0x1bc, 0x1bc, 1, 1⟩, ⟨0x1c4, 0x1c4, 1, 2⟩,
    ⟨0x1c5, 0x1c5, 1, 1⟩, ⟨0x1c7, 0x1c7, 1, 2⟩, ⟨0x1c8, 0x1c8, 1, 1⟩, ⟨0x1ca, 0x1ca, 1, 2⟩,
    ⟨0x1cb, 0x1db, 2, 1⟩, ⟨0x1de, 0x1ee, 2, 1⟩, ⟨0x1f1, 0x1f1, 1, 2⟩, ⟨0x1f2, 0x1f4, 2, 1⟩,
    ⟨0x1f6, 0x1f6, 1, -97⟩, ⟨0x1f7, 0x1f7, 1, -56⟩, ⟨0x1f8, 0x21e, 2, 1⟩, ⟨0x220, 0x220, 1, -130⟩,
    ⟨0x222, 0x232, 2, 1⟩, ⟨0x23a, 0x23a, 1, 10795⟩, ⟨0x23b, 0x23b, 1, 1⟩, ⟨0x23d, 0x23d, 1, -163⟩,
    ⟨0x23e, 0x23e, 1, 10792⟩, ⟨0x241, 0x241, 1, 1⟩, ⟨0x243, 0x243, 1, -195⟩, ⟨0x244, 0x244, 1, 69⟩,
    ⟨0x245, 0x245, 1, 71⟩, ⟨0x246, 0x24e, 2, 1⟩, ⟨0x370, 0x372, 2, 1⟩, ⟨0x376, 0x376, 1, 1⟩,
    ⟨0x37f, 0x37f, 1, 116⟩, ⟨0x386, 0x386, 1, 38⟩, ⟨0x388, 0x38a, 1, 37⟩, ⟨0x38c, 0x38c, 1, 64⟩,
    ⟨0x38e, 0x38f, 1, 63⟩, ⟨0x391, 0x3a1, 1, 32⟩, ⟨0x3a4, 0x3ab, 1, 32⟩, ⟨0x3cf, 0x3cf, 1, 8⟩,
    ⟨0x3d8, 0x3ee, 2, 1⟩, ⟨0x3f4, 0x3f4, 1, -60⟩, ⟨0x3f7, 0x3f7, 1, 1⟩, ⟨0x3f9, 0x3f9, 1, -7⟩,
    ⟨0x3fa, 0x3fa, 1, 1⟩, ⟨0x3fd, 0x3ff, 1, -130⟩, ⟨0x400, 0x40f, 1, 80⟩, ⟨0x410, 0x42f, 1, 32⟩,
    ⟨0x460, 0x480, 2, 1⟩, ⟨0x48a, 0x4be, 2, 1⟩, ⟨0x4c0, 0x4c0, 1, 15⟩, ⟨0x4c1, 0x4cd, 2, 1⟩,
    ⟨0x4d0, 0x52e, 2, 1⟩, ⟨0x531, 0x556, 1, 48⟩, ⟨0x10a0, 0x10c5, 1, 7264⟩,
    ⟨0x10c7, 0x10c7, 1, 7264⟩, ⟨0x10cd, 0x10cd, 1, 7264⟩, ⟨0x13a0, 0x13ef, 1, 38864⟩,
    ⟨0x13f0, 0x13f5, 1, 8⟩, ⟨0x1c90, 0x1cba, 1, -3008⟩, ⟨0x1cbd, 0x1cbf, 1, -3008⟩,
    ⟨0x1e00, 0x1e94, 2, 1⟩, ⟨0x1e9e, 0x1e9e, 1, -7615⟩, ⟨0x1ea0, 0x1efe, 2, 1⟩,
    ⟨0x1f08, 0x1f0f, 1, -8⟩, ⟨0x1f18, 0x1f1d, 1, -8⟩, ⟨0x1f28, 0x1f2f, 1, -8⟩,
    ⟨0x1f38, 0x1f3f, 1, -8⟩, ⟨0x1f48, 0x1f4d, 1, -8⟩, ⟨0x1f59, 0x1f5f, 2, -8⟩,
    ⟨0x1f68, 0x1f6f, 1, -8⟩, ⟨0x1f88, 0x1f8f, 1, -8⟩, ⟨0x1f98, 0x1f9f, 1, -8⟩,
    ⟨0x1fa8, 0x1faf, 1, -8⟩, ⟨0x1fb8, 0x1fb9, 1, -8⟩, ⟨0x1fba, 0x1fbb, 1, -74⟩,
    ⟨0x1fbc, 0x1fbc, 1, -9⟩, ⟨0x1fc8, 0x1fcb, 1, -86⟩, ⟨0x1fcc, 0x1fcc, 1, -9⟩,
    ⟨0x1fd8, 0x1fd9, 1, -8⟩, ⟨0x1fda, 0x1fdb, 1, -100⟩, ⟨0x1fe8, 0x1fe9, 1, -8⟩,
    ⟨0x1fea, 0x1feb, 1, -112⟩, ⟨0x1fec, 0x1fec, 1, -7⟩, ⟨0x1ff8, 0x1ff9, 1, -128⟩,
    ⟨0x1ffa, 0x1ffb, 1, -126⟩, ⟨0x1ffc, 0x1ffc, 1, -9⟩, ⟨0x2126, 0x2126, 1, -7517⟩,
    ⟨0x212a, 0x212a, 1, -8383⟩, ⟨0x212b, 0x212b, 1, -8262⟩, ⟨0x2132, 0x2132, 1, 28⟩,
    ⟨0x2160, 0x216f, 1, 16⟩, ⟨0x2183, 0x2183, 1, 1⟩, ⟨0x24b6, 0x24cf, 1, 26⟩,
    ⟨0x2c00, 0x2c2f, 1, 48⟩, ⟨0x2c60, 0x2c60, 1, 1⟩, ⟨0x2c62, 0x2c62, 1, -10743⟩,
    ⟨0x2c63, 0x2c63, 1, -3814⟩, ⟨0x2c64, 0x2c64, 1, -10727⟩, ⟨0x2c67, 0x2c6b, 2, 1⟩,
    ⟨0x2c6d, 0x2c6d, 1, -10780⟩, ⟨0x2c6e, 0x2c6e, 1, -10749⟩, ⟨0x2c6f, 0x2c6f, 1, -10783⟩,
    ⟨0x2c70, 0x2c70, 1, -10782⟩, ⟨0x2c72, 0x2c72, 1, 1⟩, ⟨0x2c75, 0x2c75, 1, 1⟩,
    ⟨0x2c7e, 0x2c7f, 1, -10815⟩, ⟨0x2c80, 0x2ce2, 2, 1⟩, ⟨0x2ceb, 0x2ced, 2, 1⟩,
    ⟨0x2cf2, 0x2cf2, 1, 1⟩, ⟨0xa640, 0xa66c, 2, 1⟩, ⟨0xa680, 0xa69a, 2, 1⟩, ⟨0xa722, 0xa72e, 2, 1⟩,
    ⟨0xa732, 0xa76e, 2, 1⟩, ⟨0xa779, 0xa77b, 2, 1⟩, ⟨0xa77d, 0xa77d, 1, -35332⟩,
    ⟨0xa77e, 0xa786, 2, 1⟩, ⟨0xa78b, 0xa78b, 1, 1⟩, ⟨0xa78d, 0xa78d, 1, -42280⟩,
    ⟨0xa790, 0xa792, 2, 1⟩, ⟨0xa796, 0xa7a8, 2, 1⟩, ⟨0xa7aa, 0xa7aa, 1, -42308⟩,
    ⟨0xa7ab, 0xa7ab, 1, -42319⟩, ⟨0xa7ac, 0xa7ac, 1, -42315⟩, ⟨0xa7ad, 0xa7ad, 1, -42305⟩,
    ⟨0xa7ae, 0xa7ae, 1, -42308⟩, ⟨0xa7b0, 0xa7b0, 1, -42258⟩, ⟨0xa7b1, 0xa7b1, 1, -42282⟩,
    ⟨0xa7b2, 0xa7b2, 1, -42261⟩, ⟨0xa7b3, 0xa7b3, 1, 928⟩, ⟨0xa7b4, 0xa7c2, 2, 1⟩,
    ⟨0xa7c4, 0xa7c4, 1, -48⟩, ⟨0xa7c5, 0xa7c5, 1, -42307⟩, ⟨0xa7c6, 0xa7c6, 1, -35384⟩,
    ⟨0xa7c7, 0xa7c9, 2, 1⟩, ⟨0xa7d0, 0xa7d0, 1, 1⟩, ⟨0xa7d6, 0xa7d8, 2, 1⟩, ⟨0xa7f5, 0xa7f5, 1, 1⟩,
    ⟨0xff21, 0xff3a, 1, 32⟩, ⟨0x10400, 0x10427, 1, 40⟩, ⟨0x104b0, 0x104d3, 1, 40⟩,
    ⟨0x10570, 0x1057a, 1, 39⟩, ⟨0x1057c, 0x1058a, 1, 39⟩, ⟨0x1058c, 0x10592, 1, 39⟩,
    ⟨0x10594, 0x10595, 1, 39⟩, ⟨0x10c80, 0x10cb2, 1, 64⟩, ⟨0x118a0, 0x118bf, 1, 32⟩,
    ⟨0x16e40, 0x16e5f, 1, 32⟩, ⟨0x1e900, 0x1e921, 1, 34⟩
  ]

/-- The code points that have a case and are not ignored by the sigma rule. -/
def casedRanges : List (Nat × Nat) :=
  [
    (0x41, 0x5b), (0x61, 0x7b), (0xaa, 0xab), (0xb5, 0xb6), (0xba, 0xbb), (0xc0, 0xd7), (0xd8, 0xf7),
    (0xf8, 0x1bb), (0x1bc, 0x1c0), (0x1c4, 0x294), (0x295, 0x2b0), (0x370, 0x374), (0x376, 0x378),
    (0x37b, 0x37e), (0x37f, 0x380), (0x386, 0x387), (0x388, 0x38b), (0x38c, 0x38d), (0x38e, 0x3a2),
    (0x3a3, 0x3f6), (0x3f7, 0x482), (0x48a, 0x530), (0x531, 0x557), (0x560, 0x589), (0x10a0, 0x10c6),
    (0x10c7, 0x10c8), (0x10cd, 0x10ce), (0x10d0, 0x10fb), (0x10fd, 0x1100), (0x13a0, 0x13f6),
    (0x13f8, 0x13fe), (0x1c80, 0x1c89), (0x1c90, 0x1cbb), (0x1cbd, 0x1cc0), (0x1d00, 0x1d2c),
    (0x1d6b, 0x1d78), (0x1d79, 0x1d9b), (0x1e00, 0x1f16), (0x1f18, 0x1f1e), (0x1f20, 0x1f46),
    (0x1f48, 0x1f4e), (0x1f50, 0x1f58), (0x1f59, 0x1f5a), (0x1f5b, 0x1f5c), (0x1f5d, 0x1f5e),
    (0x1f5f, 0x1f7e), (0x1f80, 0x1fb5), (0x1fb6, 0x1fbd), (0x1fbe, 0x1fbf), (0x1fc2, 0x1fc5),
    (0x1fc6, 0x1fcd), (0x1fd0, 0x1fd4), (0x1fd6, 0x1fdc), (0x1fe0, 0x1fed), (0x1ff2, 0x1ff5),
    (0x1ff6, 0x1ffd), (0x2102, 0x2103), (0x2107, 0x2108), (0x210a, 0x2114), (0x2115, 0x2116),
    (0x2119, 0x211e), (0x2124, 0x2125), (0x2126, 0x2127), (0x2128, 0x2129), (0x212a, 0x212e),
    (0x212f, 0x2135), (0x2139, 0x213a), (0x213c, 0x2140), (0x2145, 0x214a), (0x214e, 0x214f),
    (0x2160, 0x2180), (0x2183, 0x2185), (0x24b6, 0x24ea), (0x2c00, 0x2c7c), (0x2c7e, 0x2ce5),
    (0x2ceb, 0x2cef), (0x2cf2, 0x2cf4), (0x2d00, 0x2d26), (0x2d27, 0x2d28), (0x2d2d, 0x2d2e),
    (0xa640, 0xa66e), (0xa680, 0xa69c), (0xa722, 0xa770), (0xa771, 0xa788), (0xa78b, 0xa78f),
    (0xa790, 0xa7cb), (0xa7d0, 0xa7d2), (0xa7d3, 0xa7d4), (0xa7d5, 0xa7da), (0xa7f5, 0xa7f7),
    (0xa7fa, 0xa7fb), (0xab30, 0xab5b), (0xab60, 0xab69), (0xab70, 0xabc0), (0xfb00, 0xfb07),
    (0xfb13, 0xfb18), (0xff21, 0xff3b), (0xff41, 0xff5b), (0x10400, 0x10450), (0x104b0, 0x104d4),
    (0x104d8, 0x104fc), (0x10570, 0x1057b), (0x1057c, 0x1058b), (0x1058c, 0x10593),
    (0x10594, 0x10596), (0x10597, 0x105a2), (0x105a3, 0x105b2), (0x105b3, 0x105ba),
    (0x105bb, 0x105bd), (0x10c80, 0x10cb3), (0x10cc0, 0x10cf3), (0x118a0, 0x118e0),
    (0x16e40, 0x16e80), (0x1d400, 0x1d455), (0x1d456, 0x1d49d), (0x1d49e, 0x1d4a0),
    (0x1d4a2, 0x1d4a3), (0x1d4a5, 0x1d4a7), (0x1d4a9, 0x1d4ad), (0x1d4ae, 0x1d4ba),
    (0x1d4bb, 0x1d4bc), (0x1d4bd, 0x1d4c4), (0x1d4c5, 0x1d506), (0x1d507, 0x1d50b),
    (0x1d50d, 0x1d515), (0x1d516, 0x1d51d), (0x1d51e, 0x1d53a), (0x1d53b, 0x1d53f),
    (0x1d540, 0x1d545), (0x1d546, 0x1d547), (0x1d54a, 0x1d551), (0x1d552, 0x1d6a6),
    (0x1d6a8, 0x1d6c1), (0x1d6c2, 0x1d6db), (0x1d6dc, 0x1d6fb), (0x1d6fc, 0x1d715),
    (0x1d716, 0x1d735), (0x1d736, 0x1d74f), (0x1d750, 0x1d76f), (0x1d770, 0x1d789),
    (0x1d78a, 0x1d7a9), (0x1d7aa, 0x1d7c3), (0x1d7c4, 0x1d7cc), (0x1df00, 0x1df0a),
    (0x1df0b, 0x1df1f), (0x1e900, 0x1e944), (0x1f130, 0x1f14a), (0x1f150, 0x1f16a),
    (0x1f170, 0x1f18a)
  ]

/-- The code points that the sigma rule looks through. -/
def caseIgnorableRanges : List (Nat × Nat) :=
  [
    (0x27, 0x28), (0x2e, 0x2f), (0x3a, 0x3b), (0x5e, 0x5f), (0x60, 0x61), (0xa8, 0xa9), (0xad, 0xae),
    (0xaf, 0xb0), (0xb4, 0xb5), (0xb7, 0xb9), (0x2b0, 0x370), (0x374, 0x376), (0x37a, 0x37b),
    (0x384, 0x386), (0x387, 0x388), (0x483, 0x48a), (0x559, 0x55a), (0x55f, 0x560), (0x591, 0x5be),
    (0x5bf, 0x5c0), (0x5c1, 0x5c3), (0x5c4, 0x5c6), (0x5c7, 0x5c8), (0x5f4, 0x5f5), (0x600, 0x606),
    (0x610, 0x61b), (0x61c, 0x61d), (0x640, 0x641), (0x64b, 0x660), (0x670, 0x671), (0x6d6, 0x6de),
    (0x6df, 0x6e9), (0x6ea, 0x6ee), (0x70f, 0x710), (0x711, 0x712), (0x730, 0x74b), (0x7a6, 0x7b1),
    (0x7eb, 0x7f6), (0x7fa, 0x7fb), (0x7fd, 0x7fe), (0x816, 0x82e), (0x859, 0x85c), (0x888, 0x889),
    (0x890, 0x892), (0x898, 0x8a0), (0x8c9, 0x903), (0x93a, 0x93b), (0x93c, 0x93d), (0x941, 0x949),
    (0x94d, 0x94e), (0x951, 0x958), (0x962, 0x964), (0x971, 0x972), (0x981, 0x982), (0x9bc, 0x9bd),
    (0x9c1, 0x9c5), (0x9cd, 0x9ce), (0x9e2, 0x9e4), (0x9fe, 0x9ff), (0xa01, 0xa03), (0xa3c, 0xa3d),
    (0xa41, 0xa43), (0xa47, 0xa49), (0xa4b, 0xa4e), (0xa51, 0xa52), (0xa70, 0xa72), (0xa75, 0xa76),
    (0xa81, 0xa83), (0xabc, 0xabd), (0xac1, 0xac6), (0xac7, 0xac9), (0xacd, 0xace), (0xae2, 0xae4),
    (0xafa, 0xb00), (0xb01, 0xb02), (0xb3c, 0xb3d), (0xb3f, 0xb40), (0xb41, 0xb45), (0xb4d, 0xb4e),
    (0xb55, 0xb57), (0xb62, 0xb64), (0xb82, 0xb83), (0xbc0, 0xbc1), (0xbcd, 0xbce), (0xc00, 0xc01),
    (0xc04, 0xc05), (0xc3c, 0xc3d), (0xc3e, 0xc41), (0xc46, 0xc49), (0xc4a, 0xc4e), (0xc55, 0xc57),
    (0xc62, 0xc64), (0xc81, 0xc82), (0xcbc, 0xcbd), (0xcbf, 0xcc0), (0xcc6, 0xcc7), (0xccc, 0xcce),
    (0xce2, 0xce4), (0xd00, 0xd02), (0xd3b, 0xd3d), (0xd41, 0xd45), (0xd4d, 0xd4e), (0xd62, 0xd64),
    (0xd81, 0xd82), (0xdca, 0xdcb), (0xdd2, 0xdd5), (0xdd6, 0xdd7), (0xe31, 0xe32), (0xe34, 0xe3b),
    (0xe46, 0xe4f), (0xeb1, 0xeb2), (0xeb4, 0xebd), (0xec6, 0xec7), (0xec8, 0xece), (0xf18, 0xf1a),
    (0xf35, 0xf36), (0xf37, 0xf38), (0xf39, 0xf3a), (0xf71, 0xf7f), (0xf80, 0xf85), (0xf86, 0xf88),
    (0xf8d, 0xf98), (0xf99, 0xfbd), (0xfc6, 0xfc7), (0x102d, 0x1031), (0x1032, 0x1038),
    (0x1039, 0x103b), (0x103d, 0x103f), (0x1058, 0x105a), (0x105e, 0x1061), (0x1071, 0x1075),
    (0x1082, 0x1083), (0x1085, 0x1087), (0x108d, 0x108e), (0x109d, 0x109e), (0x10fc, 0x10fd),
    (0x135d, 0x1360), (0x1712, 0x1715), (0x1732, 0x1734), (0x1752, 0x1754), (0x1772, 0x1774),
    (0x17b4, 0x17b6), (0x17b7, 0x17be), (0x17c6, 0x17c7), (0x17c9, 0x17d4), (0x17d7, 0x17d8),
    (0x17dd, 0x17de), (0x180b, 0x1810), (0x1843, 0x1844), (0x1885, 0x1887), (0x18a9, 0x18aa),
    (0x1920, 0x1923), (0x1927, 0x1929), (0x1932, 0x1933), (0x1939, 0x193c), (0x1a17, 0x1a19),
    (0x1a1b, 0x1a1c), (0x1a56, 0x1a57), (0x1a58, 0x1a5f), (0x1a60, 0x1a61), (0x1a62, 0x1a63),
    (0x1a65, 0x1a6d), (0x1a73, 0x1a7d), (0x1a7f, 0x1a80), (0x1aa7, 0x1aa8), (0x1ab0, 0x1acf),
    (0x1b00, 0x1b04), (0x1b34, 0x1b35), (0x1b36, 0x1b3b), (0x1b3c, 0x1b3d), (0x1b42, 0x1b43),
    (0x1b6b, 0x1b74), (0x1b80, 0x1b82), (0x1ba2, 0x1ba6), (0x1ba8, 0x1baa), (0x1bab, 0x1bae),
    (0x1be6, 0x1be7), (0x1be8, 0x1bea), (0x1bed, 0x1bee), (0x1bef, 0x1bf2), (0x1c2c, 0x1c34),
    (0x1c36, 0x1c38), (0x1c78, 0x1c7e), (0x1cd0, 0x1cd3), (0x1cd4, 0x1ce1), (0x1ce2, 0x1ce9),
    (0x1ced, 0x1cee), (0x1cf4, 0x1cf5), (0x1cf8, 0x1cfa), (0x1d2c, 0x1d6b), (0x1d78, 0x1d79),
    (0x1d9b, 0x1e00), (0x1fbd, 0x1fbe), (0x1fbf, 0x1fc2), (0x1fcd, 0x1fd0), (0x1fdd, 0x1fe0),
    (0x1fed, 0x1ff0), (0x1ffd, 0x1fff), (0x200b, 0x2010), (0x2018, 0x201a), (0x2024, 0x2025),
    (0x2027, 0x2028), (0x202a, 0x202f), (0x2060, 0x2065), (0x2066, 0x2070), (0x2071, 0x2072),
    (0x207f, 0x2080), (0x2090, 0x209d), (0x20d0, 0x20f1), (0x2c7c, 0x2c7e), (0x2cef, 0x2cf2),
    (0x2d6f, 0x2d70), (0x2d7f, 0x2d80), (0x2de0, 0x2e00), (0x2e2f, 0x2e30), (0x3005, 0x3006),
    (0x302a, 0x302e), (0x3031, 0x3036), (0x303b, 0x303c), (0x3099, 0x309f), (0x30fc, 0x30ff),
    (0xa015, 0xa016), (0xa4f8, 0xa4fe), (0xa60c, 0xa60d), (0xa66f, 0xa673), (0xa674, 0xa67e),
    (0xa67f, 0xa680), (0xa69c, 0xa6a0), (0xa6f0, 0xa6f2), (0xa700, 0xa722), (0xa770, 0xa771),
    (0xa788, 0xa78b), (0xa7f2, 0xa7f5), (0xa7f8, 0xa7fa), (0xa802, 0xa803), (0xa806, 0xa807),
    (0xa80b, 0xa80c), (0xa825, 0xa827), (0xa82c, 0xa82d), (0xa8c4, 0xa8c6), (0xa8e0, 0xa8f2),
    (0xa8ff, 0xa900), (0xa926, 0xa92e), (0xa947, 0xa952), (0xa980, 0xa983), (0xa9b3, 0xa9b4),
    (0xa9b6, 0xa9ba), (0xa9bc, 0xa9be), (0xa9cf, 0xa9d0), (0xa9e5, 0xa9e7), (0xaa29, 0xaa2f),
    (0xaa31, 0xaa33), (0xaa35, 0xaa37), (0xaa43, 0xaa44), (0xaa4c, 0xaa4d), (0xaa70, 0xaa71),
    (0xaa7c, 0xaa7d), (0xaab0, 0xaab1), (0xaab2, 0xaab5), (0xaab7, 0xaab9), (0xaabe, 0xaac0),
    (0xaac1, 0xaac2), (0xaadd, 0xaade), (0xaaec, 0xaaee), (0xaaf3, 0xaaf5), (0xaaf6, 0xaaf7),
    (0xab5b, 0xab60), (0xab69, 0xab6c), (0xabe5, 0xabe6), (0xabe8, 0xabe9), (0xabed, 0xabee),
    (0xfb1e, 0xfb1f), (0xfbb2, 0xfbc3), (0xfe00, 0xfe10), (0xfe13, 0xfe14), (0xfe20, 0xfe30),
    (0xfe52, 0xfe53), (0xfe55, 0xfe56), (0xfeff, 0xff00), (0xff07, 0xff08), (0xff0e, 0xff0f),
    (0xff1a, 0xff1b), (0xff3e, 0xff3f), (0xff40, 0xff41), (0xff70, 0xff71), (0xff9e, 0xffa0),
    (0xffe3, 0xffe4), (0xfff9, 0xfffc), (0x101fd, 0x101fe), (0x102e0, 0x102e1), (0x10376, 0x1037b),
    (0x10780, 0x10786), (0x10787, 0x107b1), (0x107b2, 0x107bb), (0x10a01, 0x10a04),
    (0x10a05, 0x10a07), (0x10a0c, 0x10a10), (0x10a38, 0x10a3b), (0x10a3f, 0x10a40),
    (0x10ae5, 0x10ae7), (0x10d24, 0x10d28), (0x10eab, 0x10ead), (0x10f46, 0x10f51),
    (0x10f82, 0x10f86), (0x11001, 0x11002), (0x11038, 0x11047), (0x11070, 0x11071),
    (0x11073, 0x11075), (0x1107f, 0x11082), (0x110b3, 0x110b7), (0x110b9, 0x110bb),
    (0x110bd, 0x110be), (0x110c2, 0x110c3), (0x110cd, 0x110ce), (0x11100, 0x11103),
    (0x11127, 0x1112c), (0x1112d, 0x11135), (0x11173, 0x11174), (0x11180, 0x11182),
    (0x111b6, 0x111bf), (0x111c9, 0x111cd), (0x111cf, 0x111d0), (0x1122f, 0x11232),
    (0x11234, 0x11235), (0x11236, 0x11238), (0x1123e, 0x1123f), (0x112df, 0x112e0),
    (0x112e3, 0x112eb), (0x11300, 0x11302), (0x1133b, 0x1133d), (0x11340, 0x11341),
    (0x11366, 0x1136d), (0x11370, 0x11375), (0x11438, 0x11440), (0x11442, 0x11445),
    (0x11446, 0x11447), (0x1145e, 0x1145f), (0x114b3, 0x114b9), (0x114ba, 0x114bb),
    (0x114bf, 0x114c1), (0x114c2, 0x114c4), (0x115b2, 0x115b6), (0x115bc, 0x115be),
    (0x115bf, 0x115c1), (0x115dc, 0x115de), (0x11633, 0x1163b), (0x1163d, 0x1163e),
    (0x1163f, 0x11641), (0x116ab, 0x116ac), (0x116ad, 0x116ae), (0x116b0, 0x116b6),
    (0x116b7, 0x116b8), (0x1171d, 0x11720), (0x11722, 0x11726), (0x11727, 0x1172c),
    (0x1182f, 0x11838), (0x11839, 0x1183b), (0x1193b, 0x1193d), (0x1193e, 0x1193f),
    (0x11943, 0x11944), (0x119d4, 0x119d8), (0x119da, 0x119dc), (0x119e0, 0x119e1),
    (0x11a01, 0x11a0b), (0x11a33, 0x11a39), (0x11a3b, 0x11a3f), (0x11a47, 0x11a48),
    (0x11a51, 0x11a57), (0x11a59, 0x11a5c), (0x11a8a, 0x11a97), (0x11a98, 0x11a9a),
    (0x11c30, 0x11c37), (0x11c38, 0x11c3e), (0x11c3f, 0x11c40), (0x11c92, 0x11ca8),
    (0x11caa, 0x11cb1), (0x11cb2, 0x11cb4), (0x11cb5, 0x11cb7), (0x11d31, 0x11d37),
    (0x11d3a, 0x11d3b), (0x11d3c, 0x11d3e), (0x11d3f, 0x11d46), (0x11d47, 0x11d48),
    (0x11d90, 0x11d92), (0x11d95, 0x11d96), (0x11d97, 0x11d98), (0x11ef3, 0x11ef5),
    (0x13430, 0x13439), (0x16af0, 0x16af5), (0x16b30, 0x16b37), (0x16b40, 0x16b44),
    (0x16f4f, 0x16f50), (0x16f8f, 0x16fa0), (0x16fe0, 0x16fe2), (0x16fe3, 0x16fe5),
    (0x1aff0, 0x1aff4), (0x1aff5, 0x1affc), (0x1affd, 0x1afff), (0x1bc9d, 0x1bc9f),
    (0x1bca0, 0x1bca4), (0x1cf00, 0x1cf2e), (0x1cf30, 0x1cf47), (0x1d167, 0x1d16a),
    (0x1d173, 0x1d183), (0x1d185, 0x1d18c), (0x1d1aa, 0x1d1ae), (0x1d242, 0x1d245),
    (0x1da00, 0x1da37), (0x1da3b, 0x1da6d), (0x1da75, 0x1da76), (0x1da84, 0x1da85),
    (0x1da9b, 0x1daa0), (0x1daa1, 0x1dab0), (0x1e000, 0x1e007), (0x1e008, 0x1e019),
    (0x1e01b, 0x1e022), (0x1e023, 0x1e025), (0x1e026, 0x1e02b), (0x1e130, 0x1e13e),
    (0x1e2ae, 0x1e2af), (0x1e2ec, 0x1e2f0), (0x1e8d0, 0x1e8d7), (0x1e944, 0x1e94c),
    (0x1f3fb, 0x1f400), (0xe0001, 0xe0002), (0xe0020, 0xe0080), (0xe0100, 0xe01f0)
  ]

end ResolverWatch.Text
