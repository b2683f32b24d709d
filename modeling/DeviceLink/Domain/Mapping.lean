import DeviceLink.Text.Graphic

/-!
# The characters of domain names

Names that look alike or differ only in case are one name, so a name is read
with each of its characters replaced by the text that stands for it: capital
letters by small ones, forms that exist for compatibility by what they are made
of.  Some characters are passed over, and some have no place in a name at all.
What is left over stands for itself.  The tables are those of Unicode 17.
-/

namespace DeviceLink.Domain

/-- A run of code points, all replaced by code points at one distance: every
`step`-th one from `first` to `last`, the first of them by `target`. -/
structure Run where
  first : Nat
  last : Nat
  step : Nat
  target : Nat

/-- The runs: capital letters first of all, and letters of other styles. -/
def runs : List Run :=
  [⟨0x41, 0x5a, 1, 0x61⟩, ⟨0xc0, 0xd6, 1, 0xe0⟩, ⟨0xd8, 0xde, 1, 0xf8⟩, ⟨0x100, 0x12e, 2, 0x101⟩,
   ⟨0x139, 0x13d, 2, 0x13a⟩, ⟨0x141, 0x147, 2, 0x142⟩, ⟨0x14a, 0x176, 2, 0x14b⟩,
   ⟨0x179, 0x17d, 2, 0x17a⟩, ⟨0x1a0, 0x1a4, 2, 0x1a1⟩, ⟨0x1cd, 0x1db, 2, 0x1ce⟩,
   ⟨0x1de, 0x1ee, 2, 0x1df⟩, ⟨0x1f8, 0x21e, 2, 0x1f9⟩, ⟨0x222, 0x232, 2, 0x223⟩,
   ⟨0x246, 0x24e, 2, 0x247⟩, ⟨0x388, 0x38a, 1, 0x3ad⟩, ⟨0x391, 0x3a1, 1, 0x3b1⟩,
   ⟨0x3a3, 0x3ab, 1, 0x3c3⟩, ⟨0x3d8, 0x3ee, 2, 0x3d9⟩, ⟨0x3fd, 0x3ff, 1, 0x37b⟩,
   ⟨0x400, 0x40f, 1, 0x450⟩, ⟨0x410, 0x42f, 1, 0x430⟩, ⟨0x460, 0x480, 2, 0x461⟩,
   ⟨0x48a, 0x4be, 2, 0x48b⟩, ⟨0x4c1, 0x4cd, 2, 0x4c2⟩, ⟨0x4d0, 0x52e, 2, 0x4d1⟩,
   ⟨0x531, 0x556, 1, 0x561⟩, ⟨0x10a0, 0x10c5, 1, 0x2d00⟩, ⟨0x13f8, 0x13fd, 1, 0x13f0⟩,
   ⟨0x1c90, 0x1cba, 1, 0x10d0⟩, ⟨0x1cbd, 0x1cbf, 1, 0x10fd⟩, ⟨0x1d33, 0x1d3a, 1, 0x67⟩,
   ⟨0x1d5d, 0x1d5f, 1, 0x3b2⟩, ⟨0x1da4, 0x1da6, 1, 0x268⟩, ⟨0x1dae, 0x1db1, 1, 0x272⟩,
   ⟨0x1dbc, 0x1dbe, 1, 0x290⟩, ⟨0x1e00, 0x1e94, 2, 0x1e01⟩, ⟨0x1ea0, 0x1efe, 2, 0x1ea1⟩,
   ⟨0x1f08, 0x1f0f, 1, 0x1f00⟩, ⟨0x1f18, 0x1f1d, 1, 0x1f10⟩, ⟨0x1f28, 0x1f2f, 1, 0x1f20⟩,
   ⟨0x1f38, 0x1f3f, 1, 0x1f30⟩, ⟨0x1f48, 0x1f4d, 1, 0x1f40⟩, ⟨0x1f59, 0x1f5f, 2, 0x1f51⟩,
   ⟨0x1f68, 0x1f6f, 1, 0x1f60⟩, ⟨0x2074, 0x2079, 1, 0x34⟩, ⟨0x2080, 0x2089, 1, 0x30⟩,
   ⟨0x2096, 0x2099, 1, 0x6b⟩, ⟨0x2119, 0x211b, 1, 0x70⟩, ⟨0x2135, 0x2138, 1, 0x5d0⟩,
   ⟨0x2460, 0x2468, 1, 0x31⟩, ⟨0x24b6, 0x24cf, 1, 0x61⟩, ⟨0x24d0, 0x24e9, 1, 0x61⟩,
   ⟨0x2c00, 0x2c2f, 1, 0x2c30⟩, ⟨0x2c67, 0x2c6b, 2, 0x2c68⟩, ⟨0x2c80, 0x2ce2, 2, 0x2c81⟩,
   ⟨0x3137, 0x3139, 1, 0x1103⟩, ⟨0x313a, 0x313f, 1, 0x11b0⟩, ⟨0x3141, 0x3143, 1, 0x1106⟩,
   ⟨0x3145, 0x314e, 1, 0x1109⟩, ⟨0x314f, 0x3163, 1, 0x1161⟩, ⟨0x3178, 0x317c, 1, 0x112b⟩,
   ⟨0x3184, 0x3186, 1, 0x1157⟩, ⟨0x3263, 0x3265, 1, 0x1105⟩, ⟨0x3269, 0x326d, 1, 0x110e⟩,
   ⟨0x32e4, 0x32e9, 1, 0x30ca⟩, ⟨0x32ee, 0x32f2, 1, 0x30de⟩, ⟨0x32f5, 0x32fa, 1, 0x30e8⟩,
   ⟨0x32fb, 0x32fe, 1, 0x30ef⟩, ⟨0xa640, 0xa66c, 2, 0xa641⟩, ⟨0xa680, 0xa69a, 2, 0xa681⟩,
   ⟨0xa722, 0xa72e, 2, 0xa723⟩, ⟨0xa732, 0xa76e, 2, 0xa733⟩, ⟨0xa77e, 0xa786, 2, 0xa77f⟩,
   ⟨0xa796, 0xa7a8, 2, 0xa797⟩, ⟨0xa7b4, 0xa7c2, 2, 0xa7b5⟩, ⟨0xa7cc, 0xa7da, 2, 0xa7cd⟩,
   ⟨0xab70, 0xabbf, 1, 0x13a0⟩, ⟨0xfb24, 0xfb26, 1, 0x5db⟩, ⟨0xfe41, 0xfe44, 1, 0x300c⟩,
   ⟨0xff01, 0xff20, 1, 0x21⟩, ⟨0xff21, 0xff3a, 1, 0x61⟩, ⟨0xff3b, 0xff5e, 1, 0x5b⟩,
   ⟨0xff85, 0xff8a, 1, 0x30ca⟩, ⟨0xff8f, 0xff93, 1, 0x30de⟩, ⟨0xff96, 0xff9b, 1, 0x30e8⟩,
   ⟨0xffa7, 0xffa9, 1, 0x1103⟩, ⟨0xffaa, 0xffaf, 1, 0x11b0⟩, ⟨0xffb1, 0xffb3, 1, 0x1106⟩,
   ⟨0xffb5, 0xffbe, 1, 0x1109⟩, ⟨0xffc2, 0xffc7, 1, 0x1161⟩, ⟨0xffca, 0xffcf, 1, 0x1167⟩,
   ⟨0xffd2, 0xffd7, 1, 0x116d⟩, ⟨0xffda, 0xffdc, 1, 0x1173⟩, ⟨0xffe9, 0xffec, 1, 0x2190⟩,
   ⟨0x10400, 0x10427, 1, 0x10428⟩, ⟨0x104b0, 0x104d3, 1, 0x104d8⟩, ⟨0x10570, 0x1057a, 1, 0x10597⟩,
   ⟨0x1057c, 0x1058a, 1, 0x105a3⟩, ⟨0x1058c, 0x10592, 1, 0x105b3⟩, ⟨0x107b6, 0x107b8, 1, 0x1c0⟩,
   ⟨0x10c80, 0x10cb2, 1, 0x10cc0⟩, ⟨0x10d50, 0x10d65, 1, 0x10d70⟩, ⟨0x118a0, 0x118bf, 1, 0x118c0⟩,
   ⟨0x16e40, 0x16e5f, 1, 0x16e60⟩, ⟨0x16ea0, 0x16eb8, 1, 0x16ebb⟩, ⟨0x1ccd6, 0x1ccef, 1, 0x61⟩,
   ⟨0x1ccf0, 0x1ccf9, 1, 0x30⟩, ⟨0x1d400, 0x1d419, 1, 0x61⟩, ⟨0x1d41a, 0x1d433, 1, 0x61⟩,
   ⟨0x1d434, 0x1d44d, 1, 0x61⟩, ⟨0x1d44e, 0x1d454, 1, 0x61⟩, ⟨0x1d456, 0x1d467, 1, 0x69⟩,
   ⟨0x1d468, 0x1d481, 1, 0x61⟩, ⟨0x1d482, 0x1d49b, 1, 0x61⟩, ⟨0x1d4a9, 0x1d4ac, 1, 0x6e⟩,
   ⟨0x1d4ae, 0x1d4b5, 1, 0x73⟩, ⟨0x1d4b6, 0x1d4b9, 1, 0x61⟩, ⟨0x1d4bd, 0x1d4c3, 1, 0x68⟩,
   ⟨0x1d4c5, 0x1d4cf, 1, 0x70⟩, ⟨0x1d4d0, 0x1d4e9, 1, 0x61⟩, ⟨0x1d4ea, 0x1d503, 1, 0x61⟩,
   ⟨0x1d507, 0x1d50a, 1, 0x64⟩, ⟨0x1d50d, 0x1d514, 1, 0x6a⟩, ⟨0x1d516, 0x1d51c, 1, 0x73⟩,
   ⟨0x1d51e, 0x1d537, 1, 0x61⟩, ⟨0x1d53b, 0x1d53e, 1, 0x64⟩, ⟨0x1d540, 0x1d544, 1, 0x69⟩,
   ⟨0x1d54a, 0x1d550, 1, 0x73⟩, ⟨0x1d552, 0x1d56b, 1, 0x61⟩, ⟨0x1d56c, 0x1d585, 1, 0x61⟩,
   ⟨0x1d586, 0x1d59f, 1, 0x61⟩, ⟨0x1d5a0, 0x1d5b9, 1, 0x61⟩, ⟨0x1d5ba, 0x1d5d3, 1, 0x61⟩,
   ⟨0x1d5d4, 0x1d5ed, 1, 0x61⟩, ⟨0x1d5ee, 0x1d607, 1, 0x61⟩, ⟨0x1d608, 0x1d621, 1, 0x61⟩,
   ⟨0x1d622, 0x1d63b, 1, 0x61⟩, ⟨0x1d63c, 0x1d655, 1, 0x61⟩, ⟨0x1d656, 0x1d66f, 1, 0x61⟩,
   ⟨0x1d670, 0x1d689, 1, 0x61⟩, ⟨0x1d68a, 0x1d6a3, 1, 0x61⟩, ⟨0x1d6a8, 0x1d6b8, 1, 0x3b1⟩,
   ⟨0x1d6ba, 0x1d6c0, 1, 0x3c3⟩, ⟨0x1d6c2, 0x1d6d2, 1, 0x3b1⟩, ⟨0x1d6d4, 0x1d6da, 1, 0x3c3⟩,
   ⟨0x1d6e2, 0x1d6f2, 1, 0x3b1⟩, ⟨0x1d6f4, 0x1d6fa, 1, 0x3c3⟩, ⟨0x1d6fc, 0x1d70c, 1, 0x3b1⟩,
   ⟨0x1d70e, 0x1d714, 1, 0x3c3⟩, ⟨0x1d71c, 0x1d72c, 1, 0x3b1⟩, ⟨0x1d72e, 0x1d734, 1, 0x3c3⟩,
   ⟨0x1d736, 0x1d746, 1, 0x3b1⟩, ⟨0x1d748, 0x1d74e, 1, 0x3c3⟩, ⟨0x1d756, 0x1d766, 1, 0x3b1⟩,
   ⟨0x1d768, 0x1d76e, 1, 0x3c3⟩, ⟨0x1d770, 0x1d780, 1, 0x3b1⟩, ⟨0x1d782, 0x1d788, 1, 0x3c3⟩,
   ⟨0x1d790, 0x1d7a0, 1, 0x3b1⟩, ⟨0x1d7a2, 0x1d7a8, 1, 0x3c3⟩, ⟨0x1d7aa, 0x1d7ba, 1, 0x3b1⟩,
   ⟨0x1d7bc, 0x1d7c2, 1, 0x3c3⟩, ⟨0x1d7ce, 0x1d7d7, 1, 0x30⟩, ⟨0x1d7d8, 0x1d7e1, 1, 0x30⟩,
   ⟨0x1d7e2, 0x1d7eb, 1, 0x30⟩, ⟨0x1d7ec, 0x1d7f5, 1, 0x30⟩, ⟨0x1d7f6, 0x1d7ff, 1, 0x30⟩,
   ⟨0x1e030, 0x1e038, 1, 0x430⟩, ⟨0x1e039, 0x1e03b, 1, 0x43a⟩, ⟨0x1e03c, 0x1e046, 1, 0x43e⟩,
   ⟨0x1e051, 0x1e059, 1, 0x430⟩, ⟨0x1e05f, 0x1e064, 1, 0x443⟩, ⟨0x1e900, 0x1e921, 1, 0x1e922⟩,
   ⟨0x1ee0a, 0x1ee0d, 1, 0x643⟩, ⟨0x1ee2a, 0x1ee2d, 1, 0x643⟩, ⟨0x1ee8b, 0x1ee8d, 1, 0x644⟩,
   ⟨0x1eeab, 0x1eead, 1, 0x644⟩, ⟨0x1f130, 0x1f149, 1, 0x61⟩, ⟨0x1fbf0, 0x1fbf9, 1, 0x30⟩]

/-- Letters and signs that are replaced by one other: the first of some that follow
each other, and their replacements. -/
def letterBlocks : List (Nat × List Nat) :=
  [(0xa0, [0x20]), (0xaa, [0x61]), (0xb2, [0x32, 0x33]), (0xb5, [0x3bc]), (0xb9, [0x31, 0x6f]),
   (0x134, [0x135]), (0x136, [0x137]), (0x178, [0xff]), (0x17f, [0x73]), (0x181, [0x253, 0x183]),
   (0x184, [0x185]), (0x186, [0x254, 0x188]), (0x189, [0x256, 0x257, 0x18c]), (0x18e, [0x1dd,
   0x259, 0x25b, 0x192]), (0x193, [0x260, 0x263]), (0x196, [0x269, 0x268, 0x199]), (0x19c, [0x26f,
   0x272]), (0x19f, [0x275]), (0x1a6, [0x280, 0x1a8]), (0x1a9, [0x283]), (0x1ac, [0x1ad]),
   (0x1ae, [0x288, 0x1b0]), (0x1b1, [0x28a, 0x28b, 0x1b4]), (0x1b5, [0x1b6]), (0x1b7, [0x292,
   0x1b9]), (0x1bc, [0x1bd]), (0x1f4, [0x1f5]), (0x1f6, [0x195, 0x1bf]), (0x220, [0x19e]),
   (0x23a, [0x2c65, 0x23c]), (0x23d, [0x19a, 0x2c66]), (0x241, [0x242]), (0x243, [0x180, 0x289,
   0x28c]), (0x2b0, [0x68, 0x266, 0x6a, 0x72, 0x279, 0x27b, 0x281, 0x77, 0x79]), (0x2e0, [0x263,
   0x6c, 0x73, 0x78, 0x295]), (0x340, [0x300, 0x301]), (0x343, [0x313]), (0x345, [0x3b9]),
   (0x370, [0x371]), (0x372, [0x373]), (0x374, [0x2b9]), (0x376, [0x377]), (0x37e, [0x3b, 0x3f3]),
   (0x386, [0x3ac, 0xb7]), (0x38c, [0x3cc]), (0x38e, [0x3cd, 0x3ce]), (0x3cf, [0x3d7, 0x3b2,
   0x3b8, 0x3c5, 0x3cd, 0x3cb, 0x3c6, 0x3c0]), (0x3f0, [0x3ba, 0x3c1, 0x3c3]), (0x3f4, [0x3b8,
   0x3b5]), (0x3f7, [0x3f8]), (0x3f9, [0x3c3, 0x3fb]), (0x4c0, [0x4cf]), (0xf0c, [0xf0b]),
   (0x10c7, [0x2d27]), (0x10cd, [0x2d2d]), (0x10fc, [0x10dc]), (0x1c80, [0x432, 0x434, 0x43e,
   0x441, 0x442, 0x442, 0x44a, 0x463, 0xa64b, 0x1c8a]), (0x1d2c, [0x61, 0xe6, 0x62]),
   (0x1d30, [0x64, 0x65, 0x1dd]), (0x1d3c, [0x6f, 0x223, 0x70, 0x72, 0x74, 0x75, 0x77, 0x61,
   0x250, 0x251, 0x1d02, 0x62, 0x64, 0x65, 0x259, 0x25b, 0x25c, 0x67]), (0x1d4f, [0x6b, 0x6d,
   0x14b, 0x6f, 0x254, 0x1d16, 0x1d17, 0x70, 0x74, 0x75, 0x1d1d, 0x26f, 0x76, 0x1d25]),
   (0x1d60, [0x3c6, 0x3c7, 0x69, 0x72, 0x75, 0x76, 0x3b2, 0x3b3, 0x3c1, 0x3c6, 0x3c7]),
   (0x1d78, [0x43d]), (0x1d9b, [0x252, 0x63, 0x255, 0xf0, 0x25c, 0x66, 0x25f, 0x261, 0x265]),
   (0x1da7, [0x1d7b, 0x29d, 0x26d, 0x1d85, 0x29f, 0x271, 0x270]), (0x1db2, [0x278, 0x282, 0x283,
   0x1ab, 0x289, 0x28a, 0x1d1c, 0x28b, 0x28c, 0x7a]), (0x1dbf, [0x3b8]), (0x1e9b, [0x1e61]),
   (0x1e9e, [0xdf]), (0x1f71, [0x3ac]), (0x1f73, [0x3ad]), (0x1f75, [0x3ae]), (0x1f77, [0x3af]),
   (0x1f79, [0x3cc]), (0x1f7b, [0x3cd]), (0x1f7d, [0x3ce]), (0x1fb8, [0x1fb0, 0x1fb1, 0x1f70,
   0x3ac]), (0x1fbe, [0x3b9]), (0x1fc8, [0x1f72, 0x3ad, 0x1f74, 0x3ae]), (0x1fd3, [0x390]),
   (0x1fd8, [0x1fd0, 0x1fd1, 0x1f76, 0x3af]), (0x1fe3, [0x3b0]), (0x1fe8, [0x1fe0, 0x1fe1, 0x1f7a,
   0x3cd, 0x1fe5]), (0x1fef, [0x60]), (0x1ff8, [0x1f78, 0x3cc, 0x1f7c, 0x3ce]), (0x2000, [0x20,
   0x20, 0x20, 0x20, 0x20, 0x20, 0x20, 0x20, 0x20, 0x20, 0x20]), (0x2011, [0x2010]),
   (0x202f, [0x20]), (0x205f, [0x20]), (0x2070, [0x30, 0x69]), (0x207a, [0x2b, 0x2212, 0x3d, 0x28,
   0x29, 0x6e]), (0x208a, [0x2b, 0x2212, 0x3d, 0x28, 0x29]), (0x2090, [0x61, 0x65, 0x6f, 0x78,
   0x259, 0x68]), (0x209a, [0x70, 0x73, 0x74]), (0x2102, [0x63]), (0x2107, [0x25b]),
   (0x210a, [0x67, 0x68, 0x68, 0x68, 0x68, 0x127, 0x69, 0x69, 0x6c, 0x6c]), (0x2115, [0x6e]),
   (0x211c, [0x72, 0x72]), (0x2124, [0x7a]), (0x2126, [0x3c9]), (0x2128, [0x7a]), (0x212a, [0x6b,
   0xe5, 0x62, 0x63]), (0x212f, [0x65, 0x65, 0x66, 0x214e, 0x6d, 0x6f]), (0x2139, [0x69]),
   (0x213c, [0x3c0, 0x3b3, 0x3b3, 0x3c0, 0x2211]), (0x2145, [0x64, 0x64, 0x65, 0x69, 0x6a]),
   (0x2160, [0x69]), (0x2164, [0x76]), (0x2169, [0x78]), (0x216c, [0x6c, 0x63, 0x64, 0x6d, 0x69]),
   (0x2174, [0x76]), (0x2179, [0x78]), (0x217c, [0x6c, 0x63, 0x64, 0x6d]), (0x2183, [0x2184]),
   (0x2329, [0x3008, 0x3009]), (0x24ea, [0x30]), (0x2c60, [0x2c61]), (0x2c62, [0x26b, 0x1d7d,
   0x27d]), (0x2c6d, [0x251, 0x271, 0x250, 0x252]), (0x2c72, [0x2c73]), (0x2c75, [0x2c76]),
   (0x2c7c, [0x6a, 0x76, 0x23f, 0x240]), (0x2ceb, [0x2cec]), (0x2ced, [0x2cee]),
   (0x2cf2, [0x2cf3]), (0x2d6f, [0x2d61]), (0x3000, [0x20]), (0x3002, [0x2e]), (0x3036, [0x3012]),
   (0x3038, [0x5341, 0x5344, 0x5345]), (0x3131, [0x1100, 0x1101, 0x11aa, 0x1102, 0x11ac, 0x11ad]),
   (0x3140, [0x111a]), (0x3144, [0x1121]), (0x3165, [0x1114, 0x1115, 0x11c7, 0x11c8, 0x11cc,
   0x11ce, 0x11d3, 0x11d7, 0x11d9, 0x111c, 0x11dd, 0x11df, 0x111d, 0x111e, 0x1120, 0x1122, 0x1123,
   0x1127, 0x1129]), (0x317d, [0x1132, 0x1136, 0x1140, 0x1147, 0x114c, 0x11f1, 0x11f2]),
   (0x3187, [0x1184, 0x1185, 0x1188, 0x1191, 0x1192, 0x1194, 0x119e, 0x11a1]), (0x3192, [0x4e00,
   0x4e8c, 0x4e09, 0x56db, 0x4e0a, 0x4e2d, 0x4e0b, 0x7532, 0x4e59, 0x4e19, 0x4e01, 0x5929, 0x5730,
   0x4eba]), (0x3244, [0x554f, 0x5e7c, 0x6587, 0x7b8f]), (0x3260, [0x1100, 0x1102, 0x1103]),
   (0x3266, [0x1109, 0x110b, 0x110c]), (0x326e, [0xac00, 0xb098, 0xb2e4, 0xb77c, 0xb9c8, 0xbc14,
   0xc0ac, 0xc544, 0xc790, 0xcc28, 0xce74, 0xd0c0, 0xd30c, 0xd558]), (0x327e, [0xc6b0]),
   (0x3280, [0x4e00, 0x4e8c, 0x4e09, 0x56db, 0x4e94, 0x516d, 0x4e03, 0x516b, 0x4e5d, 0x5341,
   0x6708, 0x706b, 0x6c34, 0x6728, 0x91d1, 0x571f, 0x65e5, 0x682a, 0x6709, 0x793e, 0x540d, 0x7279,
   0x8ca1, 0x795d, 0x52b4, 0x79d8, 0x7537, 0x5973, 0x9069, 0x512a, 0x5370, 0x6ce8, 0x9805, 0x4f11,
   0x5199, 0x6b63, 0x4e0a, 0x4e2d, 0x4e0b, 0x5de6, 0x53f3, 0x533b, 0x5b97, 0x5b66, 0x76e3, 0x4f01,
   0x8cc7, 0x5354, 0x591c]), (0x32d0, [0x30a2, 0x30a4, 0x30a6, 0x30a8, 0x30aa, 0x30ab, 0x30ad,
   0x30af, 0x30b1, 0x30b3, 0x30b5, 0x30b7, 0x30b9, 0x30bb, 0x30bd, 0x30bf, 0x30c1, 0x30c4, 0x30c6,
   0x30c8]), (0x32ea, [0x30d2, 0x30d5, 0x30d8, 0x30db]), (0x32f3, [0x30e4, 0x30e6]),
   (0xa69c, [0x44a, 0x44c]), (0xa770, [0xa76f]), (0xa779, [0xa77a]), (0xa77b, [0xa77c]),
   (0xa77d, [0x1d79]), (0xa78b, [0xa78c]), (0xa78d, [0x265]), (0xa790, [0xa791]),
   (0xa792, [0xa793]), (0xa7aa, [0x266, 0x25c, 0x261, 0x26c, 0x26a]), (0xa7b0, [0x29e, 0x287,
   0x29d, 0xab53]), (0xa7c4, [0xa794, 0x282, 0x1d8e, 0xa7c8]), (0xa7c9, [0xa7ca]),
   (0xa7cb, [0x264]), (0xa7dc, [0x19b]), (0xa7f1, [0x73, 0x63, 0x66, 0x71, 0xa7f6]),
   (0xa7f8, [0x127, 0x153]), (0xab5c, [0xa727, 0xab37, 0x26b, 0xab52]), (0xab69, [0x28d]),
   (0xfb20, [0x5e2, 0x5d0, 0x5d3, 0x5d4]), (0xfb27, [0x5e8, 0x5ea, 0x2b]), (0xfb50, [0x671, 0x671,
   0x67b, 0x67b, 0x67b, 0x67b, 0x67e, 0x67e, 0x67e, 0x67e, 0x680, 0x680, 0x680, 0x680, 0x67a,
   0x67a, 0x67a, 0x67a, 0x67f, 0x67f, 0x67f, 0x67f, 0x679, 0x679, 0x679, 0x679, 0x6a4, 0x6a4,
   0x6a4, 0x6a4, 0x6a6, 0x6a6, 0x6a6, 0x6a6, 0x684, 0x684, 0x684, 0x684, 0x683, 0x683, 0x683,
   0x683, 0x686, 0x686, 0x686, 0x686, 0x687, 0x687, 0x687, 0x687, 0x68d, 0x68d, 0x68c, 0x68c,
   0x68e, 0x68e, 0x688, 0x688, 0x698, 0x698, 0x691, 0x691, 0x6a9, 0x6a9, 0x6a9, 0x6a9, 0x6af,
   0x6af, 0x6af, 0x6af, 0x6b3, 0x6b3, 0x6b3, 0x6b3, 0x6b1, 0x6b1, 0x6b1, 0x6b1, 0x6ba, 0x6ba,
   0x6bb, 0x6bb, 0x6bb, 0x6bb, 0x6c0, 0x6c0, 0x6c1, 0x6c1, 0x6c1, 0x6c1, 0x6be, 0x6be, 0x6be,
   0x6be, 0x6d2, 0x6d2, 0x6d3, 0x6d3]), (0xfbd3, [0x6ad, 0x6ad, 0x6ad, 0x6ad, 0x6c7, 0x6c7, 0x6c6,
   0x6c6, 0x6c8, 0x6c8]), (0xfbde, [0x6cb, 0x6cb, 0x6c5, 0x6c5, 0x6c9, 0x6c9, 0x6d0, 0x6d0, 0x6d0,
   0x6d0, 0x649, 0x649]), (0xfbfc, [0x6cc, 0x6cc, 0x6cc, 0x6cc]), (0xfe10, [0x2c, 0x3001]),
   (0xfe13, [0x3a, 0x3b, 0x21, 0x3f, 0x3016, 0x3017]), (0xfe31, [0x2014, 0x2013, 0x5f, 0x5f, 0x28,
   0x29, 0x7b, 0x7d, 0x3014, 0x3015, 0x3010, 0x3011, 0x300a, 0x300b, 0x3008, 0x3009]),
   (0xfe47, [0x5b, 0x5d]), (0xfe4d, [0x5f, 0x5f, 0x5f, 0x2c, 0x3001]), (0xfe54, [0x3b, 0x3a, 0x3f,
   0x21, 0x2014, 0x28, 0x29, 0x7b, 0x7d, 0x3014, 0x3015, 0x23, 0x26, 0x2a, 0x2b, 0x2d, 0x3c, 0x3e,
   0x3d]), (0xfe68, [0x5c, 0x24, 0x25, 0x40]), (0xfe80, [0x621, 0x622, 0x622, 0x623, 0x623, 0x624,
   0x624, 0x625, 0x625, 0x626, 0x626, 0x626, 0x626, 0x627, 0x627, 0x628, 0x628, 0x628, 0x628,
   0x629, 0x629, 0x62a, 0x62a, 0x62a, 0x62a, 0x62b, 0x62b, 0x62b, 0x62b, 0x62c, 0x62c, 0x62c,
   0x62c, 0x62d, 0x62d, 0x62d, 0x62d, 0x62e, 0x62e, 0x62e, 0x62e, 0x62f, 0x62f, 0x630, 0x630,
   0x631, 0x631, 0x632, 0x632, 0x633, 0x633, 0x633, 0x633, 0x634, 0x634, 0x634, 0x634, 0x635,
   0x635, 0x635, 0x635, 0x636, 0x636, 0x636, 0x636, 0x637, 0x637, 0x637, 0x637, 0x638, 0x638,
   0x638, 0x638, 0x639, 0x639, 0x639, 0x639, 0x63a, 0x63a, 0x63a, 0x63a, 0x641, 0x641, 0x641,
   0x641, 0x642, 0x642, 0x642, 0x642, 0x643, 0x643, 0x643, 0x643, 0x644, 0x644, 0x644, 0x644,
   0x645, 0x645, 0x645, 0x645, 0x646, 0x646, 0x646, 0x646, 0x647, 0x647, 0x647, 0x647, 0x648,
   0x648, 0x649, 0x649, 0x64a, 0x64a, 0x64a, 0x64a]), (0xff5f, [0x2985, 0x2986, 0x2e, 0x300c,
   0x300d, 0x3001, 0x30fb, 0x30f2, 0x30a1, 0x30a3, 0x30a5, 0x30a7, 0x30a9, 0x30e3, 0x30e5, 0x30e7,
   0x30c3, 0x30fc, 0x30a2, 0x30a4, 0x30a6, 0x30a8, 0x30aa, 0x30ab, 0x30ad, 0x30af, 0x30b1, 0x30b3,
   0x30b5, 0x30b7, 0x30b9, 0x30bb, 0x30bd, 0x30bf, 0x30c1, 0x30c4, 0x30c6, 0x30c8]),
   (0xff8b, [0x30d2, 0x30d5, 0x30d8, 0x30db]), (0xff94, [0x30e4, 0x30e6]), (0xff9c, [0x30ef,
   0x30f3, 0x3099, 0x309a]), (0xffa1, [0x1100, 0x1101, 0x11aa, 0x1102, 0x11ac, 0x11ad]),
   (0xffb0, [0x111a]), (0xffb4, [0x1121]), (0xffe0, [0xa2, 0xa3, 0xac]), (0xffe4, [0xa6, 0xa5,
   0x20a9]), (0xffe8, [0x2502]), (0xffed, [0x25a0, 0x25cb]), (0x10594, [0x105bb, 0x105bc]),
   (0x10781, [0x2d0, 0x2d1, 0xe6, 0x299, 0x253]), (0x10787, [0x2a3, 0xab66, 0x2a5, 0x2a4, 0x256,
   0x257, 0x1d91, 0x258, 0x25e, 0x2a9, 0x264, 0x262, 0x260, 0x29b, 0x127, 0x29c, 0x267, 0x284,
   0x2aa, 0x2ab, 0x26c, 0x1df04, 0xa78e, 0x26e, 0x1df05, 0x28e, 0x1df06, 0xf8, 0x276, 0x277, 0x71,
   0x27a, 0x1df08, 0x27d, 0x27e, 0x280, 0x2a8, 0x2a6, 0xab67, 0x2a7, 0x288, 0x2c71]),
   (0x107b2, [0x28f, 0x2a1, 0x2a2, 0x298]), (0x107b9, [0x1df0a, 0x1df1e]), (0x1d49c, [0x61]),
   (0x1d49e, [0x63, 0x64]), (0x1d4a2, [0x67]), (0x1d4a5, [0x6a, 0x6b]), (0x1d4bb, [0x66]),
   (0x1d504, [0x61, 0x62]), (0x1d538, [0x61, 0x62]), (0x1d546, [0x6f]), (0x1d6a4, [0x131, 0x237]),
   (0x1d6b9, [0x3b8]), (0x1d6c1, [0x2207]), (0x1d6d3, [0x3c3]), (0x1d6db, [0x2202, 0x3b5, 0x3b8,
   0x3ba, 0x3c6, 0x3c1, 0x3c0]), (0x1d6f3, [0x3b8]), (0x1d6fb, [0x2207]), (0x1d70d, [0x3c3]),
   (0x1d715, [0x2202, 0x3b5, 0x3b8, 0x3ba, 0x3c6, 0x3c1, 0x3c0]), (0x1d72d, [0x3b8]),
   (0x1d735, [0x2207]), (0x1d747, [0x3c3]), (0x1d74f, [0x2202, 0x3b5, 0x3b8, 0x3ba, 0x3c6, 0x3c1,
   0x3c0]), (0x1d767, [0x3b8]), (0x1d76f, [0x2207]), (0x1d781, [0x3c3]), (0x1d789, [0x2202, 0x3b5,
   0x3b8, 0x3ba, 0x3c6, 0x3c1, 0x3c0]), (0x1d7a1, [0x3b8]), (0x1d7a9, [0x2207]),
   (0x1d7bb, [0x3c3]), (0x1d7c3, [0x2202, 0x3b5, 0x3b8, 0x3ba, 0x3c6, 0x3c1, 0x3c0, 0x3dd,
   0x3dd]), (0x1e047, [0x44b, 0x44d, 0x44e, 0xa689, 0x4d9, 0x456, 0x458, 0x4e9, 0x4af, 0x4cf]),
   (0x1e05a, [0x43a, 0x43b, 0x43e, 0x43f, 0x441]), (0x1e065, [0x44a, 0x44b, 0x491, 0x456, 0x455,
   0x45f, 0x4ab, 0xa651, 0x4b1]), (0x1ee00, [0x627, 0x628, 0x62c, 0x62f]), (0x1ee05, [0x648,
   0x632, 0x62d, 0x637, 0x64a]), (0x1ee0e, [0x633, 0x639, 0x641, 0x635, 0x642, 0x631, 0x634,
   0x62a, 0x62b, 0x62e, 0x630, 0x636, 0x638, 0x63a, 0x66e, 0x6ba, 0x6a1, 0x66f]),
   (0x1ee21, [0x628, 0x62c]), (0x1ee24, [0x647]), (0x1ee27, [0x62d]), (0x1ee29, [0x64a]),
   (0x1ee2e, [0x633, 0x639, 0x641, 0x635, 0x642]), (0x1ee34, [0x634, 0x62a, 0x62b, 0x62e]),
   (0x1ee39, [0x636]), (0x1ee3b, [0x63a]), (0x1ee42, [0x62c]), (0x1ee47, [0x62d]),
   (0x1ee49, [0x64a]), (0x1ee4b, [0x644]), (0x1ee4d, [0x646, 0x633, 0x639]), (0x1ee51, [0x635,
   0x642]), (0x1ee54, [0x634]), (0x1ee57, [0x62e]), (0x1ee59, [0x636]), (0x1ee5b, [0x63a]),
   (0x1ee5d, [0x6ba]), (0x1ee5f, [0x66f]), (0x1ee61, [0x628, 0x62c]), (0x1ee64, [0x647]),
   (0x1ee67, [0x62d, 0x637, 0x64a, 0x643]), (0x1ee6c, [0x645, 0x646, 0x633, 0x639, 0x641, 0x635,
   0x642]), (0x1ee74, [0x634, 0x62a, 0x62b, 0x62e]), (0x1ee79, [0x636, 0x638, 0x63a, 0x66e]),
   (0x1ee7e, [0x6a1]), (0x1ee80, [0x627, 0x628, 0x62c, 0x62f, 0x647, 0x648, 0x632, 0x62d, 0x637,
   0x64a]), (0x1ee8e, [0x633, 0x639, 0x641, 0x635, 0x642, 0x631, 0x634, 0x62a, 0x62b, 0x62e,
   0x630, 0x636, 0x638, 0x63a]), (0x1eea1, [0x628, 0x62c, 0x62f]), (0x1eea5, [0x648, 0x632, 0x62d,
   0x637, 0x64a]), (0x1eeae, [0x633, 0x639, 0x641, 0x635, 0x642, 0x631, 0x634, 0x62a, 0x62b,
   0x62e, 0x630, 0x636, 0x638, 0x63a]), (0x1f12b, [0x63, 0x72]), (0x1f202, [0x30b5]),
   (0x1f210, [0x624b, 0x5b57, 0x53cc, 0x30c7, 0x4e8c, 0x591a, 0x89e3, 0x5929, 0x4ea4, 0x6620,
   0x7121, 0x6599, 0x524d, 0x5f8c, 0x518d, 0x65b0, 0x521d, 0x7d42, 0x751f, 0x8ca9, 0x58f0, 0x5439,
   0x6f14, 0x6295, 0x6355, 0x4e00, 0x4e09, 0x904a, 0x5de6, 0x4e2d, 0x53f3, 0x6307, 0x8d70, 0x6253,
   0x7981, 0x7a7a, 0x5408, 0x6e80, 0x6709, 0x6708, 0x7533, 0x5272, 0x55b6, 0x914d]),
   (0x1f250, [0x5f97, 0x53ef])]

/-- Ideographs and radicals that are replaced by one ideograph, listed in the same way. -/
def ideographBlocks : List (Nat × List Nat) :=
  [(0x2e9f, [0x6bcd]), (0x2ef3, [0x9f9f]), (0x2f00, [0x4e00, 0x4e28, 0x4e36, 0x4e3f, 0x4e59,
   0x4e85, 0x4e8c, 0x4ea0, 0x4eba, 0x513f, 0x5165, 0x516b, 0x5182, 0x5196, 0x51ab, 0x51e0, 0x51f5,
   0x5200, 0x529b, 0x52f9, 0x5315, 0x531a, 0x5338, 0x5341, 0x535c, 0x5369, 0x5382, 0x53b6, 0x53c8,
   0x53e3, 0x56d7, 0x571f, 0x58eb, 0x5902, 0x590a, 0x5915, 0x5927, 0x5973, 0x5b50, 0x5b80, 0x5bf8,
   0x5c0f, 0x5c22, 0x5c38, 0x5c6e, 0x5c71, 0x5ddb, 0x5de5, 0x5df1, 0x5dfe, 0x5e72, 0x5e7a, 0x5e7f,
   0x5ef4, 0x5efe, 0x5f0b, 0x5f13, 0x5f50, 0x5f61, 0x5f73, 0x5fc3, 0x6208, 0x6236, 0x624b, 0x652f,
   0x6534, 0x6587, 0x6597, 0x65a4, 0x65b9, 0x65e0, 0x65e5, 0x66f0, 0x6708, 0x6728, 0x6b20, 0x6b62,
   0x6b79, 0x6bb3, 0x6bcb, 0x6bd4, 0x6bdb, 0x6c0f, 0x6c14, 0x6c34, 0x706b, 0x722a, 0x7236, 0x723b,
   0x723f, 0x7247, 0x7259, 0x725b, 0x72ac, 0x7384, 0x7389, 0x74dc, 0x74e6, 0x7518, 0x751f, 0x7528,
   0x7530, 0x758b, 0x7592, 0x7676, 0x767d, 0x76ae, 0x76bf, 0x76ee, 0x77db, 0x77e2, 0x77f3, 0x793a,
   0x79b8, 0x79be, 0x7a74, 0x7acb, 0x7af9, 0x7c73, 0x7cf8, 0x7f36, 0x7f51, 0x7f8a, 0x7fbd, 0x8001,
   0x800c, 0x8012, 0x8033]), (0x2f80, [0x807f, 0x8089, 0x81e3, 0x81ea, 0x81f3, 0x81fc, 0x820c,
   0x821b, 0x821f, 0x826e, 0x8272, 0x8278, 0x864d, 0x866b, 0x8840, 0x884c, 0x8863, 0x897e, 0x898b,
   0x89d2, 0x8a00, 0x8c37, 0x8c46, 0x8c55, 0x8c78, 0x8c9d, 0x8d64, 0x8d70, 0x8db3, 0x8eab, 0x8eca,
   0x8f9b, 0x8fb0, 0x8fb5, 0x9091, 0x9149, 0x91c6, 0x91cc, 0x91d1, 0x9577, 0x9580, 0x961c, 0x96b6,
   0x96b9, 0x96e8, 0x9751, 0x975e, 0x9762, 0x9769, 0x97cb, 0x97ed, 0x97f3, 0x9801, 0x98a8, 0x98db,
   0x98df, 0x9996, 0x9999, 0x99ac, 0x9aa8, 0x9ad8, 0x9adf, 0x9b25, 0x9b2f, 0x9b32, 0x9b3c, 0x9b5a,
   0x9ce5, 0x9e75, 0x9e7f, 0x9ea5, 0x9ebb, 0x9ec3, 0x9ecd, 0x9ed1, 0x9ef9, 0x9efd, 0x9f0e, 0x9f13,
   0x9f20, 0x9f3b, 0x9f4a, 0x9f52, 0x9f8d, 0x9f9c, 0x9fa0]), (0xf900, [0x8c48, 0x66f4, 0x8eca,
   0x8cc8, 0x6ed1, 0x4e32, 0x53e5, 0x9f9c, 0x9f9c, 0x5951, 0x91d1, 0x5587, 0x5948, 0x61f6, 0x7669,
   0x7f85, 0x863f, 0x87ba, 0x88f8, 0x908f, 0x6a02, 0x6d1b, 0x70d9, 0x73de, 0x843d, 0x916a, 0x99f1,
   0x4e82, 0x5375, 0x6b04, 0x721b, 0x862d, 0x9e1e, 0x5d50, 0x6feb, 0x85cd, 0x8964, 0x62c9, 0x81d8,
   0x881f, 0x5eca, 0x6717, 0x6d6a, 0x72fc, 0x90ce, 0x4f86, 0x51b7, 0x52de, 0x64c4, 0x6ad3, 0x7210,
   0x76e7, 0x8001, 0x8606, 0x865c, 0x8def, 0x9732, 0x9b6f, 0x9dfa, 0x788c, 0x797f, 0x7da0, 0x83c9,
   0x9304, 0x9e7f, 0x8ad6, 0x58df, 0x5f04, 0x7c60, 0x807e, 0x7262, 0x78ca, 0x8cc2, 0x96f7, 0x58d8,
   0x5c62, 0x6a13, 0x6dda, 0x6f0f, 0x7d2f, 0x7e37, 0x964b, 0x52d2, 0x808b, 0x51dc, 0x51cc, 0x7a1c,
   0x7dbe, 0x83f1, 0x9675, 0x8b80, 0x62cf, 0x6a02, 0x8afe, 0x4e39, 0x5be7, 0x6012, 0x7387, 0x7570,
   0x5317, 0x78fb, 0x4fbf, 0x5fa9, 0x4e0d, 0x6ccc, 0x6578, 0x7d22, 0x53c3, 0x585e, 0x7701, 0x8449,
   0x8aaa, 0x6bba, 0x8fb0, 0x6c88, 0x62fe, 0x82e5, 0x63a0, 0x7565, 0x4eae, 0x5169, 0x51c9, 0x6881,
   0x7ce7, 0x826f, 0x8ad2, 0x91cf, 0x52f5]), (0xf980, [0x5442, 0x5973, 0x5eec, 0x65c5, 0x6ffe,
   0x792a, 0x95ad, 0x9a6a, 0x9e97, 0x9ece, 0x529b, 0x66c6, 0x6b77, 0x8f62, 0x5e74, 0x6190, 0x6200,
   0x649a, 0x6f23, 0x7149, 0x7489, 0x79ca, 0x7df4, 0x806f, 0x8f26, 0x84ee, 0x9023, 0x934a, 0x5217,
   0x52a3, 0x54bd, 0x70c8, 0x88c2, 0x8aaa, 0x5ec9, 0x5ff5, 0x637b, 0x6bae, 0x7c3e, 0x7375, 0x4ee4,
   0x56f9, 0x5be7, 0x5dba, 0x601c, 0x73b2, 0x7469, 0x7f9a, 0x8046, 0x9234, 0x96f6, 0x9748, 0x9818,
   0x4f8b, 0x79ae, 0x91b4, 0x96b8, 0x60e1, 0x4e86, 0x50da, 0x5bee, 0x5c3f, 0x6599, 0x6a02, 0x71ce,
   0x7642, 0x84fc, 0x907c, 0x9f8d, 0x6688, 0x962e, 0x5289, 0x677b, 0x67f3, 0x6d41, 0x6e9c, 0x7409,
   0x7559, 0x786b, 0x7d10, 0x985e, 0x516d, 0x622e, 0x9678, 0x502b, 0x5d19, 0x6dea, 0x8f2a, 0x5f8b,
   0x6144, 0x6817, 0x7387, 0x9686, 0x5229, 0x540f, 0x5c65, 0x6613, 0x674e, 0x68a8, 0x6ce5, 0x7406,
   0x75e2, 0x7f79, 0x88cf, 0x88e1, 0x91cc, 0x96e2, 0x533f, 0x6eba, 0x541d, 0x71d0, 0x7498, 0x85fa,
   0x96a3, 0x9c57, 0x9e9f, 0x6797, 0x6dcb, 0x81e8, 0x7acb, 0x7b20, 0x7c92, 0x72c0, 0x7099, 0x8b58,
   0x4ec0, 0x8336, 0x523a]), (0xfa00, [0x5207, 0x5ea6, 0x62d3, 0x7cd6, 0x5b85, 0x6d1e, 0x66b4,
   0x8f3b, 0x884c, 0x964d, 0x898b, 0x5ed3, 0x5140, 0x55c0]), (0xfa10, [0x585a]),
   (0xfa12, [0x6674]), (0xfa15, [0x51de, 0x732a, 0x76ca, 0x793c, 0x795e, 0x7965, 0x798f, 0x9756,
   0x7cbe, 0x7fbd]), (0xfa20, [0x8612]), (0xfa22, [0x8af8]), (0xfa25, [0x9038, 0x90fd]),
   (0xfa2a, [0x98ef, 0x98fc, 0x9928, 0x9db4, 0x90de, 0x96b7, 0x4fae, 0x50e7, 0x514d, 0x52c9,
   0x52e4, 0x5351, 0x559d, 0x5606, 0x5668, 0x5840, 0x58a8, 0x5c64, 0x5c6e, 0x6094, 0x6168, 0x618e,
   0x61f2, 0x654f, 0x65e2, 0x6691, 0x6885, 0x6d77, 0x6e1a, 0x6f22, 0x716e, 0x722b, 0x7422, 0x7891,
   0x793e, 0x7949, 0x7948, 0x7950, 0x7956, 0x795d, 0x798d, 0x798e, 0x7a40, 0x7a81, 0x7bc0, 0x7df4,
   0x7e09, 0x7e41, 0x7f72, 0x8005, 0x81ed, 0x8279, 0x8279, 0x8457, 0x8910, 0x8996, 0x8b01, 0x8b39,
   0x8cd3, 0x8d08, 0x8fb6, 0x9038, 0x96e3, 0x97ff, 0x983b, 0x6075, 0x242ee, 0x8218]),
   (0xfa70, [0x4e26, 0x51b5, 0x5168, 0x4f80, 0x5145, 0x5180, 0x52c7, 0x52fa, 0x559d, 0x5555,
   0x5599, 0x55e2, 0x585a, 0x58b3, 0x5944, 0x5954, 0x5a62, 0x5b28, 0x5ed2, 0x5ed9, 0x5f69, 0x5fad,
   0x60d8, 0x614e, 0x6108, 0x618e, 0x6160, 0x61f2, 0x6234, 0x63c4, 0x641c, 0x6452, 0x6556, 0x6674,
   0x6717, 0x671b, 0x6756, 0x6b79, 0x6bba, 0x6d41, 0x6edb, 0x6ecb, 0x6f22, 0x701e, 0x716e, 0x77a7,
   0x7235, 0x72af, 0x732a, 0x7471, 0x7506, 0x753b, 0x761d, 0x761f, 0x76ca, 0x76db, 0x76f4, 0x774a,
   0x7740, 0x78cc, 0x7ab1, 0x7bc0, 0x7c7b, 0x7d5b, 0x7df4, 0x7f3e, 0x8005, 0x8352, 0x83ef, 0x8779,
   0x8941, 0x8986, 0x8996, 0x8abf, 0x8af8, 0x8acb, 0x8b01, 0x8afe, 0x8aed, 0x8b39, 0x8b8a, 0x8d08,
   0x8f38, 0x9072, 0x9199, 0x9276, 0x967c, 0x96e3, 0x9756, 0x97db, 0x97ff, 0x980b, 0x983b, 0x9b12,
   0x9f9c, 0x2284a, 0x22844, 0x233d5, 0x3b9d, 0x4018, 0x4039, 0x25249, 0x25cd0, 0x27ed3, 0x9f43,
   0x9f8e]), (0x2f800, [0x4e3d, 0x4e38, 0x4e41, 0x20122, 0x4f60, 0x4fae, 0x4fbb, 0x5002, 0x507a,
   0x5099, 0x50e7, 0x50cf, 0x349e, 0x2063a, 0x514d, 0x5154, 0x5164, 0x5177, 0x2051c, 0x34b9,
   0x5167, 0x518d, 0x2054b, 0x5197, 0x51a4, 0x4ecc, 0x51ac, 0x51b5, 0x291df, 0x51f5, 0x5203,
   0x34df, 0x523b, 0x5246, 0x5272, 0x5277, 0x3515, 0x52c7, 0x52c9, 0x52e4, 0x52fa, 0x5305, 0x5306,
   0x5317, 0x5349, 0x5351, 0x535a, 0x5373, 0x537d, 0x537f, 0x537f, 0x537f, 0x20a2c, 0x7070,
   0x53ca, 0x53df, 0x20b63, 0x53eb, 0x53f1, 0x5406, 0x549e, 0x5438, 0x5448, 0x5468, 0x54a2,
   0x54f6, 0x5510, 0x5553, 0x5563, 0x5584, 0x5584, 0x5599, 0x55ab, 0x55b3, 0x55c2, 0x5716, 0x5606,
   0x5717, 0x5651, 0x5674, 0x5207, 0x58ee, 0x57ce, 0x57f4, 0x580d, 0x578b, 0x5832, 0x5831, 0x58ac,
   0x214e4, 0x58f2, 0x58f7, 0x5906, 0x591a, 0x5922, 0x5962, 0x216a8, 0x216ea, 0x59ec, 0x5a1b,
   0x5a27, 0x59d8, 0x5a66, 0x36ee, 0x36fc, 0x5b08, 0x5b3e, 0x5b3e, 0x219c8, 0x5bc3, 0x5bd8,
   0x5be7, 0x5bf3, 0x21b18, 0x5bff, 0x5c06, 0x5f53, 0x5c22, 0x3781, 0x5c60, 0x5c6e, 0x5cc0,
   0x5c8d, 0x21de4, 0x5d43, 0x21de6, 0x5d6e, 0x5d6b]), (0x2f880, [0x5d7c, 0x5de1, 0x5de2, 0x382f,
   0x5dfd, 0x5e28, 0x5e3d, 0x5e69, 0x3862, 0x22183, 0x387c, 0x5eb0, 0x5eb3, 0x5eb6, 0x5eca,
   0x2a392, 0x5efe, 0x22331, 0x22331, 0x8201, 0x5f22, 0x5f22, 0x38c7, 0x232b8, 0x261da, 0x5f62,
   0x5f6b, 0x38e3, 0x5f9a, 0x5fcd, 0x5fd7, 0x5ff9, 0x6081, 0x393a, 0x391c, 0x6094, 0x226d4,
   0x60c7, 0x6148, 0x614c, 0x614e, 0x614c, 0x617a, 0x618e, 0x61b2, 0x61a4, 0x61af, 0x61de, 0x61f2,
   0x61f6, 0x6210, 0x621b, 0x625d, 0x62b1, 0x62d4, 0x6350, 0x22b0c, 0x633d, 0x62fc, 0x6368,
   0x6383, 0x63e4, 0x22bf1, 0x6422, 0x63c5, 0x63a9, 0x3a2e, 0x6469, 0x647e, 0x649d, 0x6477,
   0x3a6c, 0x654f, 0x656c, 0x2300a, 0x65e3, 0x66f8, 0x6649, 0x3b19, 0x6691, 0x3b08, 0x3ae4,
   0x5192, 0x5195, 0x6700, 0x669c, 0x80ad, 0x43d9, 0x6717, 0x671b, 0x6721, 0x675e, 0x6753,
   0x233c3, 0x3b49, 0x67fa, 0x6785, 0x6852, 0x6885, 0x2346d, 0x688e, 0x681f, 0x6914, 0x3b9d,
   0x6942, 0x69a3, 0x69ea, 0x6aa8, 0x236a3, 0x6adb, 0x3c18, 0x6b21, 0x238a7, 0x6b54, 0x3c4e,
   0x6b72, 0x6b9f, 0x6bba, 0x6bbb, 0x23a8d, 0x21d0b, 0x23afa, 0x6c4e, 0x23cbc, 0x6cbf, 0x6ccd,
   0x6c67, 0x6d16]), (0x2f900, [0x6d3e, 0x6d77, 0x6d41, 0x6d69, 0x6d78, 0x6d85, 0x23d1e, 0x6d34,
   0x6e2f, 0x6e6e, 0x3d33, 0x6ecb, 0x6ec7, 0x23ed1, 0x6df9, 0x6f6e, 0x23f5e, 0x23f8e, 0x6fc6,
   0x7039, 0x701e, 0x701b, 0x3d96, 0x704a, 0x707d, 0x7077, 0x70ad, 0x20525, 0x7145, 0x24263,
   0x719c, 0x243ab, 0x7228, 0x7235, 0x7250, 0x24608, 0x7280, 0x7295, 0x24735, 0x24814, 0x737a,
   0x738b, 0x3eac, 0x73a5, 0x3eb8, 0x3eb8, 0x7447, 0x745c, 0x7471, 0x7485, 0x74ca, 0x3f1b, 0x7524,
   0x24c36, 0x753e, 0x24c92, 0x7570, 0x2219f, 0x7610, 0x24fa1, 0x24fb8, 0x25044, 0x3ffc, 0x4008,
   0x76f4, 0x250f3, 0x250f2, 0x25119, 0x25133, 0x771e, 0x771f, 0x771f, 0x774a, 0x4039, 0x778b,
   0x4046, 0x4096, 0x2541d, 0x784e, 0x788c, 0x78cc, 0x40e3, 0x25626, 0x7956, 0x2569a, 0x256c5,
   0x798f, 0x79eb, 0x412f, 0x7a40, 0x7a4a, 0x7a4f, 0x2597c, 0x25aa7, 0x25aa7, 0x7aee, 0x4202,
   0x25bab, 0x7bc6, 0x7bc9, 0x4227, 0x25c80, 0x7cd2, 0x42a0, 0x7ce8, 0x7ce3, 0x7d00, 0x25f86,
   0x7d63, 0x4301, 0x7dc7, 0x7e02, 0x7e45, 0x4334, 0x26228, 0x26247, 0x4359, 0x262d9, 0x7f7a,
   0x2633e, 0x7f95, 0x7ffa, 0x8005, 0x264da, 0x26523, 0x8060, 0x265a8, 0x8070]),
   (0x2f980, [0x2335f, 0x43d5, 0x80b2, 0x8103, 0x440b, 0x813e, 0x5ab5, 0x267a7, 0x267b5, 0x23393,
   0x2339c, 0x8201, 0x8204, 0x8f9e, 0x446b, 0x8291, 0x828b, 0x829d, 0x52b3, 0x82b1, 0x82b3,
   0x82bd, 0x82e6, 0x26b3c, 0x82e5, 0x831d, 0x8363, 0x83ad, 0x8323, 0x83bd, 0x83e7, 0x8457,
   0x8353, 0x83ca, 0x83cc, 0x83dc, 0x26c36, 0x26d6b, 0x26cd5, 0x452b, 0x84f1, 0x84f3, 0x8516,
   0x273ca, 0x8564, 0x26f2c, 0x455d, 0x4561, 0x26fb1, 0x270d2, 0x456b, 0x8650, 0x865c, 0x8667,
   0x8669, 0x86a9, 0x8688, 0x870e, 0x86e2, 0x8779, 0x8728, 0x876b, 0x8786, 0x45d7, 0x87e1, 0x8801,
   0x45f9, 0x8860, 0x8863, 0x27667, 0x88d7, 0x88de, 0x4635, 0x88fa, 0x34bb, 0x278ae, 0x27966,
   0x46be, 0x46c7, 0x8aa0, 0x8aed, 0x8b8a, 0x8c55, 0x27ca8, 0x8cab, 0x8cc1, 0x8d1b, 0x8d77,
   0x27f2f, 0x20804, 0x8dcb, 0x8dbc, 0x8df0, 0x208de, 0x8ed4, 0x8f38, 0x285d2, 0x285ed, 0x9094,
   0x90f1, 0x9111, 0x2872e, 0x911b, 0x9238, 0x92d7, 0x92d8, 0x927c, 0x93f9, 0x9415, 0x28bfa,
   0x958b, 0x4995, 0x95b7, 0x28d77, 0x49e6, 0x96c3, 0x5db2, 0x9723, 0x29145, 0x2921a, 0x4a6e,
   0x4a76, 0x97e0, 0x2940a, 0x4ab2, 0x29496, 0x980b, 0x980b]), (0x2fa00, [0x9829, 0x295b6, 0x98e2,
   0x4b33, 0x9929, 0x99a7, 0x99c2, 0x99fe, 0x4bce, 0x29b30, 0x9b12, 0x9c40, 0x9cfd, 0x4cce,
   0x4ced, 0x9d67, 0x2a0ce, 0x4cf8, 0x2a105, 0x2a20e, 0x2a291, 0x9ebb, 0x4d56, 0x9ef9, 0x9efe,
   0x9f05, 0x9f0f, 0x9f16, 0x9f3b, 0x2a600])]

/-- Code points that are replaced by several: the first of some that follow each
other, and their replacements. -/
def expansions : List (Nat × List (List Nat)) :=
  [(0xa8, [[0x20, 0x308]]), (0xaf, [[0x20, 0x304]]), (0xb4, [[0x20, 0x301]]), (0xb8, [[0x20,
   0x327]]), (0xbc, [[0x31, 0x2044, 0x34], [0x31, 0x2044, 0x32], [0x33, 0x2044, 0x34]]),
   (0x130, [[0x69, 0x307]]), (0x132, [[0x69, 0x6a], [0x69, 0x6a]]), (0x13f, [[0x6c, 0xb7], [0x6c,
   0xb7]]), (0x149, [[0x2bc, 0x6e]]), (0x1c4, [[0x64, 0x17e], [0x64, 0x17e], [0x64, 0x17e], [0x6c,
   0x6a], [0x6c, 0x6a], [0x6c, 0x6a], [0x6e, 0x6a], [0x6e, 0x6a], [0x6e, 0x6a]]), (0x1f1, [[0x64,
   0x7a], [0x64, 0x7a], [0x64, 0x7a]]), (0x2d8, [[0x20, 0x306], [0x20, 0x307], [0x20, 0x30a],
   [0x20, 0x328], [0x20, 0x303], [0x20, 0x30b]]), (0x344, [[0x308, 0x301]]), (0x37a, [[0x20,
   0x3b9]]), (0x384, [[0x20, 0x301], [0x20, 0x308, 0x301]]), (0x587, [[0x565, 0x582]]),
   (0x675, [[0x627, 0x674], [0x648, 0x674], [0x6c7, 0x674], [0x64a, 0x674]]), (0x958, [[0x915,
   0x93c], [0x916, 0x93c], [0x917, 0x93c], [0x91c, 0x93c], [0x921, 0x93c], [0x922, 0x93c], [0x92b,
   0x93c], [0x92f, 0x93c]]), (0x9dc, [[0x9a1, 0x9bc], [0x9a2, 0x9bc]]), (0x9df, [[0x9af, 0x9bc]]),
   (0xa33, [[0xa32, 0xa3c]]), (0xa36, [[0xa38, 0xa3c]]), (0xa59, [[0xa16, 0xa3c], [0xa17, 0xa3c],
   [0xa1c, 0xa3c]]), (0xa5e, [[0xa2b, 0xa3c]]), (0xb5c, [[0xb21, 0xb3c], [0xb22, 0xb3c]]),
   (0xe33, [[0xe4d, 0xe32]]), (0xeb3, [[0xecd, 0xeb2]]), (0xedc, [[0xeab, 0xe99], [0xeab,
   0xea1]]), (0xf43, [[0xf42, 0xfb7]]), (0xf4d, [[0xf4c, 0xfb7]]), (0xf52, [[0xf51, 0xfb7]]),
   (0xf57, [[0xf56, 0xfb7]]), (0xf5c, [[0xf5b, 0xfb7]]), (0xf69, [[0xf40, 0xfb5]]),
   (0xf73, [[0xf71, 0xf72]]), (0xf75, [[0xf71, 0xf74], [0xfb2, 0xf80], [0xfb2, 0xf71, 0xf80],
   [0xfb3, 0xf80], [0xfb3, 0xf71, 0xf80]]), (0xf81, [[0xf71, 0xf80]]), (0xf93, [[0xf92, 0xfb7]]),
   (0xf9d, [[0xf9c, 0xfb7]]), (0xfa2, [[0xfa1, 0xfb7]]), (0xfa7, [[0xfa6, 0xfb7]]),
   (0xfac, [[0xfab, 0xfb7]]), (0xfb9, [[0xf90, 0xfb5]]), (0x1e9a, [[0x61, 0x2be]]),
   (0x1f80, [[0x1f00, 0x3b9], [0x1f01, 0x3b9], [0x1f02, 0x3b9], [0x1f03, 0x3b9], [0x1f04, 0x3b9],
   [0x1f05, 0x3b9], [0x1f06, 0x3b9], [0x1f07, 0x3b9], [0x1f00, 0x3b9], [0x1f01, 0x3b9], [0x1f02,
   0x3b9], [0x1f03, 0x3b9], [0x1f04, 0x3b9], [0x1f05, 0x3b9], [0x1f06, 0x3b9], [0x1f07, 0x3b9],
   [0x1f20, 0x3b9], [0x1f21, 0x3b9], [0x1f22, 0x3b9], [0x1f23, 0x3b9], [0x1f24, 0x3b9], [0x1f25,
   0x3b9], [0x1f26, 0x3b9], [0x1f27, 0x3b9], [0x1f20, 0x3b9], [0x1f21, 0x3b9], [0x1f22, 0x3b9],
   [0x1f23, 0x3b9], [0x1f24, 0x3b9], [0x1f25, 0x3b9], [0x1f26, 0x3b9], [0x1f27, 0x3b9], [0x1f60,
   0x3b9], [0x1f61, 0x3b9], [0x1f62, 0x3b9], [0x1f63, 0x3b9], [0x1f64, 0x3b9], [0x1f65, 0x3b9],
   [0x1f66, 0x3b9], [0x1f67, 0x3b9], [0x1f60, 0x3b9], [0x1f61, 0x3b9], [0x1f62, 0x3b9], [0x1f63,
   0x3b9], [0x1f64, 0x3b9], [0x1f65, 0x3b9], [0x1f66, 0x3b9], [0x1f67, 0x3b9]]),
   (0x1fb2, [[0x1f70, 0x3b9], [0x3b1, 0x3b9], [0x3ac, 0x3b9]]), (0x1fb7, [[0x1fb6, 0x3b9]]),
   (0x1fbc, [[0x3b1, 0x3b9], [0x20, 0x313]]), (0x1fbf, [[0x20, 0x313], [0x20, 0x342], [0x20,
   0x308, 0x342], [0x1f74, 0x3b9], [0x3b7, 0x3b9], [0x3ae, 0x3b9]]), (0x1fc7, [[0x1fc6, 0x3b9]]),
   (0x1fcc, [[0x3b7, 0x3b9], [0x20, 0x313, 0x300], [0x20, 0x313, 0x301], [0x20, 0x313, 0x342]]),
   (0x1fdd, [[0x20, 0x314, 0x300], [0x20, 0x314, 0x301], [0x20, 0x314, 0x342]]), (0x1fed, [[0x20,
   0x308, 0x300], [0x20, 0x308, 0x301]]), (0x1ff2, [[0x1f7c, 0x3b9], [0x3c9, 0x3b9], [0x3ce,
   0x3b9]]), (0x1ff7, [[0x1ff6, 0x3b9]]), (0x1ffc, [[0x3c9, 0x3b9], [0x20, 0x301], [0x20,
   0x314]]), (0x2017, [[0x20, 0x333]]), (0x2033, [[0x2032, 0x2032], [0x2032, 0x2032, 0x2032]]),
   (0x2036, [[0x2035, 0x2035], [0x2035, 0x2035, 0x2035]]), (0x203c, [[0x21, 0x21]]),
   (0x203e, [[0x20, 0x305]]), (0x2047, [[0x3f, 0x3f], [0x3f, 0x21], [0x21, 0x3f]]),
   (0x2057, [[0x2032, 0x2032, 0x2032, 0x2032]]), (0x20a8, [[0x72, 0x73]]), (0x2100, [[0x61, 0x2f,
   0x63], [0x61, 0x2f, 0x73]]), (0x2103, [[0xb0, 0x63]]), (0x2105, [[0x63, 0x2f, 0x6f], [0x63,
   0x2f, 0x75]]), (0x2109, [[0xb0, 0x66]]), (0x2116, [[0x6e, 0x6f]]), (0x2120, [[0x73, 0x6d],
   [0x74, 0x65, 0x6c], [0x74, 0x6d]]), (0x213b, [[0x66, 0x61, 0x78]]), (0x2150, [[0x31, 0x2044,
   0x37], [0x31, 0x2044, 0x39], [0x31, 0x2044, 0x31, 0x30], [0x31, 0x2044, 0x33], [0x32, 0x2044,
   0x33], [0x31, 0x2044, 0x35], [0x32, 0x2044, 0x35], [0x33, 0x2044, 0x35], [0x34, 0x2044, 0x35],
   [0x31, 0x2044, 0x36], [0x35, 0x2044, 0x36], [0x31, 0x2044, 0x38], [0x33, 0x2044, 0x38], [0x35,
   0x2044, 0x38], [0x37, 0x2044, 0x38], [0x31, 0x2044]]), (0x2161, [[0x69, 0x69], [0x69, 0x69,
   0x69], [0x69, 0x76]]), (0x2165, [[0x76, 0x69], [0x76, 0x69, 0x69], [0x76, 0x69, 0x69, 0x69],
   [0x69, 0x78]]), (0x216a, [[0x78, 0x69], [0x78, 0x69, 0x69]]), (0x2171, [[0x69, 0x69], [0x69,
   0x69, 0x69], [0x69, 0x76]]), (0x2175, [[0x76, 0x69], [0x76, 0x69, 0x69], [0x76, 0x69, 0x69,
   0x69], [0x69, 0x78]]), (0x217a, [[0x78, 0x69], [0x78, 0x69, 0x69]]), (0x2189, [[0x30, 0x2044,
   0x33]]), (0x222c, [[0x222b, 0x222b], [0x222b, 0x222b, 0x222b]]), (0x222f, [[0x222e, 0x222e],
   [0x222e, 0x222e, 0x222e]]), (0x2469, [[0x31, 0x30], [0x31, 0x31], [0x31, 0x32], [0x31, 0x33],
   [0x31, 0x34], [0x31, 0x35], [0x31, 0x36], [0x31, 0x37], [0x31, 0x38], [0x31, 0x39], [0x32,
   0x30], [0x28, 0x31, 0x29], [0x28, 0x32, 0x29], [0x28, 0x33, 0x29], [0x28, 0x34, 0x29], [0x28,
   0x35, 0x29], [0x28, 0x36, 0x29], [0x28, 0x37, 0x29], [0x28, 0x38, 0x29], [0x28, 0x39, 0x29],
   [0x28, 0x31, 0x30, 0x29], [0x28, 0x31, 0x31, 0x29], [0x28, 0x31, 0x32, 0x29], [0x28, 0x31,
   0x33, 0x29], [0x28, 0x31, 0x34, 0x29], [0x28, 0x31, 0x35, 0x29], [0x28, 0x31, 0x36, 0x29],
   [0x28, 0x31, 0x37, 0x29], [0x28, 0x31, 0x38, 0x29], [0x28, 0x31, 0x39, 0x29], [0x28, 0x32,
   0x30, 0x29]]), (0x249c, [[0x28, 0x61, 0x29], [0x28, 0x62, 0x29], [0x28, 0x63, 0x29], [0x28,
   0x64, 0x29], [0x28, 0x65, 0x29], [0x28, 0x66, 0x29], [0x28, 0x67, 0x29], [0x28, 0x68, 0x29],
   [0x28, 0x69, 0x29], [0x28, 0x6a, 0x29], [0x28, 0x6b, 0x29], [0x28, 0x6c, 0x29], [0x28, 0x6d,
   0x29], [0x28, 0x6e, 0x29], [0x28, 0x6f, 0x29], [0x28, 0x70, 0x29], [0x28, 0x71, 0x29], [0x28,
   0x72, 0x29], [0x28, 0x73, 0x29], [0x28, 0x74, 0x29], [0x28, 0x75, 0x29], [0x28, 0x76, 0x29],
   [0x28, 0x77, 0x29], [0x28, 0x78, 0x29], [0x28, 0x79, 0x29], [0x28, 0x7a, 0x29]]),
   (0x2a0c, [[0x222b, 0x222b, 0x222b, 0x222b]]), (0x2a74, [[0x3a, 0x3a, 0x3d], [0x3d, 0x3d],
   [0x3d, 0x3d, 0x3d]]), (0x2adc, [[0x2add, 0x338]]), (0x309b, [[0x20, 0x3099], [0x20, 0x309a]]),
   (0x309f, [[0x3088, 0x308a]]), (0x30ff, [[0x30b3, 0x30c8]]), (0x3200, [[0x28, 0x1100, 0x29],
   [0x28, 0x1102, 0x29], [0x28, 0x1103, 0x29], [0x28, 0x1105, 0x29], [0x28, 0x1106, 0x29], [0x28,
   0x1107, 0x29], [0x28, 0x1109, 0x29], [0x28, 0x110b, 0x29], [0x28, 0x110c, 0x29], [0x28, 0x110e,
   0x29], [0x28, 0x110f, 0x29], [0x28, 0x1110, 0x29], [0x28, 0x1111, 0x29], [0x28, 0x1112, 0x29],
   [0x28, 0xac00, 0x29], [0x28, 0xb098, 0x29], [0x28, 0xb2e4, 0x29], [0x28, 0xb77c, 0x29], [0x28,
   0xb9c8, 0x29], [0x28, 0xbc14, 0x29], [0x28, 0xc0ac, 0x29], [0x28, 0xc544, 0x29], [0x28, 0xc790,
   0x29], [0x28, 0xcc28, 0x29], [0x28, 0xce74, 0x29], [0x28, 0xd0c0, 0x29], [0x28, 0xd30c, 0x29],
   [0x28, 0xd558, 0x29], [0x28, 0xc8fc, 0x29], [0x28, 0xc624, 0xc804, 0x29], [0x28, 0xc624,
   0xd6c4, 0x29]]), (0x3220, [[0x28, 0x4e00, 0x29], [0x28, 0x4e8c, 0x29], [0x28, 0x4e09, 0x29],
   [0x28, 0x56db, 0x29], [0x28, 0x4e94, 0x29], [0x28, 0x516d, 0x29], [0x28, 0x4e03, 0x29], [0x28,
   0x516b, 0x29], [0x28, 0x4e5d, 0x29], [0x28, 0x5341, 0x29], [0x28, 0x6708, 0x29], [0x28, 0x706b,
   0x29], [0x28, 0x6c34, 0x29], [0x28, 0x6728, 0x29], [0x28, 0x91d1, 0x29], [0x28, 0x571f, 0x29],
   [0x28, 0x65e5, 0x29], [0x28, 0x682a, 0x29], [0x28, 0x6709, 0x29], [0x28, 0x793e, 0x29], [0x28,
   0x540d, 0x29], [0x28, 0x7279, 0x29], [0x28, 0x8ca1, 0x29], [0x28, 0x795d, 0x29], [0x28, 0x52b4,
   0x29], [0x28, 0x4ee3, 0x29], [0x28, 0x547c, 0x29], [0x28, 0x5b66, 0x29], [0x28, 0x76e3, 0x29],
   [0x28, 0x4f01, 0x29], [0x28, 0x8cc7, 0x29], [0x28, 0x5354, 0x29], [0x28, 0x796d, 0x29], [0x28,
   0x4f11, 0x29], [0x28, 0x81ea, 0x29], [0x28, 0x81f3, 0x29]]), (0x3250, [[0x70, 0x74, 0x65],
   [0x32, 0x31], [0x32, 0x32], [0x32, 0x33], [0x32, 0x34], [0x32, 0x35], [0x32, 0x36], [0x32,
   0x37], [0x32, 0x38], [0x32, 0x39], [0x33, 0x30], [0x33, 0x31], [0x33, 0x32], [0x33, 0x33],
   [0x33, 0x34], [0x33, 0x35]]), (0x327c, [[0xcc38, 0xace0], [0xc8fc, 0xc758]]), (0x32b1, [[0x33,
   0x36], [0x33, 0x37], [0x33, 0x38], [0x33, 0x39], [0x34, 0x30], [0x34, 0x31], [0x34, 0x32],
   [0x34, 0x33], [0x34, 0x34], [0x34, 0x35], [0x34, 0x36], [0x34, 0x37], [0x34, 0x38], [0x34,
   0x39], [0x35, 0x30], [0x31, 0x6708], [0x32, 0x6708], [0x33, 0x6708], [0x34, 0x6708], [0x35,
   0x6708], [0x36, 0x6708], [0x37, 0x6708], [0x38, 0x6708], [0x39, 0x6708], [0x31, 0x30, 0x6708],
   [0x31, 0x31, 0x6708], [0x31, 0x32, 0x6708], [0x68, 0x67], [0x65, 0x72, 0x67], [0x65, 0x76],
   [0x6c, 0x74, 0x64]]), (0x32ff, [[0x4ee4, 0x548c], [0x30a2, 0x30d1, 0x30fc, 0x30c8], [0x30a2,
   0x30eb, 0x30d5, 0x30a1], [0x30a2, 0x30f3, 0x30da, 0x30a2], [0x30a2, 0x30fc, 0x30eb], [0x30a4,
   0x30cb, 0x30f3, 0x30b0], [0x30a4, 0x30f3, 0x30c1], [0x30a6, 0x30a9, 0x30f3], [0x30a8, 0x30b9,
   0x30af, 0x30fc, 0x30c9], [0x30a8, 0x30fc, 0x30ab, 0x30fc], [0x30aa, 0x30f3, 0x30b9], [0x30aa,
   0x30fc, 0x30e0], [0x30ab, 0x30a4, 0x30ea], [0x30ab, 0x30e9, 0x30c3, 0x30c8], [0x30ab, 0x30ed,
   0x30ea, 0x30fc], [0x30ac, 0x30ed, 0x30f3], [0x30ac, 0x30f3, 0x30de], [0x30ae, 0x30ac], [0x30ae,
   0x30cb, 0x30fc], [0x30ad, 0x30e5, 0x30ea, 0x30fc], [0x30ae, 0x30eb, 0x30c0, 0x30fc], [0x30ad,
   0x30ed], [0x30ad, 0x30ed, 0x30b0, 0x30e9, 0x30e0], [0x30ad, 0x30ed, 0x30e1, 0x30fc, 0x30c8,
   0x30eb], [0x30ad, 0x30ed, 0x30ef, 0x30c3, 0x30c8], [0x30b0, 0x30e9, 0x30e0], [0x30b0, 0x30e9,
   0x30e0, 0x30c8, 0x30f3], [0x30af, 0x30eb, 0x30bc, 0x30a4, 0x30ed], [0x30af, 0x30ed, 0x30fc,
   0x30cd], [0x30b1, 0x30fc, 0x30b9], [0x30b3, 0x30eb, 0x30ca], [0x30b3, 0x30fc, 0x30dd], [0x30b5,
   0x30a4, 0x30af, 0x30eb], [0x30b5, 0x30f3, 0x30c1, 0x30fc, 0x30e0], [0x30b7, 0x30ea, 0x30f3,
   0x30b0], [0x30bb, 0x30f3, 0x30c1], [0x30bb, 0x30f3, 0x30c8], [0x30c0, 0x30fc, 0x30b9], [0x30c7,
   0x30b7], [0x30c9, 0x30eb], [0x30c8, 0x30f3], [0x30ca, 0x30ce], [0x30ce, 0x30c3, 0x30c8],
   [0x30cf, 0x30a4, 0x30c4], [0x30d1, 0x30fc, 0x30bb, 0x30f3, 0x30c8], [0x30d1, 0x30fc, 0x30c4],
   [0x30d0, 0x30fc, 0x30ec, 0x30eb], [0x30d4, 0x30a2, 0x30b9, 0x30c8, 0x30eb], [0x30d4, 0x30af,
   0x30eb], [0x30d4, 0x30b3], [0x30d3, 0x30eb], [0x30d5, 0x30a1, 0x30e9, 0x30c3, 0x30c9], [0x30d5,
   0x30a3, 0x30fc, 0x30c8], [0x30d6, 0x30c3, 0x30b7, 0x30a7, 0x30eb], [0x30d5, 0x30e9, 0x30f3],
   [0x30d8, 0x30af, 0x30bf, 0x30fc, 0x30eb], [0x30da, 0x30bd], [0x30da, 0x30cb, 0x30d2], [0x30d8,
   0x30eb, 0x30c4], [0x30da, 0x30f3, 0x30b9], [0x30da, 0x30fc, 0x30b8], [0x30d9, 0x30fc, 0x30bf],
   [0x30dd, 0x30a4, 0x30f3, 0x30c8], [0x30dc, 0x30eb, 0x30c8], [0x30db, 0x30f3], [0x30dd, 0x30f3,
   0x30c9], [0x30db, 0x30fc, 0x30eb], [0x30db, 0x30fc, 0x30f3], [0x30de, 0x30a4, 0x30af, 0x30ed],
   [0x30de, 0x30a4, 0x30eb], [0x30de, 0x30c3, 0x30cf], [0x30de, 0x30eb, 0x30af], [0x30de, 0x30f3,
   0x30b7, 0x30e7, 0x30f3], [0x30df, 0x30af, 0x30ed, 0x30f3], [0x30df, 0x30ea], [0x30df, 0x30ea,
   0x30d0, 0x30fc, 0x30eb], [0x30e1, 0x30ac], [0x30e1, 0x30ac, 0x30c8, 0x30f3], [0x30e1, 0x30fc,
   0x30c8, 0x30eb], [0x30e4, 0x30fc, 0x30c9], [0x30e4, 0x30fc, 0x30eb], [0x30e6, 0x30a2, 0x30f3],
   [0x30ea, 0x30c3, 0x30c8, 0x30eb], [0x30ea, 0x30e9], [0x30eb, 0x30d4, 0x30fc], [0x30eb, 0x30fc,
   0x30d6, 0x30eb], [0x30ec, 0x30e0], [0x30ec, 0x30f3, 0x30c8, 0x30b2, 0x30f3], [0x30ef, 0x30c3,
   0x30c8], [0x30, 0x70b9], [0x31, 0x70b9], [0x32, 0x70b9], [0x33, 0x70b9], [0x34, 0x70b9], [0x35,
   0x70b9], [0x36, 0x70b9], [0x37, 0x70b9], [0x38, 0x70b9], [0x39, 0x70b9], [0x31, 0x30, 0x70b9],
   [0x31, 0x31, 0x70b9], [0x31, 0x32, 0x70b9], [0x31, 0x33, 0x70b9], [0x31, 0x34, 0x70b9], [0x31,
   0x35, 0x70b9], [0x31, 0x36, 0x70b9], [0x31, 0x37, 0x70b9], [0x31, 0x38, 0x70b9], [0x31, 0x39,
   0x70b9], [0x32, 0x30, 0x70b9], [0x32, 0x31, 0x70b9], [0x32, 0x32, 0x70b9], [0x32, 0x33,
   0x70b9], [0x32, 0x34, 0x70b9], [0x68, 0x70, 0x61], [0x64, 0x61], [0x61, 0x75], [0x62, 0x61,
   0x72], [0x6f, 0x76], [0x70, 0x63], [0x64, 0x6d], [0x64, 0x6d, 0x32], [0x64, 0x6d, 0x33], [0x69,
   0x75], [0x5e73, 0x6210], [0x662d, 0x548c], [0x5927, 0x6b63], [0x660e, 0x6cbb], [0x682a, 0x5f0f,
   0x4f1a, 0x793e], [0x70, 0x61], [0x6e, 0x61], [0x3bc, 0x61], [0x6d, 0x61], [0x6b, 0x61], [0x6b,
   0x62], [0x6d, 0x62], [0x67, 0x62], [0x63, 0x61, 0x6c], [0x6b, 0x63, 0x61, 0x6c], [0x70, 0x66],
   [0x6e, 0x66], [0x3bc, 0x66], [0x3bc, 0x67], [0x6d, 0x67], [0x6b, 0x67], [0x68, 0x7a], [0x6b,
   0x68, 0x7a], [0x6d, 0x68, 0x7a], [0x67, 0x68, 0x7a], [0x74, 0x68, 0x7a], [0x3bc, 0x6c], [0x6d,
   0x6c], [0x64, 0x6c], [0x6b, 0x6c], [0x66, 0x6d], [0x6e, 0x6d], [0x3bc, 0x6d], [0x6d, 0x6d],
   [0x63, 0x6d], [0x6b, 0x6d], [0x6d, 0x6d, 0x32], [0x63, 0x6d, 0x32], [0x6d, 0x32], [0x6b, 0x6d,
   0x32], [0x6d, 0x6d, 0x33], [0x63, 0x6d, 0x33], [0x6d, 0x33], [0x6b, 0x6d, 0x33], [0x6d, 0x2215,
   0x73], [0x6d, 0x2215, 0x73, 0x32], [0x70, 0x61], [0x6b, 0x70, 0x61], [0x6d, 0x70, 0x61], [0x67,
   0x70, 0x61], [0x72, 0x61, 0x64], [0x72, 0x61, 0x64, 0x2215, 0x73], [0x72, 0x61, 0x64, 0x2215,
   0x73, 0x32], [0x70, 0x73], [0x6e, 0x73], [0x3bc, 0x73], [0x6d, 0x73], [0x70, 0x76], [0x6e,
   0x76], [0x3bc, 0x76], [0x6d, 0x76], [0x6b, 0x76], [0x6d, 0x76], [0x70, 0x77], [0x6e, 0x77],
   [0x3bc, 0x77], [0x6d, 0x77], [0x6b, 0x77], [0x6d, 0x77], [0x6b, 0x3c9], [0x6d, 0x3c9]]),
   (0x33c3, [[0x62, 0x71], [0x63, 0x63], [0x63, 0x64], [0x63, 0x2215, 0x6b, 0x67]]),
   (0x33c8, [[0x64, 0x62], [0x67, 0x79], [0x68, 0x61], [0x68, 0x70], [0x69, 0x6e], [0x6b, 0x6b],
   [0x6b, 0x6d], [0x6b, 0x74], [0x6c, 0x6d], [0x6c, 0x6e], [0x6c, 0x6f, 0x67], [0x6c, 0x78],
   [0x6d, 0x62], [0x6d, 0x69, 0x6c], [0x6d, 0x6f, 0x6c], [0x70, 0x68]]), (0x33d9, [[0x70, 0x70,
   0x6d], [0x70, 0x72], [0x73, 0x72], [0x73, 0x76], [0x77, 0x62], [0x76, 0x2215, 0x6d], [0x61,
   0x2215, 0x6d], [0x31, 0x65e5], [0x32, 0x65e5], [0x33, 0x65e5], [0x34, 0x65e5], [0x35, 0x65e5],
   [0x36, 0x65e5], [0x37, 0x65e5], [0x38, 0x65e5], [0x39, 0x65e5], [0x31, 0x30, 0x65e5], [0x31,
   0x31, 0x65e5], [0x31, 0x32, 0x65e5], [0x31, 0x33, 0x65e5], [0x31, 0x34, 0x65e5], [0x31, 0x35,
   0x65e5], [0x31, 0x36, 0x65e5], [0x31, 0x37, 0x65e5], [0x31, 0x38, 0x65e5], [0x31, 0x39,
   0x65e5], [0x32, 0x30, 0x65e5], [0x32, 0x31, 0x65e5], [0x32, 0x32, 0x65e5], [0x32, 0x33,
   0x65e5], [0x32, 0x34, 0x65e5], [0x32, 0x35, 0x65e5], [0x32, 0x36, 0x65e5], [0x32, 0x37,
   0x65e5], [0x32, 0x38, 0x65e5], [0x32, 0x39, 0x65e5], [0x33, 0x30, 0x65e5], [0x33, 0x31,
   0x65e5], [0x67, 0x61, 0x6c]]), (0xfb00, [[0x66, 0x66], [0x66, 0x69], [0x66, 0x6c], [0x66, 0x66,
   0x69], [0x66, 0x66, 0x6c], [0x73, 0x74], [0x73, 0x74]]), (0xfb13, [[0x574, 0x576], [0x574,
   0x565], [0x574, 0x56b], [0x57e, 0x576], [0x574, 0x56d]]), (0xfb1d, [[0x5d9, 0x5b4]]),
   (0xfb1f, [[0x5f2, 0x5b7]]), (0xfb2a, [[0x5e9, 0x5c1], [0x5e9, 0x5c2], [0x5e9, 0x5bc, 0x5c1],
   [0x5e9, 0x5bc, 0x5c2], [0x5d0, 0x5b7], [0x5d0, 0x5b8], [0x5d0, 0x5bc], [0x5d1, 0x5bc], [0x5d2,
   0x5bc], [0x5d3, 0x5bc], [0x5d4, 0x5bc], [0x5d5, 0x5bc], [0x5d6, 0x5bc]]), (0xfb38, [[0x5d8,
   0x5bc], [0x5d9, 0x5bc], [0x5da, 0x5bc], [0x5db, 0x5bc], [0x5dc, 0x5bc]]), (0xfb3e, [[0x5de,
   0x5bc]]), (0xfb40, [[0x5e0, 0x5bc], [0x5e1, 0x5bc]]), (0xfb43, [[0x5e3, 0x5bc], [0x5e4,
   0x5bc]]), (0xfb46, [[0x5e6, 0x5bc], [0x5e7, 0x5bc], [0x5e8, 0x5bc], [0x5e9, 0x5bc], [0x5ea,
   0x5bc], [0x5d5, 0x5b9], [0x5d1, 0x5bf], [0x5db, 0x5bf], [0x5e4, 0x5bf], [0x5d0, 0x5dc]]),
   (0xfbdd, [[0x6c7, 0x674]]), (0xfbea, [[0x626, 0x627], [0x626, 0x627], [0x626, 0x6d5], [0x626,
   0x6d5], [0x626, 0x648], [0x626, 0x648], [0x626, 0x6c7], [0x626, 0x6c7], [0x626, 0x6c6], [0x626,
   0x6c6], [0x626, 0x6c8], [0x626, 0x6c8], [0x626, 0x6d0], [0x626, 0x6d0], [0x626, 0x6d0], [0x626,
   0x649], [0x626, 0x649], [0x626, 0x649]]), (0xfc00, [[0x626, 0x62c], [0x626, 0x62d], [0x626,
   0x645], [0x626, 0x649], [0x626, 0x64a], [0x628, 0x62c], [0x628, 0x62d], [0x628, 0x62e], [0x628,
   0x645], [0x628, 0x649], [0x628, 0x64a], [0x62a, 0x62c], [0x62a, 0x62d], [0x62a, 0x62e], [0x62a,
   0x645], [0x62a, 0x649], [0x62a, 0x64a], [0x62b, 0x62c], [0x62b, 0x645], [0x62b, 0x649], [0x62b,
   0x64a], [0x62c, 0x62d], [0x62c, 0x645], [0x62d, 0x62c], [0x62d, 0x645], [0x62e, 0x62c], [0x62e,
   0x62d], [0x62e, 0x645], [0x633, 0x62c], [0x633, 0x62d], [0x633, 0x62e], [0x633, 0x645], [0x635,
   0x62d], [0x635, 0x645], [0x636, 0x62c], [0x636, 0x62d], [0x636, 0x62e], [0x636, 0x645], [0x637,
   0x62d], [0x637, 0x645], [0x638, 0x645], [0x639, 0x62c], [0x639, 0x645], [0x63a, 0x62c], [0x63a,
   0x645], [0x641, 0x62c], [0x641, 0x62d], [0x641, 0x62e], [0x641, 0x645], [0x641, 0x649], [0x641,
   0x64a], [0x642, 0x62d], [0x642, 0x645], [0x642, 0x649], [0x642, 0x64a], [0x643, 0x627], [0x643,
   0x62c], [0x643, 0x62d], [0x643, 0x62e], [0x643, 0x644], [0x643, 0x645], [0x643, 0x649], [0x643,
   0x64a], [0x644, 0x62c], [0x644, 0x62d], [0x644, 0x62e], [0x644, 0x645], [0x644, 0x649], [0x644,
   0x64a], [0x645, 0x62c], [0x645, 0x62d], [0x645, 0x62e], [0x645, 0x645], [0x645, 0x649], [0x645,
   0x64a], [0x646, 0x62c], [0x646, 0x62d], [0x646, 0x62e], [0x646, 0x645], [0x646, 0x649], [0x646,
   0x64a], [0x647, 0x62c], [0x647, 0x645], [0x647, 0x649], [0x647, 0x64a], [0x64a, 0x62c], [0x64a,
   0x62d], [0x64a, 0x62e], [0x64a, 0x645], [0x64a, 0x649], [0x64a, 0x64a], [0x630, 0x670], [0x631,
   0x670], [0x649, 0x670], [0x20, 0x64c, 0x651], [0x20, 0x64d, 0x651], [0x20, 0x64e, 0x651],
   [0x20, 0x64f, 0x651], [0x20, 0x650, 0x651], [0x20, 0x651, 0x670], [0x626, 0x631], [0x626,
   0x632], [0x626, 0x645], [0x626, 0x646], [0x626, 0x649], [0x626, 0x64a], [0x628, 0x631], [0x628,
   0x632], [0x628, 0x645], [0x628, 0x646], [0x628, 0x649], [0x628, 0x64a], [0x62a, 0x631], [0x62a,
   0x632], [0x62a, 0x645], [0x62a, 0x646], [0x62a, 0x649], [0x62a, 0x64a], [0x62b, 0x631], [0x62b,
   0x632], [0x62b, 0x645], [0x62b, 0x646], [0x62b, 0x649], [0x62b, 0x64a], [0x641, 0x649], [0x641,
   0x64a], [0x642, 0x649], [0x642, 0x64a], [0x643, 0x627], [0x643, 0x644], [0x643, 0x645], [0x643,
   0x649], [0x643, 0x64a], [0x644, 0x645], [0x644, 0x649], [0x644, 0x64a], [0x645, 0x627], [0x645,
   0x645], [0x646, 0x631], [0x646, 0x632], [0x646, 0x645], [0x646, 0x646], [0x646, 0x649], [0x646,
   0x64a], [0x649, 0x670], [0x64a, 0x631], [0x64a, 0x632], [0x64a, 0x645], [0x64a, 0x646], [0x64a,
   0x649], [0x64a, 0x64a], [0x626, 0x62c], [0x626, 0x62d], [0x626, 0x62e], [0x626, 0x645], [0x626,
   0x647], [0x628, 0x62c], [0x628, 0x62d], [0x628, 0x62e], [0x628, 0x645], [0x628, 0x647], [0x62a,
   0x62c], [0x62a, 0x62d], [0x62a, 0x62e], [0x62a, 0x645], [0x62a, 0x647], [0x62b, 0x645], [0x62c,
   0x62d], [0x62c, 0x645], [0x62d, 0x62c], [0x62d, 0x645], [0x62e, 0x62c], [0x62e, 0x645], [0x633,
   0x62c], [0x633, 0x62d], [0x633, 0x62e], [0x633, 0x645], [0x635, 0x62d], [0x635, 0x62e], [0x635,
   0x645], [0x636, 0x62c], [0x636, 0x62d], [0x636, 0x62e], [0x636, 0x645], [0x637, 0x62d], [0x638,
   0x645], [0x639, 0x62c], [0x639, 0x645], [0x63a, 0x62c], [0x63a, 0x645], [0x641, 0x62c], [0x641,
   0x62d], [0x641, 0x62e], [0x641, 0x645], [0x642, 0x62d], [0x642, 0x645], [0x643, 0x62c], [0x643,
   0x62d], [0x643, 0x62e], [0x643, 0x644], [0x643, 0x645], [0x644, 0x62c], [0x644, 0x62d], [0x644,
   0x62e], [0x644, 0x645], [0x644, 0x647], [0x645, 0x62c], [0x645, 0x62d], [0x645, 0x62e], [0x645,
   0x645], [0x646, 0x62c], [0x646, 0x62d], [0x646, 0x62e], [0x646, 0x645], [0x646, 0x647], [0x647,
   0x62c], [0x647, 0x645], [0x647, 0x670], [0x64a, 0x62c], [0x64a, 0x62d], [0x64a, 0x62e], [0x64a,
   0x645], [0x64a, 0x647], [0x626, 0x645], [0x626, 0x647], [0x628, 0x645], [0x628, 0x647], [0x62a,
   0x645], [0x62a, 0x647], [0x62b, 0x645], [0x62b, 0x647], [0x633, 0x645], [0x633, 0x647], [0x634,
   0x645], [0x634, 0x647], [0x643, 0x644], [0x643, 0x645], [0x644, 0x645], [0x646, 0x645], [0x646,
   0x647], [0x64a, 0x645], [0x64a, 0x647], [0x640, 0x64e, 0x651], [0x640, 0x64f, 0x651], [0x640,
   0x650, 0x651], [0x637, 0x649], [0x637, 0x64a], [0x639, 0x649], [0x639, 0x64a], [0x63a, 0x649],
   [0x63a, 0x64a], [0x633, 0x649], [0x633, 0x64a], [0x634, 0x649], [0x634, 0x64a], [0x62d, 0x649],
   [0x62d, 0x64a], [0x62c, 0x649], [0x62c, 0x64a], [0x62e, 0x649], [0x62e, 0x64a], [0x635, 0x649],
   [0x635, 0x64a], [0x636, 0x649], [0x636, 0x64a], [0x634, 0x62c], [0x634, 0x62d], [0x634, 0x62e],
   [0x634, 0x645], [0x634, 0x631], [0x633, 0x631], [0x635, 0x631], [0x636, 0x631], [0x637, 0x649],
   [0x637, 0x64a], [0x639, 0x649], [0x639, 0x64a], [0x63a, 0x649], [0x63a, 0x64a], [0x633, 0x649],
   [0x633, 0x64a], [0x634, 0x649], [0x634, 0x64a], [0x62d, 0x649], [0x62d, 0x64a], [0x62c, 0x649],
   [0x62c, 0x64a], [0x62e, 0x649], [0x62e, 0x64a], [0x635, 0x649], [0x635, 0x64a], [0x636, 0x649],
   [0x636, 0x64a], [0x634, 0x62c], [0x634, 0x62d], [0x634, 0x62e], [0x634, 0x645], [0x634, 0x631],
   [0x633, 0x631], [0x635, 0x631], [0x636, 0x631], [0x634, 0x62c], [0x634, 0x62d], [0x634, 0x62e],
   [0x634, 0x645], [0x633, 0x647], [0x634, 0x647], [0x637, 0x645], [0x633, 0x62c], [0x633, 0x62d],
   [0x633, 0x62e], [0x634, 0x62c], [0x634, 0x62d], [0x634, 0x62e], [0x637, 0x645], [0x638, 0x645],
   [0x627, 0x64b], [0x627, 0x64b]]), (0xfd50, [[0x62a, 0x62c, 0x645], [0x62a, 0x62d, 0x62c],
   [0x62a, 0x62d, 0x62c], [0x62a, 0x62d, 0x645], [0x62a, 0x62e, 0x645], [0x62a, 0x645, 0x62c],
   [0x62a, 0x645, 0x62d], [0x62a, 0x645, 0x62e], [0x62c, 0x645, 0x62d], [0x62c, 0x645, 0x62d],
   [0x62d, 0x645, 0x64a], [0x62d, 0x645, 0x649], [0x633, 0x62d, 0x62c], [0x633, 0x62c, 0x62d],
   [0x633, 0x62c, 0x649], [0x633, 0x645, 0x62d], [0x633, 0x645, 0x62d], [0x633, 0x645, 0x62c],
   [0x633, 0x645, 0x645], [0x633, 0x645, 0x645], [0x635, 0x62d, 0x62d], [0x635, 0x62d, 0x62d],
   [0x635, 0x645, 0x645], [0x634, 0x62d, 0x645], [0x634, 0x62d, 0x645], [0x634, 0x62c, 0x64a],
   [0x634, 0x645, 0x62e], [0x634, 0x645, 0x62e], [0x634, 0x645, 0x645], [0x634, 0x645, 0x645],
   [0x636, 0x62d, 0x649], [0x636, 0x62e, 0x645], [0x636, 0x62e, 0x645], [0x637, 0x645, 0x62d],
   [0x637, 0x645, 0x62d], [0x637, 0x645, 0x645], [0x637, 0x645, 0x64a], [0x639, 0x62c, 0x645],
   [0x639, 0x645, 0x645], [0x639, 0x645, 0x645], [0x639, 0x645, 0x649], [0x63a, 0x645, 0x645],
   [0x63a, 0x645, 0x64a], [0x63a, 0x645, 0x649], [0x641, 0x62e, 0x645], [0x641, 0x62e, 0x645],
   [0x642, 0x645, 0x62d], [0x642, 0x645, 0x645], [0x644, 0x62d, 0x645], [0x644, 0x62d, 0x64a],
   [0x644, 0x62d, 0x649], [0x644, 0x62c, 0x62c], [0x644, 0x62c, 0x62c], [0x644, 0x62e, 0x645],
   [0x644, 0x62e, 0x645], [0x644, 0x645, 0x62d], [0x644, 0x645, 0x62d], [0x645, 0x62d, 0x62c],
   [0x645, 0x62d, 0x645], [0x645, 0x62d, 0x64a], [0x645, 0x62c, 0x62d], [0x645, 0x62c, 0x645],
   [0x645, 0x62e, 0x62c], [0x645, 0x62e, 0x645]]), (0xfd92, [[0x645, 0x62c, 0x62e], [0x647, 0x645,
   0x62c], [0x647, 0x645, 0x645], [0x646, 0x62d, 0x645], [0x646, 0x62d, 0x649], [0x646, 0x62c,
   0x645], [0x646, 0x62c, 0x645], [0x646, 0x62c, 0x649], [0x646, 0x645, 0x64a], [0x646, 0x645,
   0x649], [0x64a, 0x645, 0x645], [0x64a, 0x645, 0x645], [0x628, 0x62e, 0x64a], [0x62a, 0x62c,
   0x64a], [0x62a, 0x62c, 0x649], [0x62a, 0x62e, 0x64a], [0x62a, 0x62e, 0x649], [0x62a, 0x645,
   0x64a], [0x62a, 0x645, 0x649], [0x62c, 0x645, 0x64a], [0x62c, 0x62d, 0x649], [0x62c, 0x645,
   0x649], [0x633, 0x62e, 0x649], [0x635, 0x62d, 0x64a], [0x634, 0x62d, 0x64a], [0x636, 0x62d,
   0x64a], [0x644, 0x62c, 0x64a], [0x644, 0x645, 0x64a], [0x64a, 0x62d, 0x64a], [0x64a, 0x62c,
   0x64a], [0x64a, 0x645, 0x64a], [0x645, 0x645, 0x64a], [0x642, 0x645, 0x64a], [0x646, 0x62d,
   0x64a], [0x642, 0x645, 0x62d], [0x644, 0x62d, 0x645], [0x639, 0x645, 0x64a], [0x643, 0x645,
   0x64a], [0x646, 0x62c, 0x62d], [0x645, 0x62e, 0x64a], [0x644, 0x62c, 0x645], [0x643, 0x645,
   0x645], [0x644, 0x62c, 0x645], [0x646, 0x62c, 0x62d], [0x62c, 0x62d, 0x64a], [0x62d, 0x62c,
   0x64a], [0x645, 0x62c, 0x64a], [0x641, 0x645, 0x64a], [0x628, 0x62d, 0x64a], [0x643, 0x645,
   0x645], [0x639, 0x62c, 0x645], [0x635, 0x645, 0x645], [0x633, 0x62e, 0x64a], [0x646, 0x62c,
   0x64a]]), (0xfdf0, [[0x635, 0x644, 0x6d2], [0x642, 0x644, 0x6d2], [0x627, 0x644, 0x644, 0x647],
   [0x627, 0x643, 0x628, 0x631], [0x645, 0x62d, 0x645, 0x62f], [0x635, 0x644, 0x639, 0x645],
   [0x631, 0x633, 0x648, 0x644], [0x639, 0x644, 0x64a, 0x647], [0x648, 0x633, 0x644, 0x645],
   [0x635, 0x644, 0x649], [0x635, 0x644, 0x649, 0x20, 0x627, 0x644, 0x644, 0x647, 0x20, 0x639,
   0x644, 0x64a, 0x647, 0x20, 0x648, 0x633, 0x644, 0x645], [0x62c, 0x644, 0x20, 0x62c, 0x644,
   0x627, 0x644, 0x647], [0x631, 0x6cc, 0x627, 0x644]]), (0xfe49, [[0x20, 0x305], [0x20, 0x305],
   [0x20, 0x305], [0x20, 0x305]]), (0xfe70, [[0x20, 0x64b], [0x640, 0x64b], [0x20, 0x64c]]),
   (0xfe74, [[0x20, 0x64d]]), (0xfe76, [[0x20, 0x64e], [0x640, 0x64e], [0x20, 0x64f], [0x640,
   0x64f], [0x20, 0x650], [0x640, 0x650], [0x20, 0x651], [0x640, 0x651], [0x20, 0x652], [0x640,
   0x652]]), (0xfef5, [[0x644, 0x622], [0x644, 0x622], [0x644, 0x623], [0x644, 0x623], [0x644,
   0x625], [0x644, 0x625], [0x644, 0x627], [0x644, 0x627]]), (0xffe3, [[0x20, 0x304]]),
   (0x1d15e, [[0x1d157, 0x1d165], [0x1d158, 0x1d165], [0x1d158, 0x1d165, 0x1d16e], [0x1d158,
   0x1d165, 0x1d16f], [0x1d158, 0x1d165, 0x1d170], [0x1d158, 0x1d165, 0x1d171], [0x1d158, 0x1d165,
   0x1d172]]), (0x1d1bb, [[0x1d1b9, 0x1d165], [0x1d1ba, 0x1d165], [0x1d1b9, 0x1d165, 0x1d16e],
   [0x1d1ba, 0x1d165, 0x1d16e], [0x1d1b9, 0x1d165, 0x1d16f], [0x1d1ba, 0x1d165, 0x1d16f]]),
   (0x1f101, [[0x30, 0x2c], [0x31, 0x2c], [0x32, 0x2c], [0x33, 0x2c], [0x34, 0x2c], [0x35, 0x2c],
   [0x36, 0x2c], [0x37, 0x2c], [0x38, 0x2c], [0x39, 0x2c]]), (0x1f110, [[0x28, 0x61, 0x29], [0x28,
   0x62, 0x29], [0x28, 0x63, 0x29], [0x28, 0x64, 0x29], [0x28, 0x65, 0x29], [0x28, 0x66, 0x29],
   [0x28, 0x67, 0x29], [0x28, 0x68, 0x29], [0x28, 0x69, 0x29], [0x28, 0x6a, 0x29], [0x28, 0x6b,
   0x29], [0x28, 0x6c, 0x29], [0x28, 0x6d, 0x29], [0x28, 0x6e, 0x29], [0x28, 0x6f, 0x29], [0x28,
   0x70, 0x29], [0x28, 0x71, 0x29], [0x28, 0x72, 0x29], [0x28, 0x73, 0x29], [0x28, 0x74, 0x29],
   [0x28, 0x75, 0x29], [0x28, 0x76, 0x29], [0x28, 0x77, 0x29], [0x28, 0x78, 0x29], [0x28, 0x79,
   0x29], [0x28, 0x7a, 0x29], [0x3014, 0x73, 0x3015]]), (0x1f12d, [[0x63, 0x64], [0x77, 0x7a]]),
   (0x1f14a, [[0x68, 0x76], [0x6d, 0x76], [0x73, 0x64], [0x73, 0x73], [0x70, 0x70, 0x76], [0x77,
   0x63]]), (0x1f16a, [[0x6d, 0x63], [0x6d, 0x64], [0x6d, 0x72]]), (0x1f190, [[0x64, 0x6a]]),
   (0x1f200, [[0x307b, 0x304b], [0x30b3, 0x30b3]]), (0x1f240, [[0x3014, 0x672c, 0x3015], [0x3014,
   0x4e09, 0x3015], [0x3014, 0x4e8c, 0x3015], [0x3014, 0x5b89, 0x3015], [0x3014, 0x70b9, 0x3015],
   [0x3014, 0x6253, 0x3015], [0x3014, 0x76d7, 0x3015], [0x3014, 0x52dd, 0x3015], [0x3014, 0x6557,
   0x3015]])]

def ignoredRanges : Text.Ranges :=
  [(0xad, 0xad), (0x34f, 0x34f), (0x115f, 0x1160), (0x17b4, 0x17b5), (0x180b, 0x180f),
   (0x200b, 0x200b), (0x2060, 0x2064), (0x206a, 0x206f), (0x3164, 0x3164), (0xfe00, 0xfe0f),
   (0xfeff, 0xfeff), (0xffa0, 0xffa0), (0x1bca0, 0x1bca3), (0x1d173, 0x1d17a), (0xe0100, 0xe01ef)]

/-- Printed characters that have no place in a name, because they contain a full
stop or describe other characters. -/
def excludedRanges : Text.Ranges :=
  [(0x2024, 0x2026), (0x2488, 0x249b), (0x2ff0, 0x2fff), (0x31ef, 0x31ef), (0x33c2, 0x33c2),
   (0x33c7, 0x33c7), (0x33d8, 0x33d8), (0xfe12, 0xfe12), (0xfe19, 0xfe19), (0xfe30, 0xfe30),
   (0xfe52, 0xfe52), (0xfffc, 0xfffd), (0x1f100, 0x1f100)]

/-- Characters that are not printed and still stand for themselves: those of ASCII
and the two that ask for letters to be joined or kept apart. -/
def admittedRanges : Text.Ranges := [(0x0, 0x1f), (0x7f, 0x7f), (0x200c, 0x200d)]

def Run.image? (r : Run) (n : Nat) : Option Nat :=
  if r.first ≤ n ∧ n ≤ r.last ∧ (n - r.first) % r.step = 0 then some (n - r.first + r.target)
  else none

def blockImage? {α : Type} (blocks : List (Nat × List α)) (n : Nat) : Option α :=
  blocks.findSome? fun (first, images) => if first ≤ n then images[n - first]? else none

def single? (n : Nat) : Option Nat :=
  (runs.findSome? (·.image? n)).or ((blockImage? letterBlocks n).or (blockImage? ideographBlocks n))

/-- The text that stands for a character, if it has a place in a name. -/
def image? (c : Char) : Option (List Char) :=
  let n := c.toNat
  if Text.inRanges n ignoredRanges then some []
  else
    match single? n with
    | some m => some [Char.ofNat m]
    | none =>
      match blockImage? expansions n with
      | some ms => some (ms.map Char.ofNat)
      | none =>
        let isRefused := Text.inRanges n excludedRanges
          || (Text.inRanges n Text.unprintedRanges && !Text.inRanges n admittedRanges)
        if isRefused then none else some [c]

def isPlain (c : Char) : Bool := image? c = some [c]

end DeviceLink.Domain
