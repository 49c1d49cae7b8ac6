import SourceAtlas.Unicode.Spans

/-! Lower case of texts in all scripts. -/
namespace SourceAtlas.Unicode

set_option maxRecDepth 20000

def cased : Spans := ⟨Spans.ofGaps [
  65, 26, 6, 26, 47, 1, 10, 1, 4, 1, 5, 23, 1, 31, 1, 195, 1, 4, 4, 208, 2, 35, 7, 2, 30, 5, 96,
  1, 42, 4, 2, 2, 2, 4, 1, 1, 6, 1, 1, 3, 1, 1, 1, 20, 1, 83, 1, 139, 8, 166, 1, 38, 9, 41, 2839,
  38, 1, 1, 5, 1, 2, 43, 1, 4, 672, 86, 2, 6, 2178, 11, 5, 43, 2, 3, 64, 192, 64, 278, 2, 6, 2,
  38, 2, 6, 2, 8, 1, 1, 1, 1, 1, 1, 1, 31, 2, 53, 1, 7, 1, 1, 3, 3, 1, 7, 3, 4, 2, 6, 4, 13, 5, 3,
  1, 7, 116, 1, 13, 1, 16, 13, 101, 1, 4, 1, 2, 10, 1, 1, 3, 5, 6, 1, 1, 1, 1, 1, 1, 4, 1, 6, 4,
  1, 2, 4, 5, 5, 4, 1, 17, 32, 3, 2, 817, 52, 1814, 229, 6, 4, 3, 2, 12, 38, 1, 1, 5, 1, 30994,
  46, 18, 30, 132, 102, 3, 4, 1, 77, 20, 6, 1, 3, 821, 43, 1, 14, 6, 80, 20288, 7, 12, 5, 1033,
  26, 6, 26, 1189, 80, 96, 36, 4, 36, 116, 11, 1, 15, 1, 7, 1, 2, 1, 11, 1, 15, 1, 7, 1, 2, 451,
  1, 2, 3, 1, 42, 1, 9, 1221, 51, 13, 51, 93, 22, 10, 22, 2842, 64, 21856, 64, 32, 25, 2, 25,
  25900, 85, 1, 71, 1, 2, 2, 1, 2, 2, 2, 4, 1, 12, 1, 1, 1, 7, 1, 65, 1, 4, 2, 8, 1, 7, 1, 28, 1,
  4, 1, 5, 1, 1, 3, 7, 1, 340, 2, 25, 1, 25, 1, 31, 1, 25, 1, 31, 1, 25, 1, 31, 1, 25, 1, 31, 1,
  25, 1, 8, 1844, 10, 1, 20, 6, 6, 261, 62, 2194, 68, 2028, 26, 6, 26, 6, 26]⟩

/-- Characters over which one looks for the next letter that has a case. -/
def caseIgnorable : Spans := ⟨Spans.ofGaps [
  39, 1, 6, 1, 11, 1, 35, 1, 1, 1, 71, 1, 4, 1, 1, 1, 4, 1, 2, 2, 503, 192, 4, 2, 4, 1, 9, 2, 1,
  1, 251, 7, 207, 1, 5, 1, 49, 45, 1, 1, 1, 2, 1, 2, 1, 1, 44, 1, 11, 6, 10, 11, 1, 1, 35, 1, 10,
  21, 16, 1, 101, 8, 1, 10, 1, 4, 33, 1, 1, 1, 30, 27, 91, 11, 58, 11, 4, 1, 2, 1, 24, 24, 43, 3,
  44, 1, 7, 2, 5, 9, 41, 58, 55, 1, 1, 1, 4, 8, 4, 1, 3, 7, 10, 2, 13, 1, 15, 1, 58, 1, 4, 4, 8,
  1, 20, 2, 26, 1, 2, 2, 57, 1, 4, 2, 4, 2, 2, 3, 3, 1, 30, 2, 3, 1, 11, 2, 57, 1, 4, 5, 1, 2, 4,
  1, 20, 2, 22, 6, 1, 1, 58, 1, 2, 1, 1, 4, 8, 1, 7, 2, 11, 2, 30, 1, 61, 1, 12, 1, 50, 1, 3, 1,
  55, 1, 1, 3, 5, 3, 1, 4, 7, 2, 11, 2, 29, 1, 58, 1, 2, 1, 6, 1, 5, 2, 20, 2, 28, 2, 57, 2, 4, 4,
  8, 1, 20, 2, 29, 1, 72, 1, 7, 3, 1, 1, 90, 1, 2, 7, 11, 9, 98, 1, 2, 9, 9, 1, 1, 7, 73, 2, 27,
  1, 1, 1, 1, 1, 55, 14, 1, 5, 1, 2, 5, 11, 1, 36, 9, 1, 102, 4, 1, 6, 1, 2, 2, 2, 25, 2, 4, 3,
  16, 4, 13, 1, 2, 2, 6, 1, 15, 1, 94, 1, 608, 3, 946, 3, 29, 2, 30, 2, 30, 2, 64, 2, 1, 7, 8, 1,
  2, 11, 3, 1, 5, 1, 45, 5, 51, 1, 65, 2, 34, 1, 118, 3, 4, 2, 9, 1, 6, 3, 219, 2, 2, 1, 58, 1, 1,
  7, 1, 1, 1, 1, 2, 8, 6, 10, 2, 1, 39, 1, 8, 46, 2, 12, 20, 4, 48, 1, 1, 5, 1, 1, 5, 1, 40, 9,
  12, 2, 32, 4, 2, 2, 1, 3, 56, 1, 1, 2, 3, 1, 1, 3, 58, 8, 2, 2, 64, 6, 82, 3, 1, 13, 1, 7, 4, 1,
  6, 1, 3, 2, 50, 63, 13, 1, 34, 101, 445, 1, 1, 3, 11, 3, 13, 3, 13, 3, 13, 2, 12, 5, 8, 2, 10,
  1, 2, 1, 2, 5, 49, 5, 1, 10, 1, 1, 13, 1, 16, 13, 51, 33, 2955, 2, 113, 3, 125, 1, 15, 1, 96,
  32, 47, 1, 469, 1, 36, 4, 3, 5, 5, 1, 93, 6, 93, 3, 28438, 1, 1250, 6, 270, 1, 98, 4, 1, 10, 1,
  1, 28, 4, 80, 2, 14, 34, 78, 1, 23, 3, 102, 4, 3, 2, 8, 1, 3, 1, 4, 1, 25, 2, 5, 1, 151, 2, 26,
  18, 13, 1, 38, 8, 25, 11, 46, 3, 48, 1, 2, 4, 2, 2, 17, 1, 21, 2, 66, 6, 2, 2, 2, 2, 12, 1, 8,
  1, 35, 1, 11, 1, 51, 1, 1, 3, 2, 2, 5, 2, 1, 1, 27, 1, 14, 2, 5, 2, 1, 1, 100, 5, 9, 3, 121, 1,
  2, 1, 4, 1, 20272, 1, 147, 17, 573, 16, 3, 1, 12, 16, 34, 1, 2, 1, 169, 1, 7, 1, 6, 1, 11, 1,
  35, 1, 1, 1, 47, 1, 45, 2, 67, 1, 21, 3, 513, 1, 226, 1, 149, 5, 1029, 6, 1, 42, 1, 9, 582, 3,
  1, 2, 5, 4, 40, 3, 4, 1, 165, 2, 573, 4, 38, 1, 26, 5, 1, 1, 315, 2, 24, 1, 52, 6, 70, 11, 49,
  4, 123, 1, 54, 15, 41, 1, 2, 2, 10, 3, 49, 4, 2, 2, 2, 1, 4, 1, 10, 1, 50, 3, 36, 5, 1, 8, 62,
  1, 12, 2, 52, 9, 10, 4, 2, 1, 95, 3, 2, 1, 1, 2, 6, 1, 2, 1, 157, 1, 3, 8, 21, 2, 57, 2, 3, 1,
  37, 7, 3, 5, 70, 6, 13, 1, 1, 1, 1, 1, 14, 2, 85, 8, 2, 3, 1, 1, 23, 1, 84, 6, 1, 1, 4, 2, 1, 2,
  238, 4, 6, 2, 1, 2, 27, 2, 85, 8, 2, 1, 1, 2, 106, 1, 1, 1, 2, 6, 1, 1, 101, 1, 1, 1, 2, 4, 1,
  5, 259, 9, 1, 2, 256, 2, 1, 1, 4, 1, 144, 4, 2, 2, 4, 1, 32, 10, 40, 6, 2, 4, 8, 1, 9, 6, 2, 3,
  46, 13, 1, 2, 198, 1, 1, 3, 1, 1, 201, 7, 1, 6, 1, 1, 82, 22, 2, 7, 1, 2, 1, 2, 122, 6, 3, 1, 1,
  2, 1, 7, 1, 1, 72, 2, 3, 1, 1, 1, 65, 1, 281, 2, 11, 2, 52, 5, 5, 1, 1, 1, 23, 1, 5333, 17, 6,
  15, 11464, 12, 3, 3, 2496, 5, 59, 7, 9, 4, 508, 3, 40, 2, 482, 1, 63, 17, 64, 2, 1, 2, 13, 2,
  16380, 4, 1, 7, 1, 2, 3230, 2, 1, 4, 4700, 46, 2, 23, 544, 3, 9, 16, 2, 7, 30, 4, 148, 3, 1979,
  55, 4, 50, 8, 1, 14, 1, 22, 5, 1, 15, 1360, 7, 1, 17, 2, 7, 1, 2, 1, 5, 5, 62, 33, 1, 160, 14,
  368, 1, 61, 4, 507, 5, 254, 2, 243, 1, 2, 1, 7, 2, 5, 1, 9, 1, 464, 7, 109, 8, 2735, 5, 789505,
  1, 30, 96, 128, 240]⟩

/-- Runs of capital letters: the first of the run, its small letter, how many letters the
run has, and how far apart they are. -/
def capitalRuns : List (Nat × Nat × Nat × Nat) := [
  (0x41, 0x61, 26, 1), (0xc0, 0xe0, 23, 1), (0xd8, 0xf8, 7, 1), (0x100, 0x101, 24, 2),
  (0x132, 0x133, 3, 2), (0x139, 0x13a, 8, 2), (0x14a, 0x14b, 23, 2), (0x178, 0xff, 1, 1),
  (0x179, 0x17a, 3, 2), (0x181, 0x253, 1, 1), (0x182, 0x183, 2, 2), (0x186, 0x254, 1, 1),
  (0x187, 0x188, 1, 1), (0x189, 0x256, 2, 1), (0x18b, 0x18c, 1, 1), (0x18e, 0x1dd, 1, 1),
  (0x18f, 0x259, 1, 1), (0x190, 0x25b, 1, 1), (0x191, 0x192, 1, 1), (0x193, 0x260, 1, 1),
  (0x194, 0x263, 1, 1), (0x196, 0x269, 1, 1), (0x197, 0x268, 1, 1), (0x198, 0x199, 1, 1),
  (0x19c, 0x26f, 1, 1), (0x19d, 0x272, 1, 1), (0x19f, 0x275, 1, 1), (0x1a0, 0x1a1, 3, 2),
  (0x1a6, 0x280, 1, 1), (0x1a7, 0x1a8, 1, 1), (0x1a9, 0x283, 1, 1), (0x1ac, 0x1ad, 1, 1),
  (0x1ae, 0x288, 1, 1), (0x1af, 0x1b0, 1, 1), (0x1b1, 0x28a, 2, 1), (0x1b3, 0x1b4, 2, 2),
  (0x1b7, 0x292, 1, 1), (0x1b8, 0x1b9, 1, 1), (0x1bc, 0x1bd, 1, 1), (0x1c4, 0x1c6, 1, 1),
  (0x1c5, 0x1c6, 1, 1), (0x1c7, 0x1c9, 1, 1), (0x1c8, 0x1c9, 1, 1), (0x1ca, 0x1cc, 1, 1),
  (0x1cb, 0x1cc, 9, 2), (0x1de, 0x1df, 9, 2), (0x1f1, 0x1f3, 1, 1), (0x1f2, 0x1f3, 2, 2),
  (0x1f6, 0x195, 1, 1), (0x1f7, 0x1bf, 1, 1), (0x1f8, 0x1f9, 20, 2), (0x220, 0x19e, 1, 1),
  (0x222, 0x223, 9, 2), (0x23a, 0x2c65, 1, 1), (0x23b, 0x23c, 1, 1), (0x23d, 0x19a, 1, 1),
  (0x23e, 0x2c66, 1, 1), (0x241, 0x242, 1, 1), (0x243, 0x180, 1, 1), (0x244, 0x289, 1, 1),
  (0x245, 0x28c, 1, 1), (0x246, 0x247, 5, 2), (0x370, 0x371, 2, 2), (0x376, 0x377, 1, 1),
  (0x37f, 0x3f3, 1, 1), (0x386, 0x3ac, 1, 1), (0x388, 0x3ad, 3, 1), (0x38c, 0x3cc, 1, 1),
  (0x38e, 0x3cd, 2, 1), (0x391, 0x3b1, 17, 1), (0x3a3, 0x3c3, 9, 1), (0x3cf, 0x3d7, 1, 1),
  (0x3d8, 0x3d9, 12, 2), (0x3f4, 0x3b8, 1, 1), (0x3f7, 0x3f8, 1, 1), (0x3f9, 0x3f2, 1, 1),
  (0x3fa, 0x3fb, 1, 1), (0x3fd, 0x37b, 3, 1), (0x400, 0x450, 16, 1), (0x410, 0x430, 32, 1),
  (0x460, 0x461, 17, 2), (0x48a, 0x48b, 27, 2), (0x4c0, 0x4cf, 1, 1), (0x4c1, 0x4c2, 7, 2),
  (0x4d0, 0x4d1, 48, 2), (0x531, 0x561, 38, 1), (0x10a0, 0x2d00, 38, 1), (0x10c7, 0x2d27, 1, 1),
  (0x10cd, 0x2d2d, 1, 1), (0x13a0, 0xab70, 80, 1), (0x13f0, 0x13f8, 6, 1),
  (0x1c89, 0x1c8a, 1, 1), (0x1c90, 0x10d0, 43, 1), (0x1cbd, 0x10fd, 3, 1),
  (0x1e00, 0x1e01, 75, 2), (0x1e9e, 0xdf, 1, 1), (0x1ea0, 0x1ea1, 48, 2), (0x1f08, 0x1f00, 8, 1),
  (0x1f18, 0x1f10, 6, 1), (0x1f28, 0x1f20, 8, 1), (0x1f38, 0x1f30, 8, 1), (0x1f48, 0x1f40, 6, 1),
  (0x1f59, 0x1f51, 4, 2), (0x1f68, 0x1f60, 8, 1), (0x1f88, 0x1f80, 8, 1), (0x1f98, 0x1f90, 8, 1),
  (0x1fa8, 0x1fa0, 8, 1), (0x1fb8, 0x1fb0, 2, 1), (0x1fba, 0x1f70, 2, 1), (0x1fbc, 0x1fb3, 1, 1),
  (0x1fc8, 0x1f72, 4, 1), (0x1fcc, 0x1fc3, 1, 1), (0x1fd8, 0x1fd0, 2, 1), (0x1fda, 0x1f76, 2, 1),
  (0x1fe8, 0x1fe0, 2, 1), (0x1fea, 0x1f7a, 2, 1), (0x1fec, 0x1fe5, 1, 1), (0x1ff8, 0x1f78, 2, 1),
  (0x1ffa, 0x1f7c, 2, 1), (0x1ffc, 0x1ff3, 1, 1), (0x2126, 0x3c9, 1, 1), (0x212a, 0x6b, 1, 1),
  (0x212b, 0xe5, 1, 1), (0x2132, 0x214e, 1, 1), (0x2160, 0x2170, 16, 1), (0x2183, 0x2184, 1, 1),
  (0x24b6, 0x24d0, 26, 1), (0x2c00, 0x2c30, 48, 1), (0x2c60, 0x2c61, 1, 1),
  (0x2c62, 0x26b, 1, 1), (0x2c63, 0x1d7d, 1, 1), (0x2c64, 0x27d, 1, 1), (0x2c67, 0x2c68, 3, 2),
  (0x2c6d, 0x251, 1, 1), (0x2c6e, 0x271, 1, 1), (0x2c6f, 0x250, 1, 1), (0x2c70, 0x252, 1, 1),
  (0x2c72, 0x2c73, 1, 1), (0x2c75, 0x2c76, 1, 1), (0x2c7e, 0x23f, 2, 1), (0x2c80, 0x2c81, 50, 2),
  (0x2ceb, 0x2cec, 2, 2), (0x2cf2, 0x2cf3, 1, 1), (0xa640, 0xa641, 23, 2),
  (0xa680, 0xa681, 14, 2), (0xa722, 0xa723, 7, 2), (0xa732, 0xa733, 31, 2),
  (0xa779, 0xa77a, 2, 2), (0xa77d, 0x1d79, 1, 1), (0xa77e, 0xa77f, 5, 2), (0xa78b, 0xa78c, 1, 1),
  (0xa78d, 0x265, 1, 1), (0xa790, 0xa791, 2, 2), (0xa796, 0xa797, 10, 2), (0xa7aa, 0x266, 1, 1),
  (0xa7ab, 0x25c, 1, 1), (0xa7ac, 0x261, 1, 1), (0xa7ad, 0x26c, 1, 1), (0xa7ae, 0x26a, 1, 1),
  (0xa7b0, 0x29e, 1, 1), (0xa7b1, 0x287, 1, 1), (0xa7b2, 0x29d, 1, 1), (0xa7b3, 0xab53, 1, 1),
  (0xa7b4, 0xa7b5, 8, 2), (0xa7c4, 0xa794, 1, 1), (0xa7c5, 0x282, 1, 1), (0xa7c6, 0x1d8e, 1, 1),
  (0xa7c7, 0xa7c8, 2, 2), (0xa7cb, 0x264, 1, 1), (0xa7cc, 0xa7cd, 8, 2), (0xa7dc, 0x19b, 1, 1),
  (0xa7f5, 0xa7f6, 1, 1), (0xff21, 0xff41, 26, 1), (0x10400, 0x10428, 40, 1),
  (0x104b0, 0x104d8, 36, 1), (0x10570, 0x10597, 11, 1), (0x1057c, 0x105a3, 15, 1),
  (0x1058c, 0x105b3, 7, 1), (0x10594, 0x105bb, 2, 1), (0x10c80, 0x10cc0, 51, 1),
  (0x10d50, 0x10d70, 22, 1), (0x118a0, 0x118c0, 32, 1), (0x16e40, 0x16e60, 32, 1),
  (0x16ea0, 0x16ebb, 25, 1), (0x1e900, 0x1e922, 34, 1)]

def smallIn? (point : Nat) : Nat × Nat × Nat × Nat → Option Nat
  | (first, small, count, step) =>
    let place := point - first
    if first ≤ point && place % step = 0 && place / step < count then some (small + place) else none

/-- The small form of a character by itself. Only the dotted capital I has two characters. -/
def smallForm (c : Char) : List Char :=
  if c = 'İ' then ['i', '\u0307']
  else
    match capitalRuns.findSome? (smallIn? c.toNat) with
    | some small => [Char.ofNat small]
    | none => [c]

def casedNext : List Char → Bool
  | [] => false
  | c :: rest => if caseIgnorable.contains c then casedNext rest else cased.contains c

/-- The small form of a text, given whether a letter stands in front of it. A sigma at
the end of a word has a form of its own. -/
def lowercaseAfter (letterBefore : Bool) : List Char → List Char
  | [] => []
  | c :: rest =>
    let small :=
      if c = 'Σ' then [if letterBefore && !casedNext rest then 'ς' else 'σ'] else smallForm c
    let letter := if caseIgnorable.contains c then letterBefore else cased.contains c
    small ++ lowercaseAfter letter rest

def lowercase (text : String) : String :=
  String.ofList (lowercaseAfter false text.toList)

end SourceAtlas.Unicode
