/-! The sets of symbols and the rules that the rows of the automaton speak of. -/
namespace SourceAtlas.Python.Automaton

set_option maxRecDepth 20000

def symbolSets : Array Nat := #[
  0xfe7f7ffffffffffffffffffffff, 3 <<< 99, 1, 2, 8, 32, 128, 2048, 4096, 16384, 65536, 131072,
  262144, 524288, 1048576, 2097152, 4194304, 67108864, 1 <<< 28, 1 <<< 29, 1 <<< 31, 1 <<< 32,
  1 <<< 36, 1 <<< 37, 1 <<< 40, 1 <<< 41, 1 <<< 42, 1 <<< 43, 1 <<< 45, 1 <<< 46, 1 <<< 48,
  32801 <<< 49, 1 <<< 52, 1 <<< 55, 1 <<< 73, 1 <<< 87, 1889 <<< 88, 1 <<< 95, 1 <<< 104, 1 <<< 108,
  0x4402472400003 <<< 109 ||| 1 <<< 238, 0xf00000fcd19 <<< 111, 1 <<< 123 ||| 0x40000000331 <<< 186,
  1 <<< 124, 1 <<< 160 ||| 1 <<< 254, 1 <<< 179, 3 <<< 180, 1 <<< 184, 1 <<< 188, 1 <<< 189,
  0x8217bc02003 <<< 192, 19 <<< 197, 1 <<< 199, 3 <<< 202, 1 <<< 230, 1 <<< 103, 1 <<< 161,
  0x20000001feff09000040402414, 512, 0x40014001000, 32768, 0x7ffc000000100000800000, 1 <<< 39,
  33 <<< 49, 1 <<< 64, 0x8217bc02c03 <<< 192, 1 <<< 207, 31 <<< 208, 8389120, 0x7ffc0000001 <<< 44,
  5 <<< 26, 1 <<< 101, 1 <<< 102, 1 <<< 110, 0x20000001feff09008040400414, 8192, 1 <<< 120,
  0x20000001feff09008040402414, 2 ||| 1889 <<< 88, 0x20000001feff89008040402414,
  0x20007ffdfe0380100040c00604, 0xfc09008000002010, 0x20000001feff89108040c02634,
  0x20000001fe0380100040c00624, 0x100001feffa9108040c02410, 0x100001fe03a0100060c00600,
  0x100001feffa9108040c02610, 0x1feff89008060402710, 1 <<< 44, 0x1feff89108042c02610,
  0x1feffa9008060c02610, 0x1feffa9008040402610, 545259520, 0x1feff89108040c02710,
  0x1fe0380100060c00700, 0x1feff89008040402710, 0x1feff89008060402410, 768, 0x1fe0380100042c00600,
  0x1feff89808040402610, 0x800000000200, 0x1feff89808060402610, 0x20007ffc000000100000800204,
  0x1fe0380800060c00600, 0x1feff89808040c02610, 0x7ffc000000100000800200, 256, 257 <<< 149,
  1 <<< 177, 1 <<< 201, 1 <<< 225, 1 <<< 47, 0x10000000000101 <<< 149, 1 <<< 53, 1 <<< 150,
  1 <<< 218, 1 <<< 149, 1 <<< 157, 0xd800000001 <<< 162, 0x20007ffc000000100000800004,
  0x80000000a000000001 <<< 162, 1 <<< 145, 3 <<< 149 ||| 1 <<< 213, 0x100000000020100000800200,
  1 <<< 162, 809500928, 0x40004001000, 513 <<< 187, 0x800030400000, 0x20000030400000,
  4 ||| 1 <<< 101, 1 <<< 150 ||| 1 <<< 218, 36 ||| 1 <<< 101, 8388608, 1 <<< 204, 8389376,
  1 <<< 144, 0x40000200, 0x20000001feffcb408040402c94, 0x107e180020100d36f31b47f58ab, 33554432,
  1 <<< 33, 1 <<< 35, 1 <<< 133, 1 <<< 140 ||| 1 <<< 248, 1 <<< 142, 1 <<< 34,
  1 <<< 141 ||| 1 <<< 249, 0x187e180020100d36f31b47f58aa, 0x20000001feffcb008040402c94, 1 <<< 156,
  16777216, 1 <<< 132, 1 <<< 244, 0x107e180020100d36f39b67f58ab, 0x187e180020100d36f39b67f58aa,
  0xfc4b408000002890, 0x20007ffdfeffcb508040c02e94, 0x107e180020100d36f31b67f58ab,
  0x187e180020100d36f31b67f58aa, 0x20007ffdfe0380100040400604, 0x8000000800010, 0xfc43408000002880,
  0x107e180020100d36f39b77f58ab, 0x107e180020100d36f3bb67f58ab, 0x107e180020100d36f3db67f58ab,
  0x187e180020100d36f3bb67f58aa, 0x187e180020100d36f3db67f58aa, 0x187e180020100d36f39b77f58aa,
  0x100000000020100000800000, 0x107e180020100d36f31b77f58ab, 0x187e180020100d36f31b77f58aa,
  0x107e180020100d36f39b47f58ab, 0x187e180020100d36f39b47f58aa, 1 <<< 30,
  0x20000001feffcb508040c02eb4, 68719476737 <<< 230, 0x20000000000300100000c00624, 16,
  0x1c01000000000800, 0x8000000000002000, 0xfe0000000040000000, 1 <<< 51, 1 <<< 61, 1 <<< 62,
  1 <<< 72, 1 <<< 158 ||| 1 <<< 222, 1 <<< 260, 0x20000001feffcb100040c02e24,
  0x20000001fee388100040c02624, 0x20000001fee3ca100040c02624, 0x20000001fe0388100040c00624,
  0x20000001fe2388100040c00624, 0x20000001fe6388100040c00624, 0x320000030c00600,
  0x1feffeb408070c02e90, 0x100000000320100000c00600, 0x100001feffeb508040c02e90,
  0x20000000000300000000c00604, 0x120000001feffcb508040c02eb4, 0x300000030400700,
  0x1feffcb408070402f90, 0x300100002c00600, 0x1feffcb508042c02e90, 0x300800030400600,
  0x1feffcbc08070402e90, 0x1feffeb000070c02e00, 0x1fee3a8000070c02600, 0x1fe03a0000070c00600,
  0x1fee3ea000070c02600, 0x1fe03a8000070c00600, 0x1fe23a8000070c00600, 0x1fe63a8000070c00600,
  0x100001feffeb100040c02e00, 0x100001feffeb508070c02e90, 0x100001fee3a8100040c02600,
  0x100001fe03a0100040c00600, 0x100001fee3ea100040c02600, 0x100001fe03a8100040c00600,
  0x100001fe23a8100040c00600, 0x100001fe63a8100040c00600, 0x1feffcb508040c02f90, 0x300100000c00700,
  0x20000001feffcb108040c02c94, 0x1feffcb000070402f00, 0x1fee388000070402700, 0x1fe0380000070400700,
  0x1fee3ca000070402700, 0x1fe0388000070400700, 0x1fe2388000070400700, 0x1fe6388000070400700,
  0x100001feffeb508040c02c90, 0x1feffcb100042c02e00, 0x1feffeb408040402e90, 813694976,
  0x1fee388100042c02600, 0x1fee3ca100042c02600, 0x1fe0388100042c00600, 0x1fe2388100042c00600,
  0x1fe6388100042c00600, 0x1feffcb108040c02f90, 0x1feffcb800070402e00, 0x1fee388800070402600,
  0x1fe0380800070400600, 0x1fee3ca800070402600, 0x1fe0388800070400600, 0x1fe2388800070400600,
  0x1fe6388800070400600, 0x100000001feffeb408070c02e90, 0x100100001feffeb508040c02e90,
  0x1feffcb100040c02f00, 0x1fee388100040c02700, 0x1fe0380100040c00700, 0x1fee3ca100040c02700,
  0x1fe0388100040c00700, 0x1fe2388100040c00700, 0x1fe6388100040c00700, 0x1feffcbc08040c02e90,
  0x300800000c00600, 0x1feffcb408070402c90, 0x1feffcb108040c02e90, 0x1feffcb408040402f90, 3 <<< 28,
  0x100000001feffcb408070402f90, 0x1feffcbc08040402e90, 0x1feffcb408070c02f90,
  0x100000001feffcb508042c02e90, 0x1feffcb808040c02e90, 0x100000001feffcbc08070402e90,
  0x300000000400700, 0x300800000400600, 0x100000001feffcb508040c02f90, 0x1feffcb800040c02e00,
  0x1fee388800040c02600, 0x1fe0380800040c00600, 0x1fee3ca800040c02600, 0x1fe0388800040c00600,
  0x1fe2388800040c00600, 0x1fe6388800040c00600, 0x320000000400600, 0x20000000000008100000800014,
  0x1fe0380000040400400, 0x8100000800310, 0x100000001feffcbc08040c02e90, 0x8100000800210,
  0x8800000800210, 0x7ffc00fc4b508000802a90, 0x8000000800, 1 <<< 49, 1 <<< 50 ||| 7 <<< 96,
  3 <<< 93, 1 <<< 163, 1 <<< 164, 1853 <<< 165 ||| 1 <<< 229, 65 <<< 166, 1 <<< 227,
  1597 <<< 165 ||| 1 <<< 229, 1 <<< 171, 1 <<< 173, 0x20000000000308100000c00634, 0x308100002c00610,
  0x308100000c00710, 0x308800000c00610, 1 <<< 259, 1 <<< 58, 1 <<< 148, 1 <<< 176, 1 <<< 178,
  1 <<< 180, 0xc0000001000003 <<< 182, 3 <<< 184, 8191 <<< 74, 0x7ffc000000100040800200, 1024,
  1 <<< 56, 1 <<< 57, 1 <<< 223, 1 <<< 226, 1 <<< 264, 0x20000000000008100000800234,
  0x20000000000008100000c00234, 0x20000000000008100000c00634, 0x20000000000208100000c00634,
  1 <<< 253, 1 <<< 243, 196611 <<< 89, 1 <<< 107, 68719476739 <<< 231, 1 <<< 268, 0x8100002800210,
  0x8100002c00210, 0x8100002c00610, 0x208100002c00610, 0x8100000c00310, 0x8100000c00710,
  0x208100000c00710, 0x8000000c00680, 1 <<< 255, 0x8000000c00688, 0x20000030800200,
  0x20000030c00200, 0x20000030c00600, 0x220000030c00600, 0x100000000020100000c00200,
  0x100000000020100000c00600, 0x100000000220100000c00600, 0x8800000c00210, 0x8800000c00610,
  0x208800000c00610, 513 <<< 146, 1 <<< 242, 548 ||| 1 <<< 101, 1 <<< 261, 0x20000030000200,
  809501440, 0x8000000c00600, 805307136, 809502464, 0x200000030400700, 0x8000000c00698,
  0x800030400200, 0x8000000000780, 0x20000030400200, 0x8800000000680, 0x800030000200,
  0x800030400600, 0x200800030400600, 0x28000000000680, 64, 1 <<< 112, 1 <<< 113 ||| 1 <<< 163,
  1 <<< 240, 1 <<< 52 ||| 1 <<< 107, 1 <<< 245, 1 <<< 262, 1 <<< 116, 1 <<< 117, 1 <<< 118,
  0x2000000003 <<< 226, 516 ||| 1 <<< 101, 0x8000000000700, 0x8800000000600, 0x28000000000600,
  1540 ||| 1 <<< 101, 131585 <<< 28, 0x20000000000200, 0xe0006000000001 <<< 52, 1 <<< 252,
  0x8100000800290, 1 <<< 265, 1 <<< 247, 0xc00600, 1 <<< 256, 0x20000000000000100000000004,
  0x8000000000790, 0x8800000000690, 0x100000000300, 0x28000000000690, 1 <<< 241, 1 <<< 158,
  1 <<< 92, 1 <<< 234, 1 <<< 91, 1 <<< 232, 1 <<< 269, 1556 ||| 1 <<< 101, 0x100000000200,
  0x8000000800000, 1 <<< 257, 0xc00400, 1792, 0x800000000600, 0x20000000000600, 0x28000000800600,
  10, 1 <<< 147, 1 <<< 251, 1180161 <<< 28, 1 <<< 27, 1 <<< 136, 1 <<< 246, 0xc00200, 0xc00000, 4,
  1 <<< 239, 1 <<< 250, 1 <<< 258, 1 <<< 135, 0x100000800200, 7 <<< 33, 0x8000000003 <<< 52,
  0x40000004 ||| 1 <<< 101, 1 <<< 38, 0x4000800000, 1 <<< 27 ||| 1 <<< 103, 2 ||| 1 <<< 50,
  0x8000000000000c0014001000, 1 <<< 9 ||| 1 <<< 259, 1 <<< 9 ||| 1 <<< 264,
  0x10008000000101 <<< 149, 1 <<< 9 ||| 513 <<< 187 ||| 1 <<< 265, 1 <<< 30 ||| 513 <<< 187,
  1 <<< 30 ||| 1048577 <<< 179, 1 <<< 29 ||| 1048577 <<< 179, 1 <<< 9 ||| 1 <<< 265,
  513 <<< 187 ||| 1 <<< 265, 1048577 <<< 179, 1 <<< 9 ||| 1 <<< 243, 1 <<< 23 ||| 1 <<< 188,
  1 <<< 9 ||| 1 <<< 242, 1 <<< 9 ||| 1 <<< 250, 1 <<< 145 ||| 1 <<< 250, 128 ||| 1 <<< 145,
  7 <<< 140 ||| 3 <<< 248, 513 <<< 101, 2 ||| 1889 <<< 88 ||| 0x8617bc02c03 <<< 192,
  2 ||| 0xc00013 <<< 180, 1 <<< 133 ||| 1 <<< 244, 2 ||| 3 <<< 202, 65537 <<< 188,
  1 <<< 9 ||| 1 <<< 261, 4 ||| 1 <<< 239, 0, 513 <<< 133, 3 <<< 140 ||| 3 <<< 248, 67108865 <<< 162,
  268435457 <<< 133, 1 <<< 102 ||| 1 <<< 161, 1 <<< 23 ||| 1 <<< 102, 1 <<< 23 ||| 67108865 <<< 162,
  1 <<< 30 ||| 67108865 <<< 162, 1 <<< 9 ||| 1 <<< 245, 5 <<< 156, 2 ||| 1 <<< 156, 0x2000000002,
  513 <<< 28, 1 <<< 147 ||| 1 <<< 207, 1 <<< 38 ||| 1 <<< 156, 2 ||| 1 <<< 147,
  1 <<< 123 ||| 0x40000000339 <<< 186, 0xfc4b008000002800, 1 <<< 189 ||| 1 <<< 260,
  0x7f800000001 <<< 30 ||| 1 <<< 260, 8193 <<< 188, 1 <<< 9 ||| 1 <<< 150 ||| 1 <<< 218,
  1 <<< 9 ||| 1 <<< 262, 1 <<< 9 ||| 0x10000008000000003 <<< 149, 1 <<< 9 ||| 1 <<< 253,
  0x10000008000000003 <<< 149, 1 <<< 179 ||| 1 <<< 259, 2049 <<< 188, 1 <<< 9 ||| 1 <<< 258,
  3 <<< 56, 9729 <<< 188, 32505857 <<< 188, 1 <<< 188 ||| 1 <<< 243, 2 ||| 1 <<< 255,
  16 ||| 1 <<< 255, 2 ||| 1 <<< 230, 3 <<< 93 ||| 1025 <<< 163 ||| 1 <<< 230,
  196611 <<< 89 ||| 1 <<< 268, 1 <<< 188 ||| 1 <<< 242, 65537 <<< 188 ||| 1 <<< 261,
  0x20d800000001 <<< 162, 0x100000800000, 0x10008000000101 <<< 149 ||| 1 <<< 264,
  1 <<< 188 ||| 1 <<< 245, 2 ||| 1 <<< 180, 1 <<< 44 ||| 1 <<< 92 ||| 1 <<< 234,
  0x100000000010000008000000003 <<< 149, 1 <<< 92 ||| 1 <<< 234, 1 <<< 44 ||| 1 <<< 92,
  1 <<< 50 ||| 7 <<< 96 ||| 1983 <<< 165 ||| 1 <<< 229, 1 <<< 9 ||| 1 <<< 252,
  1 <<< 50 ||| 7 <<< 96 ||| 1853 <<< 165 ||| 1 <<< 229,
  1 <<< 50 ||| 7 <<< 96 ||| 0x8000001000000000000073d <<< 165, 1 <<< 51 ||| 1 <<< 256,
  2 ||| 3 <<< 184, 0x400000000001 <<< 117, 1 <<< 9 ||| 1 <<< 241, 1 <<< 91 ||| 1 <<< 269,
  0x200000000001 <<< 207, 5 <<< 171, 1 <<< 9 ||| 1 <<< 247, 1 <<< 9 ||| 1 <<< 257, 16 ||| 1 <<< 240,
  0x400000000001 <<< 117 ||| 1 <<< 241, 2 ||| 1 <<< 251, 1 <<< 9 ||| 1 <<< 251,
  1 <<< 164 ||| 1 <<< 247, 5 <<< 171 ||| 1 <<< 257, 2 ||| 0x30000000400003d <<< 180,
  0xf00000fcd19 <<< 111 ||| 1 <<< 239, 1 <<< 150 ||| 0x100000000001 <<< 218,
  1 <<< 178 ||| 1 <<< 258, 1 <<< 50 ||| 7 <<< 96 ||| 1597 <<< 165 ||| 1 <<< 229, 5 <<< 116,
  1 <<< 9 ||| 1048577 <<< 227, 1 <<< 9 ||| 1 <<< 227]

/-- Rules as a symbol, a precedence plus one, the index of the names for the parts, and the
sets of symbols that each part may be. -/
def rules : Array (Nat × Nat × Nat × List Nat) := #[
  (108, 1, 0, []), (108, 1, 0, [40]), (238, 1, 0, [40, 40]), (189, 1, 1, [436]),
  (179, 1, 1, [436]), (124, 1, 1, [436]), (184, 1, 2, [7, 436]), (199, 1, 0, [45, 437]),
  (199, 1, 0, [45, 303, 58]), (201, 1, 0, [35]), (225, 1, 0, [439, 438]),
  (225, 1, 0, [439, 318, 58]), (226, 1, 0, [262, 443, 442, 441, 440]),
  (226, 1, 0, [262, 443, 442, 441, 445, 444]), (226, 1, 0, [18, 19, 446, 174, 127, 389, 58]),
  (162, 1, 0, [48, 447]), (162, 1, 0, [48, 324, 58]), (127, 1, 0, [12]), (125, 1, 0, [10]),
  (204, 1, 0, [133]), (204, 1, 0, [448, 448]), (185, 1, 2, [62, 436]), (122, 1, 0, [48, 447]),
  (119, 1, 0, [8, 76, 449]), (119, 0, 0, [8, 48, 449]), (144, 1, 0, [121, 450]),
  (122, 1, 0, [48, 324, 58]), (119, 1, 0, [8, 76, 350, 58]), (119, 0, 0, [8, 48, 350, 58]),
  (144, 1, 0, [452, 451, 97]), (204, 1, 0, [448, 448, 448]), (204, 1, 0, [448, 448, 448, 448]),
  (139, 1, 3, [21, 133, 454, 453]), (139, 1, 0, [21, 133, 72, 56, 453]), (189, 1, 0, [455]),
  (179, 1, 0, [456]), (124, 1, 0, [3]), (131, 1, 4, [16, 48, 133, 454]),
  (131, 1, 4, [16, 48, 133, 454, 457]), (131, 1, 0, [16, 48, 133, 72, 56]),
  (248, 1, 0, [144, 144]), (249, 1, 0, [147, 147]), (131, 1, 0, [16, 48, 133, 72, 56, 457]),
  (189, 1, 5, [47]), (216, 1, 0, [6, 106]), (180, 1, 0, [6, 106]), (184, 1, 0, [7, 458]),
  (214, 1, 0, [29, 111]), (181, 1, 0, [29, 111]), (202, 1, 0, [49, 178, 3]),
  (203, 1, 0, [49, 29, 459, 111]), (203, 1, 0, [49, 29, 459, 460, 111]), (244, 1, 0, [153, 153]),
  (203, 1, 0, [49, 29, 459, 352, 58, 111]), (208, 1, 0, [287, 3]), (110, 1, 0, [41, 71]),
  (110, 1, 0, [41, 461, 71]), (110, 1, 0, [41, 424, 423, 71]), (140, 1, 3, [141, 133, 454]),
  (140, 1, 0, [141, 133, 72, 56]), (140, 1, 4, [141, 48, 133, 454]),
  (141, 1, 4, [146, 48, 133, 454]), (140, 1, 0, [141, 48, 133, 72, 56]),
  (141, 1, 0, [146, 48, 133, 72, 56]), (140, 1, 6, [141, 48, 58, 48, 133, 454]),
  (141, 1, 6, [462, 462, 462, 462, 462, 462]), (140, 1, 0, [141, 48, 58, 48, 133, 72, 56]),
  (141, 1, 0, [462, 462, 462, 462, 462, 462, 56]), (161, 1, 0, [55]), (161, 1, 0, [40, 55]),
  (138, 1, 4, [20, 48, 133, 454]), (244, 1, 0, [152]), (138, 1, 0, [20, 48, 133, 72, 56]),
  (139, 1, 3, [21, 133, 454, 464, 463]), (137, 1, 6, [19, 446, 174, 465, 133, 454]),
  (139, 1, 0, [21, 133, 72, 56, 464, 463]), (137, 1, 7, [18, 19, 446, 174, 465, 133, 454]),
  (137, 1, 0, [19, 446, 174, 465, 133, 72, 56]), (132, 1, 4, [151, 48, 133, 454]),
  (137, 1, 0, [262, 443, 442, 470, 469, 468, 467, 466]), (132, 1, 0, [151, 48, 133, 72, 56]),
  (133, 1, 3, [140, 133, 454]), (133, 1, 0, [140, 133, 72, 56]), (159, 1, 0, [44, 349]),
  (177, 1, 0, [45, 437]), (177, 1, 0, [45, 303, 58]), (135, 1, 0, [71]),
  (134, 1, 0, [17, 48, 133, 427]), (143, 1, 4, [22, 136, 133, 454]),
  (155, 1, 4, [28, 3, 133, 454]), (134, 1, 0, [17, 48, 471, 133, 427]), (135, 1, 0, [72, 55]),
  (143, 1, 8, [18, 22, 136, 133, 454]), (138, 1, 4, [20, 48, 133, 454, 143]),
  (143, 1, 0, [22, 136, 133, 72, 56]), (146, 1, 8, [23, 3, 415, 133, 454]),
  (155, 1, 0, [28, 3, 133, 72, 56]), (155, 1, 8, [28, 3, 472, 133, 454]),
  (131, 1, 4, [16, 48, 133, 454, 153, 143]), (135, 1, 0, [72, 420, 55]),
  (134, 1, 0, [17, 48, 373, 58, 133, 427]), (143, 1, 0, [18, 22, 136, 133, 72, 56]),
  (146, 1, 6, [475, 474, 473, 415, 133, 454]), (138, 1, 0, [20, 48, 133, 72, 56, 143]),
  (142, 1, 3, [142, 133, 454]), (139, 1, 3, [21, 133, 454, 464, 143, 145]),
  (146, 1, 0, [23, 3, 415, 133, 72, 56]), (155, 1, 0, [28, 3, 472, 133, 72, 56]),
  (155, 1, 6, [28, 3, 150, 399, 133, 454]), (131, 1, 0, [16, 48, 133, 72, 56, 153, 143]),
  (146, 1, 0, [475, 474, 473, 415, 133, 72, 56]),
  (146, 1, 7, [475, 474, 478, 477, 476, 133, 454]),
  (137, 1, 6, [19, 446, 174, 465, 133, 454, 143]), (142, 1, 0, [142, 133, 72, 56]),
  (139, 1, 0, [21, 133, 72, 56, 464, 143, 145]), (155, 1, 0, [28, 3, 150, 399, 133, 72, 56]),
  (137, 1, 7, [18, 19, 446, 174, 465, 133, 454, 143]),
  (146, 1, 9, [475, 474, 473, 415, 432, 66, 133, 454]),
  (146, 1, 0, [475, 474, 478, 477, 476, 133, 72, 56]),
  (137, 1, 0, [18, 19, 446, 174, 465, 133, 72, 56, 143]),
  (146, 1, 0, [475, 474, 473, 415, 432, 66, 133, 72, 56]),
  (146, 1, 10, [18, 23, 3, 150, 415, 432, 66, 133, 454]),
  (146, 1, 0, [18, 23, 3, 150, 415, 432, 66, 133, 72, 56]), (237, 1, 0, [7]),
  (229, 1, 0, [54, 176]), (266, 1, 0, [176, 176]), (188, 1, 0, [479]), (193, 1, 0, [31, 49]),
  (235, 1, 0, [37, 49]), (192, 1, 0, [49, 480, 49]), (260, 1, 0, [482, 481]),
  (260, 1, 11, [33, 174, 49]), (260, 1, 12, [185, 33, 49]), (230, 1, 0, [38, 326]),
  (230, 1, 0, [38, 327, 326]), (217, 1, 0, [32, 113]), (205, 1, 0, [49, 186]),
  (224, 1, 0, [6, 483, 106]), (216, 1, 0, [6, 110, 106]), (214, 1, 0, [29, 110, 111]),
  (217, 1, 0, [32, 484, 113]), (215, 1, 0, [32, 110, 113]), (158, 1, 0, [6, 106]),
  (222, 1, 0, [6, 48, 316, 106]), (219, 1, 0, [29, 48, 316, 111]),
  (217, 1, 0, [32, 131, 485, 113]), (221, 1, 0, [32, 48, 316, 113]),
  (220, 1, 0, [32, 115, 316, 113]), (158, 1, 0, [6, 486, 106]), (158, 1, 13, [6, 117, 106]),
  (217, 1, 0, [32, 131, 374, 58, 113]), (158, 1, 0, [6, 488, 487, 106]),
  (158, 1, 13, [6, 117, 487, 106]), (158, 1, 0, [6, 488, 323, 58, 106]),
  (158, 1, 13, [6, 117, 323, 58, 106]), (194, 1, 0, [49, 187]), (185, 1, 0, [62, 458]),
  (259, 1, 0, [437, 489]), (180, 1, 0, [6, 108, 106]), (181, 1, 0, [29, 108, 111]),
  (200, 1, 0, [490]), (176, 1, 0, [307, 491]), (176, 1, 0, [307, 426, 58]), (225, 1, 0, [439]),
  (190, 1, 0, [33, 48]), (195, 1, 0, [34, 133, 48]), (123, 1, 0, [43, 60, 48]),
  (186, 1, 14, [48, 313, 48]), (191, 1, 0, [48, 492, 48]), (195, 1, 0, [34, 305, 133, 48]),
  (228, 1, 0, [48, 16, 48, 140, 48]), (145, 2, 0, [48]), (122, 1, 0, [493]), (207, 1, 0, [494]),
  (233, 1, 0, [48]), (267, 1, 0, [327, 327]), (201, 1, 0, [35, 465]), (127, 1, 0, [12, 465]),
  (163, 1, 0, [3]), (163, 1, 0, [3, 337]), (243, 1, 0, [447, 495]), (255, 1, 0, [497, 496]),
  (201, 1, 0, [35, 5, 48]), (119, 0, 0, [8, 48]), (121, 1, 0, [9, 48]), (125, 1, 0, [10, 465]),
  (126, 1, 0, [11, 465]), (153, 1, 0, [26, 498, 174, 48]), (218, 1, 0, [48, 133, 48]),
  (187, 1, 0, [48]), (165, 1, 0, [499]), (231, 1, 0, [500]), (268, 1, 0, [500, 500]),
  (223, 1, 0, [317]), (120, 1, 0, [75, 48]), (223, 1, 0, [317, 378]), (242, 1, 0, [449, 501]),
  (227, 1, 0, [16, 48]), (263, 1, 0, [378, 378]), (261, 1, 0, [460, 502]),
  (165, 1, 0, [288, 290]), (254, 1, 0, [44, 44]), (149, 1, 0, [7, 48]), (127, 1, 0, [12, 5, 48]),
  (150, 1, 0, [62, 48]), (197, 1, 0, [446, 504, 503]), (232, 1, 0, [32, 120, 113]),
  (264, 1, 0, [438, 505]), (127, 1, 0, [12, 465, 5, 48]), (245, 1, 0, [471, 506]),
  (182, 1, 0, [507, 88, 48]), (232, 1, 0, [32, 120, 508, 113]), (156, 1, 0, [29, 66, 111]),
  (213, 1, 1, [436, 88, 48]), (213, 1, 0, [3, 88, 48]), (253, 1, 0, [487, 509]),
  (232, 1, 0, [32, 120, 511, 510, 113]), (226, 1, 0, [19, 446, 174, 127]), (164, 1, 0, [512]),
  (156, 1, 0, [29, 66, 513, 111]), (183, 1, 0, [3, 133, 66, 88, 48]),
  (232, 1, 0, [32, 120, 88, 400, 401, 113]), (167, 1, 0, [514, 392]),
  (156, 1, 0, [29, 66, 387, 58, 111]), (204, 1, 0, [48, 133, 48, 133, 48]),
  (265, 1, 0, [444, 445]), (172, 1, 0, [3, 88, 514]), (256, 1, 0, [516, 515]),
  (209, 1, 0, [3, 150]), (212, 1, 0, [66, 178, 3]), (211, 1, 0, [66, 133, 66]),
  (210, 1, 0, [66, 182, 66]), (206, 1, 0, [517, 133, 66]), (116, 1, 0, [518]),
  (116, 1, 0, [518, 519]), (234, 1, 0, [133]), (116, 1, 0, [518, 398, 58]),
  (154, 2, 0, [27, 66, 88, 66]), (234, 1, 0, [133, 520]), (269, 1, 0, [520, 520]),
  (252, 1, 0, [513, 521]), (169, 1, 0, [6, 106]), (173, 1, 0, [287, 435]), (168, 1, 0, [29, 111]),
  (170, 1, 0, [32, 113]), (196, 1, 0, [34, 133, 127]), (169, 1, 0, [6, 292, 106]),
  (168, 1, 0, [29, 292, 111]), (170, 1, 0, [32, 522, 113]), (175, 1, 0, [290, 63, 290]),
  (174, 1, 0, [291, 6, 106]), (196, 1, 0, [34, 305, 133, 127]), (169, 1, 0, [6, 292, 523, 106]),
  (168, 1, 0, [29, 292, 523, 111]), (175, 1, 0, [288, 290, 63, 290]),
  (170, 1, 0, [32, 522, 524, 113]), (174, 1, 0, [291, 6, 292, 106]),
  (169, 1, 0, [6, 292, 390, 58, 106]), (168, 1, 0, [29, 292, 390, 58, 111]),
  (170, 1, 0, [32, 522, 408, 58, 113]), (174, 1, 0, [291, 6, 292, 523, 106]),
  (174, 1, 0, [291, 6, 292, 390, 58, 106]), (112, 1, 0, [525]), (119, 1, 0, [8, 76]),
  (151, 1, 0, [24, 3]), (152, 1, 0, [25, 3]), (240, 1, 0, [525, 525]), (121, 1, 0, [9, 48, 324]),
  (151, 1, 0, [24, 3, 416]), (152, 1, 0, [25, 3, 416]), (160, 1, 0, [30, 48, 71]),
  (241, 1, 0, [519, 526]), (251, 1, 0, [528, 527]), (153, 1, 0, [26, 498, 174, 48, 324]),
  (246, 1, 0, [420, 420]), (247, 1, 0, [523, 529]), (166, 1, 0, [292, 313, 3]),
  (257, 1, 0, [524, 530]), (178, 1, 0, [531]), (113, 1, 0, [369]), (177, 1, 0, [45]),
  (144, 1, 0, [121]), (153, 1, 0, [26, 498]), (176, 1, 0, [307]), (239, 1, 0, [461, 532]),
  (117, 1, 0, [291, 313, 3]), (250, 1, 0, [450, 451]), (262, 1, 0, [485, 533]),
  (258, 1, 0, [491, 534]), (269, 1, 15, [403]), (171, 1, 0, [535, 133, 292]), (128, 1, 0, [13]),
  (129, 1, 0, [14]), (130, 1, 0, [15]), (111, 1, 0, [4, 375]), (236, 1, 0, [304]),
  (198, 1, 0, [446, 311, 118]), (114, 1, 0, [5, 368, 4, 375]), (118, 1, 0, [7]),
  (115, 1, 0, [5, 370, 4, 536]), (157, 1, 0, [6, 116, 106]), (157, 1, 13, [6, 117, 106]),
  (147, 1, 0, [6, 106]), (246, 1, 0, [419]), (147, 1, 0, [6, 306, 106]),
  (197, 1, 0, [446, 133, 66, 88, 118]), (253, 1, 13, [58, 117]),
  (114, 1, 0, [5, 368, 4, 6, 375, 106]), (115, 1, 0, [5, 370, 4, 6, 375, 106]),
  (136, 1, 4, [418, 292, 133, 454]), (136, 1, 8, [418, 292, 537, 133, 454]),
  (136, 1, 0, [418, 292, 133, 72, 56]), (136, 1, 0, [418, 292, 537, 133, 72, 56]),
  (136, 1, 6, [418, 292, 523, 538, 133, 454]), (136, 1, 0, [418, 292, 523, 538, 133, 72, 56]),
  (136, 1, 7, [418, 292, 390, 58, 295, 133, 454]),
  (136, 1, 0, [418, 292, 390, 58, 295, 133, 72, 56]), (148, 1, 0, [306]), (113, 1, 0, [369, 291]),
  (144, 1, 0, [6, 121, 450, 106]), (144, 1, 0, [6, 121, 425, 58, 106])]

def forks : Array (Nat × Nat) := #[
  (6, 1733), (6, 4791), (6, 4237), (6, 891), (6, 2247), (6, 679), (6, 1473), (6, 1255), (6, 1435),
  (6, 1209), (6, 5569), (6, 5571), (6, 5573), (6, 1475), (6, 683), (6, 1437), (6, 1967), (6, 1477),
  (6, 5771), (6, 1331), (6, 5773), (6, 5775), (6, 5777), (6, 1439), (6, 659), (6, 5779), (6, 893),
  (6, 1479), (6, 2249), (6, 895), (6, 1481), (6, 3825), (6, 1211), (6, 2617), (6, 821), (6, 3967),
  (6, 1721), (6, 685), (6, 1471), (6, 2211), (6, 1723), (6, 6157), (6, 1431), (6, 6161), (6, 6159),
  (7, 1056), (8, 7), (7, 2250), (7, 5798), (7, 1058), (7, 2426), (7, 1678), (7, 1070), (7, 2424),
  (7, 1072), (7, 2248), (7, 1480), (7, 10), (39, 38), (44, 1449), (45, 1519), (44, 1465),
  (45, 1725), (39, 47), (49, 48), (38, 50), (52, 51), (56, 1533), (56, 1727), (129, 3967),
  (129, 4033), (129, 4037), (129, 4017), (129, 4021), (129, 4029), (129, 4041), (129, 4045),
  (134, 2259), (134, 5815), (134, 2231), (134, 2301), (134, 5959), (134, 2235), (134, 2381),
  (134, 6087), (134, 2243), (134, 2341), (134, 6033), (134, 2239), (134, 2361), (134, 6061),
  (134, 2241), (134, 2401), (134, 6113), (134, 2245), (134, 2281), (134, 5911), (134, 2233),
  (134, 2321), (134, 5997), (134, 2237), (161, 2225), (161, 2215), (170, 1496), (175, 1164),
  (179, 961), (179, 4239), (170, 1578), (170, 1636), (185, 5913), (170, 1608), (170, 1622),
  (170, 1650), (170, 1554), (170, 1594), (196, 4245), (202, 1517), (202, 5825), (202, 1975),
  (202, 1671), (202, 6169), (202, 2203), (185, 5961), (202, 1683), (202, 6173), (202, 2207),
  (185, 5999), (185, 6035), (205, 1479), (185, 5819), (229, 1377), (231, 3675), (184, 1561),
  (229, 1401), (229, 1411), (161, 2223), (184, 1505), (243, 979), (243, 4607), (231, 3679),
  (231, 3683), (231, 3687), (270, 4813), (275, 5151), (200, 1531), (276, 5833), (278, 3621),
  (279, 3625), (288, 819), (211, 1217), (213, 1535), (290, 1451), (291, 1267), (292, 3877),
  (219, 1169), (203, 1371), (244, 1009), (281, 3671), (161, 2219), (275, 5247), (211, 1227),
  (290, 1461), (292, 3879), (279, 3627), (161, 2221), (184, 1677), (211, 1233), (279, 3629),
  (184, 1687), (184, 1585), (161, 2217)]

end SourceAtlas.Python.Automaton
