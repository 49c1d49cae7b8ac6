import SourceAtlas.Unicode.Spans

/-! Capital and small letters of all scripts. -/
namespace SourceAtlas.Unicode

set_option maxRecDepth 20000

def uppercaseLetter : Spans := ⟨Spans.ofRuns [
  (1, [65, 26, 101, 23, 1, 7, 33]), (55, [1]), (1, [2]), (15, [1]), (1, [2]), (46, [1]), (1, [2,
  1, 1, 1, 1, 3, 2, 1, 1, 1, 2, 1, 3, 2, 4, 1, 2, 1, 3, 3, 2, 1, 2]), (4, [1]), (3, [1, 2, 1]),
  (1, [3, 1, 1, 1, 2, 3, 1, 7]), (3, [1, 2]), (15, [1]), (1, [2]), (17, [1]), (1, [2, 1, 2, 1, 1,
  3]), (58, [1]), (1, [7, 2, 1, 2, 2, 1, 1, 4]), (8, [1]), (1, [289, 1, 1, 1, 3, 1, 8, 1, 6, 1,
  1, 3, 1, 1, 1, 2, 1, 17, 1, 9, 35, 1, 2, 3, 3]), (23, [1]), (1, [5, 1, 2, 1, 1, 2, 2, 51, 48]),
  (33, [1]), (1, [9]), (54, [1]), (1, [2]), (12, [1]), (1, [2]), (95, [1]), (1, [2, 38, 2889, 38,
  1, 1, 5, 1, 722, 86, 2195, 1, 6, 43, 2, 3, 320]), (149, [1]), (1, [9]), (97, [1]), (1, [9, 8,
  8, 6, 10, 8, 8, 8, 8, 6, 11]), (7, [1]), (1, [8, 8, 72, 4, 12, 4, 12, 4, 12, 5, 11, 4, 262, 1,
  4, 1, 3, 3, 2, 3, 2, 1, 3, 5, 6, 1, 1, 1, 1, 1, 1, 4, 2, 4, 10, 2, 5, 1, 26, 16, 19, 1, 818,
  26, 1840, 48, 48, 1, 1, 3, 2, 1, 1, 1, 1, 1, 1, 4, 1, 1, 2, 1, 8, 3]), (98, [1]), (1, [8, 1, 1,
  1, 4, 1, 31053]), (45, [1]), (1, [19]), (27, [1]), (1, [135]), (13, [1]), (1, [3]), (61, [1]),
  (1, [10, 1, 1, 1, 1, 2]), (8, [1]), (1, [4, 1, 1, 1, 2, 1, 1, 1, 3]), (19, [1]), (2, [1, 5]),
  (15, [1]), (1, [4, 1, 1, 1, 2]), (16, [1]), (1, [24, 1, 22315, 26, 1221, 40, 136, 36, 156, 11,
  1, 15, 1, 7, 1, 2, 1770, 51, 157, 22, 2874, 32, 21888, 32, 64, 25, 25927]), (6, [26]), (1, [1,
  1, 2, 2, 1, 2, 2, 2, 4, 1, 8, 26, 26, 26, 2, 1, 4, 2, 8, 1, 7, 27, 2, 1, 4, 1, 5, 1, 1, 3, 7,
  27]), (11, [26]), (1, [30]), (5, [25, 33]), (1, [1, 4405, 34, 2062, 26, 6, 26, 6, 26])]⟩

def lowercaseLetter : Spans := ⟨Spans.ofRuns [
  (1, [97, 26, 47, 1, 10, 1, 4, 1, 36, 24, 1, 8]), (55, [1]), (1, [2]), (15, [1]), (1, [2]),
  (46, [1]), (1, [2, 1, 1, 1, 1, 3, 2, 1, 1, 1, 2, 1, 3, 2, 4, 1, 2, 1, 3, 3, 2, 1, 2]),
  (4, [1]), (3, [1, 2, 1]), (1, [3, 1, 1, 1, 2, 2, 2, 3, 6, 1, 2, 1, 2]), (16, [1]), (1, [2]),
  (17, [1]), (1, [2, 2, 1, 1, 1, 3]), (58, [1]), (1, [7, 2, 1, 2, 2, 1, 1, 4]), (8, [1]),
  (1, [69, 2, 35, 7, 2, 30, 5, 96, 1, 43, 1, 1, 1, 3, 1, 2, 4, 18, 1, 27, 35, 1, 2, 3, 3]),
  (23, [1]), (1, [5, 1, 1, 2, 1, 2, 2, 51, 48]), (34, [1]), (1, [9]), (53, [1]), (1, [2]),
  (12, [1]), (1, [2]), (96, [1]), (1, [48, 41, 2887, 43, 1, 4, 760, 6, 2178, 9, 1, 1, 117, 192,
  65]), (148, [1]), (1, [9]), (97, [1]), (1, [9]), (2, [8, 6, 10, 8, 8, 8]), (1, [8, 14, 2, 8, 8,
  8, 8, 8, 8, 5, 1, 2, 6, 1, 3, 3, 1, 2, 8, 4, 2, 2, 8, 8, 10, 3, 1, 2, 121, 1, 13, 1, 16, 13,
  109, 1, 3, 2, 3, 1, 27, 1, 4, 1, 4, 1, 2, 2, 8, 4, 4, 1, 33, 16, 4, 1, 843, 26, 1862, 48, 1, 1,
  3, 2, 1, 1, 1, 1, 1, 1, 4, 1, 1, 2, 1, 8, 3]), (98, [1]), (1, [2, 7, 1, 1, 1, 4, 1, 12, 38, 1,
  1, 5, 1, 30995]), (45, [1]), (1, [19]), (26, [1]), (1, [3, 133]), (12, [1]), (1, [3]),
  (61, [1]), (1, [10, 1, 1, 1, 1, 2]), (9, [1]), (1, [4, 1, 1, 1, 2, 1, 1, 3]), (19, [1]),
  (2, [1, 5]), (15, [1]), (1, [4, 1, 1, 1, 2]), (15, [1]), (1, [21, 4, 1, 1, 1, 3, 821, 43, 1,
  14, 6, 80, 20288, 7, 12, 5, 1065, 26, 1229, 40, 136, 36, 155, 11, 1, 15, 1, 7, 1, 2, 451, 1, 2,
  3, 1, 42, 1, 9, 1285, 51, 125, 22, 2874, 32, 21888, 32, 59, 25, 25926, 26, 26, 7, 1, 18, 26,
  26, 26, 4, 1, 1, 1, 7, 1, 11]), (17, [26]), (2, [28]), (4, [25, 1, 6, 26]), (1, [25, 1, 6, 1,
  1, 1844, 10, 1, 20, 6, 6, 261, 62, 2228, 34])]⟩

end SourceAtlas.Unicode
