import SourceAtlas.Unicode.Spans

/-! The script of characters. -/
namespace SourceAtlas.Unicode

set_option maxRecDepth 20000

/-- Where a run of characters of one script starts, times 256, plus the number of the
script. Characters of no script have the number 255. -/
def scriptRuns : Array Nat := Spans.ofGaps [
  162,16547,6749,1443,6749,11939,349,3747,349,1187,5981,163,8029,163,115037,9891,1373,1131,661,5119,
  28554,1143,137,980,300,1143,137,468,812,375,137,375,137,980,44,468,44,5332,44,16109,3603,4080,
  34182,378,43492,6,9978,262,13050,262,1018,51,14285,1843,7117,819,1741,2564,1439,97,1695,97,3743,
  97,927,97,8351,97,2718,2658,6814,98,27807,97,8835,3705,135,15481,391,637,12430,12910,3427,15261,
  355,789,11912,376,3976,80,7344,336,432,135,2937,1028,8956,1028,19359,97,7449,20869,891,3974,378,
  6639,1268,12,2292,268,756,268,5876,12,2036,12,500,524,1268,268,2548,268,756,268,1268,1804,500,780,
  756,12,1524,268,6644,302,978,46,1746,814,722,302,5842,46,2002,46,722,46,722,46,722,302,466,46,
  1490,814,722,302,978,558,466,1582,1234,46,466,1582,4562,2349,979,45,2515,45,979,45,5843,45,2003,
  45,723,45,1491,301,2771,45,979,45,979,301,467,3629,1235,301,3283,1581,2003,104,920,104,2200,360,
  664,360,5784,104,1944,104,664,104,1432,360,2456,360,664,360,920,1640,920,872,664,104,1432,360,
  4760,2444,628,140,1652,652,884,140,1140,652,628,140,372,140,628,652,628,652,884,652,3188,908,1396,
  652,884,140,1140,396,372,1420,372,3468,5492,1167,3441,143,881,143,6001,143,4209,399,2417,143,881,
  143,1137,1679,625,143,881,143,625,399,1137,399,2673,1679,2227,3518,66,958,66,6078,66,2750,66,1470,
  322,2494,66,958,66,1214,1602,702,1090,958,66,1214,322,2750,66,958,2903,3497,87,937,87,13225,87,
  937,87,1705,855,4265,343,6825,128,896,128,4736,640,6272,128,2432,128,384,384,1920,640,384,896,
  1664,128,384,128,2176,1408,2688,384,896,2963,14957,931,240,7277,9285,699,69,443,69,1467,69,6331,
  69,443,69,6075,325,1467,69,443,69,1979,69,2747,325,1211,8084,18540,148,9324,916,10092,148,9324,
  148,3948,148,1807,1009,620,9309,40905,9946,38,474,1062,474,294,11133,131,1033,65526,18907,37,1243,
  293,2011,37,475,37,1243,293,10715,37,1243,293,8667,37,1243,293,2011,37,475,37,1243,293,4059,37,
  14811,37,1243,293,17371,293,8411,549,6875,1303,22249,279,1769,276,163921,7579,631,19244,724,2953,
  1681,5743,2193,160,5490,605,2066,5358,2952,3448,136,888,136,632,2879,24257,319,2753,1343,2753,
  1369,586,438,330,182,5287,1369,22951,1625,11175,1044,18156,2376,8120,72,3256,840,3256,840,440,584,
  3138,7798,394,1398,2699,11381,907,6773,1419,2933,651,436,8146,7407,273,563,16316,68,7612,324,3004,
  1348,2748,1348,3772,418,11870,418,3166,4872,19960,8,12925,16262,13557,1803,1084,14521,583,4025,
  583,799,12214,3044,1062,11226,294,863,2171,1954,769,255,3329,255,1793,1023,257,1535,257,767,513,
  349,1094,9702,1264,298,12518,1306,998,1306,3286,298,17894,374,16292,65510,5844,300,1748,300,9940,
  300,1748,300,2260,44,468,44,468,44,468,44,8148,300,13780,44,4052,44,3796,300,1748,44,5076,300,980,
  44,2516,163,3071,513,22365,163,2723,442,419,2723,349,3933,70,3514,675,8797,3490,8542,3747,9609,
  375,675,605,1443,349,6819,349,4259,10589,861,931,170589,5539,2909,5283,237421,65683,160861,419,
  35204,24607,8147,29927,1049,1805,9946,38,474,1062,474,400,14448,1680,624,3472,149,6107,2085,2011,
  37,2011,37,2011,37,2011,37,2011,37,2011,37,2011,37,2011,28,8327,24157,8496,6864,48,22992,2864,
  54992,6563,5261,371,141,371,6285,2418,909,628,1933,1139,1117,52,22220,418,513,401,879,153,23143,
  409,964,1038,11250,47,24273,163,3947,8341,9821,2211,153,4083,8145,163,16268,8052,20633,12135,153,
  22631,42893,1687667,16269,5374064,298336,672,14176,2123,12366,76903,4892,24557,22775,1955,8611,
  26205,675,21178,4934,3904,11642,675,2653,1391,14481,1914,18054,1914,3206,1309,8222,11880,152,314,
  9355,2677,186,7633,570,20166,163,151,2758,826,547,8099,22,14314,2070,3818,278,2794,278,1095,8241,
  17266,6030,1229,6053,2341,1755,293,1755,293,1755,2085,2011,37,2011,70,11101,163,2278,282,1117,605,
  791,20548,11941,347,2725,1327,2860241,2863,6097,815,12753,2163504,93904,304,27344,9542,1978,2822,
  1530,1075,6861,51,1485,51,461,51,717,51,717,51,2513,126623,353,37116,7940,4254,4097,2653,1442,
  3450,647,9053,163,4957,163,1117,772,1532,4,34812,419,349,163,8099,6749,1443,6749,2713,2663,153,
  11623,396,8145,559,1745,303,1745,303,1745,303,977,675,1885,163,1885,2467,1373,330,3254,74,6838,74,
  5046,74,694,74,4022,330,3766,8522,31670,1187,861,931,11613,675,2185,20436,163,3421,556,468,11939,
  11519,350,33100,7604,533,12779,3746,257,7005,825,9415,2105,753,7126,1134,11154,1176,7784,152,261,
  9315,925,3683,10528,20572,12270,7830,362,2710,1385,9367,873,9367,803,10461,1794,13566,2562,408,
  2918,154,3942,154,1894,154,614,154,2918,154,3942,154,1894,154,614,681,13399,2889,79799,2121,5815,
  2377,2231,5958,1722,70,10938,70,2490,17435,1765,283,485,27,11493,27,741,539,485,283,234,5883,5,
  2407,8181,8095,1889,2463,12082,5070,50,718,1074,1344,7310,626,219,6835,1101,351,6740,9558,8191,
  6315,853,5291,341,11753,1218,62,706,1086,2242,62,962,62,7618,318,962,830,2754,1598,2498,1657,8167,
  8352,8017,10159,849,3247,2055,14073,519,1901,5772,372,2044,5008,1136,2049,4751,1649,1167,2929,
  1935,20327,18841,13880,13256,3128,13256,1592,1598,10378,1910,2698,1444,9820,676,7516,1956,604,
  52996,8188,159,10849,159,865,415,609,3844,1788,1796,2556,8196,1662,10366,1921,10879,5483,6805,
  9496,7400,4900,6108,2063,20209,783,9457,2063,308,17341,2371,445,387,6525,1667,2685,1299,13805,19,
  4845,1870,10162,2173,24707,128,5248,2624,4800,64,12224,15708,1956,92,420,92,1188,92,4004,92,2980,
  1407,15233,1151,2689,1323,1237,43,2261,299,725,299,5845,43,2005,43,725,43,1493,162,137,2517,299,
  725,299,981,299,469,1323,469,1067,2005,299,2005,555,1493,2730,2646,170,342,426,342,170,9814,170,
  2646,170,342,426,342,170,1110,170,2646,170,598,1962,598,7266,23710,98,1438,7573,18539,1941,2667,
  42366,13954,382,9858,8536,17832,2648,2728,1369,3495,4745,14967,1417,2679,1373,5283,6915,7165,259,
  4093,771,6141,47135,15585,25499,21349,2971,131,2018,286,482,286,2274,30,738,30,7906,30,738,286,
  3298,2078,2786,17759,2209,351,11937,351,2977,6817,18527,1924,21372,3092,4185,14739,1565,2787,
  21885,2179,22440,8792,3496,2648,1293,2547,13,11763,13,3827,2317,7667,594,8366,338,5806,82,3758,
  18473,2007,41,727,41,11479,553,471,41,727,41,2519,1833,2775,1320,1752,40,728,40,9688,40,728,40,
  1752,1576,2776,1454,11346,942,2642,62799,6577,1597,4547,61,10691,573,7619,21579,437,3724,12916,
  3212,274,236130,26014,28514,158,1378,2718,50274,674586,25574,3106,284382,2338,1022942,1077,149451,
  1751205,14939,443657,145911,1626,8102,90,2726,858,572,20330,150,2666,1290,7926,266,1782,2358,
  18122,2358,2762,54,1994,54,5578,1078,5066,110502,14938,50515,23469,1195,6485,427,6485,11123,19341,
  883,14733,1651,4493,16269,215,204,529,447,2608,2000,2189,1769396,120511,10305,332,8051,24717,
  29555,2227260,1220,60,1988,60,708,60,248,73480,964,3636,460,7220,972,316,452,3388,1220,1892,
  101532,590625,27615,1057,3551,545,2527,1569,2783,289,1154,1117,1006499,64861,675,111709,1443,5981,
  3747,4445,3746,11870,418,5982,2211,29789,15267,63069,2467,10077,419,15871,769,4351,2049,511,1793,
  7679,1025,15709,5164,18132,31139,5213,2979,5213,2979,22365,2211,6493,34467,21853,163,18269,163,
  605,419,349,419,605,419,1117,163,3165,163,349,163,1885,163,16733,163,1117,419,2141,163,1885,163,
  7261,163,1117,163,1373,163,349,675,1885,163,87133,419,74845,419,12760,167045,3707,1413,123,3973,
  282438,8122,1350,1722,54311,2009,39,4569,295,2009,39,729,39,1497,1052,16100,8220,484,28471,11721,
  567,3785,311,2761,823,713,81815,8041,4252,14948,1180,356,118622,10914,54695,11097,935,345,49069,
  8019,173,5715,1965,595,57125,2011,37,1243,37,731,37,4059,84,50604,340,4268,10241,19711,769,2815,
  769,767,200867,17501,19363,15709,49412,1276,4,7164,4,764,4,508,260,508,4,2812,4,1276,4,508,4,508,
  1284,508,772,508,4,508,4,508,4,1020,4,764,4,508,260,508,4,508,4,508,4,508,4,508,4,764,4,508,260,
  1276,4,2044,4,1276,4,1276,4,508,4,2812,4,4604,1028,1020,4,1532,4,4604,13060,764,69027,11357,931,
  25693,2979,3933,419,3933,163,3933,163,9565,2467,44637,14243,6545,367,605,3235,11357,931,2397,1699,
  605,3491,1629,39331,252253,675,4445,675,3421,675,55901,1443,3165,931,349,3747,3165,931,14429,1955,
  2653,1443,10333,1955,7773,419,3165,931,605,3491,2397,9891,88157,1955,3677,419,3421,675,2909,675,
  14685,163,349,931,4189,419,3165,931,2653,1699,37725,163,26461,263216,10936528,7984,1122000,304,
  1478352,304,1913296,3632,159440,631088,138960,385328,1264592,1072,2173648,181110435,349,7587,
  24669,32674,61534]

def script (c : Char) : Nat :=
  Spans.valueAt scriptRuns c

def scriptNames : List (String × Nat) := [
  ("adlm", 0), ("adlam", 0), ("aghb", 1), ("caucasianalbanian", 1), ("ahom", 2), ("arab", 3),
  ("arabic", 3), ("armi", 4), ("imperialaramaic", 4), ("armn", 5), ("armenian", 5), ("avst", 6),
  ("avestan", 6), ("bali", 7), ("balinese", 7), ("bamu", 8), ("bamum", 8), ("bass", 9),
  ("bassavah", 9), ("batk", 10), ("batak", 10), ("beng", 11), ("bengali", 11), ("bhks", 12),
  ("bhaiksuki", 12), ("bopo", 13), ("bopomofo", 13), ("brah", 14), ("brahmi", 14), ("brai", 15),
  ("braille", 15), ("bugi", 16), ("buginese", 16), ("buhd", 17), ("buhid", 17), ("cakm", 18),
  ("chakma", 18), ("cans", 19), ("canadianaboriginal", 19), ("cari", 20), ("carian", 20),
  ("cham", 21), ("cher", 22), ("cherokee", 22), ("chrs", 23), ("chorasmian", 23), ("copt", 24),
  ("coptic", 24), ("qaac", 24), ("cpmn", 25), ("cyprominoan", 25), ("cprt", 26), ("cypriot", 26),
  ("cyrl", 27), ("cyrillic", 27), ("deva", 28), ("devanagari", 28), ("diak", 29),
  ("divesakuru", 29), ("dogr", 30), ("dogra", 30), ("dsrt", 31), ("deseret", 31), ("dupl", 32),
  ("duployan", 32), ("egyp", 33), ("egyptianhieroglyphs", 33), ("elba", 34), ("elbasan", 34),
  ("elym", 35), ("elymaic", 35), ("ethi", 36), ("ethiopic", 36), ("geor", 37), ("georgian", 37),
  ("glag", 38), ("glagolitic", 38), ("gong", 39), ("gunjalagondi", 39), ("gonm", 40),
  ("masaramgondi", 40), ("goth", 41), ("gothic", 41), ("gran", 42), ("grantha", 42),
  ("grek", 43), ("greek", 43), ("gujr", 44), ("gujarati", 44), ("guru", 45), ("gurmukhi", 45),
  ("hang", 46), ("hangul", 46), ("hani", 47), ("han", 47), ("hano", 48), ("hanunoo", 48),
  ("hatr", 49), ("hatran", 49), ("hebr", 50), ("hebrew", 50), ("hira", 51), ("hiragana", 51),
  ("hluw", 52), ("anatolianhieroglyphs", 52), ("hmng", 53), ("pahawhhmong", 53), ("hmnp", 54),
  ("nyiakengpuachuehmong", 54), ("hung", 55), ("oldhungarian", 55), ("ital", 56),
  ("olditalic", 56), ("java", 57), ("javanese", 57), ("kali", 58), ("kayahli", 58), ("kana", 59),
  ("katakana", 59), ("kawi", 60), ("khar", 61), ("kharoshthi", 61), ("khmr", 62), ("khmer", 62),
  ("khoj", 63), ("khojki", 63), ("kits", 64), ("khitansmallscript", 64), ("knda", 65),
  ("kannada", 65), ("kthi", 66), ("kaithi", 66), ("lana", 67), ("taitham", 67), ("laoo", 68),
  ("lao", 68), ("latn", 69), ("latin", 69), ("lepc", 70), ("lepcha", 70), ("limb", 71),
  ("limbu", 71), ("lina", 72), ("lineara", 72), ("linb", 73), ("linearb", 73), ("lisu", 74),
  ("lyci", 75), ("lycian", 75), ("lydi", 76), ("lydian", 76), ("mahj", 77), ("mahajani", 77),
  ("maka", 78), ("makasar", 78), ("mand", 79), ("mandaic", 79), ("mani", 80), ("manichaean", 80),
  ("marc", 81), ("marchen", 81), ("medf", 82), ("medefaidrin", 82), ("mend", 83),
  ("mendekikakui", 83), ("merc", 84), ("meroiticcursive", 84), ("mero", 85),
  ("meroitichieroglyphs", 85), ("mlym", 86), ("malayalam", 86), ("modi", 87), ("mong", 88),
  ("mongolian", 88), ("mroo", 89), ("mro", 89), ("mtei", 90), ("meeteimayek", 90), ("mult", 91),
  ("multani", 91), ("mymr", 92), ("myanmar", 92), ("nagm", 93), ("nagmundari", 93), ("nand", 94),
  ("nandinagari", 94), ("narb", 95), ("oldnortharabian", 95), ("nbat", 96), ("nabataean", 96),
  ("newa", 97), ("nkoo", 98), ("nko", 98), ("nshu", 99), ("nushu", 99), ("ogam", 100),
  ("ogham", 100), ("olck", 101), ("olchiki", 101), ("orkh", 102), ("oldturkic", 102),
  ("orya", 103), ("oriya", 103), ("osge", 104), ("osage", 104), ("osma", 105), ("osmanya", 105),
  ("ougr", 106), ("olduyghur", 106), ("palm", 107), ("palmyrene", 107), ("pauc", 108),
  ("paucinhau", 108), ("perm", 109), ("oldpermic", 109), ("phag", 110), ("phagspa", 110),
  ("phli", 111), ("inscriptionalpahlavi", 111), ("phlp", 112), ("psalterpahlavi", 112),
  ("phnx", 113), ("phoenician", 113), ("plrd", 114), ("miao", 114), ("prti", 115),
  ("inscriptionalparthian", 115), ("rjng", 116), ("rejang", 116), ("rohg", 117),
  ("hanifirohingya", 117), ("runr", 118), ("runic", 118), ("samr", 119), ("samaritan", 119),
  ("sarb", 120), ("oldsoutharabian", 120), ("saur", 121), ("saurashtra", 121), ("sgnw", 122),
  ("signwriting", 122), ("shaw", 123), ("shavian", 123), ("shrd", 124), ("sharada", 124),
  ("sidd", 125), ("siddham", 125), ("sind", 126), ("khudawadi", 126), ("sinh", 127),
  ("sinhala", 127), ("sogd", 128), ("sogdian", 128), ("sogo", 129), ("oldsogdian", 129),
  ("sora", 130), ("sorasompeng", 130), ("soyo", 131), ("soyombo", 131), ("sund", 132),
  ("sundanese", 132), ("sylo", 133), ("sylotinagri", 133), ("syrc", 134), ("syriac", 134),
  ("tagb", 135), ("tagbanwa", 135), ("takr", 136), ("takri", 136), ("tale", 137), ("taile", 137),
  ("talu", 138), ("newtailue", 138), ("taml", 139), ("tamil", 139), ("tang", 140),
  ("tangut", 140), ("tavt", 141), ("taiviet", 141), ("telu", 142), ("telugu", 142),
  ("tfng", 143), ("tifinagh", 143), ("tglg", 144), ("tagalog", 144), ("thaa", 145),
  ("thaana", 145), ("thai", 146), ("tibt", 147), ("tibetan", 147), ("tirh", 148),
  ("tirhuta", 148), ("tnsa", 149), ("tangsa", 149), ("toto", 150), ("ugar", 151),
  ("ugaritic", 151), ("vaii", 152), ("vai", 152), ("vith", 153), ("vithkuqi", 153),
  ("wara", 154), ("warangciti", 154), ("wcho", 155), ("wancho", 155), ("xpeo", 156),
  ("oldpersian", 156), ("xsux", 157), ("cuneiform", 157), ("yezi", 158), ("yezidi", 158),
  ("yiii", 159), ("yi", 159), ("zanb", 160), ("zanabazarsquare", 160), ("zinh", 161),
  ("inherited", 161), ("qaai", 161), ("zyyy", 162), ("common", 162), ("gara", 163),
  ("garay", 163), ("gukh", 164), ("gurungkhema", 164), ("krai", 165), ("kiratrai", 165),
  ("onao", 166), ("olonal", 166), ("sunu", 167), ("sunuwar", 167), ("todr", 168),
  ("todhri", 168), ("tutg", 169), ("tulutigalari", 169), ("berf", 170), ("beriaerfe", 170),
  ("sidt", 171), ("sidetic", 171), ("tayo", 172), ("taiyo", 172), ("tols", 173),
  ("tolongsiki", 173)]

end SourceAtlas.Unicode
